import FlexBoot.Core.DriverSettings
import FlexBoot.Net.Ipv6

/-!
# setting の型（`core/settings.c`）

setting の値は生の byte 列で持ち、型ごとの `format` が文字列に書き、`parse` が文字列から
読む。

* `string` — そのまま写す
* `hex`、`hexhyp`、`hexraw` — 一 byte を `"%02x"` で書き、`:`、`-`、区切りなしで並べる。
  読むのは `hex_decode`
* `ipv4` — `inet_ntoa` と `inet_aton`（`net/ipv4.c`）
* `ipv6` — `inet6_ntoa` と `inet6_aton`（`net/ipv6.c`）。IPv6 を build しなければ、
  `settings.c` の弱い関数が `-ENOTSUP` を返す
* `int8`…`uint32` — `numeric_setting_value` で `unsigned long` にし、符号付きは `%ld`、
  符号なしは `%#lx` で書く。読むのは `strtoul ( value, &endp, 0 )` で、`htonl` した 4 byte の
  後ろから幅の分を取る

## model

`parse` は buffer に書く値の全体を返す。`setting_parse` に渡した `len` byte の buffer には
その先頭 `len` byte が書かれ、値の長さが返る。`format` は十分な長さの buffer に書いた文字列を
返す。
-/

namespace FlexBoot.Settings

open Infra FlexBoot

/-- setting の関数が返す負の状態符号。 -/
inductive Rc
  | einval
  | enoent
  | enotsup
  | erange
  deriving DecidableEq, Repr

/-- build の設定（`config/general.h`）のうち、setting の型に効くもの。 -/
structure Config where
  /-- `NET_PROTO_IPV6`。定義しなければ `net/ipv6.c` は link されない。 -/
  netProtoIpv6 : Bool
  deriving DecidableEq, Repr

/-- `config/general.h` は `NET_PROTO_IPV6` を `#undef` する。 -/
def generalConfig : Config := ⟨false⟩

/-- 整数の setting type の index（`SETTING_TYPE_INT8` など）。 -/
inductive IntIndex
  | int8
  | int16
  | int32
  deriving DecidableEq, Repr

def IntIndex.toNat : IntIndex → Nat
  | .int8 => 0
  | .int16 => 1
  | .int32 => 2

/-- `setting_type_int_width`。`1 << index` byte である。 -/
def settingTypeIntWidth (index : IntIndex) : Nat := 2 ^ index.toNat

/-- setting type。整数の型は `SETTING_TYPE_INT ( index )` か `SETTING_TYPE_UINT ( index )` で
作られ、`setting_type_int_is_signed` は前者で真になる。 -/
inductive SettingType
  | string
  | hex
  | hexhyp
  | hexraw
  | ipv4
  | ipv6
  | int (index : IntIndex)
  | uint (index : IntIndex)
  deriving DecidableEq, Repr

/-! ## 文字列 -/

/-- `parse_string_setting`。`strlen ( value )` byte を写す。 -/
def parseStringSetting (value : Bytes) : Bytes := cstr value

/-! ## 16 進 -/

/-- `format_hex_setting ( delimiter, raw, raw_len, buf, len )`。`used` が 0 でなければ、
`"%s%02x"` の `%s` に区切りが入る。 -/
def formatHexSetting (delimiter raw : Bytes) : Bytes :=
  raw.foldl (fun out b =>
    out ++ (if out.length ≠ 0 then delimiter else []) ++
      [hexDigit (b.toNat / 16), hexDigit (b.toNat % 16)]) []

def formatHexColonSetting (raw : Bytes) : Bytes := formatHexSetting (ascii ":") raw
def formatHexHyphenSetting (raw : Bytes) : Bytes := formatHexSetting (ascii "-") raw
def formatHexRawSetting (raw : Bytes) : Bytes := formatHexSetting (ascii "") raw

/-- `hex_decode ( value, separator, buf, len )` の結果。 -/
def hexDecodeSetting (separator : UInt8) (value : Bytes) : Except Rc Bytes :=
  match hexDecodeWith separator 0 value with
  | some raw => .ok raw
  | none => .error .einval

def parseHexSetting (value : Bytes) : Except Rc Bytes := hexDecodeSetting 0x3A value
def parseHexHyphenSetting (value : Bytes) : Except Rc Bytes := hexDecodeSetting 0x2D value
def parseHexRawSetting (value : Bytes) : Except Rc Bytes := hexDecodeSetting 0 value

/-! ## IP アドレス -/

/-- `parse_ipv4_setting`（`net/ipv4.c`）。`inet_aton` の値を network byte order の 4 byte にする。 -/
def parseIpv4Setting (arch : Arch) (value : Bytes) : Except Rc Bytes :=
  match inetAton arch value with
  | some ip => .ok (toBe32 ip)
  | none => .error .einval

/-- `format_ipv4_setting`（`net/ipv4.c`）。 -/
def formatIpv4Setting (raw : Bytes) : Except Rc Bytes :=
  if raw.length < 4 then .error .einval else .ok (DriverSettings.inetNtoa raw)

/-- `parse_ipv6_setting`（`net/ipv6.c`）。 -/
def parseIpv6Setting (arch : Arch) (value : Bytes) : Except Rc Bytes :=
  match Ipv6.inet6Aton arch value with
  | some ws => .ok (Ipv6.htonsBytes ws)
  | none => .error .einval

/-- `format_ipv6_setting`（`net/ipv6.c`）。 -/
def formatIpv6Setting (raw : Bytes) : Except Rc Bytes :=
  if raw.length < 16 then .error .einval else .ok (Ipv6.inet6Ntoa raw)

/-- `settings.c` の弱い `parse_ipv6_setting`。IPv6 を build しないときに使われる。 -/
def parseIpv6SettingWeak (_value : Bytes) : Except Rc Bytes := .error .enotsup

/-- `settings.c` の弱い `format_ipv6_setting`。 -/
def formatIpv6SettingWeak (_raw : Bytes) : Except Rc Bytes := .error .enotsup

/-! ## 整数 -/

/-- `numeric_setting_value` の loop。`value = ( value << 8 ) | byte` は `unsigned long` の
計算で、`unsigned long` に入らない上の byte が `pad` でなければ `-ERANGE` である。 -/
def numericSettingValueLoop (bits len : Nat) (pad : UInt8) : Nat → Nat → Bytes → Except Rc Nat
  | _, value, [] => .ok value
  | i, value, byte :: rest =>
    let value := (value * 256 + byte.toNat) % 2 ^ bits
    if i + bits / 8 < len ∧ byte ≠ pad then .error .erange
    else numericSettingValueLoop bits len pad (i + 1) value rest

/-- `numeric_setting_value ( is_signed, raw, len, &value )`。符号付きで先頭の byte が負なら
`-1L` から始める。 -/
def numericSettingValue (arch : Arch) (isSigned : Bool) (raw : Bytes) : Except Rc Nat :=
  let isNegative := raw ≠ [] ∧ 128 ≤ (raw.headD 0).toNat
  let value := if isSigned ∧ isNegative then 2 ^ arch.longBits - 1 else 0
  numericSettingValueLoop arch.longBits raw.length (UInt8.ofNat value) 0 value raw

/-- `numeric_setting_value` の loop を、大きさの決まった領域 `buf` の上で回す。`unsigned_bytes[i]` が
領域の外なら読めない。`n` は残りの回数 `len - i` である。 -/
def numericSettingValueLoopAt (bits len : Nat) (pad : UInt8) (buf : Bytes) :
    Nat → Nat → Nat → Except Fault (Except Rc Nat)
  | 0, _, value => .ok (.ok value)
  | n + 1, i, value =>
    match buf[i]? with
    | none => .error (.outOfBounds (i + 1) buf.length)
    | some byte =>
      let value := (value * 256 + byte.toNat) % 2 ^ bits
      if i + bits / 8 < len ∧ byte ≠ pad then .ok (.error .erange)
      else numericSettingValueLoopAt bits len pad buf n (i + 1) value

/-- `numeric_setting_value ( is_signed, raw, len, &value )` を、`len` byte とは限らない領域 `buf`
の上で。`len` が 0 でなければ `signed_bytes[0]` も読む。 -/
def numericSettingValueAt (arch : Arch) (isSigned : Bool) (buf : Bytes) (len : Nat) :
    Except Fault (Except Rc Nat) :=
  if len = 0 then .ok (.ok 0)
  else
    match buf[0]? with
    | none => .error (.outOfBounds 1 buf.length)
    | some first =>
      let value := if isSigned ∧ 128 ≤ first.toNat then 2 ^ arch.longBits - 1 else 0
      numericSettingValueLoopAt arch.longBits len (UInt8.ofNat value) buf len 0 value

/-- `fetch_numeric_setting ( settings, setting, &value, is_signed )`。`fetched` は `fetch_setting` が
見つけた値である。`fetch_setting` は `tmp` を 0 で埋め、値のうち `sizeof ( tmp )` byte までを写して
値の長さを返す。`numeric_setting_value` にはその長さを渡す。返すのは長さと値である。 -/
def fetchNumericSetting (arch : Arch) (isSigned : Bool) (fetched : Option Bytes) :
    Except Fault (Except Rc (Nat × Nat)) :=
  match fetched with
  | none => .ok (.error .enoent)
  | some raw =>
    let size := arch.longBits / 8
    let tmp := raw.take size ++ List.replicate (size - raw.length) 0
    (numericSettingValueAt arch isSigned tmp raw.length).map (Except.map fun value => (raw.length, value))

/-- `numerate_int_setting`。`assert ( check_len == raw_len )` はいつも成り立つ。 -/
def numerateIntSetting (arch : Arch) (isSigned : Bool) (raw : Bytes) : Except Rc Nat :=
  numericSettingValue arch isSigned raw

/-- `denumerate_int_setting`。`u.num = htonl ( value )` は `uint32_t` への変換で、
その後ろから幅の分の byte を写す。 -/
def denumerateIntSetting (index : IntIndex) (value : Nat) : Bytes :=
  (toBe32 (value % 2 ^ 32)).drop (4 - settingTypeIntWidth index)

/-- `parse_int_setting`。数字の後に何か残れば `-EINVAL` である。 -/
def parseIntSetting (arch : Arch) (index : IntIndex) (value : Bytes) : Except Rc Bytes :=
  let (numValue, endp) := strtoul arch value 0
  if endp.headD 0 ≠ 0 then .error .einval else .ok (denumerateIntSetting index numValue)

/-- `format_int_setting`。`"%ld"` は未定義動作で止まることがある。 -/
def formatIntSetting (arch : Arch) (isSigned : Bool) (raw : Bytes) : Except Fault (Except Rc Bytes) :=
  match numerateIntSetting arch isSigned raw with
  | .error rc => .ok (.error rc)
  | .ok value => (formatLd arch value).map .ok

/-- `format_uint_setting`。`"%#lx"` は `0x` の後に小文字の数字を書く。 -/
def formatUintSetting (arch : Arch) (isSigned : Bool) (raw : Bytes) : Except Rc Bytes :=
  (numerateIntSetting arch isSigned raw).map fun value => ascii "0x" ++ hexDigits value

/-! ## `setting_parse` と `setting_format` -/

section Dispatch

variable (cfg : Config) (arch : Arch)

/-- 型の `parse`。 -/
def SettingType.parse : SettingType → Bytes → Except Rc Bytes
  | .string, value => .ok (parseStringSetting value)
  | .hex, value => parseHexSetting value
  | .hexhyp, value => parseHexHyphenSetting value
  | .hexraw, value => parseHexRawSetting value
  | .ipv4, value => parseIpv4Setting arch value
  | .ipv6, value => if cfg.netProtoIpv6 then parseIpv6Setting arch value else parseIpv6SettingWeak value
  | .int index, value => parseIntSetting arch index value
  | .uint index, value => parseIntSetting arch index value

/-- 型の `format`。 -/
def SettingType.format : SettingType → Bytes → Except Fault (Except Rc Bytes)
  | .string, raw => .ok (.ok (DriverSettings.formatStringSetting raw))
  | .hex, raw => .ok (.ok (formatHexColonSetting raw))
  | .hexhyp, raw => .ok (.ok (formatHexHyphenSetting raw))
  | .hexraw, raw => .ok (.ok (formatHexRawSetting raw))
  | .ipv4, raw => .ok (formatIpv4Setting raw)
  | .ipv6, raw => .ok (if cfg.netProtoIpv6 then formatIpv6Setting raw else formatIpv6SettingWeak raw)
  | .int _, raw => formatIntSetting arch true raw
  | .uint _, raw => .ok (formatUintSetting arch false raw)

/-- `setting_parse ( type, value, buf, len )`。書いた byte と返り値の長さ。 -/
def settingParse (t : SettingType) (value : Bytes) (len : Nat) : Except Rc (Nat × Bytes) :=
  (t.parse cfg arch value).map fun raw => (raw.length, raw.take len)

/-- `setting_format ( type, raw, raw_len, buf, len )`。 -/
def settingFormat (t : SettingType) (raw : Bytes) : Except Fault (Except Rc Bytes) :=
  t.format cfg arch raw

end Dispatch

/-! ## 変数の展開

`expand_settings` は文字列の中の `${name}` を setting の値で置き換える。一回ごとに文字列の
先頭から探し直し、最初の `}` とその前の最後の `${` の組を一つ置き換える。置き換える値の中の
`${` や `}` も、次の回には元の文字列のものと区別されない。
-/

/-- `expand_settings` の中の `for ( tmp = expstr ; *tmp ; tmp++ )`。`start` は最後に見た `${` の
位置で、それがある時の最初の `}` で止まる。`tmp[1]` は次の byte で、文字列の終わりでは NUL である。 -/
def findExpansionLoop : Bytes → Nat → Option Nat → Option (Nat × Nat)
  | [], _, _ => none
  | c :: rest, i, start =>
    let start := if c = 0x24 ∧ rest.head? = some 0x7B then some i else start
    match start with
    | some s => if c = 0x7D then some (s, i) else findExpansionLoop rest (i + 1) (some s)
    | none => findExpansionLoop rest (i + 1) none

/-- 展開する `${` と `}` の位置。なければ `none` で、loop を抜ける。 -/
def findExpansion (expstr : Bytes) : Option (Nat × Nat) := findExpansionLoop expstr 0 none

/-- `expand_settings` の loop の一回。`fetchValue name` は `parse_setting_name` で読んだ setting を
`fetchf_setting_copy` で文字列にしたもので、名前が読めないか setting がなければ `none` である。
どちらも空の文字列として扱う。新しい文字列は `asprintf ( &expstr, "%s%s%s", head, value, tail )`
で、`value` は NUL までである。`expstr` は NUL の前までの byte で、NUL を含まない。 -/
def expandSettingsStep (fetchValue : Bytes → Option Bytes) (expstr : Bytes) : Option Bytes :=
  match findExpansion expstr with
  | none => none
  | some (start, stop) =>
    let head := expstr.take start
    let name := (expstr.take stop).drop (start + 2)
    let tail := expstr.drop (stop + 1)
    some (head ++ cstr ((fetchValue name).getD []) ++ tail)

/-- `expand_settings ( string )`。`strdup` した文字列から始め、展開するものがなくなるまで
繰り返す。`fuel` 回のうちに終わらなければ `none` である。 -/
def expandSettings (fetchValue : Bytes → Option Bytes) (fuel : Nat) (string : Bytes) : Option Bytes :=
  whileSome (expandSettingsStep fetchValue) fuel (cstr string)

end FlexBoot.Settings
