import FlexBoot.Core.Misc
import FlexBoot.Core.Time

/-!
# ASN.1 の cursor と builder（`crypto/asn1.c`）

DER/BER で書かれた byte 列を cursor で読み進める関数（`asn1_start` とその呼び出し側）と、
object を後ろから前へ積み上げる builder（`asn1_header`、`asn1_grow`、`asn1_prepend`、
`asn1_wrap`）。

## cursor

`struct asn1_cursor` は、入力の byte 列の中の位置 `data` と長さ `len` で表す。失敗した呼び出しが
`asn1_invalidate_cursor` で cursor を `asn1_invalid_object` に向けたことは `none` で表す。
無効な cursor は長さ 0 なので、次の `asn1_start` は何も読まずに失敗する。

## 値の幅

`asn1_start` の長さ `len` は `unsigned int` で、長さの byte ごとに 8 bit ずらして足す。
返り値は `int` なので、`2 ^ 31` 以上の長さは負の値として返り、呼び出し側はそれを誤りの値として
そのまま返す。builder の長さは `size_t` で、`Arch.longBits` の幅で巻き戻る。

## 確保

`realloc` が成功するかは `alloc : Nat → Bool` で外から与える。`realloc ( ptr, 0 )` は
`NOWHERE` を返すので失敗ではない。増えた部分の中身は決まらないので 0 と置く。
-/

namespace FlexBoot.Asn1

open Infra FlexBoot

/-- `ASN1_ANY`（`-1U`）。 -/
def asn1Any : Nat := 2 ^ 32 - 1

/-- `asn1_start` とその呼び出し側の返す誤り。 -/
inductive Asn1Error
  /-- `-EINVAL_ASN1_EMPTY` -/
  | empty
  /-- `-ENXIO` -/
  | typeMismatch
  /-- `-EINVAL_ASN1_LEN_LEN` -/
  | lenLen
  /-- `-EINVAL_ASN1_LEN` -/
  | len
  /-- `-ENOENT`。`asn1_skip_if_exists` が object の終わりに着いた。 -/
  | noent
  /-- `asn1_start` の `return len` が `int` で負になった。その値が誤りとして返る。 -/
  | negative (len : Nat)
  /-- `-EINVAL_ASN1_INTEGER` -/
  | integer
  /-- `-EINVAL_ASN1_TIME` -/
  | time
  deriving DecidableEq, Repr

/-! ## cursor -/

structure Asn1Cursor where
  data : Nat
  len : Nat
  deriving DecidableEq, Repr

namespace Asn1Cursor

/-- `*( ( uint8_t * ) cursor->data )` -/
def byte (buf : Bytes) (c : Asn1Cursor) : Nat := (buf.getD c.data 0).toNat

/-- `cursor->data++; cursor->len--;` -/
def next (c : Asn1Cursor) : Asn1Cursor := ⟨c.data + 1, c.len - 1⟩

@[simp] theorem next_data (c : Asn1Cursor) : c.next.data = c.data + 1 := rfl

@[simp] theorem next_len (c : Asn1Cursor) : c.next.len = c.len - 1 := rfl

end Asn1Cursor

/-- `asn1_start` の長さの loop。`len <<= 8; len |= byte` は `unsigned int` の中で行う。 -/
def asn1StartLen (buf : Bytes) : Nat → Nat → Asn1Cursor → Nat × Asn1Cursor
  | 0, len, c => (len, c)
  | n + 1, len, c => asn1StartLen buf n ((len <<< 8) % 2 ^ 32 ||| c.byte buf) c.next

/-- `asn1_start ( cursor, type )`。型を調べ、長さの欄を読み、cursor を中身の先頭に進める。
途中で失敗しても、それまでに進めた cursor が残る。 -/
def asn1Start (buf : Bytes) (c : Asn1Cursor) (type : Nat) : Asn1Cursor × Except Asn1Error Nat :=
  if c.len < 2 then (c, .error .empty)
  else if type ≠ asn1Any ∧ type ≠ c.byte buf then (c, .error .typeMismatch)
  else
    let c := c.next
    let long := c.byte buf &&& 0x80 ≠ 0
    -- 長い形なら長さの byte の数を読んで進む。短い形では同じ byte を長さとして読む
    let lenLen := if long then c.byte buf &&& 0x7f else 1
    let c := if long then c.next else c
    if c.len < lenLen then (c, .error .lenLen)
    else
      let r := asn1StartLen buf lenLen 0 c
      if r.2.len < r.1 then (r.2, .error .len)
      else (r.2, if r.1 < 2 ^ 31 then .ok r.1 else .error (.negative r.1))

/-- `asn1_enter ( cursor, type )`。失敗すれば cursor を無効にする。 -/
def asn1Enter (buf : Bytes) (c : Asn1Cursor) (type : Nat) : Option Asn1Cursor × Except Asn1Error Unit :=
  match asn1Start buf c type with
  | (_, .error e) => (none, .error e)
  | (c, .ok len) => (some { c with len }, .ok ())

/-- `asn1_skip_if_exists ( cursor, type )`。`asn1_start` が失敗すれば、そこまで進んだ cursor が
残る。 -/
def asn1SkipIfExists (buf : Bytes) (c : Asn1Cursor) (type : Nat) : Asn1Cursor × Except Asn1Error Unit :=
  match asn1Start buf c type with
  | (c, .error e) => (c, .error e)
  | (c, .ok len) =>
    let c : Asn1Cursor := ⟨c.data + len, c.len - len⟩
    if c.len = 0 then (c, .error .noent) else (c, .ok ())

/-- `asn1_skip ( cursor, type )`。失敗すれば cursor を無効にする。 -/
def asn1Skip (buf : Bytes) (c : Asn1Cursor) (type : Nat) : Option Asn1Cursor × Except Asn1Error Unit :=
  match asn1SkipIfExists buf c type with
  | (_, .error e) => (none, .error e)
  | (c, .ok ()) => (some c, .ok ())

/-- `asn1_shrink ( cursor, type )`。写しの cursor で object の終わりを探し、元の cursor をそこで
切る。 -/
def asn1Shrink (buf : Bytes) (c : Asn1Cursor) (type : Nat) : Option Asn1Cursor × Except Asn1Error Unit :=
  match asn1Start buf c type with
  | (_, .error e) => (none, .error e)
  | (temp, .ok len) => (some { c with len := temp.data + len - c.data }, .ok ())

/-! ## 値の読み取り -/

/-- `ASN1_INTEGER` -/
def asn1IntegerType : Nat := 0x02

/-- `asn1_integer` の loop。`n` は残りの byte の数 `contents.len` である。
gcc では `int` の `>>` は算術 shift（切り捨ての割り算）で、`*value << 8` は `int` の中で巻き戻る。
巻き戻した値の下の 8 bit は 0 なので、`| byte` は足し算になる。 -/
def asn1IntegerLoop (buf : Bytes) : Nat → Int → Asn1Cursor → Except Asn1Error Int
  | 0, value, _ => .ok value
  | n + 1, value, c =>
    -- `( *value ) >> 24` を `uint8_t` に入れた値
    let highByte := value / 2 ^ 24 % 256
    if highByte ≠ 0x00 ∧ highByte ≠ 0xff then .error .integer
    else asn1IntegerLoop buf n (Int.bmod (value * 2 ^ 8) (2 ^ 32) + c.byte buf) c.next

/-- `asn1_integer ( cursor, value )`。成功すれば `*value` に入れた値を返す。 -/
def asn1Integer (buf : Bytes) (c : Asn1Cursor) : Except Asn1Error Int :=
  match asn1Enter buf c asn1IntegerType with
  | (_, .error e) => .error e
  -- `asn1_enter` は成功すれば cursor を残すので、この場合は起きない
  | (none, .ok ()) => .error .empty
  | (some contents, .ok ()) =>
    if contents.len < 1 then .error .integer
    else
      -- 符号の byte を `int8_t` として読んで始める
      asn1IntegerLoop buf (contents.len - 1) (schar (buf.getD contents.data 0)) contents.next

/-- `ASN1_UTC_TIME` -/
def asn1UtcTimeType : Nat := 0x17

/-- `ASN1_GENERALIZED_TIME` -/
def asn1GeneralizedTimeType : Nat := 0x18

/-- `asn1_generalized_time` の二桁ずつの loop。`i` は `pairs.raw` の位置で、`n` は残りの回数
`7 - i` である。loop を抜けた cursor（`data` と `remaining`）と `pairs.raw` を返す。 -/
def asn1TimePairs (buf : Bytes) : Nat → Nat → Asn1Cursor → List Nat → Except Asn1Error (Asn1Cursor × List Nat)
  | 0, _, c, raw => .ok (c, raw)
  | n + 1, i, c, raw =>
    if c.len < 2 then
      -- 秒を省いた証明書がある
      if i = 6 then .ok (c, raw) else .error .time
    else
      let tens := c.byte buf
      let units := c.next.byte buf
      if ¬ (isdigit tens ∧ isdigit units) then .error .time
      else asn1TimePairs buf n (i + 1) c.next.next (raw.set i (10 * (tens - 0x30) + (units - 0x30)))

/-- `asn1_generalized_time ( cursor, time )`。成功すれば `*time` に入れた値を返す。`mktime` が
表 `days_to_month_start[]` か `offset[]` の外を読めば `none` である。 -/
def asn1GeneralizedTime (buf : Bytes) (c : Asn1Cursor) : Option (Except Asn1Error Int) :=
  let type := c.byte buf
  if type ≠ asn1UtcTimeType ∧ type ≠ asn1GeneralizedTimeType then some (.error .time)
  else
    let haveCentury := type = asn1GeneralizedTimeType
    match asn1Enter buf c type with
    | (_, .error e) => some (.error e)
    -- `asn1_enter` は成功すれば cursor を残すので、この場合は起きない
    | (none, .ok ()) => some (.error .empty)
    | (some contents, .ok ()) =>
      let start := if haveCentury then 0 else 1
      match asn1TimePairs buf (7 - start) start contents (List.replicate 7 0) with
      | .error e => some (.error e)
      | .ok (c, raw) =>
        -- `pairs.named` の century, year, month, day, hour, minute, second
        let raw := if haveCentury then raw else raw.set 0 (if raw.getD 1 0 ≥ 50 then 19 else 20)
        if c.len ≠ 1 ∨ c.byte buf ≠ 0x5A then some (.error .time)
        else
          let tm : Time.Tm :=
            { tmSec := raw.getD 6 0, tmMin := raw.getD 5 0, tmHour := raw.getD 4 0,
              tmMday := raw.getD 3 0, tmMon := (raw.getD 2 0 : Int) - 1,
              tmYear := ((raw.getD 0 0 : Int) - 19) * 100 + raw.getD 1 0,
              -- `tm_wday` と `tm_yday` は `mktime` が書く
              tmWday := 0, tmYday := 0 }
          (Time.mktime tm).map fun r => .ok r.2

/-! ## header -/

/-- `for ( temp = len ; temp ; temp >>= 8 ) len_len++;`。`fuel` は回る数の上限である。 -/
def asn1HeaderLenLen : Nat → Nat → Nat
  | 0, _ => 0
  | fuel + 1, temp => if temp = 0 then 0 else asn1HeaderLenLen fuel (temp >>> 8) + 1

/-- `for ( temp = len ; temp ; temp >>= 8 ) header->length[len_len--] = ( temp & 0xff );`。
下の byte から順に後ろの位置へ書くので、書き終えた `length[1..len_len]` は上の byte から並ぶ。 -/
def asn1HeaderLength : Nat → Nat → Bytes
  | 0, _ => []
  | fuel + 1, temp =>
    if temp = 0 then [] else asn1HeaderLength fuel (temp >>> 8) ++ [UInt8.ofNat (temp &&& 0xff)]

/-- `asn1_header ( header, type, len )` の作る `header_len` byte。`type` は `uint8_t` に入る。
`len` は `size_t` で、それを 0 にするまでの loop は `len` 回を超えない。 -/
def asn1Header (type len : Nat) : Bytes :=
  if len < 0x80 then [UInt8.ofNat type, UInt8.ofNat len]
  else UInt8.ofNat type :: UInt8.ofNat (0x80 ||| asn1HeaderLenLen len len) :: asn1HeaderLength len len

/-! ## builder -/

/-- `struct asn1_builder`。`data = none` は `NULL` で、確保に失敗した後は `len` が 0 でなくても
`NULL` になる。確保した buffer の長さはいつも `len` である。 -/
structure Asn1Builder where
  data : Option Bytes
  len : Nat
  data_len : ∀ b ∈ data, b.length = len

/-- 空の builder（`{ NULL, 0 }`）。 -/
def Asn1Builder.empty : Asn1Builder := ⟨none, 0, by simp⟩

/-- 中身が `b` の builder。 -/
def Asn1Builder.ofBytes (b : Bytes) : Asn1Builder := ⟨some b, b.length, by simp⟩

/-- builder の操作の誤り。 -/
inductive BuildError
  /-- `-ENOMEM` -/
  | nomem
  /-- 確保した長さの外に触れた（C の未定義動作）。 -/
  | fault (f : Fault)
  deriving DecidableEq, Repr

/-- `realloc` の返す buffer。前の中身を新しい長さまで写し、増えた所は 0 とする。 -/
def reallocBytes (old : Bytes) (newLen : Nat) : Bytes := (old ++ List.replicate newLen 0).take newLen

theorem length_reallocBytes (old : Bytes) (newLen : Nat) : (reallocBytes old newLen).length = newLen := by
  simp [reallocBytes]

/-- `memmove ( dst, src, n )` を同じ buffer の中で行う。読む所か書く所が外にあれば `none`。 -/
def memmoveIn (buf : Bytes) (dst src n : Nat) : Option Bytes :=
  (sliceAt buf src n).bind (writeAt buf dst ·)

theorem length_memmoveIn {buf buf' : Bytes} {dst src n : Nat} (h : memmoveIn buf dst src n = some buf') :
    buf'.length = buf.length := by
  obtain ⟨s, -, hw⟩ := Option.bind_eq_some_iff.mp h
  exact length_of_writeAt hw

/-- `asn1_grow ( builder, extra )`。前に `extra` byte の場所を空け、前の中身を後ろへ写す。 -/
def asn1Grow (arch : Arch) (alloc : Nat → Bool) (b : Asn1Builder) (extra : Nat) :
    Asn1Builder × Except BuildError Unit :=
  -- 確保の失敗は後の呼び出しにも残す
  if b.len ≠ 0 ∧ b.data = none then (b, .error .nomem)
  else
    let newLen := (b.len + extra) % 2 ^ arch.longBits
    if newLen ≠ 0 ∧ alloc newLen = false then (⟨none, b.len, by simp⟩, .error .nomem)
    else
      let buf := reallocBytes (b.data.getD []) newLen
      match h : memmoveIn buf extra 0 b.len with
      | some buf' =>
        (⟨some buf', newLen, by
          intro d hd
          rw [← Option.mem_some_iff.mp hd, length_memmoveIn h, length_reallocBytes]⟩, .ok ())
      | none => (⟨some buf, newLen, by simp [buf, length_reallocBytes]⟩,
          .error (.fault (.outOfBounds (extra + b.len - 1) newLen)))

/-- `memcpy ( builder->data + off, src, len )`。 -/
def Asn1Builder.write (b : Asn1Builder) (off : Nat) (src : Bytes) : Asn1Builder × Except BuildError Unit :=
  match hb : b.data with
  | none => (b, .error (.fault .nullDereference))
  | some d =>
    match hw : writeAt d off src with
    | none => (b, .error (.fault (.outOfBounds (off + src.length - 1) b.len)))
    | some d' => (⟨some d', b.len, by
        intro e he
        rw [← Option.mem_some_iff.mp he, length_of_writeAt hw]
        exact b.data_len d (hb ▸ rfl)⟩, .ok ())

/-- `asn1_prepend ( builder, type, data, len )`。header と `data` を前に足す。 -/
def asn1Prepend (arch : Arch) (alloc : Nat → Bool) (b : Asn1Builder) (type : Nat) (data : Bytes) :
    Asn1Builder × Except BuildError Unit :=
  let header := asn1Header type data.length
  match asn1Grow arch alloc b ((header.length + data.length) % 2 ^ arch.longBits) with
  | (b, .error e) => (b, .error e)
  | (b, .ok ()) =>
    match b.write 0 header with
    | (b, .error e) => (b, .error e)
    | (b, .ok ()) => b.write header.length data

/-- `asn1_wrap ( builder, type )`。今の中身を一つの object の中身にする header を前に足す。 -/
def asn1Wrap (arch : Arch) (alloc : Nat → Bool) (b : Asn1Builder) (type : Nat) :
    Asn1Builder × Except BuildError Unit :=
  let header := asn1Header type b.len
  match asn1Grow arch alloc b header.length with
  | (b, .error e) => (b, .error e)
  | (b, .ok ()) => b.write 0 header

end FlexBoot.Asn1
