import FlexBoot.Core.Settings
import FlexBoot.Properties.Ipv6

/-!
# setting の値の往復

`setting_format` で書いた文字列を `setting_parse` で読むと、元の生の値が返る
（`setting_format_parse_round_trip`）。ただし二つの例外がある。

* `config/general.h` は IPv6 を build しないので、`ipv6` 型はどちらの向きも `-ENOTSUP` を返す。
* i386 の `int32` で値が `0x80000000` のとき、`numeric_setting_value` の値は 32 bit の
  `unsigned long` の `0x80000000` で、`%ld` はそれを `LONG_MIN` として `format_decimal` に渡す。
  そこで `num = -num` があふれる。

## 型ごとの往復

* `string` — NUL を含まなければ `strlen` は全体を数える。
* `hex` 系 — `format_hex_setting` は一 byte 目の後から区切りを入れ、`hex_decode` は
  二 byte 目から区切りを読む（`hexDecodeSetting_formatHexSetting`）。
* `ipv4` — `inet_aton` は `%d` の数字を `strtoul ( p, &p, 10 )` で一つずつ読む。
* `ipv6` — `inet6Aton_inet6Ntoa`。
* 整数 — `numeric_setting_value` の値は、符号付きで負なら `2^w - 2^(8k)` だけずれる。
  `%ld` と `%#lx` の文字列は `strtoul` でその値に戻り、`htonl` の後ろの `k` byte は元の値である。
-/

namespace FlexBoot.Settings

open Infra FlexBoot

/-! ## 16 進 -/

/-- 一 byte の二桁。 -/
def hexPair (b : UInt8) : Bytes := [hexDigit (b.toNat / 16), hexDigit (b.toNat % 16)]

/-- 一 byte 目を書いた後は、区切りと二桁を足していく。 -/
theorem foldl_formatHexSetting (delimiter : Bytes) :
    ∀ (out raw : Bytes), out ≠ [] →
      raw.foldl (fun out b =>
          out ++ (if out.length ≠ 0 then delimiter else []) ++
            [hexDigit (b.toNat / 16), hexDigit (b.toNat % 16)]) out =
        out ++ raw.flatMap fun b => delimiter ++ hexPair b
  | out, [], _ => by simp
  | out, b :: raw, hout => by
    have hlen : out.length ≠ 0 := fun h => hout (List.eq_nil_of_length_eq_zero h)
    rw [List.foldl_cons, if_pos hlen, foldl_formatHexSetting delimiter _ raw (by simp [hout]),
      List.flatMap_cons]
    simp [hexPair]

theorem formatHexSetting_cons (delimiter : Bytes) (b : UInt8) (raw : Bytes) :
    formatHexSetting delimiter (b :: raw) = hexPair b ++ raw.flatMap fun b => delimiter ++ hexPair b := by
  rw [formatHexSetting, List.foldl_cons, if_neg (by simp), foldl_formatHexSetting _ _ _ (by simp)]
  simp [hexPair]

/-- 区切りと二桁の並びを、区切りを読みながら読み戻す。 -/
theorem hexDecodeWith_flatMap {separator : UInt8} {delimiter : Bytes}
    (hd : (separator = 0 ∧ delimiter = []) ∨ (separator ≠ 0 ∧ delimiter = [separator])) :
    ∀ (count : Nat) (raw : Bytes),
      hexDecodeWith separator (count + 1) (raw.flatMap fun b => delimiter ++ hexPair b) = some raw
  | _, [] => rfl
  | count, b :: raw => by
    rw [List.flatMap_cons]
    rcases hd with ⟨rfl, rfl⟩ | ⟨hsep, rfl⟩
    · rw [List.nil_append, hexPair, List.cons_append, List.cons_append, List.nil_append,
        hexDecodeWith_zero, show count + 2 = count + 1 + 1 from rfl,
        hexDecodeWith_flatMap (.inl ⟨rfl, rfl⟩) (count + 1) raw]
      rfl
    · rw [List.singleton_append, hexPair, List.cons_append, List.cons_append, List.cons_append,
        List.nil_append, hexDecodeWith_separator hsep, show count + 2 = count + 1 + 1 from rfl,
        hexDecodeWith_flatMap (.inr ⟨hsep, rfl⟩) (count + 1) raw]
      rfl

/-- **`format_hex_setting` で書いた値は、同じ区切りの `hex_decode` で読み戻せる。** -/
theorem hexDecodeSetting_formatHexSetting {separator : UInt8} {delimiter : Bytes}
    (hd : (separator = 0 ∧ delimiter = []) ∨ (separator ≠ 0 ∧ delimiter = [separator])) (raw : Bytes) :
    hexDecodeSetting separator (formatHexSetting delimiter raw) = .ok raw := by
  cases raw with
  | nil => rfl
  | cons b raw =>
    rw [hexDecodeSetting, formatHexSetting_cons, hexPair, List.cons_append, List.cons_append,
      List.nil_append, hexDecodeWith_first, hexDecodeWith_flatMap hd 0 raw]
    rfl

/-! ## IPv4 -/

/-- `.` は十進の桁でない。 -/
theorem decimal_stop_dot (r : Bytes) :
    0x2E :: r = [] ∨ 10 ≤ strtoulCharval (ucharval ((0x2E :: r).headD 0)) := by
  right
  rw [List.headD_cons]
  decide

/-- `%d` で書いた byte を `strtoul ( p, &p, 10 )` で読む。 -/
theorem strtoul_byte (arch : Arch) (b : UInt8) {rest : Bytes}
    (hrest : rest = [] ∨ 10 ≤ strtoulCharval (ucharval (rest.headD 0))) :
    strtoul arch (decimalDigits b.toNat ++ rest) 10 = (b.toNat, rest) := by
  have hb := b.toNat_lt
  have hpow : 2 ^ 8 ≤ 2 ^ arch.longBits :=
    Nat.pow_le_pow_right (by decide) (Nat.le_trans (by decide) (Arch.longBits_ge arch))
  rw [strtoul_decimalDigits arch _ hrest, Nat.mod_eq_of_lt (by omega)]

theorem decimalDigits_ne_nil (n : Nat) : decimalDigits n ≠ [] := by
  rw [decimalDigits, decimalDigitsAux_eq]
  exact digitsMsb_ne_nil (Nat.succ_pos n) n

/-- `.` の前の一区切り。 -/
theorem inetAtonLoop_byte (arch : Arch) (j ip : Nat) (b : UInt8) (r : Bytes) :
    inetAtonLoop arch (j + 2) ip (decimalDigits b.toNat ++ 0x2E :: r) =
      inetAtonLoop arch (j + 1) (ip * 256 + b.toNat) r := by
  have hlen : (0x2E :: r).length ≠ (decimalDigits b.toNat ++ 0x2E :: r).length := by
    have := List.length_pos_of_ne_nil (decimalDigits_ne_nil b.toNat)
    simp only [List.length_append]
    omega
  have hb := b.toNat_lt
  rw [inetAtonLoop, strtoul_byte arch b (decimal_stop_dot r)]
  simp only [hlen, false_or, if_neg (show ¬b.toNat > 255 by omega), ne_eq, Nat.add_one_ne_zero,
    not_false_eq_true, if_true]

/-- 最後の区切り。 -/
theorem inetAtonLoop_last (arch : Arch) (ip : Nat) (b : UInt8) :
    inetAtonLoop arch 1 ip (decimalDigits b.toNat) = some (ip * 256 + b.toNat, []) := by
  have hread := @strtoul_byte arch b [] (.inl rfl)
  rw [List.append_nil] at hread
  have hne := List.length_pos_of_ne_nil (decimalDigits_ne_nil b.toNat)
  have hb := b.toNat_lt
  rw [inetAtonLoop, hread]
  simp only [List.length_nil, ne_eq, not_true_eq_false, if_false]
  rw [if_neg (by omega)]

/-- `inet_ntoa` の文字列を `inet_aton` で読むと、host byte order の値になる。 -/
theorem inetAton_inetNtoa (arch : Arch) (a b c d : UInt8) :
    inetAton arch (DriverSettings.inetNtoa [a, b, c, d]) =
      some (((a.toNat * 256 + b.toNat) * 256 + c.toNat) * 256 + d.toNat) := by
  have hs : DriverSettings.inetNtoa [a, b, c, d] =
      decimalDigits a.toNat ++ 0x2E :: (decimalDigits b.toNat ++ 0x2E :: (decimalDigits c.toNat ++
        0x2E :: decimalDigits d.toNat)) := by
    simp only [DriverSettings.inetNtoa, List.getD_cons_zero, List.getD_cons_succ,
      show ascii "." = [0x2E] from rfl, List.append_assoc, List.cons_append, List.nil_append]
  rw [inetAton, hs, inetAtonLoop_byte, inetAtonLoop_byte, inetAtonLoop_byte, inetAtonLoop_last]
  simp

/-- host byte order の 32 bit 値を `htonl` すると、元の 4 byte に戻る。 -/
theorem toBe32_bytes (a b c d : UInt8) :
    toBe32 (((a.toNat * 256 + b.toNat) * 256 + c.toNat) * 256 + d.toNat) = [a, b, c, d] := by
  have ha := a.toNat_lt
  have hb := b.toNat_lt
  have hc := c.toNat_lt
  have hd := d.toNat_lt
  simp only [toBe32, List.cons.injEq, and_true]
  refine ⟨?_, ?_, ?_, ?_⟩ <;> apply UInt8.toNat_inj.mp <;>
    simp only [UInt8.toNat_ofNat', Nat.reducePow] <;> omega

theorem parseIpv4Setting_formatIpv4Setting (arch : Arch) {raw : Bytes} (h4 : raw.length = 4) :
    ∃ s, formatIpv4Setting raw = .ok s ∧ parseIpv4Setting arch s = .ok raw := by
  match raw, h4 with
  | [a, b, c, d], _ =>
    refine ⟨_, rfl, ?_⟩
    rw [parseIpv4Setting, inetAton_inetNtoa]
    dsimp only
    rw [toBe32_bytes]

/-! ## IPv6 -/

theorem parseIpv6Setting_formatIpv6Setting (arch : Arch) {raw : Bytes} (h16 : raw.length = 16) :
    ∃ s, formatIpv6Setting raw = .ok s ∧ parseIpv6Setting arch s = .ok raw := by
  refine ⟨Ipv6.inet6Ntoa raw, if_neg (by omega), ?_⟩
  rw [parseIpv6Setting, Ipv6.inet6Aton_inet6Ntoa arch h16]
  dsimp only
  rw [Ipv6.htonsBytes_ntohsWords (by omega)]

/-! ## 整数 -/

-- loop の一回の式。以下の証明は `numericSettingValueLoop` を開かず、これで一 byte 進める
theorem numericSettingValueLoop_cons (bits len : Nat) (pad byte : UInt8) (i value : Nat) (raw : Bytes) :
    numericSettingValueLoop bits len pad i value (byte :: raw) =
      if i + bits / 8 < len ∧ byte ≠ pad then .error .erange
      else numericSettingValueLoop bits len pad (i + 1) ((value * 256 + byte.toNat) % 2 ^ bits) raw :=
  rfl

/-- `numeric_setting_value` の loop。`unsigned long` に入る長さなら `-ERANGE` にならず、
上の桁から読んだ値を `unsigned long` の幅で返す。 -/
theorem numericSettingValueLoop_ok {bits len : Nat} {pad : UInt8} :
    ∀ {i value : Nat} {raw : Bytes}, len ≤ i + bits / 8 → value < 2 ^ bits →
      numericSettingValueLoop bits len pad i value raw =
        .ok (horner 256 value (raw.map UInt8.toNat) % 2 ^ bits)
  | _, _, [], _, hv => (congrArg Except.ok (Nat.mod_eq_of_lt hv)).symm
  | i, value, byte :: raw, hlen, _ => by
    rw [numericSettingValueLoop_cons, if_neg (by omega),
      numericSettingValueLoop_ok (by omega) (Nat.mod_lt _ (Nat.two_pow_pos bits)),
      List.map_cons, horner_cons, horner_mod]

/-- 整数の型の幅は 4 byte 以下である。 -/
theorem settingTypeIntWidth_le (index : IntIndex) : settingTypeIntWidth index ≤ 4 := by
  cases index <;> decide

/-- `unsigned long` に入る長さの値は `-ERANGE` にならない。符号付きで先頭の byte が負なら `-1L`
から読み始める。 -/
theorem numericSettingValue_of_le (arch : Arch) (isSigned : Bool) {raw : Bytes}
    (hlen : raw.length ≤ arch.longBits / 8) :
    numericSettingValue arch isSigned raw =
      .ok (horner 256 (if isSigned = true ∧ raw ≠ [] ∧ 128 ≤ (raw.headD 0).toNat
        then 2 ^ arch.longBits - 1 else 0) (raw.map UInt8.toNat) % 2 ^ arch.longBits) := by
  have hpos := Nat.two_pow_pos arch.longBits
  rw [numericSettingValue, numericSettingValueLoop_ok (by omega) (by split <;> omega)]

/-- 整数の型の幅の値。 -/
theorem numericSettingValue_ok (arch : Arch) (isSigned : Bool) {raw : Bytes} (hlen : raw.length ≤ 4) :
    numericSettingValue arch isSigned raw =
      .ok (horner 256 (if isSigned = true ∧ raw ≠ [] ∧ 128 ≤ (raw.headD 0).toNat
        then 2 ^ arch.longBits - 1 else 0) (raw.map UInt8.toNat) % 2 ^ arch.longBits) :=
  numericSettingValue_of_le arch isSigned (by have := Arch.longBits_ge arch; omega)

/-- 値の下の 32 bit。`unsigned long` が 64 bit でも、`-1L` の下の 32 bit は `0xffffffff` である。 -/
theorem numericSettingValue_mod (arch : Arch) (isSigned : Bool) {raw : Bytes} {v : Nat}
    (hlen : raw.length ≤ 4) (hv : numericSettingValue arch isSigned raw = .ok v) :
    v % 2 ^ 32 = horner 256 (if isSigned = true ∧ raw ≠ [] ∧ 128 ≤ (raw.headD 0).toNat
      then 2 ^ 32 - 1 else 0) (raw.map UInt8.toNat) % 2 ^ 32 := by
  rw [numericSettingValue_ok arch isSigned hlen, Except.ok.injEq] at hv
  subst hv
  have hdvd : 2 ^ 32 ∣ 2 ^ arch.longBits := Nat.pow_dvd_pow 2 (Arch.longBits_ge arch)
  have hstart : (2 ^ arch.longBits - 1) % 2 ^ 32 = 2 ^ 32 - 1 := by
    cases arch <;> decide
  rw [Nat.mod_mod_of_dvd _ hdvd, ← horner_mod]
  split
  · rw [hstart]
  · rfl

/-- `htonl` した 4 byte の後ろの幅の分は、元の生の値である。 -/
theorem denumerateIntSetting_numeric (arch : Arch) (isSigned : Bool) (index : IntIndex) {raw : Bytes}
    {v : Nat} (hraw : raw.length = settingTypeIntWidth index)
    (hv : numericSettingValue arch isSigned raw = .ok v) : denumerateIntSetting index v = raw := by
  have hmod := numericSettingValue_mod arch isSigned (hraw ▸ settingTypeIntWidth_le index) hv
  have hbyte : ∀ (x : Nat) (b : UInt8), x % 256 = b.toNat → UInt8.ofNat x = b := fun x b h =>
    UInt8.toNat_inj.mp (by simp only [UInt8.toNat_ofNat', Nat.reducePow]; omega)
  unfold denumerateIntSetting
  -- 幅ごとに生の値の byte を並べ、下の 32 bit からその byte を取り出す
  cases index with
  | int8 =>
    match raw, hraw with
    | [a], _ =>
      have ha := a.toNat_lt
      simp only [horner, List.map_cons, List.map_nil, List.foldl_cons, List.foldl_nil] at hmod
      show (toBe32 (v % 2 ^ 32)).drop 3 = [a]
      simp only [toBe32, List.drop_succ_cons, List.drop_zero, List.cons.injEq, and_true]
      apply hbyte
      split at hmod <;> omega
  | int16 =>
    match raw, hraw with
    | [a, b], _ =>
      have ha := a.toNat_lt
      have hb := b.toNat_lt
      simp only [horner, List.map_cons, List.map_nil, List.foldl_cons, List.foldl_nil] at hmod
      show (toBe32 (v % 2 ^ 32)).drop 2 = [a, b]
      simp only [toBe32, List.drop_succ_cons, List.drop_zero, List.cons.injEq, and_true]
      constructor <;> apply hbyte <;> split at hmod <;> omega
  | int32 =>
    match raw, hraw with
    | [a, b, c, d], _ =>
      have ha := a.toNat_lt
      have hb := b.toNat_lt
      have hc := c.toNat_lt
      have hd := d.toNat_lt
      simp only [horner, List.map_cons, List.map_nil, List.foldl_cons, List.foldl_nil] at hmod
      show (toBe32 (v % 2 ^ 32)).drop 0 = [a, b, c, d]
      simp only [toBe32, List.drop_zero, List.cons.injEq, and_true]
      refine ⟨?_, ?_, ?_, ?_⟩ <;> apply hbyte <;> split at hmod <;> omega

/-- 符号付きの値が `LONG_MIN` になるのは、i386 の `int32` の `0x80000000` だけである。 -/
theorem numericSettingValue_eq_longMin_iff (arch : Arch) (index : IntIndex) {raw : Bytes} {v : Nat}
    (hraw : raw.length = settingTypeIntWidth index) (hv : numericSettingValue arch true raw = .ok v) :
    v = 2 ^ (arch.longBits - 1) ↔ arch = .i386 ∧ index = .int32 ∧ raw = [0x80, 0, 0, 0] := by
  rw [numericSettingValue_ok arch true (hraw ▸ settingTypeIntWidth_le index), Except.ok.injEq] at hv
  subst hv
  -- build と幅ごとに、値は生の byte の一次式になる
  -- 幅ごとに生の byte を並べると、値はその一次式になる
  cases index with
  | int8 =>
    match raw, hraw with
    | [a], _ =>
      have ha := a.toNat_lt
      cases arch <;> simp only [horner, List.map_cons, List.map_nil, List.foldl_cons, List.foldl_nil,
        Arch.longBits, List.headD_cons, ne_eq, reduceCtorEq, not_false_eq_true, true_and, false_and,
        and_false, iff_false] <;> split <;> omega
  | int16 =>
    match raw, hraw with
    | [a, b], _ =>
      have ha := a.toNat_lt
      have hb := b.toNat_lt
      cases arch <;> simp only [horner, List.map_cons, List.map_nil, List.foldl_cons, List.foldl_nil,
        Arch.longBits, List.headD_cons, ne_eq, reduceCtorEq, not_false_eq_true, true_and, false_and,
        and_false, iff_false] <;> split <;> omega
  | int32 =>
    match raw, hraw with
    | [a, b, c, d], _ =>
      have ha := a.toNat_lt
      have hb := b.toNat_lt
      have hc := c.toNat_lt
      have hd := d.toNat_lt
      cases arch <;> simp only [horner, List.map_cons, List.map_nil, List.foldl_cons, List.foldl_nil,
        Arch.longBits, List.headD_cons, ne_eq, reduceCtorEq, not_false_eq_true, true_and, false_and,
        iff_false, List.cons.injEq, and_true, ← UInt8.toNat_inj, UInt8.reduceToNat] <;>
        split <;> omega

/-- 値は `unsigned long` に入る。 -/
theorem numericSettingValue_lt (arch : Arch) (isSigned : Bool) {raw : Bytes} {v : Nat}
    (hlen : raw.length ≤ 4) (hv : numericSettingValue arch isSigned raw = .ok v) :
    v < 2 ^ arch.longBits := by
  rw [numericSettingValue_ok arch isSigned hlen, Except.ok.injEq] at hv
  rw [← hv]
  exact Nat.mod_lt _ (Nat.two_pow_pos _)

/-- 数字を読み切った `strtoul` の値を、`denumerate_int_setting` が幅の分の byte にする。 -/
theorem parseIntSetting_of_strtoul {arch : Arch} {index : IntIndex} {s : Bytes} {v : Nat}
    (hs : strtoul arch s 0 = (v, [])) : parseIntSetting arch index s = .ok (denumerateIntSetting index v) := by
  simp only [parseIntSetting, hs, List.headD_nil, ne_eq, not_true_eq_false, if_false]

/-- 符号付きの型の往復。`LONG_MIN` でなければ `%ld` の文字列は元の値に戻る。 -/
theorem formatIntSetting_round_trip (arch : Arch) (index : IntIndex) {raw : Bytes}
    (hraw : raw.length = settingTypeIntWidth index)
    (hx : ¬(arch = .i386 ∧ index = .int32 ∧ raw = [0x80, 0, 0, 0])) :
    ∃ s, formatIntSetting arch true raw = .ok (.ok s) ∧ parseIntSetting arch index s = .ok raw := by
  have hlen := hraw ▸ settingTypeIntWidth_le index
  obtain ⟨v, hv⟩ : ∃ v, numericSettingValue arch true raw = .ok v :=
    ⟨_, numericSettingValue_ok arch true hlen⟩
  have hne : v ≠ 2 ^ (arch.longBits - 1) :=
    fun h => hx ((numericSettingValue_eq_longMin_iff arch index hraw hv).mp h)
  obtain ⟨s, hs⟩ : ∃ s, formatLd arch v = .ok s := by
    unfold formatLd
    dsimp only
    by_cases hlt : v < 2 ^ (arch.longBits - 1)
    · exact ⟨_, if_pos hlt⟩
    · rw [if_neg hlt, if_neg hne]
      exact ⟨_, rfl⟩
  refine ⟨s, ?_, ?_⟩
  · rw [formatIntSetting, numerateIntSetting, hv]
    dsimp only
    rw [hs]
    rfl
  · rw [parseIntSetting_of_strtoul (strtoul_formatLd arch (numericSettingValue_lt arch true hlen hv) hs),
      denumerateIntSetting_numeric arch true index hraw hv]

/-- i386 の `int32` の `0x80000000` は、`%ld` が `LONG_MIN` の `-num` で止まる。 -/
theorem formatIntSetting_longMin : formatIntSetting .i386 true [0x80, 0, 0, 0] = .error .signedOverflow := by
  decide

/-- 符号なしの型の往復。`%#lx` の文字列は元の値に戻る。 -/
theorem formatUintSetting_round_trip (arch : Arch) (index : IntIndex) {raw : Bytes}
    (hraw : raw.length = settingTypeIntWidth index) :
    ∃ s, formatUintSetting arch false raw = .ok s ∧ parseIntSetting arch index s = .ok raw := by
  have hlen := hraw ▸ settingTypeIntWidth_le index
  obtain ⟨v, hv⟩ : ∃ v, numericSettingValue arch false raw = .ok v :=
    ⟨_, numericSettingValue_ok arch false hlen⟩
  refine ⟨ascii "0x" ++ hexDigits v, by rw [formatUintSetting, numerateIntSetting, hv]; rfl, ?_⟩
  have hs := strtoul_formatLx arch v
  rw [Nat.mod_eq_of_lt (numericSettingValue_lt arch false hlen hv)] at hs
  rw [parseIntSetting_of_strtoul hs, denumerateIntSetting_numeric arch false index hraw hv]

/-! ## 書いて読む -/

/-- `setting_format` で書いた文字列を、`setting_parse` で `len` byte の buffer に読む。
`setting_format` が止まるか負の値を返せば、それが結果である。 -/
def formatParse (cfg : Config) (arch : Arch) (t : SettingType) (raw : Bytes) (len : Nat) :
    Except Fault (Except Rc (Nat × Bytes)) :=
  (settingFormat cfg arch t raw).map fun r => r.bind fun s => settingParse cfg arch t s len

/-- 往復を調べる生の値：型ごとの正しい形。 -/
def SettingType.Canonical : SettingType → Bytes → Prop
  | .string, raw => 0 ∉ raw
  | .hex, raw | .hexhyp, raw | .hexraw, raw => raw ≠ []
  | .ipv4, raw => raw.length = 4
  | .ipv6, raw => raw.length = 16
  | .int index, raw | .uint index, raw => raw.length = settingTypeIntWidth index

/-- 書いた文字列を型の `parse` が元の値に読めば、buffer には値の先頭が書かれ、長さが返る。 -/
theorem formatParse_of {cfg : Config} {arch : Arch} {t : SettingType} {raw s : Bytes} (len : Nat)
    (hf : settingFormat cfg arch t raw = .ok (.ok s)) (hp : t.parse cfg arch s = .ok raw) :
    formatParse cfg arch t raw len = .ok (.ok (raw.length, raw.take len)) := by
  rw [formatParse, hf]
  simp only [Except.map, Except.bind, settingParse, hp]

/-- **setting の値の往復。** 正しい形の生の値は、`setting_format` と `setting_parse` で元に
戻り、`len` byte の buffer に先頭が書かれて長さが返る。例外は、IPv6 を build しないときの
`ipv6` 型（`-ENOTSUP`）と、i386 の `int32` の `0x80000000`（`%ld` が `-LONG_MIN` で止まる）
だけである。 -/
theorem setting_format_parse_round_trip (cfg : Config) (arch : Arch) (t : SettingType) (raw : Bytes)
    (len : Nat) (h : t.Canonical raw) :
    formatParse cfg arch t raw len =
      if t = .ipv6 ∧ cfg.netProtoIpv6 = false then .ok (.error .enotsup)
      else if arch = .i386 ∧ t = .int .int32 ∧ raw = [0x80, 0, 0, 0] then .error .signedOverflow
      else .ok (.ok (raw.length, raw.take len)) := by
  cases t with
  | string =>
    rw [if_neg (by simp), if_neg (by simp)]
    refine formatParse_of len rfl ?_
    simp only [SettingType.parse, parseStringSetting, DriverSettings.formatStringSetting,
      cstr_eq_self h]
  | hex =>
    rw [if_neg (by simp), if_neg (by simp)]
    exact formatParse_of len rfl (hexDecodeSetting_formatHexSetting (.inr ⟨by decide, rfl⟩) raw)
  | hexhyp =>
    rw [if_neg (by simp), if_neg (by simp)]
    exact formatParse_of len rfl (hexDecodeSetting_formatHexSetting (.inr ⟨by decide, rfl⟩) raw)
  | hexraw =>
    rw [if_neg (by simp), if_neg (by simp)]
    exact formatParse_of len rfl (hexDecodeSetting_formatHexSetting (.inl ⟨rfl, rfl⟩) raw)
  | ipv4 =>
    rw [if_neg (by simp), if_neg (by simp)]
    obtain ⟨s, hf, hp⟩ := parseIpv4Setting_formatIpv4Setting arch h
    exact formatParse_of len (by rw [settingFormat, SettingType.format, hf]) hp
  | ipv6 =>
    cases hc : cfg.netProtoIpv6 with
    | false =>
      -- `settings.c` の弱い関数が `-ENOTSUP` を返す
      rw [if_pos ⟨rfl, rfl⟩]
      simp only [formatParse, settingFormat, SettingType.format, hc, Bool.false_eq_true, if_false,
        formatIpv6SettingWeak]
      rfl
    | true =>
      rw [if_neg (by simp), if_neg (by simp)]
      obtain ⟨s, hf, hp⟩ := parseIpv6Setting_formatIpv6Setting arch h
      have hf : settingFormat cfg arch .ipv6 raw = .ok (.ok s) := by
        simp only [settingFormat, SettingType.format, hc, if_true, hf]
      refine formatParse_of len hf ?_
      simp only [SettingType.parse, hc, if_true, hp]
  | int index =>
    rw [if_neg (by simp)]
    by_cases hx : arch = .i386 ∧ index = .int32 ∧ raw = [0x80, 0, 0, 0]
    · obtain ⟨rfl, rfl, rfl⟩ := hx
      rw [if_pos ⟨rfl, rfl, rfl⟩, formatParse, settingFormat, SettingType.format, formatIntSetting_longMin]
      rfl
    · rw [if_neg (fun ⟨h1, h2, h3⟩ => hx ⟨h1, SettingType.int.inj h2, h3⟩)]
      obtain ⟨s, hf, hp⟩ := formatIntSetting_round_trip arch index h hx
      exact formatParse_of len hf hp
  | uint index =>
    rw [if_neg (by simp), if_neg (by simp)]
    obtain ⟨s, hf, hp⟩ := formatUintSetting_round_trip arch index h
    exact formatParse_of len (by rw [settingFormat, SettingType.format, hf]) hp

/-- i386 の `int32` の `0x80000000` は、`setting_format` が止まる。 -/
theorem setting_int32_minimum_faults_on_i386 :
    SettingType.Canonical (.int .int32) [0x80, 0, 0, 0] ∧
      formatParse generalConfig .i386 (.int .int32) [0x80, 0, 0, 0] 4 = .error .signedOverflow :=
  ⟨rfl, (setting_format_parse_round_trip generalConfig .i386 (.int .int32) [0x80, 0, 0, 0] 4 rfl).trans
    (by decide)⟩

end FlexBoot.Settings
