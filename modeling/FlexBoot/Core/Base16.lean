import FlexBoot.Core.Misc

/-!
# 16 進の符号化と復号（`core/base16.c`）

iSCSI の "large binary value" は `0x` の後に 16 進、`0b` の後に base64（`Core/Base64`）で書かれる。

* `base16_encode` — 一 byte を `"%02x"` の二桁（小文字）にする
* `hex_decode` — 二桁ずつ `strtoul_charval` で読む。一桁目が NUL なら終わり、二桁目が
  NUL や 16 進でない文字なら `-EINVAL`
* `hex_decode` に区切りの文字を渡すと、2 byte 目からは二桁の前に区切りを一つ読む
* `format_hex`（`core/vsprintf.c`）— `%x` の数字。`do { ... } while ( num )` なので 0 も一桁書く

区切りのある `hex_decode` は、`base16_encode` の二桁を一 byte に読み戻す
（`hexDecodeByte_hexDigits`）。
-/

namespace FlexBoot

open Infra

/-! ## base16 -/

/-- `"%02x"` の一桁。 -/
def hexDigit (n : Nat) : UInt8 := UInt8.ofNat (if n < 10 then 0x30 + n else 0x61 + n - 10)

/-- `base16_encode`。終わりの NUL は含めない。 -/
def base16Encode (raw : Bytes) : Bytes :=
  raw.flatMap fun b => [hexDigit (b.toNat / 16), hexDigit (b.toNat % 16)]

/-- `hex_decode ( encoded, 0, raw, -1UL )`。`none` は `-EINVAL` である。 -/
def hexDecode : Bytes → Option Bytes
  | [] => some []
  | c :: rest =>
    if c = 0 then some []
    else if 16 ≤ strtoulCharval (ucharval c) then none
    else match rest with
      -- 二桁目は NUL で、`strtoul_charval` は 16 以上を返す
      | [] => none
      | d :: rest =>
        if 16 ≤ strtoulCharval (ucharval d) then none
        else (hexDecode rest).map
          (UInt8.ofNat (strtoulCharval (ucharval c) * 16 + strtoulCharval (ucharval d)) :: ·)

/-- `base16_decode`。 -/
def base16Decode (encoded : Bytes) : Option Bytes := hexDecode encoded

theorem hexDigit_charval : ∀ n : Nat, n < 16 → strtoulCharval (ucharval (hexDigit n)) = n
  | 0, _ | 1, _ | 2, _ | 3, _ | 4, _ | 5, _ | 6, _ | 7, _ | 8, _ | 9, _ | 10, _ | 11, _ | 12, _
  | 13, _ | 14, _ | 15, _ => by decide
  | _ + 16, h => absurd h (by omega)

theorem hexDigit_ne_zero : ∀ n : Nat, n < 16 → hexDigit n ≠ 0
  | 0, _ | 1, _ | 2, _ | 3, _ | 4, _ | 5, _ | 6, _ | 7, _ | 8, _ | 9, _ | 10, _ | 11, _ | 12, _
  | 13, _ | 14, _ | 15, _ => by decide
  | _ + 16, h => absurd h (by omega)

@[simp] theorem base16Encode_nil : base16Encode [] = [] := rfl

theorem base16Encode_cons (b : UInt8) (raw : Bytes) :
    base16Encode (b :: raw) = hexDigit (b.toNat / 16) :: hexDigit (b.toNat % 16) :: base16Encode raw :=
  rfl

@[simp] theorem length_base16Encode (raw : Bytes) : (base16Encode raw).length = 2 * raw.length := by
  induction raw with
  | nil => rfl
  | cons b raw ih =>
    rw [base16Encode_cons, List.length_cons, List.length_cons, ih, List.length_cons]
    omega

/-! ## 区切りのある `hex_decode` -/

/-- `hex_decode` の二桁 `sixteens` と `units`。どちらも 16 進の桁なら、その byte を続きの結果の
前に置く。 -/
def hexDecodeByte (sixteens units : UInt8) (rest : Option Bytes) : Option Bytes :=
  if 16 ≤ strtoulCharval (ucharval sixteens) then none
  else if 16 ≤ strtoulCharval (ucharval units) then none
  else rest.map
    (UInt8.ofNat (strtoulCharval (ucharval sixteens) * 16 + strtoulCharval (ucharval units)) :: ·)

/-- `hex_decode ( encoded, separator, data, len )`。`count` はそれまでに読んだ byte の数である。
読んだ byte の列を返し、buffer にはその先頭の `len` byte が書かれる。`none` は `-EINVAL`。 -/
def hexDecodeWith (separator : UInt8) : Nat → Bytes → Option Bytes
  | _, [] => some []
  | count, c :: rest =>
    if c = 0 then some []
    else if count ≠ 0 ∧ separator ≠ 0 then
      -- `*(encoded++) != separator`。区切りの後の桁が NUL なら `strtoul_charval` が断る
      if c ≠ separator then none
      else match rest with
        | sixteens :: units :: rest => hexDecodeByte sixteens units (hexDecodeWith separator (count + 1) rest)
        | [_] | [] => none
    else match rest with
      | units :: rest => hexDecodeByte c units (hexDecodeWith separator (count + 1) rest)
      | [] => none

theorem hexDecodeByte_hexDigits (b : UInt8) (rest : Option Bytes) :
    hexDecodeByte (hexDigit (b.toNat / 16)) (hexDigit (b.toNat % 16)) rest = rest.map (b :: ·) := by
  have hb := b.toNat_lt
  have hi := hexDigit_charval (b.toNat / 16) (by omega)
  have lo := hexDigit_charval (b.toNat % 16) (by omega)
  rw [hexDecodeByte, hi, lo, if_neg (by omega), if_neg (by omega),
    show b.toNat / 16 * 16 + b.toNat % 16 = b.toNat by omega]
  simp

/-- 初めの byte の前には区切りがない。 -/
theorem hexDecodeWith_first (separator b : UInt8) (rest : Bytes) :
    hexDecodeWith separator 0 (hexDigit (b.toNat / 16) :: hexDigit (b.toNat % 16) :: rest) =
      (hexDecodeWith separator 1 rest).map (b :: ·) := by
  have hb := b.toNat_lt
  rw [hexDecodeWith.eq_def]
  dsimp only
  rw [if_neg (hexDigit_ne_zero _ (by omega)), if_neg (by simp)]
  exact hexDecodeByte_hexDigits b _

/-- 2 byte 目からは、区切りの後に二桁がある。 -/
theorem hexDecodeWith_separator {separator : UInt8} (hsep : separator ≠ 0) (count : Nat) (b : UInt8)
    (rest : Bytes) :
    hexDecodeWith separator (count + 1)
        (separator :: hexDigit (b.toNat / 16) :: hexDigit (b.toNat % 16) :: rest) =
      (hexDecodeWith separator (count + 2) rest).map (b :: ·) := by
  rw [hexDecodeWith.eq_def]
  dsimp only
  rw [if_neg hsep, if_pos ⟨Nat.add_one_ne_zero count, hsep⟩, if_neg (not_not.mpr rfl)]
  exact hexDecodeByte_hexDigits b _

/-- 区切りがなければ、2 byte 目からも二桁だけを読む。 -/
theorem hexDecodeWith_zero (count : Nat) (b : UInt8) (rest : Bytes) :
    hexDecodeWith 0 (count + 1) (hexDigit (b.toNat / 16) :: hexDigit (b.toNat % 16) :: rest) =
      (hexDecodeWith 0 (count + 2) rest).map (b :: ·) := by
  have hb := b.toNat_lt
  rw [hexDecodeWith.eq_def]
  dsimp only
  rw [if_neg (hexDigit_ne_zero _ (by omega)), if_neg (by simp)]
  exact hexDecodeByte_hexDigits b _

/-! ## `format_hex` の数字 -/

/-- `format_hex` が書く `%x` の数字（小文字、詰め物なし）。 -/
def hexDigits (n : Nat) : Bytes := digitsMsb 16 hexDigit (n + 1) n

theorem lt_sixteen_pow_succ (n : Nat) : n < 16 ^ (n + 1) :=
  Nat.lt_of_lt_of_le (Nat.lt_pow_self (by decide)) (Nat.pow_le_pow_right (by decide) (by omega))

theorem hexDigits_ne_nil (n : Nat) : hexDigits n ≠ [] := digitsMsb_ne_nil (Nat.succ_pos n) n

/-- 16 進の数字の後が終わりか 16 進の桁でない文字なら、`strtoulDigits` は数字だけを読む。 -/
theorem strtoulDigits_hexDigits (bits n : Nat) {rest : Bytes}
    (hrest : rest = [] ∨ 16 ≤ strtoulCharval (ucharval (rest.headD 0))) :
    strtoulDigits bits 16 0 (hexDigits n ++ rest) = (n % 2 ^ bits, rest) :=
  strtoulDigits_digitsMsb (by decide) hexDigit_charval (lt_sixteen_pow_succ n) hrest

/-- 16 進の桁の文字は、空白でも `-` でもない。 -/
theorem hexDigit_plain : ∀ d < 16, isspace (hexDigit d) = false ∧ hexDigit d ≠ 0x2D := by
  have hall : ∀ d ∈ List.range 16, isspace (hexDigit d) = false ∧ hexDigit d ≠ 0x2D := by decide
  exact fun d hd => hall d (List.mem_range.mpr hd)

/-- `strtoul ( p, &endp, 16 )` は、`%x` の数字を終わりか 16 進でない文字まで読む。 -/
theorem strtoul_hexDigits (arch : Arch) (n : Nat) {rest : Bytes}
    (hrest : rest = [] ∨ 16 ≤ strtoulCharval (ucharval (rest.headD 0))) :
    strtoul arch (hexDigits n ++ rest) 16 = (n % 2 ^ arch.longBits, rest) := by
  obtain ⟨d, ds, hds⟩ := List.exists_cons_of_ne_nil
    (digitsMsb_ne_nil (Nat.succ_pos n) n : digitsMsb 16 id (n + 1) n ≠ [])
  have hd : d < 16 := lt_of_mem_digitsMsb (by decide) (hds ▸ List.mem_cons_self)
  have hhead : (hexDigits n ++ rest).headD 0 = hexDigit d := by
    rw [hexDigits, digitsMsb_eq_map, hds]
    rfl
  rw [strtoul_of_head (hhead ▸ (hexDigit_plain d hd).1) (hhead ▸ (hexDigit_plain d hd).2)
    (strtoulBase_of_ne_zero (by decide)), strtoulDigits_hexDigits _ n hrest]

/-- **`%#lx` で書いた値は、`strtoul ( value, &endp, 0 )` で元に戻る。** `0x` が基数を 16 に
決める。 -/
theorem strtoul_formatLx (arch : Arch) (n : Nat) :
    strtoul arch (ascii "0x" ++ hexDigits n) 0 = (n % 2 ^ arch.longBits, []) := by
  have hx : (0x78 : UInt8) ||| 0x20 = 0x78 := by decide
  have hbase : strtoulBase (0x30 :: 0x78 :: hexDigits n) 0 = (hexDigits n, 16) := by
    simp [strtoulBase, hx]
  have hs : isspace ((0x30 :: 0x78 :: hexDigits n).headD 0) = false := by
    rw [List.headD_cons]
    decide
  have hm : (0x30 :: 0x78 :: hexDigits n).headD 0 ≠ 0x2D := by
    rw [List.headD_cons]
    decide
  rw [show ascii "0x" ++ hexDigits n = 0x30 :: 0x78 :: hexDigits n from rfl, strtoul_of_head hs hm hbase]
  simpa using @strtoulDigits_hexDigits arch.longBits n [] (.inl rfl)

end FlexBoot
