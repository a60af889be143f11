import FlexBoot.Infra.Bytes
import FlexBoot.Infra.Limbs

/-!
# 多倍長整数（`crypto/bigint.c`、x86 の `bits/bigint.h` と `core/x86_bigint.c`）

`bigint_t ( size )` は `size` 個の `uint32_t` の配列で、下の語から並ぶ。RSA はこの上の
`bigint_mod_exp` で `base ^ exponent mod modulus` を求める。

## model

x86 の inline asm の loop は `Infra/Limbs` の loop で書く。

* `rcl`、`rcr`、`sbb` の loop — `rclLimbs`、`rcrLimbs`、`sbbLimbs`。入る carry は `xor` か `clc` で
  0 にしてあるので `false` である
* `std; lodsl; scasl; loope` — `isGeqLimbs` を上の語から
* `bsrl; loopz` — `maxSetBitLimbs` を上の語から
* `mull; addl; adcl; adcl $0` — `mulAddLimbs`

最後の `adcl $0` は carry がなくても一度は次の語を読み書きする。値は変わらないので、
model はそれを書かない。

`bigint_max_set_bit_raw` の返す bit の位置と `rotation` は `int` だが、model は上限のない整数で
持つ。`size` が 2 ^ 25 語より小さければ同じ値である。

`bigint_mod_exp_raw` の `while` loop は `exponent` の値で止まる。`rcr` が値を半分にするので、
0 でない限り値は減る（`bigintRorRaw_lt`）。
-/

namespace FlexBoot.Bigint

open Infra

/-- `bigint_t ( size )`。`size` 個の語があり、どの語も `uint32_t` に収まる。 -/
structure BigintT (size : Nat) where
  element : List Nat
  length_element : element.length = size
  element_lt : LimbsLt 32 element

/-- 下の語から並べた語の列の値。 -/
def BigintT.value {size : Nat} (x : BigintT size) : Nat := Nat.ofDigits (2 ^ 32) x.element

/-! ## `bits/bigint.h` の基本操作 -/

/-- 下の byte から四つずつ、little-endian の語にまとめる。 -/
def limbsOfBytes : List Nat → List Nat
  | b0 :: b1 :: b2 :: b3 :: rest =>
    (b0 + 256 * b1 + 65536 * b2 + 16777216 * b3) :: limbsOfBytes rest
  | _ => []

/-- `bigint_init_raw ( value0, size, data, len )`。big-endian の `data` を逆順に写し、残りを 0 で
埋める。 -/
def bigintInitRaw (size : Nat) (data : Bytes) : List Nat :=
  limbsOfBytes (data.reverse.map UInt8.toNat ++ List.replicate (4 * size - data.length) 0)

/-- `bigint_subtract_raw ( subtrahend0, value0, size )`：`value - subtrahend`。 -/
def bigintSubtractRaw (subtrahend value : List Nat) : List Nat :=
  (sbbLimbs 32 false subtrahend value).1

/-- `bigint_rol_raw ( value0, size )`：一 bit 左へ。最も上の bit は捨てる。 -/
def bigintRolRaw (value : List Nat) : List Nat := (rclLimbs 32 false value).1

/-- `bigint_ror_raw ( value0, size )`：一 bit 右へ。最も下の bit は捨てる。 -/
def bigintRorRaw (value : List Nat) : List Nat := (rcrLimbs 32 false value).1

/-- `bigint_is_zero_raw ( value0, size )`。 -/
def bigintIsZeroRaw (value : List Nat) : Bool := value.all (· == 0)

/-- `bigint_is_geq_raw ( value0, reference0, size )`。上の語から比べる。 -/
def bigintIsGeqRaw (value reference : List Nat) : Bool := isGeqLimbs value.reverse reference.reverse

/-- `bigint_bit_is_set_raw ( value0, size, bit )`。 -/
def bigintBitIsSetRaw (value : List Nat) (bit : Nat) : Bool :=
  value.getD (bit / 32) 0 &&& (1 <<< (bit % 32)) != 0

/-- `bigint_max_set_bit_raw ( value0, size )`：最も上の 1 の bit の位置に 1 を足したもの。 -/
def bigintMaxSetBitRaw (value : List Nat) : Nat := maxSetBitLimbs 32 value.length value.reverse

/-- `bigint_grow_raw ( source0, source_size, dest0, dest_size )`。 -/
def bigintGrowRaw (source : List Nat) (destSize : Nat) : List Nat :=
  source ++ List.replicate (destSize - source.length) 0

/-- `bigint_shrink_raw ( source0, source_size, dest0, dest_size )`。下の `dest_size` 語を写す。 -/
def bigintShrinkRaw (source : List Nat) (destSize : Nat) : List Nat := source.take destSize

/-! ## `bigint_multiply_raw` -/

/-- 一回の `mull` の積を、`result` の `index` 番目の語から足す。 -/
def bigintMultiplyAdd (product index : Nat) (result : List Nat) : List Nat :=
  result.take index ++ (mulAddLimbs 32 product (result.drop index)).1

/-- 内側の `j` の loop。`index` は `i + j` である。 -/
def bigintMultiplyRow (multiplicandElement : Nat) : Nat → List Nat → List Nat → List Nat
  | _, [], result => result
  | index, multiplierElement :: multiplier, result =>
    bigintMultiplyRow multiplicandElement (index + 1) multiplier
      (bigintMultiplyAdd (multiplicandElement * multiplierElement) index result)

/-- 外側の `i` の loop。 -/
def bigintMultiplyLoop (multiplier : List Nat) : Nat → List Nat → List Nat → List Nat
  | _, [], result => result
  | i, multiplicandElement :: multiplicand, result =>
    bigintMultiplyLoop multiplier (i + 1) multiplicand
      (bigintMultiplyRow multiplicandElement i multiplier result)

/-- `bigint_multiply_raw ( multiplicand0, multiplier0, result0, size )`。`2 * size` 語の結果を 0 に
してから、語ごとの積を足していく。 -/
def bigintMultiplyRaw (multiplicand multiplier : List Nat) : List Nat :=
  bigintMultiplyLoop multiplier 0 multiplicand (List.replicate (2 * multiplicand.length) 0)

/-! ## `bigint_mod_multiply_raw` -/

/-- 「Subtract multiples of modulus」の loop の残り `n` 回。`modulus` 以上なら引き、`modulus` を
一 bit 右へ回す。 -/
def subtractMultiples : Nat → List Nat → List Nat → List Nat
  | 0, result, _ => result
  | n + 1, result, modulus =>
    let result := if bigintIsGeqRaw result modulus then bigintSubtractRaw modulus result else result
    subtractMultiples n result (bigintRorRaw modulus)

/-- `bigint_mod_multiply_raw ( multiplicand0, multiplier0, modulus0, result0, size, tmp )`。
積を `2 * size` 語で求め、`modulus` をその最も上の bit まで左へ回してから、引いては右へ回す。 -/
def bigintModMultiplyRaw (multiplicand multiplier modulus : List Nat) : List Nat :=
  let size := multiplicand.length
  let result := bigintMultiplyRaw multiplicand multiplier
  let tmpModulus := bigintGrowRaw modulus (2 * size)
  let rotation : Int := (bigintMaxSetBitRaw result : Int) - bigintMaxSetBitRaw tmpModulus
  let tmpModulus := bigintRolRaw^[rotation.toNat] tmpModulus
  bigintShrinkRaw (subtractMultiples (rotation + 1).toNat result tmpModulus) size

/-! ## `bigint_mod_exp_raw` -/

/-- `bigint_is_zero_raw` は値が 0 かを返す。 -/
theorem bigintIsZeroRaw_iff (value : List Nat) :
    bigintIsZeroRaw value = true ↔ Nat.ofDigits (2 ^ 32) value = 0 := by
  rw [bigintIsZeroRaw, List.all_eq_true, ofDigits_two_pow_eq_zero_iff]
  simp

/-- 0 でない値を右へ回すと減る。`while` loop はこれで止まる。 -/
theorem bigintRorRaw_lt {value : List Nat} (h : ¬bigintIsZeroRaw value = true) :
    Nat.ofDigits (2 ^ 32) (bigintRorRaw value) < Nat.ofDigits (2 ^ 32) value := by
  rw [bigintRorRaw, rcrLimbs_false_value (by decide)]
  have hne : Nat.ofDigits (2 ^ 32) value ≠ 0 := (bigintIsZeroRaw_iff value).not.mp h
  omega

/-- `while ( ! bigint_is_zero ( &temp->exponent ) )` の loop。`exponent` の下の bit が立っていれば
`result` に `base` を掛け、`exponent` を右へ回し、`base` を二乗する。 -/
def bigintModExpLoop (modulus base exponent result : List Nat) : List Nat :=
  if bigintIsZeroRaw exponent then result
  else
    let result :=
      if bigintBitIsSetRaw exponent 0 then bigintModMultiplyRaw result base modulus else result
    bigintModExpLoop modulus (bigintModMultiplyRaw base base modulus) (bigintRorRaw exponent) result
termination_by Nat.ofDigits (2 ^ 32) exponent
decreasing_by exact bigintRorRaw_lt ‹_›

/-- `bigint_mod_exp_raw ( base0, modulus0, exponent0, result0, size, exponent_size, tmp )`。
`result` を 1 にしてから loop に入る。 -/
def bigintModExpRaw (base modulus exponent : List Nat) : List Nat :=
  bigintModExpLoop modulus base exponent (bigintInitRaw base.length [1])

end FlexBoot.Bigint
