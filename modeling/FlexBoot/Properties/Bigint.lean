import FlexBoot.Crypto.Bigint
import Mathlib.Data.Nat.Size
import Mathlib.Data.Nat.ModEq

/-!
# 多倍長整数の剰余演算

`bigint_mod_multiply_raw` は積を `2 * size` 語で求め、`modulus` を積の最も上の bit まで左へ
回してから、引いては右へ回す。

* 積 — `bigint_multiply_raw` の語ごとの足し込みは `2 * size` 語からあふれない
  （`bigintMultiplyRaw_value`）
* 左へ回す — `modulus` の最も上の bit は積のそれに揃うだけで、外へは出ない（`bigintRolRaw_iterate_value`）
* 引いては右へ回す — `modulus * 2 ^ k` の段で、値は `modulus * 2 ^ (k + 1)` より小さい
  （`subtractMultiples_spec`）
* 残りは `modulus` より小さく、`size` 語に収まる

`bigint_mod_exp_raw` は右から左への二乗と掛け算である。`result` を 1 にしてから、`exponent` の
立っている bit ごとに掛ける。`exponent` が 0 なら一度も掛けないので、`result` は 1 のまま
`modulus` で割られない。
-/

namespace FlexBoot.Bigint

open Infra Nat

/-! ## 基本操作の値 -/

section Primitives

variable {value reference : List Nat}

theorem bigintRolRaw_value (hl : LimbsLt 32 value)
    (hfit : 2 * ofDigits (2 ^ 32) value < 2 ^ (32 * value.length)) :
    ofDigits (2 ^ 32) (bigintRolRaw value) = 2 * ofDigits (2 ^ 32) value :=
  rclLimbs_false_value (by decide) hl hfit

@[simp] theorem length_bigintRolRaw : (bigintRolRaw value).length = value.length :=
  length_rclLimbs false value

theorem bigintRolRaw_lt : LimbsLt 32 (bigintRolRaw value) := rclLimbs_lt (by decide) false value

/-- `rotation` 回左へ回しても最も上の bit が外へ出なければ、値は `2 ^ rotation` 倍になる。 -/
theorem bigintRolRaw_iterate_value (hl : LimbsLt 32 value) :
    ∀ rotation : Nat, 2 ^ rotation * ofDigits (2 ^ 32) value < 2 ^ (32 * value.length) →
      ofDigits (2 ^ 32) (bigintRolRaw^[rotation] value) = 2 ^ rotation * ofDigits (2 ^ 32) value ∧
        (bigintRolRaw^[rotation] value).length = value.length ∧ LimbsLt 32 (bigintRolRaw^[rotation] value)
  | 0, _ => by simp [hl]
  | k + 1, hfit => by
    have hk : 2 ^ k * ofDigits (2 ^ 32) value < 2 ^ (32 * value.length) := by
      rw [Nat.pow_succ] at hfit
      have : 2 ^ k * ofDigits (2 ^ 32) value ≤ 2 ^ k * 2 * ofDigits (2 ^ 32) value := by
        rw [Nat.mul_assoc]
        exact Nat.mul_le_mul_left _ (Nat.le_mul_of_pos_left _ (by decide))
      omega
    obtain ⟨hv, hlen, hlt⟩ := bigintRolRaw_iterate_value hl k hk
    rw [Function.iterate_succ_apply']
    refine ⟨?_, by rw [length_bigintRolRaw, hlen], bigintRolRaw_lt⟩
    rw [bigintRolRaw_value hlt (by rw [hv, hlen, ← Nat.mul_assoc, ← Nat.pow_succ']; exact hfit), hv,
      ← Nat.mul_assoc, ← Nat.pow_succ']

theorem bigintRorRaw_value (value : List Nat) :
    ofDigits (2 ^ 32) (bigintRorRaw value) = ofDigits (2 ^ 32) value / 2 :=
  rcrLimbs_false_value (by decide) value

@[simp] theorem length_bigintRorRaw : (bigintRorRaw value).length = value.length :=
  length_rcrLimbs false value

theorem bigintRorRaw_lt' (hl : LimbsLt 32 value) : LimbsLt 32 (bigintRorRaw value) :=
  rcrLimbs_lt (by decide) false value hl

/-- 引く数が引かれる数を超えなければ、`sbb` の loop の借りは残らず、値は差である。 -/
theorem bigintSubtractRaw_value (hlen : reference.length = value.length) (hr : LimbsLt 32 reference)
    (hv : LimbsLt 32 value) (hle : ofDigits (2 ^ 32) reference ≤ ofDigits (2 ^ 32) value) :
    ofDigits (2 ^ 32) (bigintSubtractRaw reference value) =
      ofDigits (2 ^ 32) value - ofDigits (2 ^ 32) reference := by
  have h := sbbLimbs_value false reference value hlen hr hv
  have hout := ofDigits_lt_of_limbsLt (sbbLimbs_lt (w := 32) false reference value)
  rw [length_sbbLimbs false reference value hlen] at hout
  rw [Bool.toNat_false, Nat.add_zero] at h
  rw [bigintSubtractRaw]
  -- 借りが 1 なら、差が 2 ^ (32 * size) 以上になってしまう
  cases hb : (sbbLimbs 32 false reference value).2
  · rw [hb, Bool.toNat_false, Nat.mul_zero, Nat.add_zero] at h
    omega
  · rw [hb, Bool.toNat_true, Nat.mul_one] at h
    omega

theorem length_bigintSubtractRaw (hlen : reference.length = value.length) :
    (bigintSubtractRaw reference value).length = value.length :=
  length_sbbLimbs false reference value hlen

theorem bigintSubtractRaw_lt : LimbsLt 32 (bigintSubtractRaw reference value) := sbbLimbs_lt false _ _

/-- `bigint_is_geq_raw` は値を比べる。 -/
theorem bigintIsGeqRaw_eq (hlen : value.length = reference.length) (hne : value ≠ [])
    (hv : LimbsLt 32 value) (hr : LimbsLt 32 reference) :
    bigintIsGeqRaw value reference = decide (ofDigits (2 ^ 32) reference ≤ ofDigits (2 ^ 32) value) := by
  rw [bigintIsGeqRaw, isGeqLimbs_eq value.reverse reference.reverse (by simpa using hlen)
    (by simpa using hne) hv.reverse hr.reverse, List.reverse_reverse, List.reverse_reverse]

/-- `bigint_max_set_bit_raw` は値の bit 数である。 -/
theorem bigintMaxSetBitRaw_eq (hv : LimbsLt 32 value) :
    bigintMaxSetBitRaw value = Nat.size (ofDigits (2 ^ 32) value) := by
  have h := maxSetBitLimbs_eq_size (by decide) value.reverse hv.reverse
  rw [List.length_reverse, List.reverse_reverse] at h
  exact h

/-- `bigint_bit_is_set_raw ( value, 0 )` は値が奇数かを返す。 -/
theorem bigintBitIsSetRaw_zero (value : List Nat) :
    bigintBitIsSetRaw value 0 = decide (ofDigits (2 ^ 32) value % 2 = 1) := by
  cases value with
  | nil => rfl
  | cons x xs =>
    -- 下の語以外は 2 ^ 32 の倍数で、偶奇に効かない
    have hpar : (x + 2 ^ 32 * ofDigits (2 ^ 32) xs) % 2 = x % 2 := by omega
    rw [bigintBitIsSetRaw, ofDigits_cons, hpar]
    simp only [Nat.zero_div, Nat.zero_mod, Nat.shiftLeft_zero, List.getD_cons_zero, Nat.and_one_is_mod]
    rcases Nat.mod_two_eq_zero_or_one x with h | h <;> simp [h]

theorem bigintGrowRaw_value (source : List Nat) (destSize : Nat) :
    ofDigits (2 ^ 32) (bigintGrowRaw source destSize) = ofDigits (2 ^ 32) source := by
  rw [bigintGrowRaw, ofDigits_append_replicate_zero]

theorem length_bigintGrowRaw {source : List Nat} {destSize : Nat} (h : source.length ≤ destSize) :
    (bigintGrowRaw source destSize).length = destSize := by
  simp only [bigintGrowRaw, List.length_append, List.length_replicate]
  omega

theorem bigintGrowRaw_lt {source : List Nat} (h : LimbsLt 32 source) (destSize : Nat) :
    LimbsLt 32 (bigintGrowRaw source destSize) :=
  limbsLt_append.mpr ⟨h, limbsLt_replicate_zero _⟩

/-- 下の `destSize` 語に収まる値は、縮めても変わらない。 -/
theorem bigintShrinkRaw_value (hv : LimbsLt 32 value) {destSize : Nat} (hd : destSize ≤ value.length)
    (hfit : ofDigits (2 ^ 32) value < 2 ^ (32 * destSize)) :
    ofDigits (2 ^ 32) (bigintShrinkRaw value destSize) = ofDigits (2 ^ 32) value := by
  have h := ofDigits_take_add_drop (w := 32) value destSize
  rw [List.length_take, Nat.min_eq_left hd] at h
  have hlow := ofDigits_lt_of_limbsLt (hv.take destSize)
  rw [List.length_take, Nat.min_eq_left hd] at hlow
  rw [bigintShrinkRaw]
  -- 上の語の値が 0 でなければ、全体が 2 ^ (32 * destSize) に届く
  have hhigh : ofDigits (2 ^ 32) (value.drop destSize) = 0 := by
    by_contra hne
    have : 2 ^ (32 * destSize) ≤ 2 ^ (32 * destSize) * ofDigits (2 ^ 32) (value.drop destSize) :=
      Nat.le_mul_of_pos_right _ (Nat.pos_of_ne_zero hne)
    omega
  rw [hhigh, Nat.mul_zero, Nat.add_zero] at h
  exact h

theorem limbsOfBytes_replicate_zero : ∀ n : Nat, limbsOfBytes (List.replicate (4 * n) 0) = List.replicate n 0
  | 0 => rfl
  | n + 1 => by
    rw [show 4 * (n + 1) = 4 * n + 1 + 1 + 1 + 1 by omega]
    simp only [List.replicate_succ, limbsOfBytes, Nat.mul_zero, Nat.add_zero, limbsOfBytes_replicate_zero n]

/-- `bigint_init ( result, start, sizeof ( start ) )` は 1 を置く。 -/
theorem bigintInitRaw_one {size : Nat} (hs : 0 < size) :
    bigintInitRaw size [1] = 1 :: List.replicate (size - 1) 0 := by
  obtain ⟨n, rfl⟩ : ∃ n, size = n + 1 := ⟨size - 1, by omega⟩
  rw [bigintInitRaw, show 4 * (n + 1) - [(1 : UInt8)].length = 4 * n + 1 + 1 + 1 by simp; omega]
  simp only [List.reverse_singleton, List.map_cons, List.map_nil, List.replicate_succ, List.cons_append,
    List.nil_append, limbsOfBytes, limbsOfBytes_replicate_zero, Nat.add_sub_cancel]
  rfl

end Primitives

/-! ## 積 -/

section Multiply

/-- 積を `index` 番目の語から足しても `2 ^ (32 * len)` に届かなければ、`adcl $0` の loop は結果の
外へ carry を送らない。 -/
theorem bigintMultiplyAdd_spec {product index : Nat} {result : List Nat} (hr : LimbsLt 32 result)
    (hidx : index + 2 ≤ result.length) (hp : product < 2 ^ 32 * 2 ^ 32)
    (hfit : ofDigits (2 ^ 32) result + 2 ^ (32 * index) * product < 2 ^ (32 * result.length)) :
    ofDigits (2 ^ 32) (bigintMultiplyAdd product index result) =
        ofDigits (2 ^ 32) result + 2 ^ (32 * index) * product ∧
      (bigintMultiplyAdd product index result).length = result.length ∧
      LimbsLt 32 (bigintMultiplyAdd product index result) := by
  have htake : (result.take index).length = index := by simp only [List.length_take]; omega
  have hsplit := ofDigits_take_add_drop (w := 32) result index
  rw [htake] at hsplit
  have hadd := mulAddLimbs_value hp (result.drop index) (by simp only [List.length_drop]; omega) (hr.drop index)
  have hlen := length_mulAddLimbs (w := 32) product (result.drop index)
  rw [List.length_drop] at hadd hlen
  have hAB : 2 ^ (32 * index) * 2 ^ (32 * (result.length - index)) = 2 ^ (32 * result.length) := by
    rw [← Nat.pow_add]
    congr 1
    omega
  refine ⟨?_, ?_, limbsLt_append.mpr ⟨hr.take index, mulAddLimbs_lt _ _ (hr.drop index)⟩⟩
  · rw [bigintMultiplyAdd, ofDigits_append, htake, ← Nat.pow_mul]
    generalize mulAddLimbs 32 product (result.drop index) = out at hadd
    -- 足し込みの等式に 2 ^ (32 * index) を掛け、下の語と合わせる
    have e : ofDigits (2 ^ 32) (result.take index) + 2 ^ (32 * index) * ofDigits (2 ^ 32) out.1 +
        2 ^ (32 * result.length) * out.2.toNat =
        ofDigits (2 ^ 32) result + 2 ^ (32 * index) * product := by
      rw [← hAB, ← hsplit]
      calc ofDigits (2 ^ 32) (result.take index) + 2 ^ (32 * index) * ofDigits (2 ^ 32) out.1 +
            2 ^ (32 * index) * 2 ^ (32 * (result.length - index)) * out.2.toNat
          = ofDigits (2 ^ 32) (result.take index) + 2 ^ (32 * index) *
              (ofDigits (2 ^ 32) out.1 + 2 ^ (32 * (result.length - index)) * out.2.toNat) := by ring
        _ = _ := by rw [hadd]; ring
    cases hc : out.2
    · rw [hc, Bool.toNat_false, Nat.mul_zero, Nat.add_zero] at e
      exact e
    · rw [hc, Bool.toNat_true, Nat.mul_one] at e
      omega
  · rw [bigintMultiplyAdd, List.length_append, htake, hlen]
    omega

/-- 内側の loop は `a * multiplier` を `index` 番目の語から足す。 -/
theorem bigintMultiplyRow_spec {a : Nat} (ha : a < 2 ^ 32) :
    ∀ (index : Nat) (multiplier result : List Nat), LimbsLt 32 multiplier → LimbsLt 32 result →
      index + multiplier.length + 1 ≤ result.length →
      ofDigits (2 ^ 32) result + 2 ^ (32 * index) * (a * ofDigits (2 ^ 32) multiplier) <
        2 ^ (32 * result.length) →
      ofDigits (2 ^ 32) (bigintMultiplyRow a index multiplier result) =
          ofDigits (2 ^ 32) result + 2 ^ (32 * index) * (a * ofDigits (2 ^ 32) multiplier) ∧
        (bigintMultiplyRow a index multiplier result).length = result.length ∧
        LimbsLt 32 (bigintMultiplyRow a index multiplier result)
  | index, [], result, _, hr, _, _ => by simp [bigintMultiplyRow, hr]
  | index, b :: bs, result, hb, hr, hidx, hfit => by
    obtain ⟨hb0, hbs⟩ := hb.cons
    rw [List.length_cons] at hidx
    -- この語の積は、行全体の積を超えない
    have hstep : ofDigits (2 ^ 32) result + 2 ^ (32 * index) * (a * b) < 2 ^ (32 * result.length) := by
      refine lt_of_le_of_lt ?_ hfit
      rw [ofDigits_cons]
      gcongr
      exact Nat.le_add_right _ _
    obtain ⟨hv, hlen, hlt⟩ := bigintMultiplyAdd_spec hr (by omega) (Nat.mul_lt_mul'' ha hb0) hstep
    have hrest : ofDigits (2 ^ 32) (bigintMultiplyAdd (a * b) index result) +
        2 ^ (32 * (index + 1)) * (a * ofDigits (2 ^ 32) bs) =
        ofDigits (2 ^ 32) result + 2 ^ (32 * index) * (a * ofDigits (2 ^ 32) (b :: bs)) := by
      rw [hv, ofDigits_cons, Nat.mul_succ, Nat.pow_add]
      ring
    obtain ⟨hv', hlen', hlt'⟩ := bigintMultiplyRow_spec ha (index + 1) bs _ hbs hlt (by omega)
      (by rw [hlen, hrest]; exact hfit)
    rw [bigintMultiplyRow]
    exact ⟨by rw [hv', hrest], by rw [hlen', hlen], hlt'⟩

/-- 外側の loop は `multiplicand * multiplier` を `i` 番目の語から足す。 -/
theorem bigintMultiplyLoop_spec {multiplier : List Nat} (hb : LimbsLt 32 multiplier) :
    ∀ (i : Nat) (multiplicand result : List Nat), LimbsLt 32 multiplicand → LimbsLt 32 result →
      i + multiplicand.length + multiplier.length ≤ result.length →
      ofDigits (2 ^ 32) result +
          2 ^ (32 * i) * (ofDigits (2 ^ 32) multiplicand * ofDigits (2 ^ 32) multiplier) <
        2 ^ (32 * result.length) →
      ofDigits (2 ^ 32) (bigintMultiplyLoop multiplier i multiplicand result) =
          ofDigits (2 ^ 32) result +
            2 ^ (32 * i) * (ofDigits (2 ^ 32) multiplicand * ofDigits (2 ^ 32) multiplier) ∧
        (bigintMultiplyLoop multiplier i multiplicand result).length = result.length ∧
        LimbsLt 32 (bigintMultiplyLoop multiplier i multiplicand result)
  | i, [], result, _, hr, _, _ => by simp [bigintMultiplyLoop, hr]
  | i, a :: as, result, ha, hr, hidx, hfit => by
    obtain ⟨ha0, has⟩ := ha.cons
    rw [List.length_cons] at hidx
    have hrow_fit : ofDigits (2 ^ 32) result + 2 ^ (32 * i) * (a * ofDigits (2 ^ 32) multiplier) <
        2 ^ (32 * result.length) := by
      refine lt_of_le_of_lt ?_ hfit
      rw [ofDigits_cons]
      gcongr
      exact Nat.le_add_right _ _
    obtain ⟨hv, hlen, hlt⟩ := bigintMultiplyRow_spec ha0 i multiplier result hb hr (by omega) hrow_fit
    have hrest : ofDigits (2 ^ 32) (bigintMultiplyRow a i multiplier result) +
        2 ^ (32 * (i + 1)) * (ofDigits (2 ^ 32) as * ofDigits (2 ^ 32) multiplier) =
        ofDigits (2 ^ 32) result +
          2 ^ (32 * i) * (ofDigits (2 ^ 32) (a :: as) * ofDigits (2 ^ 32) multiplier) := by
      rw [hv, ofDigits_cons, Nat.mul_succ, Nat.pow_add]
      ring
    obtain ⟨hv', hlen', hlt'⟩ := bigintMultiplyLoop_spec hb (i + 1) as _ has hlt (by omega)
      (by rw [hlen, hrest]; exact hfit)
    rw [bigintMultiplyLoop]
    exact ⟨by rw [hv', hrest], by rw [hlen', hlen], hlt'⟩

/-- `bigint_multiply_raw` は `2 * size` 語の積を返す。積は `2 ^ (64 * size)` より小さいので、
carry は結果の外へ出ない。 -/
theorem bigintMultiplyRaw_spec {multiplicand multiplier : List Nat}
    (hlen : multiplier.length = multiplicand.length)
    (ha : LimbsLt 32 multiplicand) (hb : LimbsLt 32 multiplier) :
    ofDigits (2 ^ 32) (bigintMultiplyRaw multiplicand multiplier) =
        ofDigits (2 ^ 32) multiplicand * ofDigits (2 ^ 32) multiplier ∧
      (bigintMultiplyRaw multiplicand multiplier).length = 2 * multiplicand.length ∧
      LimbsLt 32 (bigintMultiplyRaw multiplicand multiplier) := by
  have hva := ofDigits_lt_of_limbsLt ha
  have hvb := ofDigits_lt_of_limbsLt hb
  rw [hlen] at hvb
  have hfit : ofDigits (2 ^ 32) (List.replicate (2 * multiplicand.length) 0) +
      2 ^ (32 * 0) * (ofDigits (2 ^ 32) multiplicand * ofDigits (2 ^ 32) multiplier) <
      2 ^ (32 * (List.replicate (2 * multiplicand.length) 0).length) := by
    rw [ofDigits_replicate_zero, List.length_replicate, Nat.mul_zero, Nat.pow_zero, Nat.one_mul,
      Nat.zero_add, show 32 * (2 * multiplicand.length) = 32 * multiplicand.length + 32 * multiplicand.length by ring,
      Nat.pow_add]
    exact Nat.mul_lt_mul'' hva hvb
  obtain ⟨hv, hl, hlt⟩ := bigintMultiplyLoop_spec hb 0 multiplicand _ ha (limbsLt_replicate_zero _)
    (by rw [List.length_replicate]; omega) hfit
  rw [ofDigits_replicate_zero, Nat.mul_zero, Nat.pow_zero, Nat.one_mul, Nat.zero_add] at hv
  rw [List.length_replicate] at hl
  exact ⟨hv, hl, hlt⟩

end Multiply

/-! ## 剰余 -/

section ModMultiply

theorem subtractMultiples_succ (n : Nat) (result modulus : List Nat) :
    subtractMultiples (n + 1) result modulus =
      subtractMultiples n
        (if bigintIsGeqRaw result modulus then bigintSubtractRaw modulus result else result)
        (bigintRorRaw modulus) := rfl

/-- 一回の「`modulus` 以上なら引く」。 -/
theorem subtractIfGeq_spec {result modulus : List Nat} (hlen : result.length = modulus.length)
    (hne : result ≠ []) (hr : LimbsLt 32 result) (hm : LimbsLt 32 modulus) :
    ofDigits (2 ^ 32) (if bigintIsGeqRaw result modulus then bigintSubtractRaw modulus result else result) =
        (if ofDigits (2 ^ 32) modulus ≤ ofDigits (2 ^ 32) result then
          ofDigits (2 ^ 32) result - ofDigits (2 ^ 32) modulus else ofDigits (2 ^ 32) result) ∧
      (if bigintIsGeqRaw result modulus then bigintSubtractRaw modulus result else result).length =
        result.length ∧
      LimbsLt 32 (if bigintIsGeqRaw result modulus then bigintSubtractRaw modulus result else result) := by
  rw [bigintIsGeqRaw_eq hlen hne hr hm]
  by_cases hle : ofDigits (2 ^ 32) modulus ≤ ofDigits (2 ^ 32) result
  · rw [decide_eq_true hle, if_pos rfl, if_pos hle]
    exact ⟨bigintSubtractRaw_value hlen.symm hm hr hle, length_bigintSubtractRaw hlen.symm,
      bigintSubtractRaw_lt⟩
  · rw [decide_eq_false hle, if_neg Bool.false_ne_true, if_neg hle]
    exact ⟨rfl, rfl, hr⟩

/-- 「Subtract multiples of modulus」の loop の不変条件。`modulus` が `m * 2 ^ n` の段で値が
`m * 2 ^ (n + 1)` より小さければ、残り `n + 1` 回の後には `m` より小さく、`m` を法として変わらない。 -/
theorem subtractMultiples_spec {m : Nat} :
    ∀ (n : Nat) (result modulus : List Nat), result.length = modulus.length → result ≠ [] →
      LimbsLt 32 result → LimbsLt 32 modulus →
      ofDigits (2 ^ 32) modulus = m * 2 ^ n → ofDigits (2 ^ 32) result < m * 2 ^ (n + 1) →
      ofDigits (2 ^ 32) (subtractMultiples (n + 1) result modulus) < m ∧
        ofDigits (2 ^ 32) (subtractMultiples (n + 1) result modulus) % m = ofDigits (2 ^ 32) result % m ∧
        (subtractMultiples (n + 1) result modulus).length = result.length ∧
        LimbsLt 32 (subtractMultiples (n + 1) result modulus)
  | n, result, modulus, hlen, hne, hr, hmod, hmv, hrv => by
    obtain ⟨hv1, hl1, hlt1⟩ := subtractIfGeq_spec hlen hne hr hmod
    generalize hr1 : (if bigintIsGeqRaw result modulus then bigintSubtractRaw modulus result else result) = r1
      at hv1 hl1 hlt1
    have hM2 : m * 2 ^ (n + 1) = 2 * (m * 2 ^ n) := by ring
    -- 一回引くと、値は今の段の `modulus` より小さくなり、`m` を法として変わらない
    have hstep : ofDigits (2 ^ 32) r1 < m * 2 ^ n ∧ ofDigits (2 ^ 32) r1 % m = ofDigits (2 ^ 32) result % m := by
      rw [hv1, hmv]
      split
      · next hle => exact ⟨by omega, Nat.sub_mul_mod hle⟩
      · next hlt => exact ⟨by omega, rfl⟩
    rw [subtractMultiples_succ, hr1]
    cases n with
    | zero =>
      rw [Nat.pow_zero, Nat.mul_one] at hstep
      exact ⟨hstep.1, hstep.2, hl1, hlt1⟩
    | succ k =>
      -- 右へ回した `modulus` は一つ下の段 `m * 2 ^ k` にある
      have hror : ofDigits (2 ^ 32) (bigintRorRaw modulus) = m * 2 ^ k := by
        rw [bigintRorRaw_value, hmv, Nat.pow_succ, ← Nat.mul_assoc, Nat.mul_div_cancel _ (by decide)]
      obtain ⟨h1, h2, h3, h4⟩ := subtractMultiples_spec k r1 (bigintRorRaw modulus)
        (by rw [length_bigintRorRaw, hl1, hlen]) (by rw [← List.length_pos_iff, hl1]; exact List.length_pos_iff.mpr hne)
        hlt1 (bigintRorRaw_lt' hmod) hror hstep.1
      exact ⟨h1, by rw [h2, hstep.2], by rw [h3, hl1], h4⟩

/-- 積の bit 数が `modulus` の bit 数以上のとき。差 `rotation` だけ左へ回しても `modulus` の
bit は外へ出ず、積は `modulus * 2 ^ (rotation + 1)` より小さいので、続く loop は余りを残す。 -/
theorem subtractMultiples_of_size_le {product modulus : List Nat} (hlen : product.length = modulus.length)
    (hne : product ≠ []) (hp : LimbsLt 32 product) (hm : LimbsLt 32 modulus)
    (hpos : 0 < ofDigits (2 ^ 32) modulus)
    (hsize : size (ofDigits (2 ^ 32) modulus) ≤ size (ofDigits (2 ^ 32) product)) :
    let rotation := size (ofDigits (2 ^ 32) product) - size (ofDigits (2 ^ 32) modulus)
    ofDigits (2 ^ 32) (bigintRolRaw^[rotation] modulus) = ofDigits (2 ^ 32) modulus * 2 ^ rotation ∧
      ofDigits (2 ^ 32) (subtractMultiples (rotation + 1) product (bigintRolRaw^[rotation] modulus)) <
        ofDigits (2 ^ 32) modulus ∧
      ofDigits (2 ^ 32) (subtractMultiples (rotation + 1) product (bigintRolRaw^[rotation] modulus)) %
          ofDigits (2 ^ 32) modulus = ofDigits (2 ^ 32) product % ofDigits (2 ^ 32) modulus ∧
      (subtractMultiples (rotation + 1) product (bigintRolRaw^[rotation] modulus)).length = product.length ∧
      LimbsLt 32 (subtractMultiples (rotation + 1) product (bigintRolRaw^[rotation] modulus)) := by
  dsimp only
  generalize hP : ofDigits (2 ^ 32) product = P at *
  generalize hM : ofDigits (2 ^ 32) modulus = M at *
  generalize hrot : size P - size M = rotation
  have hPsize : size P ≤ 32 * modulus.length := by
    rw [Nat.size_le, ← hP, ← hlen]
    exact ofDigits_lt_of_limbsLt hp
  -- `modulus` の最も上の bit：`2 ^ (size M - 1) ≤ M < 2 ^ size M`
  have hMlo : 2 ^ size M ≤ 2 * M := by
    have h1 : 2 ^ (size M - 1) ≤ M := Nat.lt_size.mp (by have := Nat.size_pos.mpr hpos; omega)
    calc 2 ^ size M = 2 * 2 ^ (size M - 1) := by
          rw [← Nat.pow_succ']
          congr 1
          have := Nat.size_pos.mpr hpos
          omega
      _ ≤ 2 * M := Nat.mul_le_mul_left 2 h1
  have hsplit : 2 ^ size P = 2 ^ rotation * 2 ^ size M := by
    rw [← Nat.pow_add]
    congr 1
    omega
  have hfit : 2 ^ rotation * M < 2 ^ (32 * modulus.length) :=
    calc 2 ^ rotation * M < 2 ^ rotation * 2 ^ size M :=
          Nat.mul_lt_mul_of_pos_left (hM ▸ Nat.lt_size_self _) (Nat.two_pow_pos _)
      _ = 2 ^ size P := hsplit.symm
      _ ≤ 2 ^ (32 * modulus.length) := Nat.pow_le_pow_right (by decide) hPsize
  obtain ⟨hrot, hrotlen, hrotlt⟩ := bigintRolRaw_iterate_value hm rotation (hM ▸ hfit)
  rw [hM] at hrot
  have hPlt : P < M * 2 ^ (rotation + 1) :=
    calc P < 2 ^ size P := hP ▸ Nat.lt_size_self _
      _ = 2 ^ rotation * 2 ^ size M := hsplit
      _ ≤ 2 ^ rotation * (2 * M) := Nat.mul_le_mul_left _ hMlo
      _ = M * 2 ^ (rotation + 1) := by ring
  obtain ⟨h1, h2, h3, h4⟩ := subtractMultiples_spec rotation product _ (by rw [hrotlen, hlen]) hne hp hrotlt
    (by rw [hrot, Nat.mul_comm]) (hP ▸ hPlt)
  rw [hP] at h2
  exact ⟨by rw [hrot, Nat.mul_comm], h1, h2, h3, h4⟩

/-- `bigint_mod_multiply_raw` の中身：左へ回した `modulus` は `modulus * 2 ^ rotation` で、
引いた後の `2 * size` 語の値は `modulus` より小さく、積と `modulus` を法として等しい。 -/
theorem bigintModMultiplyRaw_reduce {multiplicand multiplier modulus : List Nat}
    (hb : multiplier.length = multiplicand.length) (hm : modulus.length = multiplicand.length)
    (ha' : LimbsLt 32 multiplicand) (hb' : LimbsLt 32 multiplier) (hm' : LimbsLt 32 modulus)
    (hpos : 0 < ofDigits (2 ^ 32) modulus) :
    let product := bigintMultiplyRaw multiplicand multiplier
    let grown := bigintGrowRaw modulus (2 * multiplicand.length)
    let rotation : Int := (bigintMaxSetBitRaw product : Int) - bigintMaxSetBitRaw grown
    let reduced := subtractMultiples (rotation + 1).toNat product (bigintRolRaw^[rotation.toNat] grown)
    ofDigits (2 ^ 32) (bigintRolRaw^[rotation.toNat] grown) = ofDigits (2 ^ 32) modulus * 2 ^ rotation.toNat ∧
      ofDigits (2 ^ 32) reduced < ofDigits (2 ^ 32) modulus ∧
      ofDigits (2 ^ 32) reduced % ofDigits (2 ^ 32) modulus =
        ofDigits (2 ^ 32) multiplicand * ofDigits (2 ^ 32) multiplier % ofDigits (2 ^ 32) modulus ∧
      reduced.length = 2 * multiplicand.length ∧ LimbsLt 32 reduced := by
  obtain ⟨hPv, hPlen, hPlt⟩ := bigintMultiplyRaw_spec hb ha' hb'
  have hne : bigintMultiplyRaw multiplicand multiplier ≠ [] := by
    rw [← List.length_pos_iff, hPlen]
    have : 0 < modulus.length := List.length_pos_iff.mpr (by rintro rfl; simp at hpos)
    omega
  have hGlen : (bigintGrowRaw modulus (2 * multiplicand.length)).length = 2 * multiplicand.length :=
    length_bigintGrowRaw (by omega)
  have hGlt := bigintGrowRaw_lt hm' (2 * multiplicand.length)
  have hGv := bigintGrowRaw_value modulus (2 * multiplicand.length)
  dsimp only
  rw [bigintMaxSetBitRaw_eq hPlt, bigintMaxSetBitRaw_eq hGlt]
  rcases Nat.lt_or_ge (size (ofDigits (2 ^ 32) (bigintMultiplyRaw multiplicand multiplier)))
    (size (ofDigits (2 ^ 32) (bigintGrowRaw modulus (2 * multiplicand.length)))) with hlt | hle
  · -- 積の bit 数が少なければ、回さず引かず、積はそのまま `modulus` より小さい
    have e1 : ((size (ofDigits (2 ^ 32) (bigintMultiplyRaw multiplicand multiplier)) : Int) -
        size (ofDigits (2 ^ 32) (bigintGrowRaw modulus (2 * multiplicand.length)))).toNat = 0 := by omega
    have e2 : ((size (ofDigits (2 ^ 32) (bigintMultiplyRaw multiplicand multiplier)) : Int) -
        size (ofDigits (2 ^ 32) (bigintGrowRaw modulus (2 * multiplicand.length))) + 1).toNat = 0 := by omega
    rw [e1, e2, Function.iterate_zero, id, subtractMultiples, hGv, Nat.pow_zero, Nat.mul_one, ← hPv]
    rw [hGv] at hlt
    have hPM : ofDigits (2 ^ 32) (bigintMultiplyRaw multiplicand multiplier) < ofDigits (2 ^ 32) modulus :=
      calc _ < 2 ^ size (ofDigits (2 ^ 32) (bigintMultiplyRaw multiplicand multiplier)) := Nat.lt_size_self _
        _ ≤ 2 ^ (size (ofDigits (2 ^ 32) modulus) - 1) := Nat.pow_le_pow_right (by decide) (by omega)
        _ ≤ _ := Nat.lt_size.mp (by omega)
    exact ⟨rfl, hPM, rfl, hPlen, hPlt⟩
  · have e1 : ((size (ofDigits (2 ^ 32) (bigintMultiplyRaw multiplicand multiplier)) : Int) -
        size (ofDigits (2 ^ 32) (bigintGrowRaw modulus (2 * multiplicand.length)))).toNat =
        size (ofDigits (2 ^ 32) (bigintMultiplyRaw multiplicand multiplier)) -
          size (ofDigits (2 ^ 32) (bigintGrowRaw modulus (2 * multiplicand.length))) := by omega
    have e2 : ((size (ofDigits (2 ^ 32) (bigintMultiplyRaw multiplicand multiplier)) : Int) -
        size (ofDigits (2 ^ 32) (bigintGrowRaw modulus (2 * multiplicand.length))) + 1).toNat =
        size (ofDigits (2 ^ 32) (bigintMultiplyRaw multiplicand multiplier)) -
          size (ofDigits (2 ^ 32) (bigintGrowRaw modulus (2 * multiplicand.length))) + 1 := by omega
    rw [e1, e2]
    obtain ⟨h1, h2, h3, h4, h5⟩ := subtractMultiples_of_size_le (by rw [hPlen, hGlen]) hne hPlt hGlt
      (by rw [hGv]; exact hpos) hle
    simp only [hGv, hPv] at h1 h2 h3 h4 h5 ⊢
    exact ⟨h1, h2, h3, by rw [h4, hPlen], h5⟩

/-- `bigint_mod_multiply_raw` は `size` 語の `multiplicand * multiplier mod modulus` を返す。 -/
theorem bigintModMultiplyRaw_spec {multiplicand multiplier modulus : List Nat}
    (hb : multiplier.length = multiplicand.length) (hm : modulus.length = multiplicand.length)
    (ha' : LimbsLt 32 multiplicand) (hb' : LimbsLt 32 multiplier) (hm' : LimbsLt 32 modulus)
    (hpos : 0 < ofDigits (2 ^ 32) modulus) :
    ofDigits (2 ^ 32) (bigintModMultiplyRaw multiplicand multiplier modulus) =
        ofDigits (2 ^ 32) multiplicand * ofDigits (2 ^ 32) multiplier % ofDigits (2 ^ 32) modulus ∧
      (bigintModMultiplyRaw multiplicand multiplier modulus).length = multiplicand.length ∧
      LimbsLt 32 (bigintModMultiplyRaw multiplicand multiplier modulus) := by
  obtain ⟨-, hlt, hmod, hlen, hl⟩ := bigintModMultiplyRaw_reduce hb hm ha' hb' hm' hpos
  dsimp only [bigintModMultiplyRaw]
  generalize subtractMultiples _ _ _ = reduced at hlt hmod hlen hl
  -- 余りは `modulus` より小さいので、`size` 語に収まる
  have hfit : ofDigits (2 ^ 32) reduced < 2 ^ (32 * multiplicand.length) :=
    lt_trans hlt (hm ▸ ofDigits_lt_of_limbsLt hm')
  refine ⟨?_, ?_, hl.take _⟩
  · rw [bigintShrinkRaw_value hl (by omega) hfit, ← hmod, Nat.mod_eq_of_lt hlt]
  · rw [bigintShrinkRaw, List.length_take, hlen]
    omega

end ModMultiply

/-! ## 冪剰余 -/

section ModExp

theorem bigintModExpLoop_eq (modulus base exponent result : List Nat) :
    bigintModExpLoop modulus base exponent result =
      if bigintIsZeroRaw exponent then result
      else
        bigintModExpLoop modulus (bigintModMultiplyRaw base base modulus) (bigintRorRaw exponent)
          (if bigintBitIsSetRaw exponent 0 then bigintModMultiplyRaw result base modulus else result) := by
  rw [bigintModExpLoop]

/-- 右から左への二乗と掛け算の一段：下の bit の分を掛け、残りの bit は二乗した底で数える。 -/
theorem mul_pow_mod_halve (r b m e : Nat) :
    r * b ^ e % m = (if e % 2 = 1 then r * b % m else r) * (b ^ 2 % m) ^ (e / 2) % m := by
  have he : b ^ e = b ^ (e % 2) * (b ^ 2) ^ (e / 2) := by
    rw [← Nat.pow_mul, ← Nat.pow_add]
    congr 1
    omega
  rw [he, ← Nat.mul_assoc]
  split
  · next h1 =>
    rw [h1, Nat.pow_one]
    exact ((Nat.mod_modEq _ _).mul ((Nat.mod_modEq _ _).pow _)).symm
  · next h0 =>
    rw [show e % 2 = 0 by omega, Nat.pow_zero, Nat.mul_one]
    exact (((Nat.ModEq.refl r).mul ((Nat.mod_modEq _ _).pow _))).symm

/-- `while` loop の不変条件。`exponent` が 0 でなければ、loop の後の `result` は
`result * base ^ exponent mod modulus` である。0 なら `result` に触れない。 -/
theorem bigintModExpLoop_spec {modulus : List Nat} (hm' : LimbsLt 32 modulus)
    (hpos : 0 < ofDigits (2 ^ 32) modulus) (e : Nat) :
    ∀ (base exponent result : List Nat), ofDigits (2 ^ 32) exponent = e →
      base.length = modulus.length → result.length = modulus.length →
      LimbsLt 32 base → LimbsLt 32 result →
      ofDigits (2 ^ 32) (bigintModExpLoop modulus base exponent result) =
          (if e = 0 then ofDigits (2 ^ 32) result
            else ofDigits (2 ^ 32) result * ofDigits (2 ^ 32) base ^ e % ofDigits (2 ^ 32) modulus) ∧
        (bigintModExpLoop modulus base exponent result).length = modulus.length ∧
        LimbsLt 32 (bigintModExpLoop modulus base exponent result) := by
  -- `exponent` の値についての強い帰納法：一回ごとに半分になる
  induction e using Nat.strong_induction_on with
  | _ e ih =>
  intro base exponent result he hb hr hbl hrl
  rw [bigintModExpLoop_eq]
  by_cases hz : bigintIsZeroRaw exponent = true
  · have he0 : e = 0 := he ▸ (bigintIsZeroRaw_iff exponent).mp hz
    rw [if_pos hz, if_pos he0]
    exact ⟨rfl, hr, hrl⟩
  · have he0 : e ≠ 0 := fun h => hz ((bigintIsZeroRaw_iff exponent).mpr (he.trans h))
    rw [if_neg hz, if_neg he0]
    obtain ⟨hbv, hbl', hblt⟩ := @bigintModMultiplyRaw_spec base base modulus rfl hb.symm hbl hbl hm' hpos
    -- 下の bit が立っていれば `result` に掛ける
    have hres : ofDigits (2 ^ 32)
          (if bigintBitIsSetRaw exponent 0 then bigintModMultiplyRaw result base modulus else result) =
          (if e % 2 = 1 then ofDigits (2 ^ 32) result * ofDigits (2 ^ 32) base % ofDigits (2 ^ 32) modulus
            else ofDigits (2 ^ 32) result) ∧
        (if bigintBitIsSetRaw exponent 0 then bigintModMultiplyRaw result base modulus else result).length =
          modulus.length ∧
        LimbsLt 32 (if bigintBitIsSetRaw exponent 0 then bigintModMultiplyRaw result base modulus else result) := by
      rw [bigintBitIsSetRaw_zero, he]
      split
      · next h1 =>
        obtain ⟨v, l, lt⟩ := bigintModMultiplyRaw_spec (hb.trans hr.symm) (hr ▸ rfl) hrl hbl hm' hpos
        rw [if_pos (of_decide_eq_true h1)]
        exact ⟨v, l.trans hr, lt⟩
      · next h0 =>
        rw [if_neg (fun h => h0 (decide_eq_true h))]
        exact ⟨rfl, hr, hrl⟩
    obtain ⟨hrv, hrl', hrlt⟩ := hres
    have hhalf : ofDigits (2 ^ 32) (bigintRorRaw exponent) = e / 2 := by rw [bigintRorRaw_value, he]
    obtain ⟨hv, hl, hlt⟩ := ih (e / 2) (by omega) _ _ _ hhalf (hbl'.trans hb) hrl' hblt hrlt
    refine ⟨?_, hl, hlt⟩
    rw [hv, hrv, hbv, mul_pow_mod_halve _ _ _ e, ← Nat.pow_two]
    -- 残りの bit がなければ、下の bit が最後の bit である
    by_cases hq : e / 2 = 0
    · have h1 : e % 2 = 1 := by omega
      rw [if_pos hq, if_pos h1, hq, Nat.pow_zero, Nat.mul_one, Nat.mod_mod]
    · rw [if_neg hq]

/-- `bigint_mod_exp_raw`：`exponent` が 0 でなければ `base ^ exponent mod modulus`。0 なら、
`bigint_init` で置いた 1 がそのまま残る。 -/
theorem bigintModExpRaw_spec {base modulus exponent : List Nat} (hm : modulus.length = base.length)
    (hb : LimbsLt 32 base) (hm' : LimbsLt 32 modulus) (hpos : 0 < ofDigits (2 ^ 32) modulus) :
    ofDigits (2 ^ 32) (bigintModExpRaw base modulus exponent) =
        (if ofDigits (2 ^ 32) exponent = 0 then 1
          else ofDigits (2 ^ 32) base ^ ofDigits (2 ^ 32) exponent % ofDigits (2 ^ 32) modulus) ∧
      (bigintModExpRaw base modulus exponent).length = base.length ∧
      LimbsLt 32 (bigintModExpRaw base modulus exponent) := by
  have hs : 0 < base.length := by
    rw [← hm]
    exact List.length_pos_iff.mpr (by rintro rfl; simp at hpos)
  have hinit := bigintInitRaw_one hs
  have hone : ofDigits (2 ^ 32) (bigintInitRaw base.length [1]) = 1 := by
    rw [hinit, ofDigits_cons, ofDigits_replicate_zero, Nat.mul_zero, Nat.add_zero]
  have hinit_len : (bigintInitRaw base.length [1]).length = modulus.length := by
    rw [hinit, List.length_cons, List.length_replicate, hm]
    omega
  have hinit_lt : LimbsLt 32 (bigintInitRaw base.length [1]) := by
    rw [hinit]
    exact limbsLt_cons (by decide) (limbsLt_replicate_zero _)
  obtain ⟨hv, hl, hlt⟩ := bigintModExpLoop_spec hm' hpos _ base exponent _ rfl hm.symm hinit_len hb hinit_lt
  rw [hone, Nat.one_mul] at hv
  exact ⟨hv, hl.trans hm, hlt⟩

end ModExp

/-! ## `bigint_t` の上で -/

/-- **`bigint_mod_multiply_raw` は `size` 語の `multiplicand * multiplier mod modulus` を書く。**
`modulus` を積の bit 数まで左へ回しても、bit は `2 * size` 語の外へ出ない。引いた後の値は
`size` 語に収まるので、`bigint_shrink` は上の 0 の語だけを捨てる。 -/
theorem bigint_mod_multiply_exact {size : Nat} (multiplicand multiplier modulus : BigintT size)
    (hm : 0 < modulus.value) :
    let product := bigintMultiplyRaw multiplicand.element multiplier.element
    let grown := bigintGrowRaw modulus.element (2 * size)
    let rotation : Int := (bigintMaxSetBitRaw product : Int) - bigintMaxSetBitRaw grown
    let reduced := subtractMultiples (rotation + 1).toNat product (bigintRolRaw^[rotation.toNat] grown)
    let result := bigintModMultiplyRaw multiplicand.element multiplier.element modulus.element
    ofDigits (2 ^ 32) (bigintRolRaw^[rotation.toNat] grown) = modulus.value * 2 ^ rotation.toNat ∧
      ofDigits (2 ^ 32) reduced < 2 ^ (32 * size) ∧
      result.length = size ∧ LimbsLt 32 result ∧
      ofDigits (2 ^ 32) result = multiplicand.value * multiplier.value % modulus.value := by
  intro product grown rotation reduced result
  have hb := multiplier.length_element.trans multiplicand.length_element.symm
  have hm' := modulus.length_element.trans multiplicand.length_element.symm
  obtain ⟨h1, h2, -, -, -⟩ := bigintModMultiplyRaw_reduce hb hm' multiplicand.element_lt
    multiplier.element_lt modulus.element_lt hm
  obtain ⟨hv, hl, hlt⟩ := bigintModMultiplyRaw_spec hb hm' multiplicand.element_lt multiplier.element_lt
    modulus.element_lt hm
  rw [multiplicand.length_element] at h1 h2 hl
  have hM : ofDigits (2 ^ 32) modulus.element < 2 ^ (32 * size) := by
    have h := ofDigits_lt_of_limbsLt modulus.element_lt
    rwa [modulus.length_element] at h
  exact ⟨h1, lt_trans h2 hM, hl, hlt, hv⟩

theorem bigint_mod_multiply_exact_on_two_limbs :
    0 < (⟨[12345, 678], rfl, by decide⟩ : BigintT 2).value ∧
      ofDigits (2 ^ 32) (bigintModMultiplyRaw [0xffffffff, 0xffffffff] [0xffffffff, 0xffffffff] [12345, 678]) =
        (2 ^ 64 - 1) * (2 ^ 64 - 1) % (12345 + 678 * 2 ^ 32) :=
  ⟨by decide, (bigint_mod_multiply_exact ⟨[0xffffffff, 0xffffffff], rfl, by decide⟩
    ⟨[0xffffffff, 0xffffffff], rfl, by decide⟩ ⟨[12345, 678], rfl, by decide⟩ (by decide)).2.2.2.2⟩

/-- **`bigint_mod_exp_raw` は、`exponent` が 0 でなければ `base ^ exponent mod modulus` を書く。
`exponent` が 0 なら `bigint_init` の置いた 1 を `modulus` で割らずに残す。** `modulus` が 1 の
とき、これは `base ^ 0 mod 1 = 0` と違う。 -/
theorem bigint_mod_exp_leaves_one_unreduced {size exponentSize : Nat} (base modulus : BigintT size)
    (exponent : BigintT exponentSize) (hm : 0 < modulus.value) :
    let result := bigintModExpRaw base.element modulus.element exponent.element
    result.length = size ∧ LimbsLt 32 result ∧
      ofDigits (2 ^ 32) result =
        if exponent.value = 0 then 1 else base.value ^ exponent.value % modulus.value := by
  intro result
  obtain ⟨hv, hl, hlt⟩ := bigintModExpRaw_spec (modulus.length_element.trans base.length_element.symm)
    base.element_lt modulus.element_lt hm
  exact ⟨hl.trans base.length_element, hlt, hv⟩

theorem bigint_mod_exp_leaves_one_unreduced_on_unit_modulus :
    0 < (⟨[1], rfl, by decide⟩ : BigintT 1).value ∧
      ofDigits (2 ^ 32) (bigintModExpRaw [5] [1] [0]) = 1 ∧ 5 ^ 0 % 1 = 0 :=
  ⟨by decide, (bigint_mod_exp_leaves_one_unreduced ⟨[5], rfl, by decide⟩ ⟨[1], rfl, by decide⟩
    ⟨[0], rfl, by decide⟩ (by decide)).2.2.trans (if_pos (by decide)), by decide⟩

end FlexBoot.Bigint
