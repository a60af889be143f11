import FlexBoot.Libgcc.Divmod

/-!
# 64 bit の割り算の正しさ

* `udivmoddi4_restoring_division` — `__udivmoddi4` は `num / den` を返し、`rem_p` があれば
  `num % den` を書く。正規化の loop は `63 - log2 den` 回まわって bit を落とさず、引き戻しの
  loop はその一回多くまわる
* `moddi3_remainder_signed_like_quotient` — `__divdi3` は 0 へ切り捨てた商を返す。`__moddi3` の
  余りは商と同じ符号、すなわち二つの引数の符号の排他的論理和を持つ。C99 の余りは割られる数の
  符号を持つので、割る数が負で割り切れないとき食い違う（`7 % -2` は 1 のはずが -1）

引き戻しの不変条件は、割る数を `m` 回ずらした所で `quot * den + num' = num` かつ
`num' < den * 2 ^ (m + 1)` である（`udivmoddi4Restore_step`）。
-/

namespace FlexBoot.Libgcc

open Infra

/-! ## 正規化 -/

/-- 最上位 bit に届くまでは、左へずらしても bit は落ちない。 -/
theorem follow_udivmoddi4Normalise : ∀ (j d q : Nat), d * 2 ^ j < 2 ^ 64 → q ≤ d →
    follow udivmoddi4Normalise j (d, q) = some (d * 2 ^ j, q * 2 ^ j)
  | 0, d, q, _, _ => by simp [follow]
  | j + 1, d, q, hd, hq => by
    have e : ∀ x : Nat, x * 2 ^ (j + 1) = x * 2 * 2 ^ j := fun x => by
      rw [Nat.pow_succ', ← Nat.mul_assoc]
    have hd2 : d * 2 * 2 ^ j < 2 ^ 64 := e d ▸ hd
    have hlt : d * 2 < 2 ^ 64 := Nat.lt_of_le_of_lt (Nat.le_mul_of_pos_right _ (Nat.two_pow_pos j)) hd2
    rw [follow, udivmoddi4Normalise_of_lt (by omega), Option.bind_some, Nat.mod_eq_of_lt hlt,
      Nat.mod_eq_of_lt (by omega), follow_udivmoddi4Normalise j (d * 2) (q * 2) hd2 (by omega), e, e]

/-- `63 - log2 den` 回ずらすと、`den` の最上位 bit が bit 63 に来る。 -/
theorem normalise_shift_bounds {den : Nat} (h0 : den ≠ 0) (h : den < 2 ^ 64) :
    den.log2 ≤ 63 ∧ 2 ^ 63 ≤ den * 2 ^ (63 - den.log2) ∧ den * 2 ^ (63 - den.log2) < 2 ^ 64 := by
  have hlog : den.log2 < 64 := (Nat.log2_lt h0).2 h
  have hlo := Nat.log2_self_le h0
  have hhi := Nat.lt_log2_self (n := den)
  refine ⟨by omega, ?_, ?_⟩
  · calc 2 ^ 63 = 2 ^ den.log2 * 2 ^ (63 - den.log2) := by rw [← Nat.pow_add]; congr 1; omega
      _ ≤ den * 2 ^ (63 - den.log2) := Nat.mul_le_mul_right _ hlo
  · calc den * 2 ^ (63 - den.log2) < 2 ^ (den.log2 + 1) * 2 ^ (63 - den.log2) :=
          Nat.mul_lt_mul_of_pos_right hhi (Nat.two_pow_pos _)
      _ = 2 ^ 64 := by rw [← Nat.pow_add]; congr 1; omega

/-! ## 引き戻し -/

/-- 商と余りの一意性：`q * den + r = num` で `r < den` なら、`q` と `r` が商と余りである。 -/
theorem div_mod_of_eq {num den q r : Nat} (h : q * den + r = num) (hr : r < den) :
    num / den = q ∧ num % den = r :=
  (Nat.div_mod_unique (Nat.lt_of_le_of_lt (Nat.zero_le r) hr)).2 ⟨by rw [← h, Nat.mul_comm]; omega, hr⟩

section Restore

variable {num den : Nat} (hden : 0 < den) (hnum : num < 2 ^ 64)
include hden hnum

/-- 引き戻しの一回は不変条件を保つ。`quot + qbit` は商を超えないので `2 ^ 64` で回らない。 -/
theorem udivmoddi4Restore_step {m r q : Nat} (hinv : q * den + r = num) (hr : r < den * 2 ^ (m + 1)) :
    ∃ r' q', udivmoddi4Restore ⟨r, den * 2 ^ m, q, 2 ^ m⟩ = some ⟨r', den * 2 ^ m / 2, q', 2 ^ m / 2⟩ ∧
      q' * den + r' = num ∧ r' < den * 2 ^ m := by
  have hq : 2 ^ m ≠ 0 := Nat.pos_iff_ne_zero.mp (Nat.two_pow_pos m)
  have e2 : den * 2 ^ (m + 1) = 2 * (den * 2 ^ m) := by rw [Nat.pow_succ]; ring
  by_cases hle : den * 2 ^ m ≤ r
  · -- 引ける：`num -= den; quot += qbit;`
    have e : (q + 2 ^ m) * den = q * den + den * 2 ^ m := by ring
    have hsum : (q + 2 ^ m) * den + (r - den * 2 ^ m) = num := by omega
    have hquot : q + 2 ^ m < 2 ^ 64 :=
      Nat.lt_of_le_of_lt (Nat.le_mul_of_pos_right _ hden) (by omega)
    refine ⟨r - den * 2 ^ m, q + 2 ^ m, ?_, hsum, by omega⟩
    rw [udivmoddi4Restore_of_le hq hle, Nat.mod_eq_of_lt hquot]
  · exact ⟨r, q, udivmoddi4Restore_of_lt hq (by omega), hinv, by omega⟩

/-- 引き戻しの loop：割る数を `m` 回ずらした所から、あと `m + 1` 回で商と余りに着く。 -/
theorem follow_udivmoddi4Restore : ∀ (m r q : Nat), q * den + r = num → r < den * 2 ^ (m + 1) →
    follow udivmoddi4Restore (m + 1) ⟨r, den * 2 ^ m, q, 2 ^ m⟩ =
      some ⟨num % den, den / 2, num / den, 0⟩
  | 0, r, q, hinv, hr => by
    obtain ⟨r', q', hstep, hinv', hr'⟩ := udivmoddi4Restore_step hden hnum hinv hr
    obtain ⟨hq', hr''⟩ := div_mod_of_eq hinv' (by simpa using hr')
    rw [follow, hstep, Option.bind_some, hq', hr'']
    simp [follow]
  | m + 1, r, q, hinv, hr => by
    obtain ⟨r', q', hstep, hinv', hr'⟩ := udivmoddi4Restore_step hden hnum hinv hr
    have hden' : den * 2 ^ (m + 1) / 2 = den * 2 ^ m := by rw [Nat.pow_succ, ← Nat.mul_assoc]; simp
    have hbit : 2 ^ (m + 1) / 2 = 2 ^ m := by rw [Nat.pow_succ]; simp
    rw [follow, hstep, Option.bind_some, hden', hbit]
    exact follow_udivmoddi4Restore m r' q' hinv' hr'

end Restore

/-- 燃料が 65 あれば、`__udivmoddi4` は商を返し、`rem_p` が指す場所に余りを書く。 -/
theorem udivmoddi4_of_fuel {num den : Nat} (hnum : num < 2 ^ 64) (hden : 0 < den) (hden' : den < 2 ^ 64)
    {fuel : Nat} (hfuel : 65 ≤ fuel) (remP : Option Nat) :
    udivmoddi4 fuel num den remP = some (num / den, remP.map fun _ => num % den) := by
  obtain ⟨hlog, hlo, hhi⟩ := normalise_shift_bounds (Nat.pos_iff_ne_zero.mp hden) hden'
  have hnorm := follow_udivmoddi4Normalise (63 - den.log2) den 1 hhi (by omega)
  rw [Nat.one_mul] at hnorm
  have hrest := follow_udivmoddi4Restore hden hnum (63 - den.log2) num 0 (by simp)
    (by rw [Nat.pow_succ, ← Nat.mul_assoc]; omega)
  have hn := whileSome_of_follow (udivmoddi4Normalise_of_ge hlo) hnorm (fuel - (63 - den.log2) - 1)
  have hr := whileSome_of_follow (udivmoddi4Restore_of_zero ⟨num % den, den / 2, num / den, 0⟩ rfl)
    hrest (fuel - (63 - den.log2) - 2)
  rw [show 63 - den.log2 + (fuel - (63 - den.log2) - 1) + 1 = fuel by omega] at hn
  rw [show 63 - den.log2 + 1 + (fuel - (63 - den.log2) - 2) + 1 = fuel by omega] at hr
  rw [udivmoddi4, if_neg (Nat.pos_iff_ne_zero.mp hden), hn, Option.bind_some]
  simp only [hr, Option.map_some]

/-- `__udivmoddi4` は引き戻し法で正しく割る。正規化は高々 63 回で、`den` の立った bit を
左端から落とさず、引き戻しはずらした回数より一回多くまわる。 -/
theorem udivmoddi4_restoring_division (num den : Nat) (hnum : num < 2 ^ 64) (hden : 0 < den)
    (hden' : den < 2 ^ 64) :
    ∃ k ≤ 63, 2 ^ 63 ≤ den * 2 ^ k ∧ den * 2 ^ k < 2 ^ 64 ∧
      follow udivmoddi4Normalise k (den, 1) = some (den * 2 ^ k, 2 ^ k) ∧
      udivmoddi4Normalise (den * 2 ^ k, 2 ^ k) = none ∧
      follow udivmoddi4Restore (k + 1) ⟨num, den * 2 ^ k, 0, 2 ^ k⟩ =
        some ⟨num % den, den / 2, num / den, 0⟩ ∧
      udivmoddi4Restore ⟨num % den, den / 2, num / den, 0⟩ = none ∧
      ∀ fuel, 65 ≤ fuel → ∀ remP : Option Nat,
        udivmoddi4 fuel num den remP = some (num / den, remP.map fun _ => num % den) := by
  obtain ⟨hlog, hlo, hhi⟩ := normalise_shift_bounds (Nat.pos_iff_ne_zero.mp hden) hden'
  have hnorm := follow_udivmoddi4Normalise (63 - den.log2) den 1 hhi (by omega)
  rw [Nat.one_mul] at hnorm
  have hrest := follow_udivmoddi4Restore hden hnum (63 - den.log2) num 0 (by simp)
    (by rw [Nat.pow_succ, ← Nat.mul_assoc]; omega)
  exact ⟨63 - den.log2, by omega, hlo, hhi, hnorm, udivmoddi4Normalise_of_ge hlo, hrest,
    udivmoddi4Restore_of_zero _ rfl, fun fuel hfuel remP => udivmoddi4_of_fuel hnum hden hden' hfuel remP⟩

theorem udivmoddi4_seven_by_two : udivmoddi4 65 7 2 (some 0) = some (3, some 1) := by
  obtain ⟨_, _, _, _, _, _, _, _, hu⟩ := udivmoddi4_restoring_division 7 2 (by norm_num) (by norm_num) (by norm_num)
  exact hu 65 (Nat.le_refl 65) (some 0)

/-! ## 符号付き -/

/-- `int64_t` に収まる値は 64 bit に回しても変わらない。 -/
theorem wrapInt64_eq_of_range {v : Int} (h0 : -2 ^ 63 ≤ v) (h : v < 2 ^ 63) : wrapInt64 v = v := by
  unfold wrapInt64
  refine Int.bmod_eq_of_le ?_ ?_ <;> norm_num <;> omega

/-- 64 bit に回しても、`uint64_t` として読む値は変わらない。 -/
theorem toUint64_wrapInt64 (v : Int) : toUint64 (wrapInt64 v) = toUint64 v := by
  have hc : ((2 ^ 64 : Nat) : Int) = 2 ^ 64 := by norm_num
  have hm := Int.bmod_emod (x := v) (m := 2 ^ 64)
  rw [hc] at hm
  rw [toUint64, toUint64, wrapInt64, hm]

theorem toUint64_of_nonneg {v : Int} (h0 : 0 ≤ v) (h : v < 2 ^ 64) : toUint64 v = v.natAbs := by
  rw [toUint64, Int.emod_eq_of_lt h0 h]
  omega

theorem toUint64_neg64 {v : Int} (h0 : -2 ^ 63 ≤ v) (h : v < 0) : toUint64 (neg64 v) = v.natAbs := by
  have h1 : 0 ≤ -v := by omega
  have h2 : -v < 2 ^ 64 := by omega
  rw [neg64, toUint64_wrapInt64, toUint64, Int.emod_eq_of_lt h1 h2]
  omega

/-- `int64_t` の範囲の値の絶対値を `uint64_t` で渡す。`INT64_MIN` も `2 ^ 63` になる。 -/
theorem toUint64_abs {v : Int} (h : -2 ^ 63 ≤ v ∧ v < 2 ^ 63) :
    toUint64 (if v < 0 then neg64 v else v) = v.natAbs := by
  split
  · exact toUint64_neg64 h.1 ‹_›
  · exact toUint64_of_nonneg (by omega) (by omega)

theorem divdi3Operands_eq {num den : Int} (hnum : -2 ^ 63 ≤ num ∧ num < 2 ^ 63)
    (hden : -2 ^ 63 ≤ den ∧ den < 2 ^ 63) :
    divdi3Operands num den = (num.natAbs, den.natAbs, decide (num < 0) ^^ decide (den < 0)) := by
  rw [divdi3Operands, toUint64_abs hnum, toUint64_abs hden]
  by_cases hd : den < 0 <;> simp [hd]

/-- 符号を付けてから `int64_t` に戻すのは、符号付きの値を 64 bit に回すことである。 -/
theorem applyMinus_toInt64 (minus : Bool) (n : Nat) :
    applyMinus minus (toInt64 n) = wrapInt64 (if minus then -(n : Int) else n) := by
  cases minus
  · rw [applyMinus, if_neg Bool.false_ne_true, if_neg Bool.false_ne_true, toInt64]
  · rw [applyMinus, if_pos rfl, if_pos rfl, neg64, toInt64, wrapInt64, wrapInt64, wrapInt64,
      Int.bmod_neg_bmod]

/-- 整数を、符号と絶対値に分けて書く。 -/
theorem eq_signed_natAbs (v : Int) : v = if decide (v < 0) then -(v.natAbs : Int) else (v.natAbs : Int) := by
  by_cases h : v < 0 <;> simp only [h, decide_true, decide_false, Bool.false_eq_true, ↓reduceIte] <;> omega

/-- 0 へ切り捨てた商は、絶対値の商に符号の排他的論理和を付けたものである。 -/
theorem tdiv_eq_signed (num den : Int) :
    num.tdiv den = if decide (num < 0) ^^ decide (den < 0) then -((num.natAbs / den.natAbs : Nat) : Int)
      else ((num.natAbs / den.natAbs : Nat) : Int) := by
  conv_lhs => rw [eq_signed_natAbs num, eq_signed_natAbs den]
  cases decide (num < 0) <;> cases decide (den < 0) <;>
    simp only [Bool.false_eq_true, Bool.xor_false, Bool.xor_true, Bool.not_false, Bool.not_true, ↓reduceIte,
      Int.neg_tdiv, Int.tdiv_neg, neg_neg] <;> rfl

/-- C99 の余りは、絶対値の余りに割られる数の符号を付けたものである。 -/
theorem tmod_eq_signed (num den : Int) :
    num.tmod den = if decide (num < 0) then -((num.natAbs % den.natAbs : Nat) : Int)
      else ((num.natAbs % den.natAbs : Nat) : Int) := by
  conv_lhs => rw [eq_signed_natAbs num, eq_signed_natAbs den]
  cases decide (num < 0) <;> cases decide (den < 0) <;>
    simp only [Bool.false_eq_true, ↓reduceIte, Int.neg_tmod, Int.tmod_neg] <;> rfl

/-- 0 へ切り捨てた商は、`INT64_MIN / -1` のほかは `int64_t` に収まる。 -/
theorem tdiv_int64 {num den : Int} (hnum : -2 ^ 63 ≤ num ∧ num < 2 ^ 63) (h0 : den ≠ 0)
    (hmin : ¬(num = -2 ^ 63 ∧ den = -1)) : -2 ^ 63 ≤ num.tdiv den ∧ num.tdiv den < 2 ^ 63 := by
  have hq := tdiv_eq_signed num den
  have hmul := Nat.div_mul_le_self num.natAbs den.natAbs
  have hle : num.natAbs / den.natAbs ≤ num.natAbs / den.natAbs * den.natAbs :=
    Nat.le_mul_of_pos_right _ (by omega)
  -- 商が 2 ^ 63 に届くのは、割る数の絶対値が 1 で、割られる数が INT64_MIN のときだけ
  have htop : 2 ^ 63 ≤ num.natAbs / den.natAbs →
      2 ^ 63 * den.natAbs ≤ num.natAbs / den.natAbs * den.natAbs :=
    fun h => Nat.mul_le_mul_right _ h
  generalize num.natAbs / den.natAbs = q at hq hmul hle htop
  by_cases h1 : num < 0 <;> by_cases h2 : den < 0 <;>
    simp only [h1, h2, decide_true, decide_false, Bool.false_eq_true, Bool.xor_false, Bool.xor_true,
      Bool.not_false, Bool.not_true, ↓reduceIte] at hq <;> omega

/-- `__divdi3` は 0 へ切り捨てた商を返すが、`__moddi3` の余りは商と同じ符号を持つ。C99 の余りと
一致するのは割る数が正のときだけで、割る数が負なら符号が逆になる。 -/
theorem moddi3_remainder_signed_like_quotient (fuel : Nat) (hfuel : 65 ≤ fuel) (num den : Int)
    (hnum : -2 ^ 63 ≤ num ∧ num < 2 ^ 63) (hden : -2 ^ 63 ≤ den ∧ den < 2 ^ 63) (h0 : den ≠ 0) :
    (¬(num = -2 ^ 63 ∧ den = -1) → divdi3 fuel num den = some (num.tdiv den)) ∧
      moddi3 fuel num den = some (if den < 0 then -num.tmod den else num.tmod den) := by
  have hu := udivmoddi4_of_fuel (show num.natAbs < 2 ^ 64 by omega) (show 0 < den.natAbs by omega)
    (show den.natAbs < 2 ^ 64 by omega) hfuel
  constructor
  · intro hmin
    obtain ⟨hlo, hhi⟩ := tdiv_int64 hnum h0 hmin
    rw [divdi3, divdi3Operands_eq hnum hden, hu, Option.map_some, applyMinus_toInt64, ← tdiv_eq_signed,
      wrapInt64_eq_of_range hlo hhi]
  · have hr : num.natAbs % den.natAbs < den.natAbs := Nat.mod_lt _ (by omega)
    rw [moddi3, divdi3Operands_eq hnum hden, hu, Option.bind_some, Option.map_some, Option.map_some,
      applyMinus_toInt64, wrapInt64_eq_of_range (by split <;> omega) (by split <;> omega), tmod_eq_signed]
    by_cases h1 : num < 0 <;> by_cases h2 : den < 0 <;> simp [h1, h2]

/-- `7 % -2` は C99 では 1 だが、`__moddi3` は -1 を返す。 -/
theorem moddi3_seven_mod_minus_two : moddi3 65 7 (-2) = some (-1) ∧ (7 : Int).tmod (-2) = 1 := by
  have h := (moddi3_remainder_signed_like_quotient 65 (Nat.le_refl 65) 7 (-2) (by norm_num) (by norm_num)
    (by norm_num)).2
  rw [if_pos (by norm_num)] at h
  exact ⟨by rw [h]; decide, by decide⟩

end FlexBoot.Libgcc
