import FlexBoot.Core.Isqrt
import Mathlib.Data.Nat.Sqrt

/-!
# `isqrt` は平方根を切り捨てて返す

* `isqrt_exact` — 32 bit と 64 bit のどちらの build でも、`unsigned long` のどの値 `v` についても
  `r = isqrt ( v )` は `r * r ≤ v < ( r + 1 ) * ( r + 1 )` を満たす。loop のどの回でも
  `result + bit` と `( result >> 1 ) + bit` は `2 ^ longBits` に届かず、回らない

一桁ずつの loop の不変条件は `IsqrtDigit` である。`bit = 4 ^ m` の所で、上の桁から決めた根を
`a` とすると、`result = 4 * a * bit`、`value = v - 4 * a ^ 2 * bit`、`v < 4 * ( a + 1 ) ^ 2 * bit`。
一回まわると `a` は `2 * a` か `2 * a + 1` になり、`m` が一つ減る（`isqrtStep_digit`）。
`bit` の上にはまだ `4 ^ j` だけの余地があり（`top`）、それが足し算の回らない理由である。
-/

namespace FlexBoot

/-! ## 最初の `bit` -/

/-- `bit = 4 ^ m` から右へずらすと、`value` が 0 なら 0 に、そうでなければ `value` 以下の最大の
4 の冪に止まる。 -/
theorem isqrtStart_pow : ∀ (m v : Nat), v < 4 * 4 ^ m →
    (v = 0 ∧ isqrtStart v (4 ^ m) = 0) ∨ ∃ j ≤ m, isqrtStart v (4 ^ m) = 4 ^ j ∧ 4 ^ j ≤ v ∧ v < 4 * 4 ^ j
  | m, v, hv => by
    by_cases hle : 4 ^ m ≤ v
    · exact .inr ⟨m, Nat.le_refl m, isqrtStart_of_le hle, hle, hv⟩
    · rw [isqrtStart_of_lt (Nat.lt_of_not_le hle)]
      cases m with
      | zero =>
        -- `bit = 1 > value` なので `value = 0`、`bit` は 0 まで下がる
        have hv0 : v = 0 := by simp at hle; omega
        subst hv0
        exact .inl ⟨rfl, isqrtStart_of_le (Nat.le_refl 0)⟩
      | succ k =>
        have hdiv : 4 ^ (k + 1) / 4 = 4 ^ k := by rw [Nat.pow_succ]; simp
        rw [hdiv]
        rcases isqrtStart_pow k v (by rw [Nat.pow_succ] at hle; omega) with h | ⟨j, hj, h⟩
        · exact .inl h
        · exact .inr ⟨j, by omega, h⟩

/-- 最初の `bit` は `2 ^ ( longBits - 2 ) = 4 ^ ( longBits / 2 - 1 )` で、その 4 倍が `2 ^ longBits`。 -/
theorem isqrt_top (arch : Arch) :
    2 ^ (arch.longBits - 2) = 4 ^ (arch.longBits / 2 - 1) ∧ 4 * 4 ^ (arch.longBits / 2 - 1) = 2 ^ arch.longBits := by
  cases arch <;> norm_num [Arch.longBits]

/-! ## 一桁ずつの loop -/

/-- 一桁ずつの loop の不変条件。`a` はここまでに決めた根の上の桁、`4 ^ j` は `bit` の上に残る余地。 -/
structure IsqrtDigit (arch : Arch) (v : Nat) (s : IsqrtState) (m a j : Nat) : Prop where
  bit_eq : s.bit = 4 ^ m
  top : 4 * 4 ^ m * 4 ^ j = 2 ^ arch.longBits
  result_eq : s.result = 4 * a * 4 ^ m
  value_eq : s.value + 4 * a ^ 2 * 4 ^ m = v
  lt : v < 4 * (a + 1) ^ 2 * 4 ^ m

section Digit

variable {arch : Arch} {v : Nat} {s : IsqrtState} {m a j : Nat}

/-- `result + bit` は回らない：根の上の桁 `a` は余地 `2 ^ j` より小さい。 -/
theorem IsqrtDigit.sum_lt (h : IsqrtDigit arch v s m a j) (hv : v < 2 ^ arch.longBits) :
    (4 * a + 1) * 4 ^ m < 2 ^ arch.longBits := by
  have hP : 0 < 4 ^ m := by positivity
  -- `4 * a ^ 2 * 4 ^ m ≤ v < 4 * 4 ^ m * 4 ^ j` から `a ^ 2 < 4 ^ j = ( 2 ^ j ) ^ 2`
  have hsq : a ^ 2 < (2 ^ j) ^ 2 := by
    have hlt : a ^ 2 * (4 * 4 ^ m) < 4 ^ j * (4 * 4 ^ m) := by
      have := h.value_eq
      have := h.top
      calc a ^ 2 * (4 * 4 ^ m) = 4 * a ^ 2 * 4 ^ m := by ring
        _ < 4 * 4 ^ m * 4 ^ j := by omega
        _ = 4 ^ j * (4 * 4 ^ m) := by ring
    rw [← Nat.pow_mul, Nat.mul_comm j 2, Nat.pow_mul]
    exact Nat.lt_of_mul_lt_mul_right hlt
  have ha : a + 1 ≤ 4 ^ j :=
    Nat.le_trans ((Nat.pow_lt_pow_iff_left (by norm_num)).1 hsq) (Nat.pow_le_pow_left (by norm_num) j)
  calc (4 * a + 1) * 4 ^ m < 4 * (a + 1) * 4 ^ m := Nat.mul_lt_mul_of_pos_right (by omega) hP
    _ ≤ 4 * 4 ^ j * 4 ^ m := Nat.mul_le_mul_right _ (Nat.mul_le_mul_left 4 ha)
    _ = 2 ^ arch.longBits := by rw [← h.top]; ring

/-- 一桁の一回：次の根の桁を `a' = 2 * a` か `2 * a + 1` に決め、`a' ^ 2 * bit ≤ v < ( a' + 1 ) ^ 2 * bit`
を保つ。 -/
theorem isqrtStep_digit (h : IsqrtDigit arch v s m a j) (hv : v < 2 ^ arch.longBits) :
    ∃ a', isqrtStep arch s = ⟨v - a' ^ 2 * 4 ^ m, a' * 4 ^ m, 4 ^ m / 4⟩ ∧
      a' ^ 2 * 4 ^ m ≤ v ∧ v < (a' + 1) ^ 2 * 4 ^ m := by
  have hsum := h.sum_lt hv
  obtain ⟨hbit, -, hres, hval, hlt⟩ := h
  have ht : (s.result + s.bit) % 2 ^ arch.longBits = (4 * a + 1) * 4 ^ m := by
    rw [hres, hbit, Nat.mod_eq_of_lt (by rw [show 4 * a * 4 ^ m + 4 ^ m = (4 * a + 1) * 4 ^ m by ring]; exact hsum)]
    ring
  have hhalf : s.result / 2 = 2 * a * 4 ^ m := by
    rw [hres, show 4 * a * 4 ^ m = 2 * a * 4 ^ m * 2 by ring]; simp
  -- 平方の展開を、`4 ^ m` の倍数どうしの足し算として先に書いておく
  have e1 : (2 * a + 1) ^ 2 * 4 ^ m = 4 * a ^ 2 * 4 ^ m + (4 * a + 1) * 4 ^ m := by ring
  have e2 : (2 * a) ^ 2 * 4 ^ m = 4 * a ^ 2 * 4 ^ m := by ring
  have e3 : (2 * a + 1 + 1) ^ 2 * 4 ^ m = 4 * (a + 1) ^ 2 * 4 ^ m := by ring
  unfold isqrtStep
  dsimp only
  rw [ht]
  split
  · -- 引ける：根の次の桁は 1
    refine ⟨2 * a + 1, ?_, by omega, by omega⟩
    have hr : (s.result / 2 + s.bit) % 2 ^ arch.longBits = (2 * a + 1) * 4 ^ m := by
      rw [hhalf, hbit, Nat.mod_eq_of_lt (by nlinarith)]
      ring
    rw [hr, hbit]
    congr 1
    omega
  · -- 引けない：根の次の桁は 0
    refine ⟨2 * a, ?_, by omega, by omega⟩
    rw [hhalf, hbit]
    congr 1
    omega

end Digit

/-- 一桁ずつの loop は、不変条件の所から根を切り捨てて返す。帰納法は `bit = 4 ^ m` の `m` について。 -/
theorem isqrtLoop_digit {arch : Arch} {v : Nat} (hv : v < 2 ^ arch.longBits) :
    ∀ (m : Nat) (s : IsqrtState) (a j : Nat), IsqrtDigit arch v s m a j → isqrtLoop arch s = Nat.sqrt v
  | m, s, a, j, h => by
    obtain ⟨a', hstep, hlo, hhi⟩ := isqrtStep_digit h hv
    rw [isqrtLoop_of_ne arch (by rw [h.bit_eq]; positivity), hstep]
    cases m with
    | zero =>
      -- 最後の桁：`bit` は 0 になり、`result = a'` が根である
      rw [isqrtLoop_of_zero arch (by simp)]
      exact (Nat.eq_sqrt'.2 ⟨by simpa using hlo, by simpa using hhi⟩)
    | succ k =>
      have hbit : 4 ^ (k + 1) / 4 = 4 ^ k := by rw [Nat.pow_succ]; simp
      refine isqrtLoop_digit hv k _ a' (j + 1) ⟨hbit, ?_, ?_, ?_, ?_⟩
      · rw [← h.top]; ring
      · ring
      · have e : a' ^ 2 * 4 ^ (k + 1) = 4 * a' ^ 2 * 4 ^ k := by ring
        dsimp only
        omega
      · have e : (a' + 1) ^ 2 * 4 ^ (k + 1) = 4 * (a' + 1) ^ 2 * 4 ^ k := by ring
        omega

/-- loop の始めの変数は、`v = 0` なら `bit = 0`、そうでなければ `a = 0` の不変条件を満たす。 -/
theorem isqrtInit_digit (arch : Arch) {v : Nat} (hv : v < 2 ^ arch.longBits) (hv0 : v ≠ 0) :
    ∃ m j, IsqrtDigit arch v (isqrtInit arch v) m 0 j := by
  obtain ⟨htop, hfour⟩ := isqrt_top arch
  rcases isqrtStart_pow (arch.longBits / 2 - 1) v (by omega) with h | ⟨m, hm, hstart, hle, hlt⟩
  · exact absurd h.1 hv0
  · refine ⟨m, arch.longBits / 2 - 1 - m, ⟨?_, ?_, by simp [isqrtInit], by simp [isqrtInit], by simpa using hlt⟩⟩
    · rw [isqrtInit, htop]; exact hstart
    · rw [← hfour, Nat.mul_assoc, ← Nat.pow_add]; congr 2; omega

/-! ## 足し算が回らないこと -/

/-- loop の変数の不変条件：`bit` が 0 になったか、一桁ずつの不変条件の所にいる。 -/
def IsqrtInv (arch : Arch) (v : Nat) (s : IsqrtState) : Prop :=
  s.bit = 0 ∨ ∃ m a j, IsqrtDigit arch v s m a j

theorem isqrtInv_init (arch : Arch) {v : Nat} (hv : v < 2 ^ arch.longBits) : IsqrtInv arch v (isqrtInit arch v) := by
  by_cases hv0 : v = 0
  · subst hv0
    left
    obtain ⟨htop, -⟩ := isqrt_top arch
    rcases isqrtStart_pow (arch.longBits / 2 - 1) 0 (by positivity) with h | ⟨m, -, -, hle, -⟩
    · rw [isqrtInit, htop]; exact h.2
    · exact absurd hle (Nat.not_le.mpr (by positivity))
  · exact .inr (by obtain ⟨m, j, h⟩ := isqrtInit_digit arch hv hv0; exact ⟨m, 0, j, h⟩)

theorem isqrtInv_step {arch : Arch} {v : Nat} (hv : v < 2 ^ arch.longBits) {s : IsqrtState}
    (h : IsqrtInv arch v s) : IsqrtInv arch v (isqrtStep arch s) := by
  rcases h with h0 | ⟨m, a, j, h⟩
  · left; rw [isqrtStep_bit, h0]
  · obtain ⟨a', hstep, hlo, hhi⟩ := isqrtStep_digit h hv
    cases m with
    | zero => left; rw [hstep]; simp
    | succ k =>
      right
      refine ⟨k, a', j + 1, ⟨by rw [hstep]; simp [Nat.pow_succ], ?_, ?_, ?_, ?_⟩⟩
      · rw [← h.top]; ring
      · rw [hstep]; dsimp only; ring
      · have e : a' ^ 2 * 4 ^ (k + 1) = 4 * a' ^ 2 * 4 ^ k := by ring
        rw [hstep]; dsimp only; omega
      · have e : (a' + 1) ^ 2 * 4 ^ (k + 1) = 4 * (a' + 1) ^ 2 * 4 ^ k := by ring
        omega

/-- 何回まわっても不変条件は保たれる。 -/
theorem isqrtInv_iterate {arch : Arch} {v : Nat} (hv : v < 2 ^ arch.longBits) :
    ∀ n, IsqrtInv arch v ((isqrtStep arch)^[n] (isqrtInit arch v))
  | 0 => isqrtInv_init arch hv
  | n + 1 => by rw [Function.iterate_succ_apply']; exact isqrtInv_step hv (isqrtInv_iterate hv n)

/-- `isqrt` は平方根を切り捨てて返し、loop の足し算は回らない。 -/
theorem isqrt_exact (arch : Arch) (v : Nat) (hv : v < 2 ^ arch.longBits) :
    isqrt arch v * isqrt arch v ≤ v ∧ v < (isqrt arch v + 1) * (isqrt arch v + 1) ∧
      ∀ (n : Nat) (s : IsqrtState), (isqrtStep arch)^[n] (isqrtInit arch v) = s → s.bit ≠ 0 →
        s.result + s.bit < 2 ^ arch.longBits ∧ s.result / 2 + s.bit < 2 ^ arch.longBits := by
  have hsqrt : isqrt arch v = Nat.sqrt v := by
    by_cases hv0 : v = 0
    · rcases isqrtInv_init arch hv with h0 | ⟨m, a, j, h⟩
      · rw [isqrt, isqrtLoop_of_zero arch h0]; subst hv0; rfl
      · exact isqrtLoop_digit hv m _ a j h
    · obtain ⟨m, j, h⟩ := isqrtInit_digit arch hv hv0
      exact isqrtLoop_digit hv m _ 0 j h
  refine ⟨hsqrt ▸ Nat.sqrt_le v, hsqrt ▸ Nat.lt_succ_sqrt v, fun n s hs hbit => ?_⟩
  -- `bit ≠ 0` の回は一桁ずつの不変条件の所にいる
  rcases hs ▸ isqrtInv_iterate hv n with h0 | ⟨m, a, j, h⟩
  · exact absurd h0 hbit
  · have hsum := h.sum_lt hv
    have e : s.result + s.bit = (4 * a + 1) * 4 ^ m := by rw [h.result_eq, h.bit_eq]; ring
    omega

theorem isqrt_exact_ulong_max :
    isqrt .i386 (2 ^ 32 - 1) * isqrt .i386 (2 ^ 32 - 1) ≤ 2 ^ 32 - 1 ∧
      2 ^ 32 - 1 < (isqrt .i386 (2 ^ 32 - 1) + 1) * (isqrt .i386 (2 ^ 32 - 1) + 1) :=
  let h := isqrt_exact .i386 (2 ^ 32 - 1) (by norm_num [Arch.longBits])
  ⟨h.1, h.2.1⟩

end FlexBoot
