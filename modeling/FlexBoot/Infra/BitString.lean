import FlexBoot.Infra.Positional

/-!
# bit の列

bit の列と数の行き来。特定の形式には触れない。読み方は二つある。

* `bitsVal`・`msbBits` — 上の bit から並べる。符号語の値はこの読み方である
* `lsbBits` — 下の bit から並べる。byte の bit を送り出す順はこの読み方である

## 要点

* `bitsVal_append` — 後ろに bit を足すと、前の値は `2 ^ 足した長さ` 倍になる
* `msbBits_prefix_iff` — 列が `n` bit の値 `v` の表記で始まることは、先頭 `n` bit を読んだ値が
  `v` であることと同じ
* `lsbBits_add` — 下から並べた列は、下の `k` bit と、`2 ^ k` で割った値の列に分かれる
-/

namespace Infra

/-! ## 上の bit から -/

/-- 上の bit から読んだ値。 -/
def bitsVal (w : List Bool) : Nat := horner 2 0 (w.map Bool.toNat)

@[simp] theorem bitsVal_nil : bitsVal [] = 0 := rfl

@[simp] theorem bitsVal_singleton (b : Bool) : bitsVal [b] = b.toNat := by
  simp [bitsVal]

theorem bitsVal_append (u v : List Bool) : bitsVal (u ++ v) = bitsVal u * 2 ^ v.length + bitsVal v := by
  unfold bitsVal
  rw [List.map_append, horner_append, horner_eq_mul_add, List.length_map]

theorem bitsVal_cons (b : Bool) (w : List Bool) : bitsVal (b :: w) = b.toNat * 2 ^ w.length + bitsVal w := by
  rw [← List.singleton_append, bitsVal_append, bitsVal_singleton]

theorem bitsVal_concat (w : List Bool) (b : Bool) : bitsVal (w ++ [b]) = 2 * bitsVal w + b.toNat := by
  rw [bitsVal_append]
  rw [List.length_singleton, pow_one, bitsVal_singleton, Nat.mul_comm]

theorem bitsVal_lt (w : List Bool) : bitsVal w < 2 ^ w.length := by
  have h : horner 2 0 (w.map Bool.toNat) < 2 ^ (w.map Bool.toNat).length :=
    horner_lt (by
      intro d hd
      obtain ⟨b, -, rfl⟩ := List.mem_map.mp hd
      cases b <;> decide)
  rwa [List.length_map] at h

/-- 同じ長さの列は、読んだ値で決まる。 -/
theorem bitsVal_inj : ∀ {u v : List Bool}, u.length = v.length → bitsVal u = bitsVal v → u = v
  | [], [], _, _ => rfl
  | a :: u, b :: v, hl, h => by
    have hl' : u.length = v.length := Nat.succ.inj hl
    rw [bitsVal_cons, bitsVal_cons, hl'] at h
    have hu := bitsVal_lt u
    have hv := bitsVal_lt v
    rw [hl'] at hu
    -- 先頭の bit は `2 ^ 残りの長さ` の位、残りはその下に収まる
    have ea : (a.toNat * 2 ^ v.length + bitsVal u) / 2 ^ v.length = a.toNat := by
      rw [Nat.mul_comm, Nat.mul_add_div (Nat.two_pow_pos _), Nat.div_eq_of_lt hu, Nat.add_zero]
    have eb : (b.toNat * 2 ^ v.length + bitsVal v) / 2 ^ v.length = b.toNat := by
      rw [Nat.mul_comm, Nat.mul_add_div (Nat.two_pow_pos _), Nat.div_eq_of_lt hv, Nat.add_zero]
    have hab : a.toNat = b.toNat := by rw [← ea, ← eb, h]
    rw [hab] at h
    have hab : a = b := by
      revert hab
      cases a <;> cases b <;> decide
    rw [hab, bitsVal_inj hl' (Nat.add_left_cancel h)]

/-- 先頭 `k` bit を読んだ値は、全体の値を `2 ^ 残りの長さ` で割ったもの。 -/
theorem bitsVal_take (w : List Bool) (k : Nat) :
    bitsVal (w.take k) = bitsVal w / 2 ^ (w.length - k) := by
  have e := bitsVal_append (w.take k) (w.drop k)
  have hd := bitsVal_lt (w.drop k)
  rw [List.take_append_drop, List.length_drop] at e
  rw [List.length_drop] at hd
  rw [e, Nat.mul_comm, Nat.mul_add_div (Nat.two_pow_pos _), Nat.div_eq_of_lt hd, Nat.add_zero]

/-- 数 `v` の下の `n` bit を上から並べた列。 -/
def msbBits : Nat → Nat → List Bool
  | 0, _ => []
  | n + 1, v => v.testBit n :: msbBits n v

theorem msbBits_succ (n v : Nat) : msbBits (n + 1) v = v.testBit n :: msbBits n v := rfl

@[simp] theorem length_msbBits (n v : Nat) : (msbBits n v).length = n := by
  induction n with
  | zero => rfl
  | succ n ih => rw [msbBits_succ, List.length_cons, ih]

theorem bitsVal_msbBits (n v : Nat) : bitsVal (msbBits n v) = v % 2 ^ n := by
  induction n with
  | zero => simp [msbBits, Nat.mod_one]
  | succ n ih =>
    rw [msbBits_succ, bitsVal_cons, length_msbBits, ih, Nat.mod_pow_succ, Nat.testBit_eq_decide_div_mod_eq]
    -- `n` 番目の bit は `v / 2 ^ n % 2`
    rcases Nat.mod_two_eq_zero_or_one (v / 2 ^ n) with h | h
    · simp [h]
    · simp [h]
      ring

/-- 列を読んだ値をその長さで書き戻すと、元の列になる。 -/
theorem msbBits_bitsVal (w : List Bool) : msbBits w.length (bitsVal w) = w :=
  bitsVal_inj (length_msbBits _ _) (by rw [bitsVal_msbBits, Nat.mod_eq_of_lt (bitsVal_lt w)])

/-- **列が `n` bit の符号語で始まることは、先頭 `n` bit の値で言える。** -/
theorem msbBits_prefix_iff {n v : Nat} (hv : v < 2 ^ n) (w : List Bool) :
    msbBits n v <+: w ↔ n ≤ w.length ∧ bitsVal (w.take n) = v := by
  constructor
  · rintro ⟨t, rfl⟩
    refine ⟨by simp, ?_⟩
    rw [List.take_left' (length_msbBits n v), bitsVal_msbBits, Nat.mod_eq_of_lt hv]
  · rintro ⟨hn, hval⟩
    have hlen : (w.take n).length = n := List.length_take_of_le hn
    have e := msbBits_bitsVal (w.take n)
    rw [hlen, hval] at e
    rw [e]
    exact List.take_prefix n w

/-! ## 下の bit から -/

/-- 数 `v` の下の `n` bit を下から並べた列。 -/
def lsbBits (n v : Nat) : List Bool := (List.range n).map v.testBit

@[simp] theorem length_lsbBits (n v : Nat) : (lsbBits n v).length = n := by
  simp [lsbBits]

/-- 下の `k` bit と、その上の `m` bit に分かれる。 -/
theorem lsbBits_add (k m v : Nat) : lsbBits (k + m) v = lsbBits k v ++ lsbBits m (v / 2 ^ k) := by
  unfold lsbBits
  rw [List.range_add, List.map_append, List.map_map]
  congr 1
  apply List.map_congr_left
  intro i _
  rw [Function.comp_apply, Nat.testBit_div_two_pow, Nat.add_comm]

theorem lsbBits_succ (n v : Nat) : lsbBits (n + 1) v = lsbBits n v ++ [v.testBit n] := by
  rw [lsbBits_add]
  congr 1
  show [(v / 2 ^ n).testBit 0] = _
  rw [Nat.testBit_div_two_pow, Nat.zero_add]

/-- `2 ^ n` の倍数を足しても、下の `n` bit は変わらない。 -/
theorem lsbBits_add_two_pow_mul (n v b : Nat) : lsbBits n (v + 2 ^ n * b) = lsbBits n v := by
  unfold lsbBits
  apply List.map_congr_left
  intro i hi
  have hi : i < n := List.mem_range.mp hi
  -- 下の `n` bit は `2 ^ n` での剰余で決まる
  have e1 := Nat.testBit_mod_two_pow (v + 2 ^ n * b) n i
  have e2 := Nat.testBit_mod_two_pow v n i
  rw [Nat.add_mul_mod_self_left] at e1
  simp only [hi, decide_true, Bool.true_and] at e1 e2
  rw [← e1, e2]

theorem lsbBits_mod_two_pow (n v : Nat) : lsbBits n (v % 2 ^ n) = lsbBits n v := by
  have h := lsbBits_add_two_pow_mul n (v % 2 ^ n) (v / 2 ^ n)
  rw [Nat.mod_add_div] at h
  exact h.symm

/-- 下から並べた列の頭は、下の bit の列。 -/
theorem lsbBits_take {k n : Nat} (hk : k ≤ n) (v : Nat) : (lsbBits n v).take k = lsbBits k v := by
  obtain ⟨m, rfl⟩ := Nat.exists_eq_add_of_le hk
  rw [lsbBits_add, List.take_left' (length_lsbBits k v)]

/-- 下の `k` bit を捨てた列は、`2 ^ k` で割った値の列。 -/
theorem lsbBits_drop {k n : Nat} (hk : k ≤ n) (v : Nat) :
    (lsbBits n v).drop k = lsbBits (n - k) (v / 2 ^ k) := by
  obtain ⟨m, rfl⟩ := Nat.exists_eq_add_of_le hk
  rw [lsbBits_add, List.drop_left' (length_lsbBits k v), Nat.add_sub_cancel_left]

/-- 下の `n` bit の列が同じなら、`2 ^ n` で割った余りが同じ。 -/
theorem lsbBits_inj {n u v : Nat} (h : lsbBits n u = lsbBits n v) : u % 2 ^ n = v % 2 ^ n := by
  apply Nat.eq_of_testBit_eq
  intro i
  rw [Nat.testBit_mod_two_pow, Nat.testBit_mod_two_pow]
  by_cases hi : i < n
  · have hu : (lsbBits n u)[i]? = some (u.testBit i) := by simp [lsbBits, hi]
    have hv : (lsbBits n v)[i]? = some (v.testBit i) := by simp [lsbBits, hi]
    rw [h, hv, Option.some.injEq] at hu
    rw [hu]
  · simp [hi]

/-- 下の `k` bit の列に上の `m` bit の列を続けると、二つを `2 ^ k` で組んだ値の列。 -/
theorem lsbBits_append {k m u : Nat} (hu : u < 2 ^ k) (v : Nat) :
    lsbBits k u ++ lsbBits m v = lsbBits (k + m) (u + 2 ^ k * v) := by
  have hdiv : (u + 2 ^ k * v) / 2 ^ k = v := by
    rw [Nat.add_mul_div_left _ _ (Nat.two_pow_pos k), Nat.div_eq_of_lt hu, Nat.zero_add]
  rw [lsbBits_add, lsbBits_add_two_pow_mul, hdiv]

/-- `2 ^ n` 未満の `x` の 1 の補数 `2 ^ n - (x + 1)` に全部 1 の `2 ^ n - 1` を xor すると `x` に戻る。 -/
theorem two_pow_sub_succ_xor {n x : Nat} (hx : x < 2 ^ n) : (2 ^ n - (x + 1)) ^^^ (2 ^ n - 1) = x := by
  apply Nat.eq_of_testBit_eq
  intro i
  rw [Nat.testBit_xor, Nat.testBit_two_pow_sub_succ hx, Nat.testBit_two_pow_sub_one]
  by_cases hi : i < n
  · simp [hi]
  · have hxi : x.testBit i = false :=
      Nat.testBit_lt_two_pow (Nat.lt_of_lt_of_le hx (Nat.pow_le_pow_right (by omega) (by omega)))
    simp [hi, hxi]

/-- 1 の補数の検査：`r` と、`x` の下 `n` bit を反転したものとが下 `n` bit で一致するのは、`x` が `r` の
1 の補数の時だけ。 -/
theorem xor_complement_eq_zero_iff {n r x : Nat} (hr : r < 2 ^ n) (hx : x < 2 ^ n) :
    (r ^^^ (x ^^^ (2 ^ n - 1))) &&& (2 ^ n - 1) = 0 ↔ x = 2 ^ n - (r + 1) := by
  have hm : 2 ^ n - 1 < 2 ^ n := Nat.sub_lt (Nat.two_pow_pos n) Nat.one_pos
  rw [Nat.and_two_pow_sub_one_of_lt_two_pow (Nat.xor_lt_two_pow hr (Nat.xor_lt_two_pow hx hm)),
    Nat.xor_eq_zero_iff]
  constructor
  · intro h
    -- 反転を二度すると戻るので、`x` と `r` の補数は反転した値が等しい
    exact (Nat.xor_left_inj.mp ((two_pow_sub_succ_xor hr).trans h)).symm
  · intro h
    rw [h, two_pow_sub_succ_xor hr]

/-- 一つの bit の検査：`x &&& 2 ^ i` が 0 なのは、`x` の `i` 番目の bit が 0 の時。 -/
theorem and_two_pow_eq_zero_iff (x i : Nat) : x &&& 2 ^ i = 0 ↔ x / 2 ^ i % 2 = 0 := by
  rw [Nat.and_two_pow, Nat.testBit_eq_decide_div_mod_eq]
  have hp := Nat.two_pow_pos i
  by_cases h : x / 2 ^ i % 2 = 1
  · simp [h]
  · simp [h]
    omega

end Infra
