import Mathlib

/-!
# 位取り記数法

数を上の桁から書き出し、上の桁から Horner 法で読み戻す。特定の文字や基数には触れない。

* `digitsMsb` — `do { 桁を前に足す; n /= base } while ( n )` の形で、上の桁から並べた列。
  `n = 0` は一桁の `0` になる
* `horner` — 上の桁から `acc * base + d` を繰り返す読み取り

## 往復

`base` 進の桁を `horner` で読むと元の数に戻る（`horner_digitsMsb`）。読み取りを
途中で剰余に落としても、最後に剰余を取るのと同じである（`horner_mod`）。
固定幅の整数の読み取りはこの形で書ける。

## 2 の補数

`twosComplement` は、最初の桁の上の半分を負として読む 2 の補数の値である。それは最初の桁を
符号付きで読み始めた Horner 法に等しい（`twosComplement_cons`）。整数の Horner 法も途中で剰余
（`Int.bmod`）に落としてよく（`bmod_hornerInt`）、読んだ値が範囲に入れば途中の値も入る
（`fits_of_hornerInt`）。
-/

namespace Infra

variable {α β : Type*}

/-! ## 書き出し -/

/-- `n` の `base` 進表記を上の桁から並べる。`fuel` は桁数の上限である。 -/
def digitsMsb (base : Nat) (digit : Nat → α) : Nat → Nat → List α
  | 0, _ => []
  | fuel + 1, n =>
    (if n / base = 0 then [] else digitsMsb base digit fuel (n / base)) ++ [digit (n % base)]

variable {base : Nat} {digit : Nat → α}

theorem digitsMsb_succ (fuel n : Nat) :
    digitsMsb base digit (fuel + 1) n =
      (if n / base = 0 then [] else digitsMsb base digit fuel (n / base)) ++ [digit (n % base)] :=
  rfl

/-- 桁の文字は、桁の値の列を写したものである。 -/
theorem digitsMsb_eq_map (fuel n : Nat) :
    digitsMsb base digit fuel n = (digitsMsb base id fuel n).map digit := by
  induction fuel generalizing n with
  | zero => rfl
  | succ fuel ih =>
    rw [digitsMsb_succ, digitsMsb_succ, List.map_append, ih]
    split <;> rfl

theorem digitsMsb_ne_nil {fuel : Nat} (h : 0 < fuel) (n : Nat) : digitsMsb base digit fuel n ≠ [] := by
  obtain ⟨fuel, rfl⟩ : ∃ k, fuel = k + 1 := ⟨fuel - 1, by omega⟩
  simp [digitsMsb_succ]

/-- 桁の値は `base` より小さい。 -/
theorem lt_of_mem_digitsMsb (hb : 0 < base) {fuel n d : Nat} (h : d ∈ digitsMsb base id fuel n) :
    d < base := by
  induction fuel generalizing n with
  | zero => simp [digitsMsb] at h
  | succ fuel ih =>
    rw [digitsMsb_succ, List.mem_append, List.mem_singleton] at h
    rcases h with h | rfl
    · split at h
      · simp at h
      · exact ih h
    · exact Nat.mod_lt n hb

/-- 基数より小さい桁を同じ文字に写すなら、同じ表記になる。 -/
theorem digitsMsb_congr {digit' : Nat → α} (hb : 0 < base) (h : ∀ d < base, digit d = digit' d)
    (fuel n : Nat) : digitsMsb base digit fuel n = digitsMsb base digit' fuel n :=
  calc digitsMsb base digit fuel n
      = (digitsMsb base id fuel n).map digit := digitsMsb_eq_map fuel n
    _ = (digitsMsb base id fuel n).map digit' :=
      List.map_congr_left fun d hd => h d (lt_of_mem_digitsMsb hb hd)
    _ = digitsMsb base digit' fuel n := (digitsMsb_eq_map fuel n).symm

/-- Lean の `Nat.toDigitsCore` も同じ形の loop で、書いた表記を前に足す。 -/
theorem toDigitsCore_eq_digitsMsb :
    ∀ fuel n (ds : List Char), Nat.toDigitsCore base fuel n ds = digitsMsb base Nat.digitChar fuel n ++ ds
  | 0, _, _ => rfl
  | fuel + 1, n, ds => by
    have hstep : Nat.toDigitsCore base (fuel + 1) n ds =
        if n / base = 0 then Nat.digitChar (n % base) :: ds
        else Nat.toDigitsCore base fuel (n / base) (Nat.digitChar (n % base) :: ds) := rfl
    rw [hstep, digitsMsb_succ]
    split
    · rfl
    · rw [toDigitsCore_eq_digitsMsb fuel, List.append_assoc]
      rfl

/-- 桁の文字が `Nat.digitChar` の文字を写したものなら、表記は `Nat.toDigits` を写したものである。 -/
theorem digitsMsb_eq_map_toDigits (hb : 0 < base) {f : Char → α} (h : ∀ d < base, digit d = f (Nat.digitChar d))
    (n : Nat) : digitsMsb base digit (n + 1) n = (Nat.toDigits base n).map f :=
  calc digitsMsb base digit (n + 1) n = digitsMsb base (fun d => f (Nat.digitChar d)) (n + 1) n :=
        digitsMsb_congr hb h (n + 1) n
    _ = ((digitsMsb base id (n + 1) n).map Nat.digitChar).map f := by
        rw [digitsMsb_eq_map, List.map_map]
        rfl
    _ = (Nat.toDigits base n).map f := by
        rw [← digitsMsb_eq_map, Nat.toDigits, toDigitsCore_eq_digitsMsb, List.append_nil]

/-- 正の数の先頭の桁は 0 でない。 -/
theorem headD_digitsMsb_pos {fuel n : Nat} (hb : 0 < base) (hn : 0 < n) (hf : n < base ^ fuel) :
    0 < (digitsMsb base id fuel n).headD 0 := by
  induction fuel generalizing n with
  | zero => simp at hf; omega
  | succ fuel ih =>
    rw [digitsMsb_succ]
    by_cases hq : n / base = 0
    · rw [if_pos hq]
      have hlt : n < base := (Nat.div_eq_zero_iff_lt hb).mp hq
      simp [Nat.mod_eq_of_lt hlt, hn]
    · rw [if_neg hq]
      have hq' : n / base < base ^ fuel := by
        rw [Nat.div_lt_iff_lt_mul hb, ← Nat.pow_succ]
        exact hf
      have hne : digitsMsb base id fuel (n / base) ≠ [] := digitsMsb_ne_nil ?_ (n / base)
      · obtain ⟨d, ds, hds⟩ := List.exists_cons_of_ne_nil hne
        have := ih (Nat.pos_of_ne_zero hq) hq'
        rw [hds] at this ⊢
        simpa using this
      · rcases fuel with _ | fuel
        · rw [Nat.pow_zero] at hq'
          exact absurd (Nat.lt_one_iff.mp hq') hq
        · omega

/-- `base ^ k` より小さい数は `k` 桁以下で書ける。 -/
theorem length_digitsMsb_le {fuel n k : Nat} (hk : 0 < k) (hn : n < base ^ k) :
    (digitsMsb base digit fuel n).length ≤ k := by
  induction fuel generalizing n k with
  | zero => simp [digitsMsb]
  | succ fuel ih =>
    rw [digitsMsb_succ]
    split
    · simpa using Nat.succ_le_of_lt hk
    · next hq =>
      have hb : 0 < base := Nat.pos_of_ne_zero (by rintro rfl; simp at hq)
      -- 上の桁を除いた数は一桁少ない
      obtain ⟨k, rfl⟩ : ∃ k', k = k' + 1 := ⟨k - 1, by omega⟩
      have hk' : 0 < k := by
        rcases Nat.eq_zero_or_pos k with rfl | h
        · rw [Nat.zero_add, Nat.pow_one] at hn
          exact absurd ((Nat.div_eq_zero_iff_lt hb).mpr hn) hq
        · exact h
      have hq' : n / base < base ^ k := by
        rw [Nat.div_lt_iff_lt_mul hb, ← Nat.pow_succ]
        exact hn
      have := ih hk' hq'
      simp only [List.length_append, List.length_singleton]
      omega

/-! ## 読み取り -/

/-- 上の桁から読む Horner 法。 -/
def horner (base acc : Nat) (ds : List Nat) : Nat := ds.foldl (fun acc d => acc * base + d) acc

@[simp] theorem horner_nil (acc : Nat) : horner base acc [] = acc := rfl

@[simp] theorem horner_cons (acc d : Nat) (ds : List Nat) :
    horner base acc (d :: ds) = horner base (acc * base + d) ds := rfl

theorem horner_append (acc : Nat) (ds es : List Nat) :
    horner base acc (ds ++ es) = horner base (horner base acc ds) es := List.foldl_append

/-- 上の桁の 0 は値を変えない。 -/
theorem horner_replicate_zero (k : Nat) (ds : List Nat) :
    horner base 0 (List.replicate k 0 ++ ds) = horner base 0 ds := by
  induction k with
  | zero => rfl
  | succ k ih => rw [List.replicate_succ, List.cons_append, horner_cons, Nat.zero_mul, Nat.zero_add, ih]

/-- 読み始めの値は `base ^ 桁数` 倍されて効く。 -/
theorem horner_eq_mul_add (acc : Nat) (ds : List Nat) :
    horner base acc ds = acc * base ^ ds.length + horner base 0 ds := by
  induction ds generalizing acc with
  | nil => simp
  | cons d ds ih =>
    rw [horner_cons, horner_cons, ih, ih (0 * base + d), List.length_cons, Nat.pow_succ]
    ring

/-- 途中で剰余に落としても、最後の剰余は変わらない。 -/
theorem horner_mod (m acc : Nat) (ds : List Nat) :
    horner base (acc % m) ds % m = horner base acc ds % m := by
  induction ds generalizing acc with
  | nil => simp
  | cons d ds ih =>
    rw [horner_cons, horner_cons, ← ih (acc % m * base + d), ← ih (acc * base + d)]
    congr 2
    simp [Nat.add_mod, Nat.mul_mod]

/-- 桁がどれも `base` より小さければ、読んだ値は `base ^ 桁数` より小さい。 -/
theorem horner_lt {ds : List Nat} (h : ∀ d ∈ ds, d < base) : horner base 0 ds < base ^ ds.length := by
  induction ds with
  | nil => simp
  | cons d ds ih =>
    have hd := h d (by simp)
    have ih := ih (fun e he => h e (by simp [he]))
    -- 先頭の桁は `base ^ 残りの桁数` 倍されて効く
    rw [horner_cons, Nat.zero_mul, Nat.zero_add, horner_eq_mul_add, List.length_cons, Nat.pow_succ]
    calc d * base ^ ds.length + horner base 0 ds
        < d * base ^ ds.length + base ^ ds.length := by omega
      _ = (d + 1) * base ^ ds.length := by rw [Nat.add_mul, Nat.one_mul]
      _ ≤ base * base ^ ds.length := Nat.mul_le_mul_right _ hd
      _ = base ^ ds.length * base := Nat.mul_comm _ _

/-- **上の桁から書いた数は、Horner 法で元に戻る。** -/
theorem horner_digitsMsb {fuel n : Nat} (hf : n < base ^ fuel) :
    horner base 0 (digitsMsb base id fuel n) = n := by
  induction fuel generalizing n with
  | zero => simp at hf; subst hf; rfl
  | succ fuel ih =>
    rw [digitsMsb_succ, horner_append, horner_cons, horner_nil]
    split
    · next hq =>
      rw [horner_nil, Nat.zero_mul, Nat.zero_add, id]
      have := Nat.div_add_mod n base
      rw [hq] at this
      omega
    · next hq =>
      have hb : 0 < base := Nat.pos_of_ne_zero (by rintro rfl; simp at hq)
      have hq' : n / base < base ^ fuel := by
        rw [Nat.div_lt_iff_lt_mul hb, ← Nat.pow_succ]
        exact hf
      rw [ih hq', id, Nat.mul_comm]
      exact Nat.div_add_mod n base

/-! ## 2 の補数 -/

/-- 読み始めの値が整数の Horner 法。 -/
def hornerInt (base : Nat) (acc : Int) (ds : List Nat) : Int :=
  ds.foldl (fun (acc : Int) (d : Nat) => acc * base + d) acc

@[simp] theorem hornerInt_nil (acc : Int) : hornerInt base acc [] = acc := rfl

@[simp] theorem hornerInt_cons (acc : Int) (d : Nat) (ds : List Nat) :
    hornerInt base acc (d :: ds) = hornerInt base (acc * base + d) ds := rfl

theorem hornerInt_append (acc : Int) (ds es : List Nat) :
    hornerInt base acc (ds ++ es) = hornerInt base (hornerInt base acc ds) es := by
  simp only [hornerInt, List.foldl_append]

theorem hornerInt_eq_mul_add (acc : Int) (ds : List Nat) :
    hornerInt base acc ds = acc * (base : Int) ^ ds.length + (horner base 0 ds : Int) := by
  induction ds generalizing acc with
  | nil => simp
  | cons d ds ih =>
    rw [hornerInt_cons, ih, horner_cons, horner_eq_mul_add (0 * base + d), List.length_cons, pow_succ]
    push_cast
    ring

/-- 2 の補数で上の桁から書いた `base` 進の数。最初の桁が `base` の半分以上なら負である。 -/
def twosComplement (base : Nat) (ds : List Nat) : Int :=
  (horner base 0 ds : Int) - if base ≤ 2 * ds.headD 0 then (base : Int) ^ ds.length else 0

/-- 符号付きの一桁。 -/
def signedDigit (base d : Nat) : Int := if base ≤ 2 * d then (d : Int) - base else d

/-- 2 の補数は、最初の桁を符号付きで読み始めた Horner 法である。 -/
theorem twosComplement_cons (d : Nat) (ds : List Nat) :
    twosComplement base (d :: ds) = hornerInt base (signedDigit base d) ds := by
  rw [twosComplement, hornerInt_eq_mul_add, horner_cons, horner_eq_mul_add, List.headD_cons,
    List.length_cons, signedDigit]
  split <;> push_cast <;> ring

/-- Horner 法を途中で `Int.bmod` に落としても、最後の `Int.bmod` は変わらない。 -/
theorem bmod_hornerInt (m : Nat) (acc : Int) (ds : List Nat) :
    Int.bmod (hornerInt base (Int.bmod acc m) ds) m = Int.bmod (hornerInt base acc ds) m := by
  induction ds generalizing acc with
  | nil => exact Int.bmod_bmod
  | cons d ds ih =>
    rw [hornerInt_cons, hornerInt_cons, ← ih, ← ih (acc * base + d), Int.bmod_add_bmod.symm,
      Int.bmod_mul_bmod, Int.bmod_add_bmod]

/-- 桁がどれも `base` より小さく、読んだ値が `0` を含む範囲 `[lo, hi)` に入れば、読み始めの値も
そこに入る。 -/
theorem fits_of_hornerInt (hb : 0 < base) {lo hi : Int} (hlo : lo ≤ 0) (hhi : 0 < hi) :
    ∀ {ds : List Nat} {acc : Int}, (∀ d ∈ ds, d < base) →
      lo ≤ hornerInt base acc ds → hornerInt base acc ds < hi → lo ≤ acc ∧ acc < hi
  | [], _, _, h1, h2 => ⟨h1, h2⟩
  | d :: ds, acc, hd, h1, h2 => by
    obtain ⟨h1', h2'⟩ : lo ≤ acc * base + d ∧ acc * base + d < hi :=
      fits_of_hornerInt hb hlo hhi (fun e he => hd e (by simp [he])) h1 h2
    have hd' : (d : Int) < base := by exact_mod_cast hd d (by simp)
    have hb' : (1 : Int) ≤ base := by exact_mod_cast hb
    -- 一桁読むと `acc * base + d` で、`acc` はそれより `0` に近い
    constructor
    · by_contra hlt
      have hlt : acc + 1 ≤ lo := by omega
      nlinarith
    · by_contra hge
      have hge : hi ≤ acc := by omega
      nlinarith

end Infra
