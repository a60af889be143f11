import Mathlib

/-!
# 語の列で表した多倍長整数

多倍長整数を `w` bit の語の列で持ち、下の語から並べる。値は `Nat.ofDigits (2 ^ w)` である。
ここでは、語ごとに carry を受け渡して進む loop を取り出し、それぞれが値に対して何をするかを言う。

* `rclLimbs` — 下の語から carry を通して一 bit ずつ左へ回す（`rcl`）。値は二倍になる
* `rcrLimbs` — 上の語から carry を通して一 bit ずつ右へ回す（`rcr`）。値は半分になる
* `sbbLimbs` — 下の語から borrow を受け渡して引く（`sbb`）
* `adcZeroLimbs` — carry がなくなるまで 0 を足す（`adc $0`）
* `mulAddLimbs` — 二語の積を先頭の二語に足し、carry を上へ送る
* `isGeqLimbs` — 上の語から比べる
* `maxSetBitLimbs` — 上の語から 0 でない語を探し、最も上の 1 の bit の位置を返す

どの loop も、語がみな `2 ^ w` より小さければ、値の等式（出ていく carry を含む）を満たす。
-/

namespace Infra

open Nat

variable (w : Nat)

/-! ## 定義 -/

/-- 下の語から、carry を通して一 bit 左へ回す。返す `Bool` は最後に出ていく carry。 -/
def rclLimbs : Bool → List Nat → List Nat × Bool
  | cf, [] => ([], cf)
  | cf, x :: xs =>
    let r := rclLimbs (decide (2 ^ (w - 1) ≤ x)) xs
    (((2 * x + cf.toNat) % 2 ^ w) :: r.1, r.2)

/-- 上の語から、carry を通して一 bit 右へ回す。返す `Bool` は最も下の語から出ていく carry。 -/
def rcrLimbs (cf : Bool) : List Nat → List Nat × Bool
  | [] => ([], cf)
  | x :: xs =>
    let r := rcrLimbs cf xs
    ((x / 2 + r.2.toNat * 2 ^ (w - 1)) :: r.1, decide (x % 2 = 1))

/-- 下の語から、borrow を受け渡して `value` から `subtrahend` を引く。 -/
def sbbLimbs : Bool → List Nat → List Nat → List Nat × Bool
  | b, s :: ss, x :: xs =>
    let r := sbbLimbs (decide (x < s + b.toNat)) ss xs
    (((x + 2 ^ w - s - b.toNat) % 2 ^ w) :: r.1, r.2)
  | b, _, _ => ([], b)

/-- carry がある間、上の語へ 1 を足していく。 -/
def adcZeroLimbs : Bool → List Nat → List Nat × Bool
  | false, l => (l, false)
  | true, [] => ([], true)
  | true, x :: xs =>
    if x + 1 < 2 ^ w then ((x + 1) :: xs, false)
    else
      let r := adcZeroLimbs true xs
      (0 :: r.1, r.2)

/-- 二語の値 `p` を先頭の二語に足し、残る carry を上へ送る。語が二つに満たなければ何も書かず、
足せなかったことを `true` で返す。 -/
def mulAddLimbs (p : Nat) : List Nat → List Nat × Bool
  | x0 :: x1 :: rest =>
    let s0 := x0 + p % 2 ^ w
    let s1 := x1 + p / 2 ^ w + s0 / 2 ^ w
    let r := adcZeroLimbs w (decide (2 ^ w ≤ s1)) rest
    ((s0 % 2 ^ w) :: (s1 % 2 ^ w) :: r.1, r.2)
  | l => (l, true)

/-- 上の語から並べた二つの列を比べる。等しい間は下へ進み、違う語か最後の語で `≥` を返す。 -/
def isGeqLimbs : List Nat → List Nat → Bool
  | x :: xs, r :: rs => if x = r ∧ xs ≠ [] then isGeqLimbs xs rs else decide (r ≤ x)
  | _, _ => true

/-- 上の語から並べた列で、0 でない最初の語の最も上の 1 の bit の位置に 1 を足したもの。
`n` は残りの語の数。すべて 0 なら 0。 -/
def maxSetBitLimbs : Nat → List Nat → Nat
  | _, [] => 0
  | n, x :: xs => if x ≠ 0 then Nat.log2 x + w * (n - 1) + 1 else maxSetBitLimbs (n - 1) xs

/-! ## 語の大きさ -/

/-- どの語も `2 ^ w` より小さい。 -/
def LimbsLt (l : List Nat) : Prop := ∀ x ∈ l, x < 2 ^ w

instance (l : List Nat) : Decidable (LimbsLt w l) := inferInstanceAs (Decidable (∀ x ∈ l, x < 2 ^ w))

variable {w}

theorem LimbsLt.cons {x : Nat} {xs : List Nat} (h : LimbsLt w (x :: xs)) : x < 2 ^ w ∧ LimbsLt w xs :=
  ⟨h x List.mem_cons_self, fun y hy => h y (List.mem_cons_of_mem x hy)⟩

theorem limbsLt_cons {x : Nat} {xs : List Nat} (hx : x < 2 ^ w) (hxs : LimbsLt w xs) :
    LimbsLt w (x :: xs) := by
  intro y hy
  rcases List.mem_cons.mp hy with rfl | hy
  · exact hx
  · exact hxs y hy

theorem limbsLt_append {l₁ l₂ : List Nat} : LimbsLt w (l₁ ++ l₂) ↔ LimbsLt w l₁ ∧ LimbsLt w l₂ := by
  simp [LimbsLt, or_imp, forall_and]

theorem limbsLt_replicate_zero (n : Nat) : LimbsLt w (List.replicate n 0) := by
  intro x hx
  rw [(List.mem_replicate.mp hx).2]
  exact Nat.two_pow_pos w

theorem LimbsLt.take {l : List Nat} (h : LimbsLt w l) (n : Nat) : LimbsLt w (l.take n) :=
  fun x hx => h x (List.mem_of_mem_take hx)

theorem LimbsLt.drop {l : List Nat} (h : LimbsLt w l) (n : Nat) : LimbsLt w (l.drop n) :=
  fun x hx => h x (List.mem_of_mem_drop hx)

theorem LimbsLt.reverse {l : List Nat} (h : LimbsLt w l) : LimbsLt w l.reverse :=
  fun x hx => h x (List.mem_reverse.mp hx)

theorem ofDigits_lt_of_limbsLt : ∀ {l : List Nat}, LimbsLt w l → ofDigits (2 ^ w) l < 2 ^ (w * l.length)
  | [], _ => by simp
  | x :: xs, h => by
    obtain ⟨hx, hxs⟩ := h.cons
    have ih := ofDigits_lt_of_limbsLt hxs
    rw [ofDigits_cons, List.length_cons, Nat.mul_succ, Nat.pow_add]
    calc x + 2 ^ w * ofDigits (2 ^ w) xs < 2 ^ w + 2 ^ w * ofDigits (2 ^ w) xs := by omega
      _ = 2 ^ w * (ofDigits (2 ^ w) xs + 1) := by ring
      _ ≤ 2 ^ w * 2 ^ (w * xs.length) := Nat.mul_le_mul_left _ ih
      _ = 2 ^ (w * xs.length) * 2 ^ w := Nat.mul_comm _ _

/-- 下の `k` 語と上の語に分ける。 -/
theorem ofDigits_take_add_drop (l : List Nat) (k : Nat) :
    ofDigits (2 ^ w) (l.take k) + 2 ^ (w * (l.take k).length) * ofDigits (2 ^ w) (l.drop k) =
      ofDigits (2 ^ w) l := by
  rw [Nat.pow_mul, ← ofDigits_append, List.take_append_drop]

/-- 値が 0 であるのは、どの語も 0 のときである。 -/
theorem ofDigits_two_pow_eq_zero_iff : ∀ l : List Nat, ofDigits (2 ^ w) l = 0 ↔ ∀ x ∈ l, x = 0
  | [] => by simp
  | x :: xs => by
    rw [ofDigits_cons, Nat.add_eq_zero_iff, Nat.mul_eq_zero, List.forall_mem_cons,
      ofDigits_two_pow_eq_zero_iff xs]
    simp

variable (w)

/-- 一つの語の桁上がり。 -/
theorem two_pow_eq_two_mul (hw : 0 < w) : 2 ^ w = 2 * 2 ^ (w - 1) := by
  rw [← Nat.pow_succ']
  congr 1
  omega

variable {w}

/-! ## `rcl` -/

/-- 一語の `rcl`：出ていく bit は最も上の bit である。 -/
theorem rcl_digit (hw : 0 < w) {x : Nat} (cf : Bool) (hx : x < 2 ^ w) :
    (2 * x + cf.toNat) % 2 ^ w + 2 ^ w * (decide (2 ^ (w - 1) ≤ x)).toNat = 2 * x + cf.toNat := by
  have h2 := two_pow_eq_two_mul w hw
  have hc : cf.toNat ≤ 1 := Bool.toNat_le cf
  by_cases h : 2 ^ (w - 1) ≤ x
  · rw [decide_eq_true h, Bool.toNat_true, Nat.mod_eq_sub_mod (by omega), Nat.mod_eq_of_lt (by omega)]
    omega
  · rw [decide_eq_false h, Bool.toNat_false, Nat.mod_eq_of_lt (by omega)]
    omega

/-- `rcl` の loop は値を二倍して carry を足す。あふれた bit は最後の carry に出る。 -/
theorem rclLimbs_value (hw : 0 < w) :
    ∀ (cf : Bool) (l : List Nat), LimbsLt w l →
      ofDigits (2 ^ w) (rclLimbs w cf l).1 + 2 ^ (w * l.length) * (rclLimbs w cf l).2.toNat =
        2 * ofDigits (2 ^ w) l + cf.toNat
  | cf, [], _ => by simp [rclLimbs]
  | cf, x :: xs, h => by
    obtain ⟨hx, hxs⟩ := h.cons
    have ih := rclLimbs_value hw (decide (2 ^ (w - 1) ≤ x)) xs hxs
    have hd := rcl_digit hw cf hx
    simp only [rclLimbs, ofDigits_cons, List.length_cons, Nat.mul_succ, Nat.pow_add]
    generalize rclLimbs w (decide (2 ^ (w - 1) ≤ x)) xs = r at ih
    -- 上の語の式に 2 ^ w を掛け、この語の桁上がりと合わせる
    calc (2 * x + cf.toNat) % 2 ^ w + 2 ^ w * ofDigits (2 ^ w) r.1 +
          2 ^ (w * xs.length) * 2 ^ w * r.2.toNat
        = (2 * x + cf.toNat) % 2 ^ w +
            2 ^ w * (ofDigits (2 ^ w) r.1 + 2 ^ (w * xs.length) * r.2.toNat) := by ring
      _ = (2 * x + cf.toNat) % 2 ^ w +
            2 ^ w * (2 * ofDigits (2 ^ w) xs + (decide (2 ^ (w - 1) ≤ x)).toNat) := by rw [ih]
      _ = 2 * (x + 2 ^ w * ofDigits (2 ^ w) xs) + cf.toNat := by
        rw [Nat.mul_add, ← Nat.add_assoc, Nat.add_right_comm, hd]
        ring

/-- carry を入れずに左へ回すと、最も上の bit が 0 なら値は二倍になる。 -/
theorem rclLimbs_false_value (hw : 0 < w) {l : List Nat} (hl : LimbsLt w l)
    (hfit : 2 * ofDigits (2 ^ w) l < 2 ^ (w * l.length)) :
    ofDigits (2 ^ w) (rclLimbs w false l).1 = 2 * ofDigits (2 ^ w) l := by
  have h := rclLimbs_value hw false l hl
  rw [Bool.toNat_false, Nat.add_zero] at h
  -- 出ていく carry が 1 なら、左辺が 2 ^ (w * len) に届いてしまう
  cases hc : (rclLimbs w false l).2
  · rw [hc, Bool.toNat_false, Nat.mul_zero, Nat.add_zero] at h
    exact h
  · rw [hc, Bool.toNat_true, Nat.mul_one] at h
    omega

theorem length_rclLimbs : ∀ (cf : Bool) (l : List Nat), (rclLimbs w cf l).1.length = l.length
  | _, [] => rfl
  | _, _ :: xs => by simp [rclLimbs, length_rclLimbs _ xs]

theorem rclLimbs_lt (hw : 0 < w) : ∀ (cf : Bool) (l : List Nat), LimbsLt w (rclLimbs w cf l).1
  | _, [] => fun _ h => absurd h List.not_mem_nil
  | _, _ :: xs => limbsLt_cons (Nat.mod_lt _ (Nat.two_pow_pos w)) (rclLimbs_lt hw _ xs)

/-! ## `rcr` -/

/-- `rcr` の loop は値を半分にし、入る carry を最も上の bit に置く。 -/
theorem rcrLimbs_value (hw : 0 < w) (cf : Bool) :
    ∀ l : List Nat,
      2 * ofDigits (2 ^ w) (rcrLimbs w cf l).1 + (rcrLimbs w cf l).2.toNat =
        ofDigits (2 ^ w) l + cf.toNat * 2 ^ (w * l.length)
  | [] => by simp [rcrLimbs]
  | x :: xs => by
    have ih := rcrLimbs_value hw cf xs
    have h2 := two_pow_eq_two_mul w hw
    have hlow : x % 2 = (decide (x % 2 = 1)).toNat := by
      rcases Nat.mod_two_eq_zero_or_one x with h0 | h1 <;> simp [*]
    simp only [rcrLimbs, ofDigits_cons, List.length_cons, Nat.mul_succ, Nat.pow_add]
    generalize rcrLimbs w cf xs = r at ih
    generalize (decide (x % 2 = 1)).toNat = c at hlow ⊢
    have hr : 2 * (r.2.toNat * 2 ^ (w - 1)) = 2 ^ w * r.2.toNat := by
      rw [h2]
      ring
    calc 2 * (x / 2 + r.2.toNat * 2 ^ (w - 1) + 2 ^ w * ofDigits (2 ^ w) r.1) + c
        = (2 * (x / 2) + c) + 2 * (r.2.toNat * 2 ^ (w - 1)) + 2 ^ w * (2 * ofDigits (2 ^ w) r.1) := by
          ring
      _ = (2 * (x / 2) + x % 2) + 2 ^ w * (2 * ofDigits (2 ^ w) r.1 + r.2.toNat) := by
          rw [hr, hlow]
          ring
      _ = x + 2 ^ w * (ofDigits (2 ^ w) xs + cf.toNat * 2 ^ (w * xs.length)) := by
          rw [ih, Nat.div_add_mod]
      _ = x + 2 ^ w * ofDigits (2 ^ w) xs + cf.toNat * (2 ^ (w * xs.length) * 2 ^ w) := by ring

/-- carry を入れずに右へ回すと、値は半分になる。 -/
theorem rcrLimbs_false_value (hw : 0 < w) (l : List Nat) :
    ofDigits (2 ^ w) (rcrLimbs w false l).1 = ofDigits (2 ^ w) l / 2 := by
  have h := rcrLimbs_value hw false l
  have hc := Bool.toNat_le (rcrLimbs w false l).2
  rw [Bool.toNat_false, Nat.zero_mul, Nat.add_zero] at h
  omega

theorem length_rcrLimbs (cf : Bool) : ∀ l : List Nat, (rcrLimbs w cf l).1.length = l.length
  | [] => rfl
  | _ :: xs => by simp [rcrLimbs, length_rcrLimbs cf xs]

theorem rcrLimbs_lt (hw : 0 < w) (cf : Bool) : ∀ l : List Nat, LimbsLt w l → LimbsLt w (rcrLimbs w cf l).1
  | [], _ => fun _ h => absurd h List.not_mem_nil
  | x :: xs, h => by
    obtain ⟨hx, hxs⟩ := h.cons
    have h2 := two_pow_eq_two_mul w hw
    have hc := Bool.toNat_le (rcrLimbs w cf xs).2
    refine limbsLt_cons ?_ (rcrLimbs_lt hw cf xs hxs)
    -- 下へ送った半分と、上から入る bit は重ならない
    have hhalf : x / 2 < 2 ^ (w - 1) := by omega
    calc x / 2 + (rcrLimbs w cf xs).2.toNat * 2 ^ (w - 1)
        < 2 ^ (w - 1) + 1 * 2 ^ (w - 1) := by
          have := Nat.mul_le_mul_right (2 ^ (w - 1)) hc
          omega
      _ = 2 ^ w := by omega

/-! ## `sbb` -/

/-- 一語の `sbb`：借りは、引く語と入る借りの和が引かれる語を超えるときに出る。 -/
theorem sbb_digit {x s : Nat} (b : Bool) (hs : s < 2 ^ w) :
    (x + 2 ^ w - s - b.toNat) % 2 ^ w + s + b.toNat = x + 2 ^ w * (decide (x < s + b.toNat)).toNat
      ∨ 2 ^ w ≤ x := by
  have hb : b.toNat ≤ 1 := Bool.toNat_le b
  by_cases hx : x < 2 ^ w
  · left
    by_cases h : x < s + b.toNat
    · rw [decide_eq_true h, Bool.toNat_true, Nat.mod_eq_of_lt (by omega)]
      omega
    · rw [decide_eq_false h, Bool.toNat_false, Nat.mod_eq_sub_mod (by omega), Nat.mod_eq_of_lt (by omega)]
      omega
  · exact .inr (Nat.le_of_not_lt hx)

/-- `sbb` の loop：差と引く数と入る借りの和は、引かれる数と出ていく借りの分に等しい。 -/
theorem sbbLimbs_value :
    ∀ (b : Bool) (ss xs : List Nat), ss.length = xs.length → LimbsLt w ss → LimbsLt w xs →
      ofDigits (2 ^ w) (sbbLimbs w b ss xs).1 + ofDigits (2 ^ w) ss + b.toNat =
        ofDigits (2 ^ w) xs + 2 ^ (w * xs.length) * (sbbLimbs w b ss xs).2.toNat
  | b, [], [], _, _, _ => by simp [sbbLimbs]
  | b, s :: ss, x :: xs, hlen, hss, hxs => by
    obtain ⟨hs, hss⟩ := hss.cons
    obtain ⟨hx, hxs⟩ := hxs.cons
    have ih := sbbLimbs_value (decide (x < s + b.toNat)) ss xs (by simpa using hlen) hss hxs
    have hd := (sbb_digit b hs).resolve_right (Nat.not_le_of_lt hx)
    simp only [sbbLimbs, ofDigits_cons, List.length_cons, Nat.mul_succ, Nat.pow_add]
    generalize sbbLimbs w (decide (x < s + b.toNat)) ss xs = r at ih
    calc (x + 2 ^ w - s - b.toNat) % 2 ^ w + 2 ^ w * ofDigits (2 ^ w) r.1 +
          (s + 2 ^ w * ofDigits (2 ^ w) ss) + b.toNat
        = ((x + 2 ^ w - s - b.toNat) % 2 ^ w + s + b.toNat) +
            2 ^ w * (ofDigits (2 ^ w) r.1 + ofDigits (2 ^ w) ss) := by ring
      _ = x + 2 ^ w * (ofDigits (2 ^ w) r.1 + ofDigits (2 ^ w) ss + (decide (x < s + b.toNat)).toNat) := by
          rw [hd]
          ring
      _ = x + 2 ^ w * ofDigits (2 ^ w) xs + 2 ^ (w * xs.length) * 2 ^ w * r.2.toNat := by
          rw [ih]
          ring
  | _, [], _ :: _, hlen, _, _ => absurd hlen (by simp)
  | _, _ :: _, [], hlen, _, _ => absurd hlen (by simp)

theorem length_sbbLimbs :
    ∀ (b : Bool) (ss xs : List Nat), ss.length = xs.length → (sbbLimbs w b ss xs).1.length = xs.length
  | _, [], [], _ => rfl
  | _, _ :: ss, _ :: xs, h => by simp [sbbLimbs, length_sbbLimbs _ ss xs (by simpa using h)]
  | _, [], _ :: _, h => absurd h (by simp)
  | _, _ :: _, [], h => absurd h (by simp)

theorem sbbLimbs_lt : ∀ (b : Bool) (ss xs : List Nat), LimbsLt w (sbbLimbs w b ss xs).1
  | _, _ :: ss, _ :: xs => limbsLt_cons (Nat.mod_lt _ (Nat.two_pow_pos w)) (sbbLimbs_lt _ ss xs)
  | _, [], _ => fun _ h => absurd h List.not_mem_nil
  | _, _ :: _, [] => fun _ h => absurd h List.not_mem_nil

/-! ## `adc $0` -/

/-- carry を足す loop は値に carry を足す。あふれれば最後の carry に出る。 -/
theorem adcZeroLimbs_value :
    ∀ (c : Bool) (l : List Nat), LimbsLt w l →
      ofDigits (2 ^ w) (adcZeroLimbs w c l).1 + 2 ^ (w * l.length) * (adcZeroLimbs w c l).2.toNat =
        ofDigits (2 ^ w) l + c.toNat
  | false, l, _ => by simp [adcZeroLimbs]
  | true, [], _ => by simp [adcZeroLimbs]
  | true, x :: xs, h => by
    obtain ⟨hx, hxs⟩ := h.cons
    unfold adcZeroLimbs
    split
    · simp only [ofDigits_cons, Bool.toNat_false, Nat.mul_zero, Nat.add_zero, Bool.toNat_true]
      omega
    · next hmax =>
      -- この語は 2 ^ w - 1 で、0 になって上へ carry を送る
      have hx' : x + 1 = 2 ^ w := by omega
      have ih := adcZeroLimbs_value true xs hxs
      simp only [ofDigits_cons, List.length_cons, Nat.mul_succ, Nat.pow_add, Bool.toNat_true]
      generalize adcZeroLimbs w true xs = r at ih
      rw [Bool.toNat_true] at ih
      calc 0 + 2 ^ w * ofDigits (2 ^ w) r.1 + 2 ^ (w * xs.length) * 2 ^ w * r.2.toNat
          = 2 ^ w * (ofDigits (2 ^ w) r.1 + 2 ^ (w * xs.length) * r.2.toNat) := by ring
        _ = x + 2 ^ w * ofDigits (2 ^ w) xs + 1 := by
          rw [ih]
          rw [Nat.mul_add, Nat.mul_one]
          omega

theorem length_adcZeroLimbs : ∀ (c : Bool) (l : List Nat), (adcZeroLimbs w c l).1.length = l.length
  | false, _ => by simp only [adcZeroLimbs]
  | true, [] => rfl
  | true, x :: xs => by
    unfold adcZeroLimbs
    split
    · rfl
    · simp [length_adcZeroLimbs true xs]

theorem adcZeroLimbs_lt : ∀ (c : Bool) (l : List Nat), LimbsLt w l → LimbsLt w (adcZeroLimbs w c l).1
  | false, _, h => by simpa only [adcZeroLimbs] using h
  | true, [], h => h
  | true, x :: xs, h => by
    obtain ⟨-, hxs⟩ := h.cons
    unfold adcZeroLimbs
    split
    · next hlt => exact limbsLt_cons hlt hxs
    · exact limbsLt_cons (Nat.two_pow_pos w) (adcZeroLimbs_lt true xs hxs)

/-! ## 積の足し込み -/

/-- 二語の値を先頭の二語に足すと、値はその分増える。あふれた分は最後の carry に出る。 -/
theorem mulAddLimbs_value {p : Nat} (hp : p < 2 ^ w * 2 ^ w) :
    ∀ l : List Nat, 2 ≤ l.length → LimbsLt w l →
      ofDigits (2 ^ w) (mulAddLimbs w p l).1 + 2 ^ (w * l.length) * (mulAddLimbs w p l).2.toNat =
        ofDigits (2 ^ w) l + p
  | x0 :: x1 :: rest, _, h => by
    obtain ⟨hx0, h⟩ := h.cons
    obtain ⟨hx1, hrest⟩ := h.cons
    have hpw : p / 2 ^ w < 2 ^ w := Nat.div_lt_of_lt_mul hp
    have hpm : p % 2 ^ w < 2 ^ w := Nat.mod_lt _ (Nat.two_pow_pos w)
    -- 二つの語の和は 2 ^ w の二倍に届かないので、上へ送る carry は 0 か 1 である
    have hs0 : (x0 + p % 2 ^ w) / 2 ^ w ≤ 1 := by
      rw [Nat.div_le_iff_le_mul_add_pred (Nat.two_pow_pos w)]
      omega
    have hc : (x1 + p / 2 ^ w + (x0 + p % 2 ^ w) / 2 ^ w) / 2 ^ w =
        (decide (2 ^ w ≤ x1 + p / 2 ^ w + (x0 + p % 2 ^ w) / 2 ^ w)).toNat := by
      by_cases hle : 2 ^ w ≤ x1 + p / 2 ^ w + (x0 + p % 2 ^ w) / 2 ^ w
      · rw [decide_eq_true hle, Bool.toNat_true, Nat.div_eq_iff (Nat.two_pow_pos w)]
        omega
      · rw [decide_eq_false hle, Bool.toNat_false, Nat.div_eq_of_lt (by omega)]
    have ih := adcZeroLimbs_value
      (decide (2 ^ w ≤ x1 + p / 2 ^ w + (x0 + p % 2 ^ w) / 2 ^ w)) rest hrest
    simp only [mulAddLimbs, ofDigits_cons, List.length_cons, Nat.mul_succ, Nat.pow_add]
    generalize adcZeroLimbs w (decide (2 ^ w ≤ x1 + p / 2 ^ w + (x0 + p % 2 ^ w) / 2 ^ w)) rest = r
      at ih
    rw [← hc] at ih
    have h0 := Nat.mod_add_div (x0 + p % 2 ^ w) (2 ^ w)
    have h1 := Nat.mod_add_div (x1 + p / 2 ^ w + (x0 + p % 2 ^ w) / 2 ^ w) (2 ^ w)
    have hpd := Nat.mod_add_div p (2 ^ w)
    -- 各語の余りと商をまとめ直すと、足す前の値と `p` の和になる
    calc (x0 + p % 2 ^ w) % 2 ^ w +
          2 ^ w * ((x1 + p / 2 ^ w + (x0 + p % 2 ^ w) / 2 ^ w) % 2 ^ w + 2 ^ w * ofDigits (2 ^ w) r.1) +
          2 ^ (w * rest.length) * 2 ^ w * 2 ^ w * r.2.toNat
        = (x0 + p % 2 ^ w) % 2 ^ w +
            2 ^ w * ((x1 + p / 2 ^ w + (x0 + p % 2 ^ w) / 2 ^ w) % 2 ^ w +
              2 ^ w * (ofDigits (2 ^ w) r.1 + 2 ^ (w * rest.length) * r.2.toNat)) := by ring
      _ = (x0 + p % 2 ^ w) % 2 ^ w +
            2 ^ w * ((x1 + p / 2 ^ w + (x0 + p % 2 ^ w) / 2 ^ w) % 2 ^ w +
              2 ^ w * ((x1 + p / 2 ^ w + (x0 + p % 2 ^ w) / 2 ^ w) / 2 ^ w)) +
            2 ^ w * 2 ^ w * ofDigits (2 ^ w) rest := by
          rw [ih]
          ring
      _ = (x0 + p % 2 ^ w) % 2 ^ w + 2 ^ w * ((x0 + p % 2 ^ w) / 2 ^ w) +
            2 ^ w * (x1 + p / 2 ^ w) + 2 ^ w * 2 ^ w * ofDigits (2 ^ w) rest := by
          rw [h1]
          ring
      _ = x0 + (p % 2 ^ w + 2 ^ w * (p / 2 ^ w)) + 2 ^ w * x1 +
            2 ^ w * 2 ^ w * ofDigits (2 ^ w) rest := by
          rw [h0]
          ring
      _ = x0 + 2 ^ w * (x1 + 2 ^ w * ofDigits (2 ^ w) rest) + p := by
          rw [hpd]
          ring

theorem length_mulAddLimbs (p : Nat) : ∀ l : List Nat, (mulAddLimbs w p l).1.length = l.length
  | _ :: _ :: rest => by simp [mulAddLimbs, length_adcZeroLimbs]
  | [] => rfl
  | [_] => rfl

theorem mulAddLimbs_lt (p : Nat) : ∀ l : List Nat, LimbsLt w l → LimbsLt w (mulAddLimbs w p l).1
  | _ :: _ :: rest, h => by
    obtain ⟨-, h⟩ := h.cons
    obtain ⟨-, hrest⟩ := h.cons
    exact limbsLt_cons (Nat.mod_lt _ (Nat.two_pow_pos w))
      (limbsLt_cons (Nat.mod_lt _ (Nat.two_pow_pos w)) (adcZeroLimbs_lt _ rest hrest))
  | [], h => h
  | [_], h => h

/-! ## 上の語からの比較 -/

/-- 上の語から並べた列の値。 -/
theorem ofDigits_reverse_cons' (x : Nat) (xs : List Nat) :
    ofDigits (2 ^ w) (x :: xs).reverse = ofDigits (2 ^ w) xs.reverse + 2 ^ (w * xs.length) * x := by
  rw [List.reverse_cons, ofDigits_append, ofDigits_singleton, List.length_reverse, Nat.pow_mul]

/-- 上の語から比べる loop は、値の大小を返す。 -/
theorem isGeqLimbs_eq :
    ∀ (xs rs : List Nat), xs.length = rs.length → xs ≠ [] → LimbsLt w xs → LimbsLt w rs →
      isGeqLimbs xs rs = decide (ofDigits (2 ^ w) rs.reverse ≤ ofDigits (2 ^ w) xs.reverse)
  | x :: xs, r :: rs, hlen, _, hx, hr => by
    obtain ⟨-, hxs⟩ := hx.cons
    obtain ⟨-, hrs⟩ := hr.cons
    have hlen' : xs.length = rs.length := by simpa using hlen
    have hxl := ofDigits_lt_of_limbsLt hxs.reverse
    have hrl := ofDigits_lt_of_limbsLt hrs.reverse
    rw [List.length_reverse] at hxl hrl
    rw [← hlen'] at hrl
    rw [ofDigits_reverse_cons', ofDigits_reverse_cons', ← hlen']
    unfold isGeqLimbs
    split
    · next h =>
      -- 上の語が等しければ、下の語の比較で決まる
      obtain ⟨rfl, hne⟩ := h
      rw [isGeqLimbs_eq xs rs hlen' hne hxs hrs]
      simp only [decide_eq_decide]
      omega
    · next h =>
      simp only [decide_eq_decide]
      by_cases hxr : x = r
      · -- 最後の語：下の語はない
        subst hxr
        have hnil : xs = [] := by
          by_contra hne
          exact h ⟨rfl, hne⟩
        subst hnil
        simp [List.length_eq_zero_iff.mp hlen'.symm]
      · -- 上の語が違えば、それで決まる。下の語は 2 ^ (w * len) に届かない
        have hmul : ∀ a b : Nat, a < b → 2 ^ (w * xs.length) * a + 2 ^ (w * xs.length) ≤
            2 ^ (w * xs.length) * b := by
          intro a b hab
          calc 2 ^ (w * xs.length) * a + 2 ^ (w * xs.length) = 2 ^ (w * xs.length) * (a + 1) := by ring
            _ ≤ 2 ^ (w * xs.length) * b := Nat.mul_le_mul_left _ hab
        rcases Nat.lt_or_gt_of_ne hxr with hlt | hgt
        · have := hmul x r hlt
          omega
        · have := hmul r x hgt
          omega
  | [], _, _, hne, _, _ => absurd rfl hne
  | _ :: _, [], hlen, _, _, _ => absurd hlen (by simp)

/-! ## 最も上の 1 の bit -/

theorem maxSetBitLimbs_eq_size (hw : 0 < w) :
    ∀ (xs : List Nat), LimbsLt w xs →
      maxSetBitLimbs w xs.length xs = Nat.size (ofDigits (2 ^ w) xs.reverse)
  | [], _ => by simp [maxSetBitLimbs]
  | x :: xs, h => by
    obtain ⟨hx, hxs⟩ := h.cons
    rw [ofDigits_reverse_cons', maxSetBitLimbs, List.length_cons, Nat.add_sub_cancel]
    have hlow := ofDigits_lt_of_limbsLt hxs.reverse
    rw [List.length_reverse] at hlow
    split
    · next hx0 =>
      -- 0 でない最上の語 `x` の最も上の bit が、全体の最も上の bit である
      have hpos : 0 < x := Nat.pos_of_ne_zero hx0
      have hlo : 2 ^ Nat.log2 x ≤ x := Nat.log2_self_le hx0
      have hhi : x < 2 ^ (Nat.log2 x + 1) := Nat.lt_log2_self
      have hsize_gt : Nat.log2 x + w * xs.length < Nat.size (ofDigits (2 ^ w) xs.reverse + 2 ^ (w * xs.length) * x) := by
        rw [Nat.lt_size, Nat.pow_add, Nat.mul_comm]
        calc 2 ^ (w * xs.length) * 2 ^ Nat.log2 x ≤ 2 ^ (w * xs.length) * x := Nat.mul_le_mul_left _ hlo
          _ ≤ _ := Nat.le_add_left _ _
      have hsize_le : Nat.size (ofDigits (2 ^ w) xs.reverse + 2 ^ (w * xs.length) * x) ≤
          Nat.log2 x + w * xs.length + 1 := by
        rw [Nat.size_le]
        calc ofDigits (2 ^ w) xs.reverse + 2 ^ (w * xs.length) * x
            < 2 ^ (w * xs.length) + 2 ^ (w * xs.length) * x := by omega
          _ = 2 ^ (w * xs.length) * (x + 1) := by ring
          _ ≤ 2 ^ (w * xs.length) * 2 ^ (Nat.log2 x + 1) := Nat.mul_le_mul_left _ hhi
          _ = 2 ^ (Nat.log2 x + w * xs.length + 1) := by rw [← Nat.pow_add]; ring_nf
      omega
    · next hx0 =>
      rw [not_not] at hx0
      subst hx0
      rw [Nat.mul_zero, Nat.add_zero]
      exact maxSetBitLimbs_eq_size hw xs hxs

end Infra
