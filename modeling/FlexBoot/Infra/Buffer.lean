import Mathlib

/-!
# 範囲を調べる読み書き

packet の buffer のような固定長の列に対して、位置と長さを指定して読み書きする。
範囲の外を指すと `none` になる。`memcpy` の二つの範囲が重なるかどうかも言う。

書いた結果は `splice`（前を残し、間を置き換え、後ろを残した列）である。証明に使うのは

* `length_splice` — 範囲の中に書いても長さは変わらない
* `sliceAt_splice_self` — 書いた所を読むと書いたものが返る
* `sliceAt_splice_of_disjoint` — 書いた所と重ならない所は変わらない
* `sliceAt_take` — 後ろを切り落としても、その手前の読み出しは変わらない
* `sliceAt_splice_slice` — 同じ列の中で写すと、写した先は写す元を読んだものになる
* `splice_append_left` — 前の列の中に書けば、後ろに続く列は残る
* `splice_append_of_length_eq`、`splice_front` — 列の終わりか始めの、同じ長さの部分を置き換える
* `splice_splice` — 続けて二度書くのは、続けた列を一度書くのと同じ

の九つである。
-/

namespace Infra

variable {α : Type*}

/-- 位置 `i` から `n` 個。範囲の外なら `none`。 -/
def sliceAt (b : List α) (i n : Nat) : Option (List α) :=
  if i + n ≤ b.length then some ((b.drop i).take n) else none

/-- 位置 `i` からを `d` で置き換えた列。 -/
def splice (b : List α) (i : Nat) (d : List α) : List α := b.take i ++ d ++ b.drop (i + d.length)

/-- 位置 `i` から `d` を書く。範囲の外なら `none`。 -/
def writeAt (b : List α) (i : Nat) (d : List α) : Option (List α) :=
  if i + d.length ≤ b.length then some (splice b i d) else none

/-- 長さ `n` の二つの範囲 `[i, i + n)` と `[j, j + n)` が重なる。 -/
def overlaps (i j n : Nat) : Bool := n != 0 && i < j + n && j < i + n

theorem sliceAt_eq_some {b : List α} {i n : Nat} (h : i + n ≤ b.length) :
    sliceAt b i n = some ((b.drop i).take n) := if_pos h

theorem sliceAt_eq_none {b : List α} {i n : Nat} (h : b.length < i + n) : sliceAt b i n = none :=
  if_neg (by omega)

theorem writeAt_eq_some {b d : List α} {i : Nat} (h : i + d.length ≤ b.length) :
    writeAt b i d = some (splice b i d) := if_pos h

theorem writeAt_eq_none {b d : List α} {i : Nat} (h : b.length < i + d.length) :
    writeAt b i d = none := if_neg (by omega)

theorem length_of_writeAt {b d e : List α} {i : Nat} (h : writeAt b i d = some e) :
    e.length = b.length := by
  unfold writeAt at h
  split at h
  · next hle =>
    cases h
    simp only [splice, List.length_append, List.length_take, List.length_drop]
    omega
  · cases h

theorem splice_nil (b : List α) (i : Nat) : splice b i [] = b := by
  simp [splice]

theorem length_splice {b d : List α} {i : Nat} (h : i + d.length ≤ b.length) :
    (splice b i d).length = b.length := by
  simp only [splice, List.length_append, List.length_take, List.length_drop]
  omega

/-- 書いた範囲の外の要素は、元の列の同じ位置の要素である。 -/
theorem getElem_splice {b d : List α} {i k : Nat} (hb : i + d.length ≤ b.length)
    (hk : k < (b.take i ++ d ++ b.drop (i + d.length)).length) (hkb : k < b.length)
    (hout : k < i ∨ i + d.length ≤ k) :
    (b.take i ++ d ++ b.drop (i + d.length))[k] = b[k] := by
  rcases hout with hout | hout
  · rw [List.getElem_append_left (by simp; omega), List.getElem_append_left (by simp; omega),
      List.getElem_take]
  · rw [List.getElem_append_right (by simp; omega), List.getElem_drop]
    congr 1
    simp only [List.length_append, List.length_take]
    omega

theorem sliceAt_splice_self {b d : List α} {i : Nat} (h : i + d.length ≤ b.length) :
    sliceAt (splice b i d) i d.length = some d := by
  rw [sliceAt_eq_some (by rw [length_splice h]; omega)]
  -- 前の `i` 個を落とすと、ちょうど書いたものから始まる
  have hi : (b.take i).length = i := by simp; omega
  rw [splice, List.append_assoc, List.drop_left' hi, List.take_left' rfl]

theorem sliceAt_splice_of_disjoint {b d : List α} {i j n : Nat} (h : i + d.length ≤ b.length)
    (hd : j + n ≤ i ∨ i + d.length ≤ j) : sliceAt (splice b i d) j n = sliceAt b j n := by
  unfold sliceAt
  rw [length_splice h]
  split
  · next hj =>
    congr 1
    apply List.ext_getElem
    · simp only [List.length_take, List.length_drop, length_splice h]
    · intro k hk₁ hk₂
      simp only [List.getElem_take, List.getElem_drop]
      unfold splice
      exact getElem_splice h _ (by simp at hk₂; omega)
        (by rcases hd with hd | hd <;> simp at hk₂ <;> omega)
  · rfl

/-- `memcpy` の形の書き込み。写した先を読むと、書く前に写す元を読んだものが返る。 -/
theorem sliceAt_splice_slice {b : List α} {dst src n : Nat} (hs : src + n ≤ b.length)
    (hd : dst + n ≤ b.length) :
    sliceAt (splice b dst ((b.drop src).take n)) dst n = sliceAt b src n := by
  have hl : ((b.drop src).take n).length = n := by simp; omega
  have h := sliceAt_splice_self (b := b) (i := dst) (d := (b.drop src).take n) (by rw [hl]; exact hd)
  rw [hl] at h
  rw [h, sliceAt_eq_some hs]

/-- 1 個の読み出しの先頭は、その位置の要素である。 -/
theorem headD_take_one_drop {b : List α} {i : Nat} (d : α) (h : i < b.length) :
    ((b.drop i).take 1).headD d = b.getD i d := by
  rw [List.drop_eq_getElem_cons h, List.take_succ_cons, List.take_zero, List.getD_eq_getElem?_getD,
    List.getElem?_eq_getElem h]
  rfl

theorem splice_append_left {p q d : List α} {i : Nat} (h : i + d.length ≤ p.length) :
    splice (p ++ q) i d = splice p i d ++ q := by
  simp only [splice, List.take_append_of_le_length (by omega : i ≤ p.length),
    List.drop_append_of_le_length h, List.append_assoc]

theorem splice_append_of_length_eq {p g d : List α} (hg : g.length = d.length) :
    splice (p ++ g) p.length d = p ++ d := by
  simp [splice, hg]

theorem splice_front {g q d : List α} (hg : g.length = d.length) : splice (g ++ q) 0 d = d ++ q := by
  simp [splice, hg]

/-- 書いた所のすぐ後ろに続けて書くのは、二つを続けた列を一度に書くのと同じ。 -/
theorem splice_splice {b d e : List α} {i : Nat} (h : i + d.length ≤ b.length) :
    splice (splice b i d) (i + d.length) e = splice b i (d ++ e) := by
  have hl : (b.take i ++ d).length = i + d.length := by
    rw [List.length_append, List.length_take, Nat.min_eq_left (by omega)]
  have hdrop : (b.take i ++ d ++ b.drop (i + d.length)).drop (i + d.length + e.length) =
      b.drop (i + (d.length + e.length)) := by
    rw [List.drop_append, List.drop_eq_nil_of_le (by omega), hl, List.nil_append,
      Nat.add_sub_cancel_left, List.drop_drop, Nat.add_assoc]
  simp only [splice]
  rw [List.take_left' hl, hdrop, List.length_append]
  simp only [List.append_assoc]

theorem sliceAt_take {b : List α} {i n k : Nat} (h : i + n ≤ k) :
    sliceAt (b.take k) i n = sliceAt b i n := by
  unfold sliceAt
  by_cases hb : i + n ≤ b.length
  · rw [if_pos (by simp; omega), if_pos hb, List.drop_take]
    congr 1
    rw [List.take_take]
    congr 1
    omega
  · rw [if_neg (by simp; omega), if_neg hb]

/-! ## buffer に入るだけ書く

`dns_decode` や `dns_copy` は、書くものが buffer を越えれば入るだけ書いて、残りは捨てる。
`fillAt b i d` はそうして `d` を位置 `i` から書いた列で、長さは変わらない。続けて書いたものは
つないで一度に書いたものと同じになる（`fillAt_append`、`fillAt_set`）。
-/

/-- 位置 `i` から `d` を、`b` に入るだけ書いた列。 -/
def fillAt (b : List α) (i : Nat) (d : List α) : List α := splice b i (d.take (b.length - i))

theorem fillAt_nil (b : List α) (i : Nat) : fillAt b i [] = b := by
  simp [fillAt, splice_nil]

theorem fillAt_of_le {b d : List α} {i : Nat} (h : i + d.length ≤ b.length) :
    fillAt b i d = b.take i ++ d ++ b.drop (i + d.length) := by
  rw [fillAt, List.take_of_length_le (by omega), splice]

theorem length_fillAt (b : List α) (i : Nat) (d : List α) : (fillAt b i d).length = b.length := by
  simp only [fillAt, splice, List.length_append, List.length_take, List.length_drop]
  omega

theorem fillAt_append (b : List α) (i : Nat) (u v : List α) :
    splice (fillAt b i u) (i + u.length) (v.take (b.length - (i + u.length))) = fillAt b i (u ++ v) := by
  by_cases h : i + u.length ≤ b.length
  · -- `u` は全部入り、`v` は入るだけ続く
    rw [fillAt_of_le h, fillAt, List.take_append, List.take_of_length_le (by omega : u.length ≤ b.length - i)]
    have hp : (b.take i ++ u).length = i + u.length := by simp; omega
    have hsub : b.length - i - u.length = b.length - (i + u.length) := by omega
    simp only [splice, List.length_append, List.length_take]
    rw [hsub, List.take_left' hp, ← hp, List.drop_length_add_append, List.drop_drop, hp]
    simp only [List.append_assoc, Nat.add_assoc]
  · -- `u` の途中で buffer が終わる：`v` は何も書かない
    rw [Nat.sub_eq_zero_of_le (by omega), List.take_zero, splice_nil, fillAt, fillAt, List.take_append,
      Nat.sub_eq_zero_of_le (by omega : b.length - i ≤ u.length), List.take_zero, List.append_nil]

theorem fillAt_set (b : List α) (i : Nat) (u : List α) (c : α) :
    (fillAt b i u).set (i + u.length) c = fillAt b i (u ++ [c]) := by
  rw [← fillAt_append]
  by_cases h : i + u.length < b.length
  · rw [List.take_of_length_le (by simp; omega), List.set_eq_take_append_cons_drop, if_pos (by rw [length_fillAt]; exact h)]
    simp [splice]
  · rw [Nat.sub_eq_zero_of_le (by omega), List.take_zero, splice_nil, List.set_eq_of_length_le (by rw [length_fillAt]; omega)]

/-- 続けて書くのは、つないで一度に書くのと同じである。 -/
theorem fillAt_fillAt (b : List α) (i : Nat) (u v : List α) :
    fillAt (fillAt b i u) (i + u.length) v = fillAt b i (u ++ v) := by
  rw [fillAt, length_fillAt, fillAt_append]

/-- 一つ書くのは `List.set` である。 -/
theorem fillAt_singleton (b : List α) (i : Nat) (c : α) : fillAt b i [c] = b.set i c := by
  have hset := fillAt_set b i [] c
  rw [fillAt_nil, List.length_nil, Nat.add_zero, List.nil_append] at hset
  exact hset.symm

/-- 書いたものの頭を書き直す。 -/
theorem fillAt_set_head {b : List α} {i : Nat} (x y : α) (w : List α) (h : i < b.length) :
    (fillAt b i (x :: w)).set i y = fillAt b i (y :: w) := by
  have hi : (b.take i).length = i := by simp; omega
  rw [fillAt, fillAt, show b.length - i = (b.length - i - 1) + 1 by omega, List.take_succ_cons,
    List.take_succ_cons, splice, splice, List.append_assoc, List.set_append_right _ _ (by omega), hi,
    Nat.sub_self]
  simp

/-- 元の要素を書いても変わらない。 -/
theorem fillAt_getElem_self {b : List α} {i : Nat} (h : i < b.length) : fillAt b i [b[i]] = b := by
  rw [fillAt_singleton, List.set_getElem_self]

end Infra
