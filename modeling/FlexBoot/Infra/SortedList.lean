import Mathlib

/-!
# 整列した列への挿入

受信 queue のような列は、新しい項を「条件を満たす最初の項の前」に入れて整列を保つ。
ここではその挿入 `insertBefore` だけを取り出す。

* `insertBefore_perm` — 挿入した列は、先頭に足した列の並べ替えである
* `pairwise_insertBefore` — 鍵が `a` より大きい最初の項の前に入れれば、鍵の順は崩れない
* `map_insertBefore` — 項を写しても、条件が写した先で同じなら挿入と写像は入れ替わる
-/

namespace Infra

variable {α β : Type*}

/-- `p` を満たす最初の項の前に `a` を入れる。なければ最後に足す。 -/
def insertBefore (p : α → Bool) (a : α) : List α → List α
  | [] => [a]
  | b :: l => if p b then a :: b :: l else b :: insertBefore p a l

theorem insertBefore_perm (p : α → Bool) (a : α) : ∀ l : List α, (insertBefore p a l).Perm (a :: l)
  | [] => List.Perm.refl _
  | b :: l => by
    unfold insertBefore
    split
    · exact List.Perm.refl _
    · exact ((insertBefore_perm p a l).cons b).trans (List.Perm.swap a b l)

theorem mem_insertBefore {p : α → Bool} {a x : α} {l : List α} :
    x ∈ insertBefore p a l ↔ x = a ∨ x ∈ l := by
  rw [(insertBefore_perm p a l).mem_iff, List.mem_cons]

/-- 鍵が `a` より真に大きい最初の項の前に入れる。同じ鍵の項の後ろに入るので安定である。 -/
theorem pairwise_insertBefore (key : α → Nat) (a : α) :
    ∀ {l : List α}, l.Pairwise (fun x y => key x ≤ key y) →
      (insertBefore (fun b => decide (key a < key b)) a l).Pairwise (fun x y => key x ≤ key y)
  | [], _ => List.pairwise_singleton _ _
  | b :: l, hl => by
    have hb := List.pairwise_cons.mp hl
    unfold insertBefore
    split
    · next hab =>
      -- `a` が先頭に立つ：`b` とその後ろはどれも `b` 以上で、`b` は `a` より大きい
      have hab : key a < key b := of_decide_eq_true hab
      refine List.pairwise_cons.mpr ⟨?_, hl⟩
      intro c hc
      rcases List.mem_cons.mp hc with rfl | hc
      · exact Nat.le_of_lt hab
      · exact Nat.le_trans (Nat.le_of_lt hab) (hb.1 c hc)
    · next hab =>
      have hba : key b ≤ key a := Nat.le_of_not_lt (by simpa using hab)
      refine List.pairwise_cons.mpr ⟨?_, pairwise_insertBefore key a hb.2⟩
      intro c hc
      rcases mem_insertBefore.mp hc with rfl | hc
      · exact hba
      · exact hb.1 c hc

theorem map_insertBefore (f : α → β) {p : β → Bool} {q : α → Bool} (a : α) :
    ∀ {l : List α}, (∀ b ∈ l, p (f b) = q b) →
      (insertBefore q a l).map f = insertBefore p (f a) (l.map f)
  | [], _ => rfl
  | b :: l, h => by
    have ih := map_insertBefore f a (fun c hc => h c (List.mem_cons_of_mem b hc))
    simp only [insertBefore, List.map_cons, h b List.mem_cons_self]
    split <;> simp [ih]

end Infra
