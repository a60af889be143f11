import FlexBoot.Infra.Run

/-!
# 区切りで終わる行

列を区切り `sep` で行に分ける。区切りで終わった行（区切りを除く）を順に集め、最後の区切りの後に
残る部分は終わっていない行として持つ。一つずつ読む `lineStep` を `run` で回したものが
`splitLines` であり、行を読む側の仕様はこれで書く。

* `run_lineStep_open` — 区切りを含まない部分は、終わっていない行に足される
* `run_lineStep_line` — 区切りまでの部分は、終わっていない行と合わせて一つの行になる
* `run_lineStep_lines` — 先に集めた行は、後の読み方に影響しない
-/

namespace Infra

variable {α : Type*} [DecidableEq α] (sep : α)

/-- 一つ読む：区切りなら今の行を閉じ、そうでなければ今の行に足す。 -/
def lineStep (r : List (List α) × List α) (a : α) : List (List α) × List α :=
  if a = sep then (r.1 ++ [r.2], []) else (r.1, r.2 ++ [a])

/-- 区切りで終わる行（区切りを除く）と、最後の区切りの後に残る部分。 -/
def splitLines (s : List α) : List (List α) × List α := run (lineStep sep) ([], []) s

variable {sep}

theorem run_lineStep_open {u : List α} (hu : sep ∉ u) (r : List (List α) × List α) :
    run (lineStep sep) r u = (r.1, r.2 ++ u) := by
  induction u generalizing r with
  | nil => simp
  | cons a u ih =>
    have ha : a ≠ sep := fun h => hu (h ▸ List.mem_cons_self)
    rw [run_cons, ih (fun h => hu (List.mem_cons_of_mem a h))]
    simp [lineStep, ha]

theorem run_lineStep_line {u : List α} (hu : sep ∉ u) (r : List (List α) × List α) (v : List α) :
    run (lineStep sep) r (u ++ sep :: v) = run (lineStep sep) (r.1 ++ [r.2 ++ u], []) v := by
  rw [run_append, run_lineStep_open hu, run_cons]
  simp [lineStep]

/-- 先に集めた行は前に付くだけで、残りの読み方は終わっていない行だけで決まる。 -/
theorem run_lineStep_lines (L : List (List α)) (t v : List α) :
    run (lineStep sep) (L, t) v =
      (L ++ (run (lineStep sep) ([], t) v).1, (run (lineStep sep) ([], t) v).2) := by
  induction v generalizing L t with
  | nil => simp
  | cons a v ih =>
    rw [run_cons, run_cons]
    by_cases ha : a = sep
    · simp only [lineStep, ha, if_true, List.nil_append]
      rw [ih, ih [t]]
      simp
    · simp only [lineStep, ha, if_false]
      rw [ih, ih []]

/-- 区切りを含まない部分の後の区切りは、その部分の長さの位置に最初に現れる。 -/
theorem idxOf?_append_cons {β : Type*} [BEq β] [LawfulBEq β] {a : β} {u : List β} (hu : a ∉ u) (v : List β) :
    (u ++ a :: v).idxOf? a = some u.length := by
  induction u with
  | nil => simp [List.idxOf?_cons]
  | cons b u ih =>
    have hb : (b == a) = false := beq_false_of_ne fun h => hu (h ▸ List.mem_cons_self)
    rw [List.cons_append, List.idxOf?_cons, hb, ih (fun h => hu (List.mem_cons_of_mem b h))]
    rfl

/-- 要素を含む列は、その最初の出現で二つに分かれる。 -/
theorem exists_eq_append_cons_of_mem {a : α} {l : List α} (h : a ∈ l) : ∃ u v, l = u ++ a :: v ∧ a ∉ u := by
  induction l with
  | nil => exact absurd h List.not_mem_nil
  | cons b l ih =>
    by_cases hb : b = a
    · exact ⟨[], l, by rw [hb]; rfl, List.not_mem_nil⟩
    · obtain ⟨u, v, rfl, hu⟩ := ih (List.mem_of_ne_of_mem (Ne.symm hb) h)
      exact ⟨b :: u, v, rfl, by simp [hu, Ne.symm hb]⟩

end Infra
