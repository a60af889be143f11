import FlexBoot.Core.Linebuf
import FlexBoot.Infra.Lines

/-!
# 行の buffer と、流れの行

`line_buffer` を断片ごとに `linebuf_test` の形で呼ぶと、`buffered_line` は流れの `'\n'` で終わる
行を、終わりの `'\r'` を一つ落として順に返す。ただし `'\n'` だけの行（流れの先頭の `'\n'` か
`"\n\n"`）では、CR の検査が確保した領域の前の byte を読む。

* `lineBuffer_open` と `lineBuffer_line` — 一回の呼び出しが `'\n'` を含まない data と、
  `'\n'` までの data に何をするか
* `linebufFeed_lines` — 一つの断片を渡し切ると、終わっていない行と断片から読める行を返す
* `linebufFeedAll_lines` — どう断片に分けても、流れ全体から読める行を返す

終わっていない行は `LineBuffer.pending` で、断片の切れ目を越えて運ばれる状態はこれだけである。
-/

namespace FlexBoot

open Infra

/-- 終わっていない行。ready な行は次の呼び出しの最初に捨てられる。 -/
def LineBuffer.pending (lb : LineBuffer) : Bytes := if lb.ready then [] else lb.data

@[simp] theorem LineBuffer.pending_ready (data : Bytes) : (⟨data, true⟩ : LineBuffer).pending = [] := rfl

@[simp] theorem LineBuffer.pending_not_ready (data : Bytes) : (⟨data, false⟩ : LineBuffer).pending = data := rfl

/-- 行の仕様：終わりの `'\r'` を一つだけ落とす。 -/
def stripCr (l : Bytes) : Bytes := if l.getLast? = some 13 then l.dropLast else l

/-- 呼び出しの最初に ready な行を捨てた後の data は、終わっていない行である。 -/
theorem data_emptyIfReady (lb : LineBuffer) :
    (if lb.ready then emptyLineBuffer else lb).data = lb.pending := by
  unfold LineBuffer.pending
  split <;> rfl

/-- 読んだ行 `r.1` と終わっていない行 `r.2` に対する結果の仕様：空の行があれば CR の検査が
領域の前を読み、なければ行を `'\r'` を一つ落として返し、終わっていない行を持つ。 -/
def FeedsLines (r : List Bytes × Bytes) (res : Except Fault (Option (LineBuffer × List Bytes))) : Prop :=
  if [] ∈ r.1 then res = .error .bufferUnderrun
  else ∃ lb, res = .ok (some (lb, r.1.map stripCr)) ∧ lb.pending = r.2

/-- 何も読んでいない時の結果。 -/
theorem feedsLines_nil (lb : LineBuffer) : FeedsLines ([], lb.pending) (.ok (some (lb, []))) := by
  simp only [FeedsLines, List.not_mem_nil, if_false]
  exact ⟨lb, rfl, rfl⟩

/-- 空でない行 `L` を先に返してから続きを読んでも、結果の仕様は行をつないだものである。 -/
theorem FeedsLines.append {L : List Bytes} (hL : [] ∉ L) {r : List Bytes × Bytes}
    {res : Except Fault (Option (LineBuffer × List Bytes))} (h : FeedsLines r res) :
    FeedsLines (L ++ r.1, r.2) (res >>= fun rest => .ok (rest.map fun x => (x.1, L.map stripCr ++ x.2))) := by
  unfold FeedsLines at h ⊢
  have hmem : [] ∈ L ++ r.1 ↔ [] ∈ r.1 := by simp [hL]
  by_cases hr : [] ∈ r.1
  · rw [if_pos hr] at h
    rw [if_pos (hmem.2 hr), h]
    rfl
  · rw [if_neg hr] at h
    obtain ⟨lb, hres, hpend⟩ := h
    rw [if_neg (mt hmem.1 hr), hres]
    exact ⟨lb, by simp, hpend⟩

section Alloc

variable {alloc : Nat → Bool} (halloc : ∀ n, alloc n = true)
include halloc

theorem lineBuffer_open (lb : LineBuffer) {data : Bytes} (hd : 10 ∉ data) :
    lineBuffer alloc lb data = .ok (some data.length, ⟨lb.pending ++ data, false⟩) := by
  have heol : data.idxOf? 10 = none := List.idxOf?_eq_none_iff.2 hd
  simp only [lineBuffer, heol, halloc, data_emptyIfReady, List.take_length]
  rfl

/-- `'\n'` までの data は、終わっていない行と合わせて一つの行になる。その行が空なら CR の検査が
領域の前を読む。 -/
theorem lineBuffer_line (lb : LineBuffer) {u : Bytes} (hu : 10 ∉ u) (v : Bytes) :
    lineBuffer alloc lb (u ++ 10 :: v) =
      if lb.pending ++ u = [] then .error .bufferUnderrun
      else .ok (some (u.length + 1), ⟨stripCr (lb.pending ++ u), true⟩) := by
  have heol := idxOf?_append_cons hu v
  have hbuf : lb.pending ++ (u ++ 10 :: v).take (u.length + 1) = (lb.pending ++ u) ++ [10] := by
    rw [List.take_append, List.take_of_length_le (by omega), Nat.add_sub_cancel_left]
    simp
  have hlen : lb.pending.length + (u.length + 1) - 1 = (lb.pending ++ u).length := by
    rw [List.length_append]
    omega
  simp only [lineBuffer, heol, halloc, data_emptyIfReady, Bool.true_eq_false, if_false]
  rw [hbuf, hlen]
  generalize lb.pending ++ u = l
  by_cases hl : l = []
  · subst hl
    rfl
  have hpos : l.length - 1 < l.length := by
    have := List.length_pos_iff.2 hl
    omega
  -- NL を落とした後の最後の byte と、その前までと、NL の前まで
  have hlast : (l ++ [10])[l.length - 1]? = l.getLast? := by
    rw [List.getElem?_append_left hpos, List.getLast?_eq_getElem?]
  have hdrop : (l ++ [10]).take (l.length - 1) = l.dropLast := by
    rw [List.take_append_of_le_length (Nat.le_of_lt hpos), List.dropLast_eq_take]
  rw [if_neg (by simpa using hl), if_neg hl, hlast, hdrop, List.take_left, stripCr]
  split <;> rfl

/-- 一つの断片を渡し切ると、終わっていない行と断片から読める行を返す。燃料は断片の長さで足りる。 -/
theorem linebufFeed_lines : ∀ (fuel : Nat) (lb : LineBuffer) (data : Bytes), data.length ≤ fuel →
    FeedsLines (run (lineStep 10) ([], lb.pending) data) (linebufFeed alloc fuel lb data) := by
  intro fuel
  induction fuel with
  | zero =>
    intro lb data hlen
    rw [List.eq_nil_of_length_eq_zero (Nat.le_zero.1 hlen), linebufFeed_nil, run_nil]
    exact feedsLines_nil lb
  | succ fuel ih =>
    intro lb data hlen
    by_cases hnil : data = []
    · rw [hnil, linebufFeed_nil, run_nil]
      exact feedsLines_nil lb
    by_cases hmem : 10 ∈ data
    · -- 最初の `'\n'` までで一つの行を閉じ、残りは空の終わっていない行から読む
      obtain ⟨u, v, rfl, hu⟩ := exists_eq_append_cons_of_mem hmem
      have hv : v.length ≤ fuel := by
        simp only [List.length_append, List.length_cons] at hlen
        omega
      rw [run_lineStep_line hu, run_lineStep_lines, linebufFeed, if_neg hnil, lineBuffer_line halloc lb hu v]
      by_cases hl : lb.pending ++ u = []
      · rw [if_pos hl, FeedsLines, if_pos (by simp [hl])]
        rfl
      · rw [if_neg hl]
        have hdrop : (u ++ 10 :: v).drop (u.length + 1) = v := by simp
        have hrest := ih ⟨stripCr (lb.pending ++ u), true⟩ v hv
        have happ := FeedsLines.append (L := [lb.pending ++ u]) (by simpa using Ne.symm hl) hrest
        simpa [hdrop, bufferedLine] using happ
    · -- `'\n'` がなければ全部を終わっていない行に足す
      have hend : linebufFeed alloc fuel ⟨lb.pending ++ data, false⟩ (data.drop data.length) =
          .ok (some (⟨lb.pending ++ data, false⟩, [])) := by
        rw [List.drop_length, linebufFeed_nil]
      rw [run_lineStep_open hmem, linebufFeed, if_neg hnil, lineBuffer_open halloc lb hmem]
      simp only [ok_bind, hend, FeedsLines, List.not_mem_nil, if_false]
      exact ⟨_, rfl, rfl⟩

/-- どう断片に分けても、流れ全体から読める行を返す。断片の切れ目を越えるのは終わっていない行だけ
である。 -/
theorem linebufFeedAll_lines (frags : List Bytes) (lb : LineBuffer) :
    FeedsLines (run (lineStep 10) ([], lb.pending) frags.flatten) (linebufFeedAll alloc lb frags) := by
  induction frags generalizing lb with
  | nil => exact feedsLines_nil lb
  | cons f fs ih =>
    have hf := linebufFeed_lines halloc f.length lb f le_rfl
    rw [List.flatten_cons, run_append]
    generalize run (lineStep 10) ([], lb.pending) f = r at hf
    obtain ⟨L, t⟩ := r
    rw [run_lineStep_lines]
    unfold FeedsLines at hf
    by_cases hL : [] ∈ L
    · -- 最初の断片の中で止まる
      rw [if_pos hL] at hf
      rw [FeedsLines, if_pos (List.mem_append_left _ hL), linebufFeedAll, hf]
      rfl
    · rw [if_neg hL] at hf
      obtain ⟨lb1, hfeed, hpend⟩ := hf
      have hrest := ih lb1
      rw [hpend] at hrest
      rw [linebufFeedAll, hfeed]
      exact FeedsLines.append hL hrest

/-- `"H\r\nA"` と `"B\n"` に分けても、行は `"H"` と `"AB"` である。 -/
example : linebufFeedAll (fun _ => true) emptyLineBuffer [[72, 13, 10, 65], [66, 10]] =
    .ok (some (⟨[65, 66], true⟩, [[72], [65, 66]])) := rfl

end Alloc

/-- `line_buffer` を断片ごとに `linebuf_test` の形で呼ぶと、どう分けても `buffered_line` は流れの
`'\n'` で終わる行を、終わりの `'\r'` を一つ落として順に返し、終わっていない残りは返さない。
ただし `'\n'` だけの行があれば、そこで CR の検査が確保した領域の前の byte を読む。 -/
theorem lineBuffer_reads_before_empty_line :
    ∀ (alloc : Nat → Bool), (∀ n, alloc n = true) → ∀ frags : List Bytes,
      ([] ∉ (splitLines 10 frags.flatten).1 →
        ∃ lb, linebufFeedAll alloc emptyLineBuffer frags =
            .ok (some (lb, (splitLines 10 frags.flatten).1.map stripCr)) ∧
          lb.pending = (splitLines 10 frags.flatten).2) ∧
      ([] ∈ (splitLines 10 frags.flatten).1 →
        linebufFeedAll alloc emptyLineBuffer frags = .error .bufferUnderrun) := by
  intro alloc halloc frags
  -- 空の buffer から読むのは、流れ全体を区切ることである
  have h : FeedsLines (splitLines 10 frags.flatten) (linebufFeedAll alloc emptyLineBuffer frags) :=
    linebufFeedAll_lines halloc frags emptyLineBuffer
  unfold FeedsLines at h
  constructor
  · intro hne
    rw [if_neg hne] at h
    exact h
  · intro hmem
    rw [if_pos hmem] at h
    exact h

/-- `"H\n"` の後に `'\n'` だけの断片が来ると、CR の検査が領域の前を読む。 -/
theorem lineBuffer_reads_before_lone_newline :
    linebufFeedAll (fun _ => true) emptyLineBuffer [[72, 10], [10]] = .error .bufferUnderrun :=
  (lineBuffer_reads_before_empty_line (fun _ => true) (fun _ => rfl) [[72, 10], [10]]).2 (by decide)

end FlexBoot
