import FlexBoot.Net.Ipv6

/-!
# IPv6 アドレスの往復

`inet6_ntoa` が書いた文字列を `inet6_aton` で読むと、元の八つの語に戻る
（`inet6Aton_inet6Ntoa`）。

* `inet6_ntoa` の loop は、書いた語の列について三つのことを保つ（`NtoaInv`）。書いた文字は
  語ごとの `":%x"` をつないだもの、`start` と `len` は末尾の 0 の並び、`longest_start` が
  指すのは二語以上の 0 の並びである。そこから、文字列は縮めないものか、0 の並び一つを
  `::` にしたものになる（`inet6Ntoa_cases`）。
* `inet6_aton` は `:` の後の語を一つずつ読む。`::` の二つ目の `:` の前では数字を読まず、
  そこで `pad` が決まる（`inet6Aton_pieces`、`inet6Aton_compressed`）。
-/

namespace FlexBoot.Ipv6

open Infra FlexBoot

/-- 語ごとに `":%x"` を書いてつないだ列。 -/
def pieces (ws : List Nat) : Bytes := ws.flatMap fun w => 0x3A :: hexDigits w

@[simp] theorem pieces_nil : pieces [] = [] := rfl

@[simp] theorem pieces_cons (w : Nat) (ws : List Nat) :
    pieces (w :: ws) = 0x3A :: (hexDigits w ++ pieces ws) := rfl

theorem pieces_append (ws vs : List Nat) : pieces (ws ++ vs) = pieces ws ++ pieces vs :=
  List.flatMap_append

theorem pieces_eq_nil {ws : List Nat} : pieces ws = [] ↔ ws = [] := by
  cases ws <;> simp

/-- loop の一回が書く `":%x"`。 -/
theorem pieces_concat (ws : List Nat) (v : Nat) :
    pieces ws ++ ascii ":" ++ hexDigits v = pieces (ws ++ [v]) := by
  rw [pieces_append, List.append_assoc, show ascii ":" = [0x3A] from rfl]
  simp

/-- 0 の語は `":0"` の二文字である。 -/
theorem length_pieces_replicate_zero (n : Nat) : (pieces (List.replicate n 0)).length = 2 * n := by
  induction n with
  | zero => rfl
  | succ n ih =>
    rw [List.replicate_succ, pieces_cons, List.length_cons, List.length_append, ih]
    have : (hexDigits 0).length = 1 := rfl
    omega

/-! ## `inet6_ntoa` の loop -/

/-- loop が語の列 `past` を書いた後の状態。 -/
structure NtoaInv (past : List Nat) (st : NtoaState) : Prop where
  out : st.out = pieces past
  /-- 末尾の `len` 語は 0 で、並びがあれば `start` はその始まりを指す。 -/
  trailing : ∃ A, past = A ++ List.replicate st.len 0 ∧ (0 < st.len → st.start = (pieces A).length)
  longest_none : st.longestStart = none → st.longestLen = 1
  /-- `longest_start` は二語以上の 0 の並びの始まりを指す。 -/
  longest_some : ∀ ls, st.longestStart = some ls →
    2 ≤ st.longestLen ∧ ∃ A B, past = A ++ List.replicate st.longestLen 0 ++ B ∧ ls = (pieces A).length

theorem NtoaInv.init : NtoaInv [] NtoaState.init :=
  ⟨rfl, ⟨[], rfl, fun h => absurd h (Nat.lt_irrefl 0)⟩, fun _ => rfl, fun _ h => by cases h⟩

theorem NtoaInv.one_le_longestLen {past : List Nat} {st : NtoaState} (h : NtoaInv past st) :
    1 ≤ st.longestLen := by
  cases hl : st.longestStart with
  | none => exact (h.longest_none hl).ge
  | some ls => exact Nat.le_trans (by decide) (h.longest_some ls hl).1

/-- 0 でない語は並びを終わらせ、一番長い並びを変えない。 -/
theorem NtoaInv.step_ne {past : List Nat} {st : NtoaState} {v : Nat} (h : NtoaInv past st)
    (hv : v ≠ 0) : NtoaInv (past ++ [v]) (inet6NtoaStep st v) := by
  rw [inet6NtoaStep, if_neg hv]
  refine ⟨by rw [h.out, pieces_concat], ⟨past ++ [v], by simp, fun h0 => absurd h0 (Nat.lt_irrefl 0)⟩,
    h.longest_none, ?_⟩
  intro ls hls
  obtain ⟨hL, A, B, hpast, hA⟩ := h.longest_some ls hls
  exact ⟨hL, A, B ++ [v], by rw [hpast]; simp, hA⟩

/-- 0 の語は末尾の並びを一つ延ばし、それが一番長ければ覚える。 -/
theorem NtoaInv.step_zero {past : List Nat} {st : NtoaState} (h : NtoaInv past st) :
    NtoaInv (past ++ [0]) (inet6NtoaStep st 0) := by
  obtain ⟨A, hpast, hstart⟩ := h.trailing
  have hone := h.one_le_longestLen
  -- 延ばした並びの始まり
  have hs : (if st.len = 0 then st.out.length else st.start) = (pieces A).length := by
    split
    · next h0 => rw [h.out, hpast, h0]; simp
    · next h0 => exact hstart (Nat.pos_of_ne_zero h0)
  have htrail : past ++ [0] = A ++ List.replicate (st.len + 1) 0 := by
    rw [hpast, List.replicate_succ', List.append_assoc]
  have hout : st.out ++ ascii ":" ++ hexDigits 0 = pieces (past ++ [0]) := by
    rw [h.out, pieces_concat]
  rw [inet6NtoaStep, if_pos rfl]
  by_cases hgt : st.len + 1 > st.longestLen
  · simp only [if_pos hgt]
    refine ⟨hout, ⟨A, htrail, fun _ => hs⟩, (fun h => by cases h), ?_⟩
    intro ls hls
    cases hls
    exact ⟨by dsimp only; omega, A, [], by rw [htrail, List.append_nil], hs⟩
  · simp only [if_neg hgt]
    refine ⟨hout, ⟨A, htrail, fun _ => hs⟩, h.longest_none, ?_⟩
    intro ls hls
    obtain ⟨hL, A', B, hpast', hA'⟩ := h.longest_some ls hls
    exact ⟨hL, A', B ++ [0], by rw [hpast']; simp, hA'⟩

theorem NtoaInv.step {past : List Nat} {st : NtoaState} (h : NtoaInv past st) (v : Nat) :
    NtoaInv (past ++ [v]) (inet6NtoaStep st v) := by
  by_cases hv : v = 0
  · subst hv
    exact h.step_zero
  · exact h.step_ne hv

/-- loop を回し終えた状態。 -/
theorem ntoaInv_run (ws : List Nat) : NtoaInv ws (run inet6NtoaStep NtoaState.init ws) := by
  have := run_history (I := NtoaInv) (fun past st v h => NtoaInv.step h v) ws [] NtoaState.init
    NtoaInv.init
  rwa [List.nil_append] at this

/-- 覚えた並びを `::` にする。`strcpy` で並びの後を詰め、並びが先頭でなければ最初の `:` を
除く。 -/
theorem compress_pieces {st : NtoaState} {A B : List Nat} {ls : Nat}
    (hout : st.out = pieces (A ++ List.replicate st.longestLen 0 ++ B)) (hL : 2 ≤ st.longestLen)
    (hls : ls = (pieces A).length) :
    (if ls = 0 then st.out.take (ls + 1) ++ 0x3A :: (st.out.drop (ls + 2 * st.longestLen)).drop 1
      else (st.out.take (ls + 1) ++ 0x3A :: (st.out.drop (ls + 2 * st.longestLen)).drop 1).drop 1) =
      (pieces A).drop 1 ++ 0x3A :: 0x3A :: (pieces B).drop 1 := by
  obtain ⟨L', hL'⟩ : ∃ L', st.longestLen = L' + 1 := ⟨st.longestLen - 1, by omega⟩
  -- 並びの初めの `:` までと、並びの後
  have hout' : st.out = pieces A ++ (0x3A :: 0x30 :: pieces (List.replicate L' 0)) ++ pieces B := by
    rw [hout, pieces_append, pieces_append, hL', List.replicate_succ, pieces_cons]
    rfl
  have hlen : (pieces (List.replicate L' 0)).length = 2 * L' := length_pieces_replicate_zero L'
  have htake : st.out.take (ls + 1) = pieces A ++ [0x3A] := by
    rw [hout', hls, List.append_assoc, List.take_append, List.take_of_length_le (by omega),
      Nat.add_sub_cancel_left, List.take_append_of_le_length (by simp)]
    rfl
  have hdrop : st.out.drop (ls + 2 * st.longestLen) = pieces B := by
    rw [hout']
    exact List.drop_left' (by simp only [List.length_append, List.length_cons, hlen, hls, hL']; omega)
  rw [htake, hdrop]
  by_cases hA : A = []
  · subst hA
    have : ls = 0 := by rw [hls]; rfl
    simp [this]
  · have hne : pieces A ≠ [] := fun h => hA (pieces_eq_nil.mp h)
    have hls0 : ls ≠ 0 := by
      rw [hls]
      exact fun h => hne (List.eq_nil_of_length_eq_zero h)
    rw [if_neg hls0, List.append_assoc, List.drop_append_of_le_length (List.length_pos_of_ne_nil hne)]
    rfl

/-- `inet6_ntoa` の文字列は、語を `:` でつないだものか、0 の並び一つを `::` に縮めたもので
ある。 -/
theorem inet6Ntoa_cases (raw : Bytes) :
    inet6Ntoa raw = (pieces (ntohsWords (raw.take 16))).drop 1 ∨
      ∃ A L B, 2 ≤ L ∧ ntohsWords (raw.take 16) = A ++ List.replicate L 0 ++ B ∧
        inet6Ntoa raw = (pieces A).drop 1 ++ 0x3A :: 0x3A :: (pieces B).drop 1 := by
  have hinv := ntoaInv_run (ntohsWords (raw.take 16))
  unfold inet6Ntoa
  generalize run inet6NtoaStep NtoaState.init (ntohsWords (raw.take 16)) = st at hinv ⊢
  cases hl : st.longestStart with
  | none =>
    left
    simp only [hl, hinv.out]
  | some ls =>
    right
    obtain ⟨hL, A, B, hws, hls⟩ := hinv.longest_some ls hl
    refine ⟨A, st.longestLen, B, hL, hws, ?_⟩
    simp only [hl]
    exact compress_pieces (by rw [hinv.out, hws]) hL hls

/-! ## `inet6_aton` の一語 -/

section Aton

variable (arch : Arch) (string : Bytes)

/-- `:` の前では数字を一つも読まない。 -/
theorem strtoul_colon (t : Bytes) : strtoul arch (0x3A :: t) 16 = (0, 0x3A :: t) := by
  have hs : isspace ((0x3A :: t).headD 0) = false := by
    rw [List.headD_cons]
    decide
  have hm : (0x3A :: t).headD 0 ≠ 0x2D := by
    rw [List.headD_cons]
    decide
  have hstop : 16 ≤ strtoulCharval (ucharval ((0x3A :: t).headD 0)) := by
    rw [List.headD_cons]
    decide
  rw [strtoul_of_head hs hm (strtoulBase_of_ne_zero (by decide)), strtoulDigits_of_stop (.inr hstop)]

theorem strtoul_nil_sixteen : strtoul arch [] 16 = (0, []) := by
  cases arch <;> rfl

/-- 一語の数字を、終わりか `:` まで読む。 -/
theorem strtoul_word {w : Nat} (hw : w < 65536) {rest : Bytes} (hrest : rest = [] ∨ rest.headD 0 = 0x3A) :
    strtoul arch (hexDigits w ++ rest) 16 = (w, rest) := by
  have hr : rest = [] ∨ 16 ≤ strtoulCharval (ucharval (rest.headD 0)) := by
    rcases hrest with h | h
    · exact .inl h
    · right
      rw [h]
      decide
  have hpow : 65536 ≤ 2 ^ arch.longBits :=
    Nat.le_trans (by decide) (Nat.pow_le_pow_right (by decide) (Arch.longBits_ge arch))
  rw [strtoul_hexDigits arch w hr, Nat.mod_eq_of_lt (by omega)]

-- loop の一回分の式。以下の証明は `inet6AtonWords` を開かず、これで一語進める
theorem inet6AtonWords_eq (k : Nat) (nptr : Bytes) (words : List Nat) (pad : Option Nat) :
    inet6AtonWords arch string k nptr words pad =
      let (value, endptr) := strtoul arch nptr 16
      if value > 0xffff then none
      else
        let words := words ++ [value]
        if endptr.headD 0 = 0 then some (words, pad)
        else if endptr.headD 0 ≠ 0x3A then none
        else
          let empty := endptr.length = nptr.length ∧ nptr.length ≠ string.length
          if empty ∧ pad.isSome then none
          else
            let pad := if empty then some words.length else pad
            match k with
            | 0 => none
            | k + 1 => inet6AtonWords arch string k (endptr.drop 1) words pad :=
  (inet6AtonWords.eq_def arch string k nptr words pad).trans rfl

/-- 最後の語。 -/
theorem inet6AtonWords_last {w : Nat} (hw : w < 65536) (k : Nat) (words : List Nat) (pad : Option Nat) :
    inet6AtonWords arch string k (hexDigits w) words pad = some (words ++ [w], pad) := by
  have hread := @strtoul_word arch w hw [] (.inl rfl)
  rw [List.append_nil] at hread
  rw [inet6AtonWords_eq]
  simp only [hread, if_neg (show ¬w > 0xffff by omega), List.headD_nil, if_true]

/-- `:` の前の語。数字を読んだので `pad` は変わらない。 -/
theorem inet6AtonWords_word {w : Nat} (hw : w < 65536) (k : Nat) (t : Bytes) (words : List Nat)
    (pad : Option Nat) :
    inet6AtonWords arch string (k + 1) (hexDigits w ++ 0x3A :: t) words pad =
      inet6AtonWords arch string k t (words ++ [w]) pad := by
  have hread := @strtoul_word arch w hw (0x3A :: t) (.inr rfl)
  have hne : (0x3A :: t).length ≠ (hexDigits w ++ 0x3A :: t).length := by
    have := List.length_pos_of_ne_nil (hexDigits_ne_nil w)
    simp only [List.length_append]
    omega
  rw [inet6AtonWords_eq]
  simp only [hread, if_neg (show ¬w > 0xffff by omega), List.headD_cons, hne, false_and, if_false]
  simp

/-- 文字列の先頭の `:`。数字はないが、先頭なので `pad` にはならない。 -/
theorem inet6AtonWords_empty_first (k : Nat) (t : Bytes) (words : List Nat) (pad : Option Nat)
    (hs : (0x3A :: t).length = string.length) :
    inet6AtonWords arch string (k + 1) (0x3A :: t) words pad =
      inet6AtonWords arch string k t (words ++ [0]) pad := by
  rw [inet6AtonWords_eq]
  simp only [strtoul_colon, List.headD_cons, hs]
  simp

/-- 先頭でない `:` の前に数字がなければ、そこが `::` の位置になる。 -/
theorem inet6AtonWords_empty_pad (k : Nat) (t : Bytes) (words : List Nat)
    (hs : (0x3A :: t).length ≠ string.length) :
    inet6AtonWords arch string (k + 1) (0x3A :: t) words none =
      inet6AtonWords arch string k t (words ++ [0]) (some (words.length + 1)) := by
  have hs' : t.length + 1 ≠ string.length := by simpa using hs
  rw [inet6AtonWords_eq]
  simp [strtoul_colon, hs']

/-- 空の語で終わる。 -/
theorem inet6AtonWords_nil (k : Nat) (words : List Nat) (pad : Option Nat) :
    inet6AtonWords arch string k [] words pad = some (words ++ [0], pad) := by
  rw [inet6AtonWords_eq]
  simp [strtoul_nil_sixteen]

/-- `:` でつないだ語を終わりまで読む。 -/
theorem inet6AtonWords_pieces (k : Nat) (w : Nat) (ws : List Nat) (hw : ∀ v ∈ w :: ws, v < 65536)
    (words : List Nat) (pad : Option Nat) :
    inet6AtonWords arch string (k + ws.length) (hexDigits w ++ pieces ws) words pad =
      some (words ++ w :: ws, pad) := by
  induction ws generalizing w words with
  | nil => simpa using inet6AtonWords_last arch string (hw w (by simp)) k words pad
  | cons v ws ih =>
    rw [pieces_cons, List.length_cons, ← Nat.add_assoc,
      inet6AtonWords_word arch string (hw w (by simp)),
      ih v (fun u hu => hw u (List.mem_cons_of_mem w hu))]
    simp

/-- `:` でつないだ語を、その後の `:` まで読む。 -/
theorem inet6AtonWords_pieces_colon (k : Nat) (w : Nat) (ws : List Nat) (t : Bytes)
    (hw : ∀ v ∈ w :: ws, v < 65536) (words : List Nat) (pad : Option Nat) :
    inet6AtonWords arch string (k + ws.length + 1) (hexDigits w ++ pieces ws ++ 0x3A :: t) words pad =
      inet6AtonWords arch string k t (words ++ w :: ws) pad := by
  induction ws generalizing w words with
  | nil => simpa using inet6AtonWords_word arch string (hw w (by simp)) k t words pad
  | cons v ws ih =>
    rw [pieces_cons, List.length_cons, List.append_assoc, List.cons_append,
      show k + (ws.length + 1) + 1 = (k + ws.length + 1) + 1 by omega,
      inet6AtonWords_word arch string (hw w (by simp)),
      ih v (fun u hu => hw u (List.mem_cons_of_mem w hu))]
    simp

end Aton

/-! ## 語と byte -/

theorem length_ntohsWords_of_length : ∀ {raw : Bytes} {n : Nat}, raw.length = 2 * n →
    (ntohsWords raw).length = n
  | [], 0, _ => rfl
  | [], _ + 1, h => by simp at h
  | [_], _, h => by simp at h; omega
  | _ :: _ :: rest, 0, h => by simp at h
  | _ :: _ :: rest, n + 1, h => by
    rw [ntohsWords, List.length_cons, length_ntohsWords_of_length (n := n) (by simp at h; omega)]

theorem lt_of_mem_ntohsWords : ∀ {raw : Bytes} {v : Nat}, v ∈ ntohsWords raw → v < 65536
  | hi :: lo :: rest, v, h => by
    rw [ntohsWords, List.mem_cons] at h
    rcases h with rfl | h
    · exact be16_lt _ _
    · exact lt_of_mem_ntohsWords h
  | [], _, h | [_], _, h => by simp [ntohsWords] at h

/-- 語を `htons` して並べると、元の byte 列に戻る。 -/
theorem htonsBytes_ntohsWords : ∀ {raw : Bytes}, raw.length % 2 = 0 → htonsBytes (ntohsWords raw) = raw
  | [], _ => rfl
  | [_], h => by simp at h
  | hi :: lo :: rest, h => by
    have ih : htonsBytes (ntohsWords rest) = rest := htonsBytes_ntohsWords (by simp at h; omega)
    rw [ntohsWords, htonsBytes, List.flatMap_cons, ← htonsBytes, ih]
    have hhi := hi.toNat_lt
    have hlo := lo.toNat_lt
    have e1 : UInt8.ofNat ((hi.toNat * 256 + lo.toNat) / 256) = hi :=
      UInt8.toNat_inj.mp (by simp only [UInt8.toNat_ofNat', Nat.reducePow]; omega)
    have e2 : UInt8.ofNat (hi.toNat * 256 + lo.toNat) = lo :=
      UInt8.toNat_inj.mp (by simp only [UInt8.toNat_ofNat', Nat.reducePow]; omega)
    simp only [toBe16, be16, List.getD_cons_zero, List.getD_cons_succ, e1, e2]
    rfl

/-! ## 往復 -/

section Roundtrip

variable (arch : Arch)

/-- 先頭の語は `:` の前にない。 -/
theorem drop_one_pieces_cons (w : Nat) (ws : List Nat) :
    (pieces (w :: ws)).drop 1 = hexDigits w ++ pieces ws := rfl

/-- 縮めていない八語は読み戻せる。 -/
theorem inet6Aton_pieces {ws : List Nat} (h8 : ws.length = 8) (hw : ∀ v ∈ ws, v < 65536) :
    inet6Aton arch ((pieces ws).drop 1) = some ws := by
  obtain ⟨w, ws', rfl⟩ : ∃ w ws', ws = w :: ws' := List.exists_cons_of_ne_nil (by rintro rfl; cases h8)
  have h7 : ws'.length = 7 := by simpa using h8
  have hread := inet6AtonWords_pieces arch (hexDigits w ++ pieces ws') 0 w ws' hw [] none
  rw [Nat.zero_add, h7, List.nil_append] at hread
  rw [drop_one_pieces_cons, inet6Aton, hread]
  simp [h7]

/-- `::` の後の語を終わりまで読む。`::` で終わっていれば、最後に空の語を一つ読む。 -/
theorem inet6AtonWords_tail (string : Bytes) (k : Nat) {B : List Nat} (hB : B.length ≤ k + 1)
    (hw : ∀ v ∈ B, v < 65536) (pre : List Nat) (pad : Option Nat) :
    inet6AtonWords arch string k ((pieces B).drop 1) pre pad =
      some (pre ++ (if B = [] then [0] else B), pad) := by
  cases B with
  | nil => exact inet6AtonWords_nil arch string k pre pad
  | cons b bs =>
    have hk : k = (k - bs.length) + bs.length := by simp at hB; omega
    rw [drop_one_pieces_cons, hk, inet6AtonWords_pieces arch string _ b bs hw]
    simp

/-- `::` の前の語と `::` を読む。二つ目の `:` の前に数字がないので、そこが `pad` になる。 -/
theorem inet6AtonWords_head {A : List Nat} (hA : A.length ≤ 6) (hw : ∀ v ∈ A, v < 65536) (rest : Bytes) :
    let string := (pieces A).drop 1 ++ 0x3A :: 0x3A :: rest
    let pre := if A = [] then [0, 0] else A ++ [0]
    inet6AtonWords arch string 7 string [] none =
      inet6AtonWords arch string (7 - pre.length) rest pre (some pre.length) := by
  intro string pre
  cases A with
  | nil =>
    have hs : string = 0x3A :: 0x3A :: rest := rfl
    have hne : (0x3A :: rest).length ≠ string.length := by rw [hs]; simp
    rw [hs, inet6AtonWords_empty_first arch _ 6 _ [] none rfl, ← hs,
      inet6AtonWords_empty_pad arch string 5 rest _ hne]
    rfl
  | cons a as =>
    have hs : string = hexDigits a ++ pieces as ++ 0x3A :: 0x3A :: rest := by
      simp only [string, drop_one_pieces_cons, List.append_assoc]
    have hne : (0x3A :: rest).length ≠ string.length := by
      have := List.length_pos_of_ne_nil (hexDigits_ne_nil a)
      rw [hs]
      simp only [List.length_append, List.length_cons]
      omega
    have has : as.length ≤ 5 := by simp at hA; omega
    have hk : 7 = (5 - as.length + 1) + as.length + 1 := by omega
    have hpre : pre = a :: as ++ [0] := if_neg (List.cons_ne_nil a as)
    conv_lhs => rw [hk]
    rw [hs, inet6AtonWords_pieces_colon arch _ _ a as _ hw, ← hs,
      inet6AtonWords_empty_pad arch string _ rest _ hne, hpre]
    simp only [List.nil_append, List.length_append, List.length_cons, List.length_nil]
    congr 1
    omega

/-- `memmove` と `memset` は、`::` の位置 `pre.length` に足りない語の数だけ 0 を補う。 -/
theorem fill_pad (pre post : List Nat) :
    (pre ++ post).take pre.length ++ List.replicate (8 - (pre ++ post).length) 0 ++
        (pre ++ post).drop pre.length =
      pre ++ List.replicate (8 - pre.length - post.length) 0 ++ post := by
  rw [List.take_left, List.drop_left, List.length_append, Nat.sub_sub]

/-- 0 の並びを `::` に縮めた文字列は、縮めた語を補って読み戻せる。 -/
theorem inet6Aton_compressed {A B : List Nat} {L : Nat} (hL : 2 ≤ L)
    (hlen : A.length + L + B.length = 8) (hw : ∀ v ∈ A ++ B, v < 65536) :
    inet6Aton arch ((pieces A).drop 1 ++ 0x3A :: 0x3A :: (pieces B).drop 1) =
      some (A ++ List.replicate L 0 ++ B) := by
  have hwA : ∀ v ∈ A, v < 65536 := fun v hv => hw v (List.mem_append_left B hv)
  have hwB : ∀ v ∈ B, v < 65536 := fun v hv => hw v (List.mem_append_right A hv)
  have hhead := inet6AtonWords_head arch (by omega) hwA ((pieces B).drop 1)
  simp only at hhead
  rw [inet6Aton, hhead, inet6AtonWords_tail arch _ _ (by split <;> simp <;> omega) hwB]
  simp only [Option.bind_eq_bind, Option.bind_some]
  rw [fill_pad]
  congr 1
  -- `::` の前と後が空かどうかで、補う 0 の数が変わる
  cases A with
  | nil =>
    obtain ⟨L', rfl⟩ : ∃ L', L = L' + 2 := ⟨L - 2, by omega⟩
    cases B with
    | nil =>
      obtain rfl : L' = 6 := by simp at hlen; omega
      rfl
    | cons b bs =>
      have hm : 8 - [0, 0].length - (b :: bs).length = L' := by simp at hlen ⊢; omega
      rw [if_pos rfl, if_neg (List.cons_ne_nil b bs), hm]
      simp [List.replicate_succ]
  | cons a as =>
    obtain ⟨L', rfl⟩ : ∃ L', L = L' + 1 := ⟨L - 1, by omega⟩
    simp only [if_neg (List.cons_ne_nil a as), List.length_append, List.length_singleton]
    cases B with
    | nil =>
      obtain ⟨L'', rfl⟩ : ∃ L'', L' = L'' + 1 := ⟨L' - 1, by omega⟩
      have hm : 8 - ((a :: as).length + 1) - [0].length = L'' := by simp at hlen ⊢; omega
      rw [if_pos rfl, hm, List.replicate_succ', List.replicate_succ]
      simp
    | cons b bs =>
      have hm : 8 - ((a :: as).length + 1) - (b :: bs).length = L' := by simp at hlen ⊢; omega
      rw [if_neg (List.cons_ne_nil b bs), hm, List.replicate_succ]
      simp

/-- **`inet6_ntoa` の文字列を `inet6_aton` で読むと、元のアドレスに戻る。** -/
theorem inet6Aton_inet6Ntoa {raw : Bytes} (h16 : raw.length = 16) :
    inet6Aton arch (inet6Ntoa raw) = some (ntohsWords raw) := by
  have htake : raw.take 16 = raw := List.take_of_length_le (by omega)
  have h8 : (ntohsWords raw).length = 8 := length_ntohsWords_of_length h16
  have hw : ∀ v ∈ ntohsWords raw, v < 65536 := fun v hv => lt_of_mem_ntohsWords hv
  rcases inet6Ntoa_cases raw with h | ⟨A, L, B, hL, hws, h⟩
  · rw [h, htake]
    exact inet6Aton_pieces arch h8 hw
  · rw [htake] at hws
    rw [h, hws]
    refine inet6Aton_compressed arch hL ?_ ?_
    · have := congrArg List.length hws
      simp only [List.length_append, List.length_replicate] at this
      omega
    · intro v hv
      apply hw v
      rw [hws]
      rcases List.mem_append.mp hv with hv | hv
      · exact List.mem_append_left _ (List.mem_append_left _ hv)
      · exact List.mem_append_right _ hv

end Roundtrip

end FlexBoot.Ipv6
