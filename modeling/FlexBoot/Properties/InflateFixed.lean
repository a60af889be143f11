import FlexBoot.Properties.InflateRun

/-!
# 固定の Huffman 符号

`static_block` は `deflate_static_length_patterns[]` を `deflate->lengths` に並べ、`construct_alphabets`
で二つの表を作る。この表が RFC 1951 の 3.2.6 節の固定の符号であることを示す。

* `fixedLitlenLength`・`fixedDistanceLength` — RFC の表：literal/length の 0-143 は 8 bit、144-255 は
  9 bit、256-279 は 7 bit、280-287 は 8 bit、distance はどれも 5 bit
* `alphabetLength_static_litlen`・`alphabetLength_static_distance` — 4 bit ずつ詰めた
  `deflate_static_length_patterns[]` を `deflate_length` で読むと、RFC の表になる
* `Built.congr` — 表が `Built` であることは、記号の範囲の中の長さだけで決まる
* `inflateRun_staticBlock` — `construct_alphabets` は必ず成功し、二つの表は固定の長さの正準な符号
  の表になる。`deflate->lengths` に前の block の長さが残っていても変わらない
-/

namespace FlexBoot.Inflate

open Infra

section Congr

variable {len len' : Nat → Nat} {n : Nat} {a : Alphabet}

theorem builtSymbols_congr (h : ∀ s < n, len s = len' s) (b : Nat) : builtSymbols len n b = builtSymbols len' n b := by
  unfold builtSymbols
  rw [blCount_congr h, start_congr h, classBase_congr h, nextCode_congr h]

/-- 表が `Built` であることは、記号 `0 .. n - 1` の長さだけで決まる。 -/
theorem Built.congr (h : ∀ s < n, len s = len' s) (hb : Built len n a) : Built len' n a where
  len_lt s hs := h s hs ▸ hb.len_lt s hs
  complete := kraftSum_congr h 16 ▸ hb.complete
  huf_eq i hi := (hb.huf_eq i hi).trans (builtSymbols_congr h _)
  lookup_eq p hp := by
    rw [hb.lookup_eq p hp]
    simp only [start_congr h]
  raw_eq c hc0 hc j hj := by
    rw [← classBase_congr h, ← symbolOfRank_congr h]
    exact hb.raw_eq c hc0 hc j (blCount_congr h c ▸ hj)

end Congr

/-! ## RFC の固定の表 -/

/-- RFC 1951 の 3.2.6 節の固定の literal/length の符号の長さ。 -/
def fixedLitlenLength (s : Nat) : Nat :=
  if s < 144 then 8 else if s < 256 then 9 else if s < 280 then 7 else 8

/-- 固定の distance の符号の長さ。どれも 5 bit。 -/
def fixedDistanceLength (_ : Nat) : Nat := 5

/-- `deflate_static_length_patterns[]` を並べた長さの表。 -/
def staticLengths : List UInt8 := deflateStaticLengthPatterns.flatMap fun p => List.replicate p.2 p.1

/-- 五つの組を並べると、同じ byte の五つの並び。 -/
theorem staticLengths_eq : staticLengths = List.replicate 72 0x88 ++ (List.replicate 56 0x99 ++
    (List.replicate 12 0x77 ++ (List.replicate 4 0x88 ++ List.replicate 16 0x55))) := by
  simp only [staticLengths, deflateStaticLengthPatterns, List.flatMap_cons, List.flatMap_nil, List.append_nil]

/-- 固定の長さの表は `deflate->lengths` をちょうど埋める。 -/
theorem length_staticLengths : staticLengths.length = lengthsSize := by
  rw [staticLengths_eq]
  simp only [List.length_append, List.length_replicate]
  rfl

theorem getD_replicate_append {k i : Nat} {b : UInt8} (rest : List UInt8) :
    (List.replicate k b ++ rest).getD i 0 = if i < k then b else rest.getD (i - k) 0 := by
  rw [List.getD_eq_getElem?_getD, List.getElem?_append, List.length_replicate, List.getElem?_replicate,
    List.getD_eq_getElem?_getD]
  split
  · rfl
  · rfl

/-- 同じ長さ `n` を二つ詰めた byte は、どちらの半分を読んでも `n`。 -/
theorem nibble_fill {n : Nat} (hn : n < 16) (s : Nat) :
    ((UInt8.ofNat (n * 17)).toNat >>> (4 * (s % 2))) &&& 15 = n := by
  rw [UInt8.toNat_ofNat_of_lt' (show n * 17 < 256 by omega)]
  rcases Nat.mod_two_eq_zero_or_one s with h | h <;> rw [h] <;> interval_cases n <;> rfl

/-- literal/length の記号 `s` の長さは `s / 2` 番目の byte にあり、その byte はどの並びに入るかで決まる。 -/
theorem deflateLength_staticLengths_litlen : ∀ s < 288, deflateLength staticLengths s = fixedLitlenLength s := by
  intro s hs
  unfold deflateLength fixedLitlenLength
  rw [staticLengths_eq, getD_replicate_append, getD_replicate_append, getD_replicate_append, getD_replicate_append]
  by_cases h1 : s < 144
  · rw [if_pos (by omega), if_pos h1]
    exact nibble_fill (n := 8) (by decide) s
  by_cases h2 : s < 256
  · rw [if_neg (by omega), if_pos (by omega), if_neg h1, if_pos h2]
    exact nibble_fill (n := 9) (by decide) s
  by_cases h3 : s < 280
  · rw [if_neg (by omega), if_neg (by omega), if_pos (by omega), if_neg h1, if_neg h2, if_pos h3]
    exact nibble_fill (n := 7) (by decide) s
  · rw [if_neg (by omega), if_neg (by omega), if_neg (by omega), if_pos (by omega), if_neg h1, if_neg h2, if_neg h3]
    exact nibble_fill (n := 8) (by decide) s

/-- distance の長さは最後の並び `0x55` にある。 -/
theorem deflateLength_staticLengths_distance : ∀ s < 32, deflateLength staticLengths (s + 288) = fixedDistanceLength s := by
  intro s hs
  unfold deflateLength fixedDistanceLength
  rw [staticLengths_eq, getD_replicate_append, getD_replicate_append, getD_replicate_append, getD_replicate_append,
    if_neg (by omega), if_neg (by omega), if_neg (by omega), if_neg (by omega), List.getD_eq_getElem?_getD,
    List.getElem?_replicate, if_pos (by omega), Option.getD_some]
  exact nibble_fill (n := 5) (by decide) (s + 288)

theorem kraftSum_fixedLitlenLength : kraftSum fixedLitlenLength 288 16 = 2 ^ 16 := by
  decide +kernel

theorem kraftSum_fixedDistanceLength : kraftSum fixedDistanceLength 32 16 = 2 ^ 16 := by
  decide +kernel

/-- 長さの表の前半 `l` の中だけを読む。 -/
theorem deflateLength_append {l : List UInt8} {index : Nat} (h : index / 2 < l.length) (r : List UInt8) :
    deflateLength (l ++ r) index = deflateLength l index := by
  unfold deflateLength
  rw [List.getD_append _ _ _ _ h]

theorem alphabetLength_static_litlen (rest : List UInt8) :
    ∀ s < 288, alphabetLength (staticLengths ++ rest) 0 s = fixedLitlenLength s := by
  intro s hs
  have hlen : (s + 0) / 2 < staticLengths.length := by
    rw [length_staticLengths, show lengthsSize = 160 from rfl]
    omega
  rw [alphabetLength, deflateLength_append hlen, Nat.add_zero]
  exact deflateLength_staticLengths_litlen s hs

theorem alphabetLength_static_distance (rest : List UInt8) :
    ∀ s < 32, alphabetLength (staticLengths ++ rest) 288 s = fixedDistanceLength s := by
  intro s hs
  have hlen : (s + 288) / 2 < staticLengths.length := by
    rw [length_staticLengths, show lengthsSize = 160 from rfl]
    omega
  rw [alphabetLength, deflateLength_append hlen]
  exact deflateLength_staticLengths_distance s hs

/-- 読む長さが符号をちょうど使い切るなら、`deflate_alphabet` は失敗せず、その長さの表を作る。 -/
theorem deflateAlphabet_of_kraftSum {len : Nat → Nat} {lengths : List UInt8} {count offset : Nat}
    (h : ∀ s < count, alphabetLength lengths offset s = len s) (hk : kraftSum len count 16 = 2 ^ 16) (a : Alphabet) :
    ∃ a', deflateAlphabet lengths a count offset = some a' ∧ Built len count a' := by
  have hne : deflateAlphabet lengths a count offset ≠ none := by
    rw [Ne, deflateAlphabet_none_iff, kraftSum_congr h, hk]
    exact fun h => h rfl
  obtain ⟨a', ha'⟩ := Option.ne_none_iff_exists'.mp hne
  exact ⟨a', ha', (deflateAlphabet_built ha').congr h⟩

theorem staticBlock_step (st : Inflater) (inp out : DeflateChunk) :
    inflateStep .staticBlock st inp out =
      .next .constructAlphabets
        { st with lengths := staticLengths ++ st.lengths.drop staticLengths.length, litlenCount := 288,
                  distanceCount := 32 } inp out :=
  rfl

/-- 二つの表が作れれば `construct_alphabets` は成功し、`lzhuf_litlen` へ移る。 -/
theorem constructAlphabets_step {st : Inflater} {litlen dist : Alphabet} (inp out : DeflateChunk)
    (hlit : deflateAlphabet st.lengths st.litlen st.litlenCount 0 = some litlen) (h1 : st.distanceCount ≠ 1)
    (hdist : deflateAlphabet st.lengths st.distanceCodelen st.distanceCount st.litlenCount = some dist) :
    inflateStep .constructAlphabets st inp out =
      .next .lzhufLitlen { st with litlen := litlen, distanceCodelen := dist } inp out := by
  have hc : constructAlphabets st = some { st with litlen := litlen, distanceCodelen := dist } := by
    unfold constructAlphabets
    simp only [hlit, Option.bind_eq_bind, Option.bind_some]
    rw [if_neg h1]
    simp only [hdist, Option.bind_some]
    rfl
  delta inflateStep
  dsimp only
  rw [hc]

/-- **固定の Huffman 符号。** `static_block` の後の `construct_alphabets` は必ず成功し、どの状態から
始めても、literal/length の表と distance の表は RFC 1951 の 3.2.6 節の固定の長さの正準な符号の表
になる。読み出しの状態は変わらない。 -/
theorem inflateRun_staticBlock (st : Inflater) (inp out : DeflateChunk) (fuel : Nat) :
    ∃ st', inflateRun (fuel + 2) .staticBlock st inp out = inflateRun fuel .lzhufLitlen st' inp out ∧
      st'.reader = st.reader ∧ Built fixedLitlenLength 288 st'.litlen ∧ Built fixedDistanceLength 32 st'.distanceCodelen := by
  obtain ⟨litlen, hlit, hblit⟩ := deflateAlphabet_of_kraftSum
    (alphabetLength_static_litlen (st.lengths.drop staticLengths.length)) kraftSum_fixedLitlenLength st.litlen
  obtain ⟨dist, hdist, hbdist⟩ := deflateAlphabet_of_kraftSum
    (alphabetLength_static_distance (st.lengths.drop staticLengths.length)) kraftSum_fixedDistanceLength
    st.distanceCodelen
  -- distance の符号は 32 個なので、符号が一つだけの時の置き換えは起きない
  have hstep := @constructAlphabets_step { st with
    lengths := staticLengths ++ st.lengths.drop staticLengths.length, litlenCount := 288, distanceCount := 32 }
    litlen dist inp out hlit (show (32 : Nat) ≠ 1 by decide) hdist
  refine ⟨{ st with
    lengths := staticLengths ++ st.lengths.drop staticLengths.length, litlenCount := 288, distanceCount := 32,
    litlen := litlen, distanceCodelen := dist }, ?_, rfl, hblit, hbdist⟩
  rw [inflateRun_next (staticBlock_step st inp out), inflateRun_next hstep]

end FlexBoot.Inflate
