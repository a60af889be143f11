import FlexBoot.Properties.InflateFixed

/-!
# `struct deflate` の範囲

`deflate_inflate` の中で C が前提にしている範囲が、`deflate_init` から何度呼んでも崩れないことを示す。

* `deflate_accumulate` は byte を足すたびに `deflate->bits <= 32` を assert し、逆順の byte を
  `24 - deflate->bits` だけ送る。足す前の `bits` は 24 以下でなければならない
* `deflate_codelen_map[19]`、`dynamic_litlen_distance` の `dup_len[3]` と `extra_bits[3]`、
  `deflate_distance_base[32]` は、読んだ値をそのまま添字にする。`deflate->lengths` は
  `( 288 + 32 + 1 ) / 2` byte で、`deflate_set_length` の添字はその倍より小さくなければならない

model はこれらの配列を `getD` で読むので範囲の外でも値を返すが、C では配列の外である。

* `StateOk` — label `l` の前の状態の範囲。読み出しの状態は `Deflate.Wf` を満たし（`bits <= 32`）、
  `zlib_adler32` の前では byte の境目にそろう。`deflate_decode` を呼ぶ label では、表は 19、288、
  32 個以下の記号の表として作り終えてある（`Symbols`）。数と添字の上界は `Sizes.Ok`
* `inflateStep_stateOk` — 一歩はそれを保つ。`deflate_extract` の `target` は 16 以下なので、
  足す前の bit は 15 以下。`zlib_adler32` の 32 bit は、`zlib_footer` が byte の境目まで
  捨てているので、足す前の bit は 24 以下
* `Reachable.stateOk` — `deflate_init` から届く状態は、再開点の label で `StateOk` を満たす
-/

namespace FlexBoot.Inflate

open Infra

/-! ## 範囲 -/

/-- `struct deflate` のうち、配列の大きさと添字を決める値。 -/
structure Sizes where
  extraBits : Nat
  litlenCount : Nat
  distanceCount : Nat
  lengthTarget : Nat
  lengthsLength : Nat

def Inflater.sizes (st : Inflater) : Sizes :=
  ⟨st.extraBits, st.litlenCount, st.distanceCount, st.lengthTarget, st.lengths.length⟩

/-- 数と添字の上界。`deflate_extract` で読む追加 bit は 14 以下、記号の数は `deflate_alphabet` の
`raw[]` の大きさ以下、`deflate_set_length` の添字は `deflate->lengths` の中。 -/
structure Sizes.Ok (s : Sizes) : Prop where
  extraBits_le : s.extraBits ≤ 14
  litlenCount_le : s.litlenCount ≤ 288
  distanceCount_le : s.distanceCount ≤ 32
  lengthTarget_le : s.lengthTarget ≤ 2 * lengthsSize
  lengthsLength_eq : s.lengthsLength = lengthsSize

/-- 表 `a` で読む記号は `B` より小さい：`B` 個以下の記号の表として作り終えてある。 -/
def DecodesBelow (a : Alphabet) (B : Nat) : Prop := ∃ len n, n ≤ B ∧ Built len n a

/-- label `l` で `deflate_decode` に渡す表。code length の符号は 19 個、literal/length は 288 個、
distance は 32 個以下の記号の表。 -/
def Symbols : Label → Inflater → Prop
  | .dynamicLitlenDistance, st | .dynamicLitlenDistanceExtra, st => DecodesBelow st.distanceCodelen 19
  | .lzhufLitlen, st | .lzhufLitlenExtra, st | .lzhufDistance, st | .lzhufDistanceExtra, st =>
    DecodesBelow st.litlen 288 ∧ DecodesBelow st.distanceCodelen 32
  | _, _ => True

/-- `Symbols` は二つの表しか見ない。 -/
theorem symbols_congr {l : Label} {st st' : Inflater} (h1 : st'.litlen = st.litlen)
    (h2 : st'.distanceCodelen = st.distanceCodelen) : Symbols l st' ↔ Symbols l st := by
  cases l <;> simp [Symbols, h1, h2]

/-- label `l` の前の `struct deflate` の範囲。 -/
structure StateOk (l : Label) (st : Inflater) : Prop where
  reader_wf : st.reader.Wf
  aligned : l = .zlibAdler32 → st.reader.bits % 8 = 0
  codelen_le : l = .dynamicCodelen → st.lengthTarget ≤ 19
  symbols : Symbols l st
  sizes_ok : st.sizes.Ok

/-- 再開点と読み出しの状態のほかを変えない。 -/
theorem StateOk.with_reader {l : Label} {st : Inflater} (h : StateOk l st) {d : Deflate} (hd : d.Wf)
    (ha : l = .zlibAdler32 → d.bits % 8 = 0) (r : Option Label) :
    StateOk l { st with reader := d, resume := r } :=
  ⟨hd, ha, h.codelen_le, (@symbols_congr l st { st with reader := d, resume := r } rfl rfl).2 h.symbols, h.sizes_ok⟩

/-! ## 読み出しの状態 -/

/-- 表で記号を読んでも、読み出しの状態は `Wf` のまま。 -/
theorem wf_deflateDecode {d d' : Deflate} {inp inp' : DeflateChunk} {a : Alphabet} {c : Int} (hd : d.Wf)
    (h : deflateDecode d inp a = .ok (c, d', inp')) : d'.Wf := by
  obtain ⟨hw, -, -⟩ := deflateAccumulate_spec hd inp (show huffmanBits ≤ 25 by decide)
  unfold deflateDecode at h
  generalize deflateAccumulate d inp huffmanBits = r at hw h
  obtain ⟨d₁, inp₁, rc⟩ := r
  dsimp only at hw h
  simp only [bind, Except.bind, pure, Except.pure] at h
  split at h
  · cases h
  · next i _ =>
    split at h
    · simp only [Except.ok.injEq, Prod.mk.injEq] at h
      obtain ⟨-, rfl, -⟩ := h
      exact hw
    · -- 符号の長さだけ bit がそろっているので、その分を捨てる
      split at h
      · cases h
      · simp only [Except.ok.injEq, Prod.mk.injEq] at h
        obtain ⟨-, rfl, -⟩ := h
        exact wf_deflateConsume hw (by omega)

/-- 作り終えた表で読んだ記号は、表の記号の数より小さい。 -/
theorem Built.deflateDecode_lt {len : Nat → Nat} {n : Nat} {a : Alphabet} (hb : Built len n a) {d d' : Deflate}
    {inp inp' : DeflateChunk} {c : Int} (h : deflateDecode d inp a = .ok (c, d', inp')) (hc : 0 ≤ c) : c < n := by
  rw [hb.deflateDecode_eq] at h
  unfold canonicalDecode at h
  generalize deflateAccumulate d inp huffmanBits = r at h
  obtain ⟨d₁, inp₁, rc⟩ := r
  dsimp only at h
  have hx : (d₁.rotalumucca >>> 16) % 2 ^ 16 < 2 ^ 16 := Nat.mod_lt _ (by decide)
  obtain ⟨-, hc16, hlo, hhi⟩ := hb.walk_class hx
  generalize walkDown (fun j => start len n 16 (j + 1)) ((d₁.rotalumucca >>> 16) % 2 ^ 16) 14 = w at h hc16 hlo hhi
  by_cases hbits : (d₁.bits : Int) < (w + 1 : Nat)
  · -- 足りない時に返すのは負の数
    rw [if_pos hbits] at h
    simp only [Except.ok.injEq, Prod.mk.injEq] at h
    omega
  · rw [if_neg hbits] at h
    simp only [Except.ok.injEq, Prod.mk.injEq] at h
    obtain ⟨rfl, -, -⟩ := h
    have hs := (decode_spec (by omega) hc16 hlo hhi).1
    exact_mod_cast hs

/-- byte の境目まで捨てると、`Wf` のまま byte の境目にそろう。 -/
theorem deflateDiscardToByte_wf {d : Deflate} (hd : d.Wf) :
    (deflateDiscardToByte d).Wf ∧ (deflateDiscardToByte d).bits % 8 = 0 := by
  have h7 : d.bits &&& 7 = d.bits % 8 := Nat.and_two_pow_sub_one_eq_mod d.bits 3
  refine ⟨wf_deflateConsume hd (by omega), ?_⟩
  show (d.bits - (d.bits &&& 7)) % 8 = 0
  omega

/-- byte の境目から 32 bit まで溜めても、`Wf` のまま byte の境目にそろっている。足す前の bit は
24 以下なので、`24 - bits` の送りは負にならない。 -/
theorem accumulateLoop_aligned_wf :
    ∀ (fuel : Nat) (d : Deflate) (inp : DeflateChunk), d.Wf → d.bits % 8 = 0 →
      (accumulateLoop 32 fuel d inp).1.Wf ∧ (accumulateLoop 32 fuel d inp).1.bits % 8 = 0
  | 0, d, inp, hd, ha => ⟨hd, ha⟩
  | fuel + 1, d, inp, hd, ha => by
    rw [accumulateLoop_succ]
    by_cases hbt : d.bits < 32
    · rw [if_pos hbt]
      by_cases hend : inp.offset ≥ inp.len
      · rw [if_pos hend]
        exact ⟨hd, ha⟩
      · rw [if_neg hend]
        have hwf := wf_accumulateByte hd (by omega) (UInt8.toNat_lt (inp.data.getD inp.offset 0))
        have ha' : (accumulateByte d (inp.data.getD inp.offset 0).toNat).bits % 8 = 0 := by
          show (d.bits + 8) % 8 = 0
          omega
        exact accumulateLoop_aligned_wf fuel _ _ hwf ha'
    · rw [if_neg hbt]
      exact ⟨hd, ha⟩

/-! ## 表と数 -/

theorem length_deflateSetLength (lengths : List UInt8) (index bits : Nat) :
    (deflateSetLength lengths index bits).length = lengths.length := by
  simp [deflateSetLength]

theorem length_setLengths : ∀ (dup : Nat) (lengths : List UInt8) (index target length : Nat),
    (setLengths dup lengths index target length).1.length = lengths.length
  | 0, _, _, _, _ => rfl
  | dup + 1, lengths, index, target, length => by
    unfold setLengths
    split
    · rw [length_setLengths, length_deflateSetLength]
    · rfl

/-- 再開点がなければ、入口は形式の最初の label。 -/
theorem entryLabel_of_none (st : Inflater) (h : st.resume = none) :
    entryLabel st = .blockHeader ∨ entryLabel st = .zlibHeader := by
  unfold entryLabel
  rw [h]
  cases st.format
  · exact .inl rfl
  · exact .inr rfl

theorem extraBitsTable_getD_le (i : Nat) : extraBitsTable.getD i 0 ≤ 7 := by
  rcases i with _ | _ | _ | i <;> simp [extraBitsTable]

/-- `construct_alphabets` が成功すれば、二つの表は literal/length の数と distance の数の記号の表で、
読み出しの状態と数は変わらない。 -/
theorem constructAlphabets_ok {st st' : Inflater} (h : constructAlphabets st = some st') :
    Built (alphabetLength st.lengths 0) st.litlenCount st'.litlen ∧
      (∃ len, Built len (if st.distanceCount = 1 then 2 else st.distanceCount) st'.distanceCodelen) ∧
      st'.reader = st.reader ∧ st'.sizes = st.sizes := by
  unfold constructAlphabets at h
  simp only [Option.bind_eq_bind, Option.bind_eq_some_iff, Option.pure_def, Option.some.injEq] at h
  obtain ⟨litlen, hlit, dist, hdist, rfl⟩ := h
  refine ⟨deflateAlphabet_built hlit, ?_, rfl, ?_⟩
  -- distance の符号が一つだけの時は、長さ 1 の符号二つの表にする
  · by_cases h1 : st.distanceCount = 1
    · rw [if_pos h1] at hdist ⊢
      exact ⟨_, deflateAlphabet_built hdist⟩
    · rw [if_neg h1] at hdist ⊢
      exact ⟨_, deflateAlphabet_built hdist⟩
  · by_cases h1 : st.distanceCount = 1
    · simp only [if_pos h1, Inflater.sizes, List.length_set]
    · simp only [if_neg h1, Inflater.sizes]

/-! ## 一歩 -/

/-- 一歩の結果の範囲：移った先の label、または返った後の再開点の label で `StateOk`。 -/
def StepOk : Step → Prop
  | .next l st _ _ => StateOk l st
  | .stop st _ _ => StateOk (entryLabel st) st
  | .fail _ => True

section Step

variable {l : Label} {st : Inflater} {inp out : DeflateChunk}

theorem stepOk_next {l' : Label} {st' : Inflater} {inp' out' : DeflateChunk} (h : StateOk l' st') :
    StepOk (.next l' st' inp' out') :=
  h

/-- 中断すれば再開点は今の label。 -/
theorem stepOk_suspend (h : StateOk l st) : StepOk (suspend l st inp out) :=
  h.with_reader h.reader_wf h.aligned (some l)

/-- `deflate_extract` で 25 bit 以下を読む label は、足りなければ中断し、読めれば `Wf` の状態を続きへ
渡す。 -/
theorem extractThen_stateOk {t : Nat} {k : Nat → Inflater → DeflateChunk → Step} (h : StateOk l st)
    (ht : t ≤ 25) (hl : l ≠ .zlibAdler32) (hk : ∀ v d inp₁, d.Wf → StepOk (k v { st with reader := d } inp₁)) :
    StepOk (extractThen l st inp out t k) := by
  have hw := (deflateExtract_spec h.reader_wf inp ht).1
  unfold extractThen
  dsimp only
  split
  · exact stepOk_suspend (h.with_reader hw (fun e => absurd e hl) st.resume)
  · exact hk _ _ _ hw

/-- `deflate_decode` を呼ぶ label は、足りなければ中断し、読めれば `B` より小さい記号と `Wf` の状態を
続きへ渡す。 -/
theorem decodeThen_stateOk {a : Alphabet} {B : Nat} {k : Nat → Inflater → DeflateChunk → Step}
    (h : StateOk l st) (hl : l ≠ .zlibAdler32) (ha : DecodesBelow a B)
    (hk : ∀ v d inp₁, d.Wf → v < B → StepOk (k v { st with reader := d } inp₁)) :
    StepOk (decodeThen l st inp out a k) := by
  obtain ⟨len, n, hn, hb⟩ := ha
  unfold decodeThen
  split
  · trivial
  · next code d inp₁ hdec =>
    have hw := wf_deflateDecode h.reader_wf hdec
    split
    · exact stepOk_suspend (h.with_reader hw (fun e => absurd e hl) st.resume)
    · next hpos =>
      have hlt := hb.deflateDecode_lt hdec (by omega)
      exact hk _ _ _ hw (by omega)

/-- **一歩は範囲を保つ。** label ごとに本体を開く。`deflate_extract` の `target` は 3、14、16 と
追加 bit（14 以下）で、`zlib_adler32` だけが byte の境目から 32 bit 溜める。 -/
theorem inflateStep_stateOk (h : StateOk l st) : StepOk (inflateStep l st inp out) := by
  have hs := h.sizes_ok
  have hx : st.extraBits ≤ 14 := hs.extraBits_le
  delta inflateStep
  cases l with
  | zlibHeader =>
    dsimp only
    refine extractThen_stateOk h (by decide) nofun fun v d inp₁ hd => ?_
    split
    · trivial
    split
    · trivial
    · exact stepOk_next ⟨hd, nofun, nofun, trivial, hs⟩
  | blockHeader =>
    dsimp only
    refine extractThen_stateOk h (by decide) nofun fun v d inp₁ hd => ?_
    split <;> first | trivial | exact stepOk_next ⟨hd, nofun, nofun, trivial, hs⟩
  | literalBlock =>
    dsimp only
    exact stepOk_next ⟨(deflateDiscardToByte_wf h.reader_wf).1, nofun, nofun, trivial, hs⟩
  | literalLen =>
    dsimp only
    exact extractThen_stateOk h (by decide) nofun fun v d inp₁ hd => stepOk_next ⟨hd, nofun, nofun, trivial, hs⟩
  | literalNlen =>
    dsimp only
    refine extractThen_stateOk h (by decide) nofun fun v d inp₁ hd => ?_
    split
    · trivial
    · exact stepOk_next ⟨hd, nofun, nofun, trivial, hs⟩
  | literalData =>
    dsimp only
    split
    · exact stepOk_suspend ⟨h.reader_wf, nofun, nofun, trivial, hs⟩
    · exact stepOk_next ⟨h.reader_wf, nofun, nofun, trivial, hs⟩
  | staticBlock =>
    dsimp only
    refine stepOk_next ⟨h.reader_wf, nofun, nofun, trivial, hs.extraBits_le, Nat.le_refl _, Nat.le_refl _,
      hs.lengthTarget_le, ?_⟩
    show (staticLengths ++ List.drop staticLengths.length st.lengths).length = lengthsSize
    rw [List.length_append, List.length_drop, length_staticLengths,
      show st.lengths.length = lengthsSize from hs.lengthsLength_eq, Nat.sub_self, Nat.add_zero]
  | dynamicHeader =>
    dsimp only
    refine extractThen_stateOk h (by decide) nofun fun v d inp₁ hd => stepOk_next ?_
    -- 5 bit、5 bit、4 bit の欄
    have hlit : (v >>> 0) &&& 0x1f ≤ 31 := Nat.and_le_right
    have hdist : (v >>> 5) &&& 0x1f ≤ 31 := Nat.and_le_right
    have hclen : (v >>> 10) &&& 0x0f ≤ 15 := Nat.and_le_right
    refine ⟨hd, nofun, fun _ => Nat.add_le_add_right hclen 4, trivial, hs.extraBits_le,
      Nat.add_le_add_right hlit 257, Nat.add_le_add_right hdist 1,
      Nat.le_trans (Nat.add_le_add_right hclen 4) (by decide), List.length_replicate⟩
  | dynamicCodelen =>
    dsimp only
    split
    · refine extractThen_stateOk h (by decide) nofun fun v d inp₁ hd => stepOk_next ?_
      refine ⟨hd, nofun, h.codelen_le, trivial, hs.extraBits_le, hs.litlenCount_le, hs.distanceCount_le,
        hs.lengthTarget_le, ?_⟩
      show (deflateSetLength _ _ _).length = lengthsSize
      rw [length_deflateSetLength]
      exact hs.lengthsLength_eq
    · split
      · trivial
      · next alphabet halpha =>
        refine stepOk_next ⟨h.reader_wf, nofun, nofun, ⟨_, _, Nat.le_refl 19, deflateAlphabet_built halpha⟩,
          hs.extraBits_le, hs.litlenCount_le, hs.distanceCount_le, ?_, List.length_replicate⟩
        have hl := hs.litlenCount_le
        have hd := hs.distanceCount_le
        show st.litlenCount + st.distanceCount ≤ 2 * lengthsSize
        exact Nat.le_trans (Nat.add_le_add hl hd) (by decide)
  | dynamicLitlenDistance =>
    dsimp only
    refine decodeThen_stateOk h nofun h.symbols fun v d inp₁ hd hv => ?_
    split
    · exact stepOk_next ⟨hd, nofun, nofun, h.symbols, Nat.zero_le 14, hs.litlenCount_le, hs.distanceCount_le,
        hs.lengthTarget_le, hs.lengthsLength_eq⟩
    · -- code length の記号は 19 未満なので、`len - 16` は `dup_len[3]` と `extra_bits[3]` の添字
      have hx : extraBitsTable.getD (v - 16) 0 ≤ 14 := Nat.le_trans (extraBitsTable_getD_le _) (by decide)
      split
      · exact stepOk_next ⟨hd, nofun, nofun, h.symbols, hx, hs.litlenCount_le, hs.distanceCount_le,
          hs.lengthTarget_le, hs.lengthsLength_eq⟩
      · exact stepOk_next ⟨hd, nofun, nofun, h.symbols, hx, hs.litlenCount_le, hs.distanceCount_le,
          hs.lengthTarget_le, hs.lengthsLength_eq⟩
  | dynamicLitlenDistanceExtra =>
    dsimp only
    refine extractThen_stateOk h (by omega) nofun fun v d inp₁ hd => ?_
    have hlen : (setLengths (st.dupLen + v) st.lengths st.lengthIndex st.lengthTarget st.length).1.length =
        lengthsSize := by
      rw [length_setLengths]
      exact hs.lengthsLength_eq
    split
    · exact stepOk_next ⟨hd, nofun, nofun, h.symbols, hs.extraBits_le, hs.litlenCount_le, hs.distanceCount_le,
        hs.lengthTarget_le, hlen⟩
    · exact stepOk_next ⟨hd, nofun, nofun, trivial, hs.extraBits_le, hs.litlenCount_le, hs.distanceCount_le,
        hs.lengthTarget_le, hlen⟩
  | constructAlphabets =>
    dsimp only
    split
    · trivial
    · next st' hc =>
      obtain ⟨hlit, ⟨len, hdist⟩, hr, hsz⟩ := constructAlphabets_ok hc
      have hn : (if st.distanceCount = 1 then 2 else st.distanceCount) ≤ 32 := by
        have hdc : st.distanceCount ≤ 32 := hs.distanceCount_le
        split <;> omega
      refine stepOk_next ⟨hr ▸ h.reader_wf, nofun, nofun, ⟨⟨_, _, hs.litlenCount_le, hlit⟩, ⟨len, _, hn, hdist⟩⟩,
        hsz ▸ hs⟩
  | lzhufLitlen =>
    dsimp only
    refine decodeThen_stateOk h nofun h.symbols.1 fun v d inp₁ hd hv => ?_
    split
    · exact stepOk_next ⟨hd, nofun, nofun, h.symbols, hs⟩
    split
    · exact stepOk_next ⟨hd, nofun, nofun, trivial, hs⟩
    -- `code - 256 - 1` を開くと `Nat.sub` が 256 段に展開されるので、名前で置く
    generalize v - 256 - 1 = extra
    split
    · next hx =>
      have he : extraBitsOf extra 4 ≤ 14 := by
        unfold extraBitsOf
        omega
      exact stepOk_next ⟨hd, nofun, nofun, h.symbols, he, hs.litlenCount_le, hs.distanceCount_le,
        hs.lengthTarget_le, hs.lengthsLength_eq⟩
    · exact stepOk_next ⟨hd, nofun, nofun, h.symbols, Nat.zero_le 14, hs.litlenCount_le, hs.distanceCount_le,
        hs.lengthTarget_le, hs.lengthsLength_eq⟩
  | lzhufLitlenExtra =>
    dsimp only
    exact extractThen_stateOk h (by omega) nofun fun v d inp₁ hd =>
      stepOk_next ⟨hd, nofun, nofun, h.symbols, hs⟩
  | lzhufDistance =>
    dsimp only
    refine decodeThen_stateOk h nofun h.symbols.2 fun v d inp₁ hd hv => stepOk_next ?_
    -- distance の記号は 32 未満なので、`deflate_distance_base[32]` の添字で、追加 bit は 14 以下
    have he : extraBitsOf v 2 ≤ 14 := by
      unfold extraBitsOf
      omega
    exact ⟨hd, nofun, nofun, h.symbols, he, hs.litlenCount_le, hs.distanceCount_le, hs.lengthTarget_le,
      hs.lengthsLength_eq⟩
  | lzhufDistanceExtra =>
    dsimp only
    refine extractThen_stateOk h (by omega) nofun fun v d inp₁ hd => ?_
    split
    · trivial
    · exact stepOk_next ⟨hd, nofun, nofun, h.symbols, hs⟩
  | blockDone =>
    dsimp only
    split
    · exact stepOk_next ⟨h.reader_wf, nofun, nofun, trivial, hs⟩
    split
    · exact stepOk_next ⟨h.reader_wf, nofun, nofun, trivial, hs⟩
    · exact stepOk_next ⟨h.reader_wf, nofun, nofun, trivial, hs⟩
  | zlibFooter =>
    dsimp only
    obtain ⟨hw, ha⟩ := deflateDiscardToByte_wf h.reader_wf
    exact stepOk_next ⟨hw, fun _ => ha, nofun, trivial, hs⟩
  | zlibAdler32 =>
    dsimp only
    obtain ⟨hw, ha⟩ := accumulateLoop_aligned_wf (inp.len - inp.offset) st.reader inp h.reader_wf (h.aligned rfl)
    split
    · exact stepOk_suspend ⟨hw, fun _ => ha, nofun, trivial, hs⟩
    · exact stepOk_next ⟨hw, nofun, nofun, trivial, hs⟩
  | finished =>
    dsimp only
    -- 再開点を消すと、次の呼び出しは形式の最初の label から
    show StateOk (entryLabel { st with resume := none }) { st with resume := none }
    rcases entryLabel_of_none { st with resume := none } rfl with e | e
    · rw [e]
      exact ⟨h.reader_wf, nofun, nofun, trivial, hs⟩
    · rw [e]
      exact ⟨h.reader_wf, nofun, nofun, trivial, hs⟩

end Step

/-! ## 走りと呼び出し -/

/-- 走りが成功して返れば、再開点の label で `StateOk`。fuel についての帰納法で、一歩ごとに
`inflateStep_stateOk` を重ねる。fuel が尽きた時は今の label で中断した形になる。 -/
theorem inflateRun_stateOk : ∀ (fuel : Nat) (l : Label) (st : Inflater) (inp out : DeflateChunk)
    {st' : Inflater} {inp' out' : DeflateChunk},
    StateOk l st → inflateRun fuel l st inp out = .ok (st', inp', out') → StateOk (entryLabel st') st' := by
  intro fuel
  induction fuel with
  | zero =>
    intro l st inp out st' inp' out' h hrun
    simp only [inflateRun, Except.ok.injEq, Prod.mk.injEq] at hrun
    obtain ⟨rfl, -, -⟩ := hrun
    exact h.with_reader h.reader_wf h.aligned (some l)
  | succ fuel ih =>
    intro l st inp out st' inp' out' h hrun
    have hstep : StepOk (inflateStep l st inp out) := inflateStep_stateOk h
    rw [inflateRun_succ] at hrun
    cases hs : inflateStep l st inp out with
    | next l₁ st₁ inp₁ out₁ =>
      rw [hs] at hrun hstep
      exact ih l₁ st₁ inp₁ out₁ hstep hrun
    | stop st₁ inp₁ out₁ =>
      rw [hs] at hrun hstep
      simp only [Except.ok.injEq, Prod.mk.injEq] at hrun
      obtain ⟨rfl, -, -⟩ := hrun
      exact hstep
    | fail rc =>
      rw [hs] at hrun
      cases hrun

/-- `deflate_init` の状態は、入口の label で `StateOk`。 -/
theorem stateOk_deflateInit (format : DeflateFormat) : StateOk (entryLabel (deflateInit format)) (deflateInit format) :=
  ⟨wf_zero, fun _ => rfl, fun _ => Nat.zero_le 19, by cases format <;> trivial,
    ⟨Nat.zero_le 14, Nat.zero_le 288, Nat.zero_le 32, Nat.zero_le _, List.length_replicate⟩⟩

/-- **`struct deflate` は範囲の中にある。** `deflate_init` から `deflate_inflate` を何度呼んでも、
再開点の label で `StateOk` が成り立つ。だから `deflate_accumulate` の assert は成り立ち、
`deflate_codelen_map[]`、`dup_len[]`、`extra_bits[]`、`deflate_distance_base[]` と
`deflate->lengths` は配列の中で読み書きされる。 -/
theorem Reachable.stateOk {st : Inflater} (h : Reachable st) : StateOk (entryLabel st) st := by
  induction h with
  | init format => exact stateOk_deflateInit format
  | inflate _ hrun ih => exact inflateRun_stateOk _ _ _ _ _ ih hrun

theorem stateOk_after_empty_stored :
    Reachable { deflateInit .raw with header := 1 } ∧
      StateOk (entryLabel { deflateInit .raw with header := 1 }) { deflateInit .raw with header := 1 } :=
  have hr : Reachable { deflateInit .raw with header := 1 } :=
    .inflate (.init .raw)
      (show deflateInflate (deflateInit .raw) ⟨[1, 0, 0, 255, 255], 0, 5⟩ ⟨[], 0, 0⟩ =
        .ok ({ deflateInit .raw with header := 1 }, ⟨[1, 0, 0, 255, 255], 5, 5⟩, ⟨[], 0, 0⟩) from rfl)
  ⟨hr, Reachable.stateOk hr⟩

end FlexBoot.Inflate
