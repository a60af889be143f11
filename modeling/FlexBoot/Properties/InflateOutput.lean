import FlexBoot.Properties.InflateRun
import FlexBoot.Infra.Backref

/-!
# 出力の buffer と入力の chunk

`deflate_copy` が書くものと、`deflate_inflate` が二つの chunk に触れる範囲。

* `copyLoop_eq` — `deflate_copy` の loop は一つずつ前から写す `forwardCopy`
* `deflateCopy_output` — 出力 buffer からの back-reference は、書いた所の `dist` 前からの繰り返しを
  書く（LZ77）
* `deflateCopy_bytes` — 入力から写すと、入力の区間をそのまま書く
* `InFrame`, `OutFrame` — 入力の chunk は data と len を変えずに offset を進めるだけで、出力の buffer
  は長さを変えず、書き始めた所より前を変えない
* `deflateInflate_frame` — `deflate_inflate` の一回の呼び出し全体でも同じ
-/

namespace FlexBoot.Inflate

open Infra

/-! ## 写す -/

/-- 写し元の読み方。`.output` は書いている出力 buffer から読む。 -/
def CopySource.read : CopySource → List UInt8 → Nat → UInt8
  | .output => fun data i => data.getD i 0
  | .bytes b => fun _ i => b.getD i 0

theorem copyLoop_succ (src : CopySource) (k : Nat) (data : List UInt8) (o s : Nat) :
    copyLoop src (k + 1) data o s = copyLoop src k (data.set o (src.read data s)) (o + 1) (s + 1) := by
  cases src <;> rfl

/-- `deflate_copy` の loop は、写し元の読み方で一つずつ前から写す。 -/
theorem copyLoop_eq (src : CopySource) : ∀ (k : Nat) (data : List UInt8) (o s : Nat),
    copyLoop src k data o s = forwardCopy src.read k data o s
  | 0, _, _, _ => rfl
  | k + 1, data, o, s => by
    rw [copyLoop_succ, forwardCopy_succ, copyLoop_eq src k]

/-- `out->len` より前から書き始めれば、`out->len` までの byte を写す。 -/
theorem deflateCopy_data {out : DeflateChunk} (src : CopySource) (offset len : Nat) (h : out.offset < out.len) :
    (deflateCopy out src offset len).data =
      forwardCopy src.read (min (out.len - out.offset) len) out.data out.offset offset := by
  simp only [deflateCopy, if_pos h, copyLoop_eq]

/-- **back-reference は LZ77 の繰り返し。** 出力 buffer の `dist` 前から写すと、書いた所までの列に、
その `dist` byte を繰り返して足した列が書かれる。`out->len` を越える分は書かない。 -/
theorem deflateCopy_output {out : DeflateChunk} {dist : Nat} (len : Nat) (hd : 0 < dist) (hdo : dist ≤ out.offset)
    (ho : out.offset < out.len) (hlen : out.len ≤ out.data.length) :
    (deflateCopy out .output (out.offset - dist) len).data =
      backref 0 (out.data.take out.offset) dist (min (out.len - out.offset) len) ++
        out.data.drop (out.offset + min (out.len - out.offset) len) := by
  rw [deflateCopy_data _ _ _ ho]
  exact forwardCopy_self 0 hd _ _ _ hdo (by omega)

theorem deflateCopy_output_overlap :
    0 < 2 ∧ 2 ≤ 2 ∧ 2 < 5 ∧ 5 ≤ ([1, 2, 0, 0, 0] : List UInt8).length ∧
      (deflateCopy ⟨[1, 2, 0, 0, 0], 2, 5⟩ .output 0 3).data = [1, 2, 1, 2, 1] :=
  ⟨by decide, by decide, by decide, by decide,
    (@deflateCopy_output ⟨[1, 2, 0, 0, 0], 2, 5⟩ 2 3 (by decide) (by decide) (by decide) (by decide)).trans
      (by decide)⟩

/-- 入力から写すと、入力の `offset` からの byte を `out->len` まで書く。 -/
theorem deflateCopy_bytes {out : DeflateChunk} (b : List UInt8) (offset len : Nat) (ho : out.offset < out.len)
    (hlen : out.len ≤ out.data.length) :
    (deflateCopy out (.bytes b) offset len).data =
      out.data.take out.offset ++ (List.range (min (out.len - out.offset) len)).map (fun i => b.getD (offset + i) 0) ++
        out.data.drop (out.offset + min (out.len - out.offset) len) := by
  rw [deflateCopy_data _ _ _ ho]
  exact forwardCopy_external b 0 _ _ _ _ (by omega)

/-! ## chunk の枠 -/

/-- 入力の chunk の枠：data と len は変わらず、offset は戻らない。 -/
structure InFrame (inp inp' : DeflateChunk) : Prop where
  data_eq : inp'.data = inp.data
  len_eq : inp'.len = inp.len
  offset_le : inp.offset ≤ inp'.offset

/-- 出力の chunk の枠：buffer の長さと `len` は変わらず、`offset` は戻らず、その前の byte は変わらない。 -/
structure OutFrame (out out' : DeflateChunk) : Prop where
  length_eq : out'.data.length = out.data.length
  take_eq : out'.data.take out.offset = out.data.take out.offset
  offset_le : out.offset ≤ out'.offset
  len_eq : out'.len = out.len

theorem InFrame.refl (inp : DeflateChunk) : InFrame inp inp := ⟨rfl, rfl, Nat.le_refl _⟩

theorem InFrame.trans {a b c : DeflateChunk} (h₁ : InFrame a b) (h₂ : InFrame b c) : InFrame a c :=
  ⟨h₂.data_eq.trans h₁.data_eq, h₂.len_eq.trans h₁.len_eq, Nat.le_trans h₁.offset_le h₂.offset_le⟩

theorem OutFrame.refl (out : DeflateChunk) : OutFrame out out := ⟨rfl, rfl, Nat.le_refl _, rfl⟩

theorem OutFrame.trans {a b c : DeflateChunk} (h₁ : OutFrame a b) (h₂ : OutFrame b c) : OutFrame a c := by
  refine ⟨h₂.length_eq.trans h₁.length_eq, ?_, Nat.le_trans h₁.offset_le h₂.offset_le, h₂.len_eq.trans h₁.len_eq⟩
  -- `a.offset` までの頭は、`b.offset` までの頭の頭
  calc c.data.take a.offset = (c.data.take b.offset).take a.offset := by
        rw [List.take_take, Nat.min_eq_left h₁.offset_le]
    _ = (b.data.take b.offset).take a.offset := by rw [h₂.take_eq]
    _ = a.data.take a.offset := by rw [List.take_take, Nat.min_eq_left h₁.offset_le, h₁.take_eq]

theorem deflateCopy_outFrame (out : DeflateChunk) (src : CopySource) (offset len : Nat) :
    OutFrame out (deflateCopy out src offset len) := by
  unfold deflateCopy
  split
  · refine ⟨?_, ?_, Nat.le_add_right _ _, rfl⟩
    · rw [copyLoop_eq, length_forwardCopy]
    · rw [copyLoop_eq, take_forwardCopy]
  · exact ⟨rfl, rfl, Nat.le_add_right _ _, rfl⟩

/-! ## 読み出しと入力の chunk -/

/-- 溜める loop は入力の offset を進めるだけ。 -/
theorem accumulateLoop_inFrame (target : Nat) :
    ∀ (fuel : Nat) (d : Deflate) (inp : DeflateChunk), InFrame inp (accumulateLoop target fuel d inp).2
  | 0, _, inp => InFrame.refl inp
  | fuel + 1, d, inp => by
    rw [accumulateLoop_succ]
    split
    · split
      · exact InFrame.refl inp
      · exact (⟨rfl, rfl, Nat.le_succ _⟩ : InFrame inp { inp with offset := inp.offset + 1 }).trans
          (accumulateLoop_inFrame target fuel _ _)
    · exact InFrame.refl inp

theorem deflateExtract_inFrame (d : Deflate) (inp : DeflateChunk) (target : Nat) :
    InFrame inp (deflateExtract d inp target).2.2 := by
  unfold deflateExtract
  split
  · exact InFrame.refl inp
  · dsimp only
    split
    · exact accumulateLoop_inFrame target _ d inp
    · exact accumulateLoop_inFrame target _ d inp

/-- `deflate_decode` が返す入力の chunk は、溜めた後のもの。 -/
theorem deflateDecode_inFrame {d d' : Deflate} {inp inp' : DeflateChunk} {a : Alphabet} {code : Int}
    (h : deflateDecode d inp a = .ok (code, d', inp')) : InFrame inp inp' := by
  have hf := accumulateLoop_inFrame huffmanBits (inp.len - inp.offset) d inp
  unfold deflateDecode deflateAccumulate at h
  generalize accumulateLoop huffmanBits (inp.len - inp.offset) d inp = r at h hf
  obtain ⟨d₁, inp₁⟩ := r
  simp only [bind, Except.bind, pure, Except.pure] at h
  split at h
  · cases h
  · split at h
    · simp only [Except.ok.injEq, Prod.mk.injEq] at h
      obtain ⟨-, -, rfl⟩ := h
      exact hf
    · split at h
      · cases h
      · simp only [Except.ok.injEq, Prod.mk.injEq] at h
        obtain ⟨-, -, rfl⟩ := h
        exact hf

/-! ## 一歩と走り -/

/-- 一歩の結果が、入力と出力の枠を守る。失敗した時は chunk を返さない。 -/
def Framed (inp out : DeflateChunk) : Step → Prop
  | .next _ _ inp' out' => InFrame inp inp' ∧ OutFrame out out'
  | .stop _ inp' out' => InFrame inp inp' ∧ OutFrame out out'
  | .fail _ => True

section Framed

variable {l : Label} {st : Inflater} {inp out : DeflateChunk}

theorem framed_next {l' : Label} {st' : Inflater} {inp' out' : DeflateChunk} (hi : InFrame inp inp')
    (ho : OutFrame out out') : Framed inp out (.next l' st' inp' out') :=
  ⟨hi, ho⟩

theorem extractThen_framed {t : Nat} {k : Nat → Inflater → DeflateChunk → Step}
    (hk : ∀ v st₁ inp₁, InFrame inp inp₁ → Framed inp out (k v st₁ inp₁)) :
    Framed inp out (extractThen l st inp out t k) := by
  have hf := deflateExtract_inFrame st.reader inp t
  unfold extractThen
  dsimp only
  split
  · exact ⟨hf, OutFrame.refl out⟩
  · exact hk _ _ _ hf

theorem decodeThen_framed {a : Alphabet} {k : Nat → Inflater → DeflateChunk → Step}
    (hk : ∀ v st₁ inp₁, InFrame inp inp₁ → Framed inp out (k v st₁ inp₁)) :
    Framed inp out (decodeThen l st inp out a k) := by
  unfold decodeThen
  split
  · trivial
  · next code d inp₁ hdec =>
    have hf := deflateDecode_inFrame hdec
    split
    · exact ⟨hf, OutFrame.refl out⟩
    · exact hk _ _ _ hf

/-- **一歩は枠を守る。** 入力の chunk は offset が進むだけで、出力の buffer は `deflate_copy` で
書くほかは変わらない。label ごとに本体を開く。 -/
theorem inflateStep_framed (l : Label) (st : Inflater) (inp out : DeflateChunk) :
    Framed inp out (inflateStep l st inp out) := by
  delta inflateStep
  cases l with
  | zlibHeader =>
    dsimp only
    refine extractThen_framed fun v st₁ inp₁ hi => ?_
    split
    · trivial
    split
    · trivial
    · exact ⟨hi, OutFrame.refl out⟩
  | blockHeader =>
    dsimp only
    refine extractThen_framed fun v st₁ inp₁ hi => ?_
    split <;> first | trivial | exact ⟨hi, OutFrame.refl out⟩
  | literalBlock | staticBlock | zlibFooter | blockDone | finished =>
    dsimp only
    repeat' split
    all_goals exact ⟨InFrame.refl inp, OutFrame.refl out⟩
  | literalLen | dynamicHeader | lzhufLitlenExtra =>
    dsimp only
    exact extractThen_framed fun v st₁ inp₁ hi => ⟨hi, OutFrame.refl out⟩
  | literalNlen | dynamicLitlenDistanceExtra =>
    dsimp only
    refine extractThen_framed fun v st₁ inp₁ hi => ?_
    split <;> first | trivial | exact ⟨hi, OutFrame.refl out⟩
  | literalData =>
    dsimp only
    -- 写した byte の分だけ入力の offset を進める
    have hi : InFrame inp { inp with offset := inp.offset + min st.remaining (inp.len - inp.offset) } :=
      ⟨rfl, rfl, Nat.le_add_right _ _⟩
    split
    · exact ⟨hi, deflateCopy_outFrame _ _ _ _⟩
    · exact ⟨hi, deflateCopy_outFrame _ _ _ _⟩
  | dynamicCodelen =>
    dsimp only
    split
    · exact extractThen_framed fun v st₁ inp₁ hi => ⟨hi, OutFrame.refl out⟩
    · split
      · trivial
      · exact ⟨InFrame.refl inp, OutFrame.refl out⟩
  | dynamicLitlenDistance =>
    dsimp only
    refine decodeThen_framed fun v st₁ inp₁ hi => ?_
    split
    · exact ⟨hi, OutFrame.refl out⟩
    · exact ⟨hi, OutFrame.refl out⟩
  | constructAlphabets =>
    dsimp only
    split
    · trivial
    · exact ⟨InFrame.refl inp, OutFrame.refl out⟩
  | lzhufLitlen =>
    dsimp only
    refine decodeThen_framed fun v st₁ inp₁ hi => ?_
    split
    · exact ⟨hi, deflateCopy_outFrame _ _ _ _⟩
    split
    · exact framed_next hi (OutFrame.refl out)
    -- `code - 256 - 1` を開くと `Nat.sub` が 256 段に展開されるので、名前で置く
    generalize v - 256 - 1 = extra
    split <;> exact framed_next hi (OutFrame.refl out)
  | lzhufDistance =>
    dsimp only
    exact decodeThen_framed fun v st₁ inp₁ hi => ⟨hi, OutFrame.refl out⟩
  | lzhufDistanceExtra =>
    dsimp only
    refine extractThen_framed fun v st₁ inp₁ hi => ?_
    split
    · trivial
    · exact ⟨hi, deflateCopy_outFrame _ _ _ _⟩
  | zlibAdler32 =>
    dsimp only
    have hi := accumulateLoop_inFrame 32 (inp.len - inp.offset) st.reader inp
    split
    · exact ⟨hi, OutFrame.refl out⟩
    · exact ⟨hi, OutFrame.refl out⟩

end Framed

/-- 走りが成功して返れば、二つの chunk は枠を守っている。fuel についての帰納法で、一歩ごとに
`inflateStep_framed` を重ねる。 -/
theorem inflateRun_frame : ∀ (fuel : Nat) (l : Label) (st : Inflater) (inp out : DeflateChunk)
    {st' : Inflater} {inp' out' : DeflateChunk},
    inflateRun fuel l st inp out = .ok (st', inp', out') → InFrame inp inp' ∧ OutFrame out out' := by
  intro fuel
  induction fuel with
  | zero =>
    intro l st inp out st' inp' out' h
    simp only [inflateRun, Except.ok.injEq, Prod.mk.injEq] at h
    obtain ⟨-, rfl, rfl⟩ := h
    exact ⟨InFrame.refl inp, OutFrame.refl out⟩
  | succ fuel ih =>
    intro l st inp out st' inp' out' h
    have hstep := inflateStep_framed l st inp out
    rw [inflateRun_succ] at h
    cases hs : inflateStep l st inp out with
    | next l₁ st₁ inp₁ out₁ =>
      rw [hs] at h hstep
      obtain ⟨hi, ho⟩ := ih l₁ st₁ inp₁ out₁ h
      exact ⟨hstep.1.trans hi, hstep.2.trans ho⟩
    | stop st₁ inp₁ out₁ =>
      rw [hs] at h hstep
      simp only [Except.ok.injEq, Prod.mk.injEq] at h
      obtain ⟨-, rfl, rfl⟩ := h
      exact hstep
    | fail rc =>
      rw [hs] at h
      cases h

/-- **呼び出しの枠。** `deflate_inflate` が成功して返れば、入力の chunk は data と len がそのままで
offset が進んだだけであり、出力の buffer は長さと `len` がそのままで、呼んだ時の `offset` より前の
byte は一つも変わっていない。 -/
theorem deflateInflate_frame {st st' : Inflater} {inp out inp' out' : DeflateChunk}
    (h : deflateInflate st inp out = .ok (st', inp', out')) : InFrame inp inp' ∧ OutFrame out out' :=
  inflateRun_frame _ _ _ _ _ h

theorem deflateInflate_frame_one_byte :
    deflateInflate (deflateInit .raw) ⟨[1, 1, 0, 254, 255, 7], 0, 6⟩ ⟨[0, 0], 0, 2⟩ =
        .ok ({ deflateInit .raw with header := 1 }, ⟨[1, 1, 0, 254, 255, 7], 6, 6⟩, ⟨[7, 0], 1, 2⟩) ∧
      InFrame ⟨[1, 1, 0, 254, 255, 7], 0, 6⟩ ⟨[1, 1, 0, 254, 255, 7], 6, 6⟩ ∧
      OutFrame ⟨[0, 0], 0, 2⟩ ⟨[7, 0], 1, 2⟩ := by
  have h : deflateInflate (deflateInit .raw) ⟨[1, 1, 0, 254, 255, 7], 0, 6⟩ ⟨[0, 0], 0, 2⟩ =
      .ok ({ deflateInit .raw with header := 1 }, ⟨[1, 1, 0, 254, 255, 7], 6, 6⟩, ⟨[7, 0], 1, 2⟩) := rfl
  exact ⟨h, deflateInflate_frame h⟩

end FlexBoot.Inflate
