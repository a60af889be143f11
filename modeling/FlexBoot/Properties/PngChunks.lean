import FlexBoot.Image.Png

/-!
# PNG の chunk の walk

* `pngPixbuf_chunk_walk_wraps_on_i386` — 64 bit の build では、signature のある image なら chunk の
  walk は `image.length + 1` 回のうちに終わり、`png_chunk` に渡した chunk はどれも
  `offset + len + 4 ≤ image->len` を満たし、`offset` は chunk ごとに増える。32 bit の build では、
  長さの欄が `0xfffffff4` の chunk で `8 + chunk_len + 4` が 0 に回り、長さの検査を通った chunk は
  image の外に伸びる。`png->offset` は同じ header に戻り、ancillary の型なら walk は終わらない

64 bit の側は、一回の step で何が起こるかを `pngChunkStep_x86_64` に一度だけ書き、walk の
不変条件 `WalkInv`（`offset ≤ image->len`、記録した chunk はどれも `offset` より前で終わり、
`offset` の順に並ぶ）をそこから導く。
-/

namespace FlexBoot.Png

open Infra FlexBoot

variable {σ : Type} (handle : Nat → Nat → Nat → σ → Except Rc σ)

/-- 成功しても失敗しても、その時の walk の状態。 -/
def walkOf : Except (Rc × PngWalk σ) (PngWalk σ) → PngWalk σ
  | .error (_, w) => w
  | .ok w => w

/-- 記録した chunk（型、`png->offset`、長さ）がどれも image の中にあり、`offset` の順に並ぶ。 -/
def ChunksOk (image : Bytes) (chunks : List (Nat × Nat × Nat)) : Prop :=
  (∀ c ∈ chunks, c.2.1 + c.2.2 + 4 ≤ image.length) ∧ chunks.Pairwise (fun c d => c.2.1 < d.2.1)

/-- walk の不変条件：`offset` は image の中にあり、記録した chunk はどれも `offset` より前で終わり、
`offset` の順に並ぶ。 -/
def WalkInv (image : Bytes) (w : PngWalk σ) : Prop :=
  w.offset ≤ image.length ∧ (∀ c ∈ w.chunks, c.2.1 + c.2.2 + 4 ≤ w.offset) ∧
    w.chunks.Pairwise (fun c d => c.2.1 < d.2.1)

theorem WalkInv.chunksOk {image : Bytes} {w : PngWalk σ} (h : WalkInv image w) : ChunksOk image w.chunks :=
  ⟨fun c hc => Nat.le_trans (h.2.1 c hc) h.1, h.2.2⟩

/-- 今の `offset` の 8 byte 後に始まり `e` までに終わる chunk を一つ足すと、記録はどれも `e` までに
終わり、`offset` の順に並ぶ。 -/
theorem WalkInv.concat {image : Bytes} {w : PngWalk σ} (h : WalkInv image w) {c : Nat × Nat × Nat} {e : Nat}
    (hc : c.2.1 = w.offset + 8) (hend : c.2.1 + c.2.2 + 4 ≤ e) :
    (∀ d ∈ w.chunks ++ [c], d.2.1 + d.2.2 + 4 ≤ e) ∧ (w.chunks ++ [c]).Pairwise (fun c d => c.2.1 < d.2.1) := by
  refine ⟨fun d hd => ?_, List.pairwise_append.2 ⟨h.2.2, List.pairwise_singleton _ _, fun a ha b hb => ?_⟩⟩
  · rw [List.mem_append, List.mem_singleton] at hd
    rcases hd with hd | rfl
    · have := h.2.1 d hd
      omega
    · exact hend
  · rw [List.mem_singleton.1 hb, hc]
    have := h.2.1 a ha
    omega

theorem pngChunk_of_ancillary (offset len : Nat) {type : Nat} (ctx : σ) (h1 : type ∉ pngChunkHandlerTypes)
    (h2 : type &&& pngChunkAncillary ≠ 0) : pngChunk handle type offset len ctx = .ok ctx := by
  rw [pngChunk, if_neg h1, if_neg h2]

/-! ## 64 bit の build -/

/-- 64 bit の一回：失敗なら記録は変わらないか、image の中の chunk が一つ増える。成功なら chunk が
一つ増え、`offset` はその chunk の終わりに進む。 -/
theorem pngChunkStep_x86_64 (image : Bytes) (w : PngWalk σ) (hlen : image.length < 2 ^ 64)
    (hoff : w.offset ≤ image.length) :
    ((walkOf (pngChunkStep handle .x86_64 image w)).chunks = w.chunks ∨
      ∃ c, (walkOf (pngChunkStep handle .x86_64 image w)).chunks = w.chunks ++ [c] ∧
        c.2.1 = w.offset + 8 ∧ c.2.1 + c.2.2 + 4 ≤ image.length) ∧
    ∀ w', pngChunkStep handle .x86_64 image w = .ok w' →
      ∃ c, w'.chunks = w.chunks ++ [c] ∧ c.2.1 = w.offset + 8 ∧ c.2.1 + c.2.2 + 4 = w'.offset ∧
        w'.offset ≤ image.length := by
  have hl := be32_lt image w.offset
  -- 64 bit では `remaining`、`8 + chunk_len + 4` と新しい `offset` のどれも回らない
  have hrem : (image.length + (2 ^ Arch.longBits .x86_64 - w.offset)) % 2 ^ Arch.longBits .x86_64 =
      image.length - w.offset := by
    simp only [Arch.longBits]; omega
  have hsum : (8 + be32 image w.offset + 4) % 2 ^ Arch.longBits .x86_64 = be32 image w.offset + 12 := by
    simp only [Arch.longBits]; omega
  unfold pngChunkStep
  dsimp only
  rw [hrem, hsum]
  by_cases h8 : image.length - w.offset < 8
  · rw [if_pos h8]
    exact ⟨.inl rfl, fun w' h => nomatch h⟩
  rw [if_neg h8]
  have hoff8 : (w.offset + 8) % 2 ^ Arch.longBits .x86_64 = w.offset + 8 := by
    simp only [Arch.longBits]; omega
  rw [hoff8]
  by_cases hshort : image.length - w.offset < be32 image w.offset + 12
  · rw [if_pos hshort]
    exact ⟨.inl rfl, fun w' h => nomatch h⟩
  rw [if_neg hshort]
  have hin : w.offset + 8 + be32 image w.offset + 4 ≤ image.length := by omega
  cases hc : pngChunk handle (be32 image (w.offset + 4)) (w.offset + 8) (be32 image w.offset) w.ctx with
  | error rc =>
    exact ⟨.inr ⟨_, rfl, rfl, hin⟩, fun w' h => nomatch h⟩
  | ok ctx =>
    have hnext : (w.offset + 8 + (be32 image w.offset + 4)) % 2 ^ Arch.longBits .x86_64 =
        w.offset + 8 + be32 image w.offset + 4 := by
      simp only [Arch.longBits]; omega
    refine ⟨.inr ⟨_, rfl, rfl, hin⟩, fun w' h => ?_⟩
    cases h
    exact ⟨_, rfl, rfl, hnext.symm, by rw [hnext]; exact hin⟩

/-- loop の状態の不変条件：成功した状態は `WalkInv`、失敗した状態の記録は `ChunksOk`。 -/
def LoopInv (image : Bytes) (r : Except (Rc × PngWalk σ) (PngWalk σ)) : Prop :=
  ChunksOk image (walkOf r).chunks ∧ ∀ w, r = .ok w → WalkInv image w

/-- 一回の step は loop の不変条件を保つ。 -/
theorem loopInv_pngChunkStep (image : Bytes) (hlen : image.length < 2 ^ 64) {w : PngWalk σ}
    (h : WalkInv image w) : LoopInv image (pngChunkStep handle .x86_64 image w) := by
  obtain ⟨happ, hok⟩ := pngChunkStep_x86_64 handle image w hlen h.1
  refine ⟨?_, fun w' hr => ?_⟩
  · rcases happ with hch | ⟨c, hch, hc, hin⟩
    · exact hch ▸ h.chunksOk
    · exact hch ▸ h.concat hc hin
  · obtain ⟨c, hch, hc, hend, hle⟩ := hok w' hr
    obtain ⟨hall, hpair⟩ := h.concat hc hend.le
    exact ⟨hle, hch ▸ hall, hch ▸ hpair⟩

/-- 最後の `IEND` の検査は記録を変えない。 -/
theorem walkOf_bind_iend (r : Except (Rc × PngWalk σ) (PngWalk σ)) :
    (walkOf (r.bind fun w => if w.lastType = pngTypeIend then .ok w else .error (.einval, w))).chunks =
      (walkOf r).chunks := by
  cases r with
  | ok w =>
    show (walkOf (if w.lastType = pngTypeIend then .ok w else .error (.einval, w))).chunks = w.chunks
    split <;> rfl
  | error e => rfl

/-- 64 bit では、chunk の loop は `image.length + 1` 回のうちに終わり、記録はどれも image の中にある。 -/
theorem pngPixbuf_x86_64 (image : Bytes) (ctx : σ) (h8 : 8 ≤ image.length) (hlen : image.length < 2 ^ 64) :
    ∃ r, pngPixbuf handle .x86_64 image ctx (image.length + 1) = some r ∧ ChunksOk image (walkOf r).chunks := by
  let μ : Except (Rc × PngWalk σ) (PngWalk σ) → Nat
    | .ok w => image.length + 1 - w.offset
    | .error _ => 0
  -- 続く step では `offset` が少なくとも 12 増えるので `μ` が減る
  have hdec : ∀ a b, pngChunkNext handle .x86_64 image a = some b → μ b < μ a := by
    intro a b hab
    cases a with
    | error e => exact nomatch hab
    | ok w =>
      simp only [pngChunkNext] at hab
      split at hab
      · cases hab
        obtain ⟨-, hok⟩ := pngChunkStep_x86_64 handle image w hlen (by omega)
        cases hr : pngChunkStep handle .x86_64 image w with
        | ok w' =>
          obtain ⟨c, -, hc, hend, -⟩ := hok w' hr
          simp only [μ]
          omega
        | error e => simp only [μ]; omega
      · exact nomatch hab
  have hinit : WalkInv image (⟨8, 0, ctx, []⟩ : PngWalk σ) := ⟨h8, by simp, List.Pairwise.nil⟩
  have hfirst : LoopInv image (pngChunkStep handle .x86_64 image ⟨8, 0, ctx, []⟩) :=
    loopInv_pngChunkStep handle image hlen hinit
  -- 最初の step が成功すれば、`offset` は 8 より先にある
  obtain ⟨-, hok0⟩ := pngChunkStep_x86_64 handle image ⟨8, 0, ctx, []⟩ hlen h8
  obtain ⟨r, hr⟩ := whileSome_isSome_of_measure μ hdec (image.length + 1)
    (pngChunkStep handle .x86_64 image ⟨8, 0, ctx, []⟩) (by
      cases h0 : pngChunkStep handle .x86_64 image ⟨8, 0, ctx, []⟩ with
      | ok w =>
        obtain ⟨c, -, hc, hend, -⟩ := hok0 w h0
        dsimp only at hc
        simp only [μ]
        omega
      | error e => simp only [μ]; omega)
  have hinv : LoopInv image r := by
    refine whileSome_invariant (fun a b ha hab => ?_) hfirst hr
    cases a with
    | error e => exact nomatch hab
    | ok w =>
      simp only [pngChunkNext] at hab
      split at hab
      · cases hab
        exact loopInv_pngChunkStep handle image hlen (ha.2 w rfl)
      · exact nomatch hab
  refine ⟨_, by rw [pngPixbuf, hr]; rfl, ?_⟩
  rw [walkOf_bind_iend]
  exact hinv.1

/-! ## 32 bit の build -/

/-- 32 bit で、`offset = 8` の chunk の長さの欄が `0xfffffff4` なら、`8 + chunk_len + 4` は 0 に回り、
長さの検査を通る。`png_chunk` は image の外に伸びる chunk を受け取り、成功すれば `offset` は
`16 + 0xfffffff4 + 4` を 2 ^ 32 で回した 8、つまり同じ header に戻る。 -/
theorem pngChunkStep_i386_wraps (image : Bytes) (w : PngWalk σ) (hlen : 16 ≤ image.length)
    (hlen' : image.length < 2 ^ 32) (hoff : w.offset = 8) (hbig : be32 image 8 = 2 ^ 32 - 12) :
    (walkOf (pngChunkStep handle .i386 image w)).chunks = w.chunks ++ [(be32 image 12, 16, 2 ^ 32 - 12)] ∧
    ∀ ctx', pngChunk handle (be32 image 12) 16 (2 ^ 32 - 12) w.ctx = .ok ctx' →
      pngChunkStep handle .i386 image w = .ok ⟨8, be32 image 12, ctx', w.chunks ++ [(be32 image 12, 16, 2 ^ 32 - 12)]⟩ := by
  have hrem : (image.length + (2 ^ Arch.longBits .i386 - w.offset)) % 2 ^ Arch.longBits .i386 = image.length - 8 := by
    simp only [Arch.longBits]; omega
  have hwrap : (8 + be32 image w.offset + 4) % 2 ^ Arch.longBits .i386 = 0 := by
    rw [hoff, hbig]; simp only [Arch.longBits]; omega
  have hoff16 : (w.offset + 8) % 2 ^ Arch.longBits .i386 = 16 := by
    rw [hoff]; simp only [Arch.longBits]; omega
  have hback : (16 + (2 ^ 32 - 12 + 4)) % 2 ^ Arch.longBits .i386 = 8 := by
    simp only [Arch.longBits]; omega
  unfold pngChunkStep
  dsimp only
  rw [hrem, hwrap, if_neg (by omega), if_neg (by omega), hoff16, hoff, hbig]
  constructor
  · cases pngChunk handle (be32 image 12) 16 (2 ^ 32 - 12) w.ctx <;> rfl
  · intro ctx' hc
    rw [hc, hback]

/-- 32 bit で、ancillary で表にない型なら、`png_pixbuf` の walk はいつまでも終わらない。 -/
theorem pngPixbuf_i386_loops (image : Bytes) (ctx : σ) (hlen : 16 ≤ image.length)
    (hlen' : image.length < 2 ^ 32) (hbig : be32 image 8 = 2 ^ 32 - 12)
    (h1 : be32 image 12 ∉ pngChunkHandlerTypes) (h2 : be32 image 12 &&& pngChunkAncillary ≠ 0) (fuel : Nat) :
    pngPixbuf handle .i386 image ctx fuel = none := by
  -- `offset = 8` で `ctx` のままの成功した状態から、また同じ所へ戻る
  let I : Except (Rc × PngWalk σ) (PngWalk σ) → Prop := fun r => ∃ w, r = .ok w ∧ w.offset = 8 ∧ w.ctx = ctx
  have hstep : ∀ w : PngWalk σ, w.offset = 8 → w.ctx = ctx → I (pngChunkStep handle .i386 image w) := by
    intro w hoff hctx
    have hc := pngChunk_of_ancillary handle 16 (2 ^ 32 - 12) w.ctx h1 h2
    exact ⟨_, (pngChunkStep_i386_wraps handle image w hlen hlen' hoff hbig).2 w.ctx hc, rfl, hctx⟩
  have hnone : whileSome (pngChunkNext handle .i386 image) fuel (pngChunkStep handle .i386 image ⟨8, 0, ctx, []⟩) =
      none := whileSome_eq_none_of_invariant (I := I)
    (fun a ⟨w, ha, hoff, hctx⟩ => ⟨_, by rw [ha, pngChunkNext, if_pos (by omega)], hstep w hoff hctx⟩) fuel
    (pngChunkStep handle .i386 image ⟨8, 0, ctx, []⟩) (hstep _ rfl rfl)
  rw [pngPixbuf, hnone]
  rfl

/-- chunk の walk は 64 bit では止まって image の中にとどまるが、32 bit では長さの欄が `0xfffffff4`
の chunk で `8 + chunk_len + 4` が回り、image の外の chunk を `png_chunk` に渡し、ancillary の型なら
止まらない。 -/
theorem pngPixbuf_chunk_walk_wraps_on_i386 :
    (∀ {σ : Type} (handle : Nat → Nat → Nat → σ → Except Rc σ) (image : Bytes) (ctx : σ),
        8 ≤ image.length → image.length < 2 ^ 64 →
        ∃ r, pngPixbuf handle .x86_64 image ctx (image.length + 1) = some r ∧ ChunksOk image (walkOf r).chunks) ∧
    (∀ {σ : Type} (handle : Nat → Nat → Nat → σ → Except Rc σ) (image : Bytes) (ctx : σ),
        16 ≤ image.length → image.length < 2 ^ 32 → be32 image 8 = 2 ^ 32 - 12 →
        (walkOf (pngChunkStep handle .i386 image ⟨8, 0, ctx, []⟩)).chunks = [(be32 image 12, 16, 2 ^ 32 - 12)] ∧
        image.length < 16 + (2 ^ 32 - 12) + 4 ∧
        (be32 image 12 ∉ pngChunkHandlerTypes → be32 image 12 &&& pngChunkAncillary ≠ 0 →
          ∀ fuel, pngPixbuf handle .i386 image ctx fuel = none)) := by
  refine ⟨fun handle image ctx h8 hlen => pngPixbuf_x86_64 handle image ctx h8 hlen, ?_⟩
  intro σ handle image ctx hlen hlen' hbig
  refine ⟨(pngChunkStep_i386_wraps handle image ⟨8, 0, ctx, []⟩ hlen hlen' rfl hbig).1, by omega, ?_⟩
  intro h1 h2 fuel
  exact pngPixbuf_i386_loops handle image ctx hlen hlen' hbig h1 h2 fuel

/-- 長さの欄が `0xfffffff4` の `tEXt` chunk だけの 16 byte の image。 -/
def wrappedTextImage : Bytes :=
  [0x89, 0x50, 0x4E, 0x47, 0x0D, 0x0A, 0x1A, 0x0A, 0xFF, 0xFF, 0xFF, 0xF4] ++ ascii "tEXt"

theorem pngPixbuf_loops_on_wrapped_text_chunk :
    pngPixbuf (fun _ _ _ (c : Unit) => .ok c) .i386 wrappedTextImage () 1000000 = none :=
  (pngPixbuf_chunk_walk_wraps_on_i386.2 (fun _ _ _ (c : Unit) => .ok c) wrappedTextImage () (by decide)
    (by decide) (by decide)).2.2 (by decide) (by decide) 1000000

end FlexBoot.Png
