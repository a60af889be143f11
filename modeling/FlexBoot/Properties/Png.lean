import FlexBoot.Image.Png

/-!
# PNG の buffer の範囲

`png_pixels_pass` の loop は pass の幅と高さだけ回る。一方で pixel buffer の長さ
`width * height * 4` と raw buffer の長さ（pass ごとの `height * png_scanline_len` の和）は、
`unsigned int` の積で巻き戻る。ここでは pixel の loop が読み書きする位置を一般に書き下し、
巻き戻る IHDR では buffer の外を読み書きすることを示す。

## 主な結果

* `pngPixelsRows_first_store` — 幅が正の pass は、最初の pixel を pass の先頭の位置に書く
* `pngPixelsRows_reads_eight` — 深さが 8 以上なら、pass が読む raw の位置は一行
  `1 + width * channels * rawStride` byte の格子になる
* `pngScanlineLen_eight` — 積が巻き戻らなければ、その一行の長さは `png_scanline_len` に等しい
* `png_wrapped_ihdr_overruns` — 幅 `2 ^ 26` の 16 bit RGBA は長さ 0 の pixel buffer を確保し、
  そこに書き、raw buffer の外を読む
-/

namespace FlexBoot.Png

open Infra FlexBoot

section Pixels

variable (arch : Arch) (ctx : PngContext) (palette : List Nat) (raw : Bytes)

/-! ## pixel buffer への書き込み -/

theorem pngPixelsSample_stores (depth rawStride : Nat) (st : PixelsState) :
    (pngPixelsSample raw depth rawStride st).2.stores = st.stores := by
  simp only [pngPixelsSample]
  split <;> rfl

theorem pngPixelsChannels_stores (depth rawStride : Nat) :
    ∀ (n : Nat) (st : PixelsState), (pngPixelsChannels raw depth rawStride n st).2.stores = st.stores
  | 0, _ => rfl
  | n + 1, st => by
    rw [pngPixelsChannels, pngPixelsChannels_stores depth rawStride n, pngPixelsSample_stores]

theorem pngPixelsRow_stores (depth rawStride max xStride : Nat) :
    ∀ (n offset : Nat) (st : PixelsState),
      st.stores <+: (pngPixelsRow arch ctx palette raw depth rawStride max xStride n offset st).stores
  | 0, _, _ => List.prefix_refl _
  | n + 1, offset, st => by
    rw [pngPixelsRow]
    refine List.IsPrefix.trans ?_ (pngPixelsRow_stores depth rawStride max xStride n _ _)
    rw [pngPixelsChannels_stores]
    exact List.prefix_append _ _

/-- 一行の最初の pixel は、行の先頭の位置に書く。 -/
theorem pngPixelsRow_first_store (depth rawStride max xStride n offset : Nat) (st : PixelsState) :
    ∃ v rest, (pngPixelsRow arch ctx palette raw depth rawStride max xStride (n + 1) offset st).stores =
      st.stores ++ (offset, v) :: rest := by
  rw [pngPixelsRow]
  generalize hr : pngPixelsChannels raw depth rawStride ctx.channels st = r
  have hs : r.2.stores = st.stores := hr ▸ pngPixelsChannels_stores raw depth rawStride _ st
  obtain ⟨rest, hrest⟩ := pngPixelsRow_stores arch ctx palette raw depth rawStride max xStride n
    ((offset + xStride) % 2 ^ arch.longBits)
    { r.2 with stores := r.2.stores ++ [(offset, pngPixelValue ctx.colourType ctx.channels palette max r.1)] }
  refine ⟨pngPixelValue ctx.colourType ctx.channels palette max r.1, rest, ?_⟩
  rw [← hrest, hs, List.append_assoc, List.singleton_append]

theorem pngPixelsRows_stores (depth rawStride max xStride yStride width : Nat) :
    ∀ (h yOffset : Nat) (st : PixelsState),
      st.stores <+: (pngPixelsRows arch ctx palette raw depth rawStride max xStride yStride width h
        yOffset st).stores
  | 0, _, _ => List.prefix_refl _
  | h + 1, yOffset, st => by
    rw [pngPixelsRows]
    exact (pngPixelsRow_stores arch ctx palette raw depth rawStride max xStride width yOffset
      { st with rawOffset := st.rawOffset + 1, bits := depth }).trans
      (pngPixelsRows_stores depth rawStride max xStride yStride width h _ _)

/-- 幅が正の pass は、最初の pixel を pass の先頭の位置 `yOffset` に書く。 -/
theorem pngPixelsRows_first_store (depth rawStride max xStride yStride width h yOffset : Nat)
    (st : PixelsState) (hw : 0 < width) :
    ∃ v rest, (pngPixelsRows arch ctx palette raw depth rawStride max xStride yStride width (h + 1)
      yOffset st).stores = st.stores ++ (yOffset, v) :: rest := by
  obtain ⟨w, rfl⟩ : ∃ w, width = w + 1 := ⟨width - 1, by omega⟩
  rw [pngPixelsRows]
  obtain ⟨v, rest, hrow⟩ := pngPixelsRow_first_store arch ctx palette raw depth rawStride max xStride
    w yOffset { st with rawOffset := st.rawOffset + 1, bits := depth }
  obtain ⟨rest', hrest⟩ := pngPixelsRows_stores arch ctx palette raw depth rawStride max xStride
    yStride (w + 1) h ((yOffset + yStride) % 2 ^ arch.longBits)
    (pngPixelsRow arch ctx palette raw depth rawStride max xStride (w + 1) yOffset
      { st with rawOffset := st.rawOffset + 1, bits := depth })
  refine ⟨v, rest ++ rest', ?_⟩
  rw [← hrest, hrow]
  simp

/-! ## 深さ 8 以上の raw buffer の読み出し

`png_pixels_pass` は 16 bit 以上の sample を深さ 8 として読むので、sample ごとに必ず一 byte
読み、`raw_stride` だけ進む。 -/

theorem pngPixelsSample_eight (rawStride : Nat) (st : PixelsState) (hb : st.bits = 8) :
    pngPixelsSample raw 8 rawStride st =
      ((raw.getD st.rawOffset 0).toNat,
        { st with
          current := (raw.getD st.rawOffset 0).toNat
          reads := st.reads ++ [st.rawOffset]
          rawOffset := st.rawOffset + rawStride
          bits := 8 }) := by
  simp [pngPixelsSample, hb]

theorem pngPixelsChannels_eight (rawStride : Nat) :
    ∀ (n : Nat) (st : PixelsState), st.bits = 8 →
      let r := (pngPixelsChannels raw 8 rawStride n st).2
      r.reads = st.reads ++ (List.range n).map (fun k => st.rawOffset + k * rawStride) ∧
        r.rawOffset = st.rawOffset + n * rawStride ∧ r.bits = 8
  | 0, st, hb => by simp [pngPixelsChannels, hb]
  | n + 1, st, hb => by
    rw [pngPixelsChannels, pngPixelsSample_eight raw rawStride st hb]
    obtain ⟨hreads, hoff, hbits⟩ := pngPixelsChannels_eight rawStride n
      { st with
        current := (raw.getD st.rawOffset 0).toNat
        reads := st.reads ++ [st.rawOffset]
        rawOffset := st.rawOffset + rawStride
        bits := 8 } rfl
    refine ⟨?_, ?_, hbits⟩
    · rw [hreads, List.range_succ_eq_map, List.map_cons, List.map_map]
      simp only [Function.comp_def, Nat.succ_mul, List.append_assoc, List.singleton_append]
      simp [Nat.add_assoc, Nat.add_comm rawStride]
    · rw [hoff, Nat.succ_mul]
      simp only
      omega

/-- 一行の `n` 個の pixel は、`channels` 個ずつの sample を続けて読む。 -/
theorem pngPixelsRow_eight (rawStride max xStride : Nat) :
    ∀ (n offset : Nat) (st : PixelsState), st.bits = 8 →
      let r := pngPixelsRow arch ctx palette raw 8 rawStride max xStride n offset st
      r.reads = st.reads ++ (List.range (n * ctx.channels)).map (fun k => st.rawOffset + k * rawStride) ∧
        r.rawOffset = st.rawOffset + n * ctx.channels * rawStride ∧ r.bits = 8
  | 0, _, st, hb => by simp [pngPixelsRow, hb]
  | n + 1, offset, st, hb => by
    rw [pngPixelsRow]
    obtain ⟨hreads, hoff, hbits⟩ := pngPixelsChannels_eight raw rawStride ctx.channels st hb
    generalize pngPixelsChannels raw 8 rawStride ctx.channels st = r at hreads hoff hbits ⊢
    obtain ⟨hreads', hoff', hbits'⟩ := pngPixelsRow_eight rawStride max xStride n
      ((offset + xStride) % 2 ^ arch.longBits)
      { r.2 with stores := r.2.stores ++ [(offset, pngPixelValue ctx.colourType ctx.channels palette max r.1)] }
      hbits
    refine ⟨?_, ?_, hbits'⟩
    · -- 最初の pixel の `channels` 個の後に、残りの `n` 個の pixel の sample が続く
      rw [hreads', hreads, hoff, Nat.succ_mul, Nat.add_comm (n * _), List.range_add, List.map_append,
        List.map_map, List.append_assoc]
      congr 2
      refine List.map_congr_left fun k _ => ?_
      simp only [Function.comp_apply, Nat.add_mul]
      omega
    · rw [hoff', hoff]
      simp only [Nat.succ_mul, Nat.add_mul]
      omega

/-- 深さ 8 以上の pass は、`y` 行目の `k` 番目の sample を、行の filter byte の次から
`rawStride` ずつ進んだ位置で読む。一行は `1 + width * channels * rawStride` byte である。 -/
theorem pngPixelsRows_eight (rawStride max xStride yStride width : Nat) :
    ∀ (h yOffset : Nat) (st : PixelsState),
      let r := pngPixelsRows arch ctx palette raw 8 rawStride max xStride yStride width h yOffset st
      r.reads = st.reads ++ (List.range h).flatMap (fun y =>
          (List.range (width * ctx.channels)).map (fun k =>
            st.rawOffset + y * (1 + width * ctx.channels * rawStride) + 1 + k * rawStride)) ∧
        r.rawOffset = st.rawOffset + h * (1 + width * ctx.channels * rawStride)
  | 0, _, st => by simp [pngPixelsRows]
  | h + 1, yOffset, st => by
    rw [pngPixelsRows]
    obtain ⟨hreads, hoff, -⟩ := pngPixelsRow_eight arch ctx palette raw rawStride max xStride width
      yOffset { st with rawOffset := st.rawOffset + 1, bits := 8 } rfl
    obtain ⟨hreads', hoff'⟩ := pngPixelsRows_eight rawStride max xStride yStride width h
      ((yOffset + yStride) % 2 ^ arch.longBits)
      (pngPixelsRow arch ctx palette raw 8 rawStride max xStride width yOffset
        { st with rawOffset := st.rawOffset + 1, bits := 8 })
    refine ⟨?_, ?_⟩
    · -- 最初の行の後に、一行ずれた残りの `h` 行が続く
      rw [hreads', hreads, hoff, List.range_succ_eq_map, List.flatMap_cons, List.flatMap_map,
        List.append_assoc]
      congr 2
      · refine List.map_congr_left fun k _ => ?_
        simp only [Nat.zero_mul, Nat.add_zero]
      · congr 1
        funext y
        refine List.map_congr_left fun k _ => ?_
        simp only [Nat.succ_mul]
        omega
    · rw [hoff', hoff]
      simp only [Nat.succ_mul]
      omega

end Pixels

/-! ## 一つの pass -/

section Pass

variable (arch : Arch) (ctx : PngContext) (palette : List Nat) (raw : Bytes) (interlace : PngInterlace)
  (st : PixelsState)

/-- 幅も高さも正の pass は、最初の pixel を `( y_indent * width + x_indent ) * 4` に書く。 -/
theorem pngPixelsPass_first_store (hw : 0 < interlace.width) (hh : 0 < interlace.height) :
    ∃ v rest, (pngPixelsPass arch ctx palette raw interlace st).stores = st.stores ++
      (((interlace.yIndent * ctx.pixbuf.width % 2 ^ 32 + interlace.xIndent) % 2 ^ 32 * 4) %
        2 ^ arch.longBits, v) :: rest := by
  obtain ⟨h, hh'⟩ : ∃ h, interlace.height = h + 1 := ⟨interlace.height - 1, by omega⟩
  unfold pngPixelsPass
  rw [hh']
  exact pngPixelsRows_first_store arch ctx palette raw _ _ _ _ _ _ h _ st hw

/-- 深さ 8 以上の pass が raw buffer で読む位置。`raw_stride` は `( depth + 7 ) / 8` である。 -/
theorem pngPixelsPass_reads_eight (hd : 8 ≤ ctx.depth) :
    (pngPixelsPass arch ctx palette raw interlace st).reads = st.reads ++
      (List.range interlace.height).flatMap (fun y =>
        (List.range (interlace.width * ctx.channels)).map (fun k =>
          st.rawOffset + y * (1 + interlace.width * ctx.channels * ((ctx.depth + 7) / 8)) + 1 +
            k * ((ctx.depth + 7) / 8))) := by
  have h8 : (if ctx.depth > 8 then 8 else ctx.depth) = 8 := by split <;> omega
  unfold pngPixelsPass
  simp only [h8]
  exact (pngPixelsRows_eight arch ctx palette raw _ _ _ _ _ _ _ st).1

end Pass

/-- 深さが 8 の倍数で `width * channels * depth` が巻き戻らなければ、`png_scanline_len` は
pixel の loop が一行で進む長さ `1 + width * channels * raw_stride` に等しい。 -/
theorem pngScanlineLen_eight (channels s : Nat) (interlace : PngInterlace)
    (hfit : interlace.width * channels * (8 * s) + 7 < 2 ^ 32) :
    pngScanlineLen channels (8 * s) interlace = 1 + interlace.width * channels * s := by
  have hmul : interlace.width * channels * (8 * s) = 8 * (interlace.width * channels * s) := by
    rw [Nat.mul_left_comm, Nat.mul_comm 8]
  have hlt : interlace.width * channels * (8 * s) < 2 ^ 32 := by omega
  unfold pngScanlineLen
  rw [Nat.mod_eq_of_lt hlt, Nat.mod_eq_of_lt hfit, hmul]
  omega

/-! ## interlace なしの画像 -/

/-- interlace なしの唯一の pass は、画像の幅と高さをそのまま回る。 -/
theorem pngInterlace_none (width height : Nat) (hw : width < 2 ^ 32) (hh : height < 2 ^ 32) :
    pngInterlace 1 0 width height = ⟨0, 0, 0, 1, 1, width, height⟩ := by
  have hw' : (width + 2 ^ 32) % 2 ^ 32 = width := by omega
  have hh' : (height + 2 ^ 32) % 2 ^ 32 = height := by omega
  simp only [pngInterlace]
  simp
  exact ⟨hw, hh⟩

/-- interlace なしの画像では、`png_pixels` は画像全体を一つの pass として回る。 -/
theorem pngPixels_none (arch : Arch) (ctx : PngContext) (palette : List Nat) (raw : Bytes)
    (hp : ctx.passes = 1) (hw : 0 < ctx.pixbuf.width) (hw' : ctx.pixbuf.width < 2 ^ 32)
    (hh : ctx.pixbuf.height < 2 ^ 32) :
    pngPixels arch ctx palette raw = pngPixelsPass arch ctx palette raw
      ⟨0, 0, 0, 1, 1, ctx.pixbuf.width, ctx.pixbuf.height⟩ ⟨0, 0, 0, [], []⟩ := by
  unfold pngPixels
  -- `simp` はここで `if` の条件を評価しに行くので、書き換えだけで進める
  rw [hp, List.range_one, List.foldl_cons, List.foldl_nil, pngInterlace_none _ _ hw' hh,
    if_neg (Nat.pos_iff_ne_zero.mp hw)]

/-! ## 巻き戻る IHDR -/

/-- 幅 `2 ^ 26`、高さ 64、16 bit の RGBA、interlace なし。`width * height` と
`width * channels * depth` がどちらも `2 ^ 32` で、`unsigned int` では 0 になる。 -/
def wrapIhdr : PngImageHeader := ⟨2 ^ 26, 64, 16, 6, 0, 0, 0⟩

/-- `wrapIhdr` で `png_image_header` が作る context。pixel buffer の長さは 0、raw buffer は
filter byte だけの 64 byte である。 -/
def wrapCtx : PngContext := ⟨⟨2 ^ 26, 64, 0⟩, 16, 6, 4, 1, 64⟩

theorem pngImageHeader_wrapIhdr (arch : Arch) (alloc : Nat → Bool) (h0 : alloc 0 = true)
    (h64 : alloc 64 = true) : pngImageHeader arch alloc false 13 wrapIhdr = .ok wrapCtx := by
  have hpix : allocPixbuf arch alloc (2 ^ 26) 64 = some ⟨2 ^ 26, 64, 0⟩ := by
    cases arch <;> simp [allocPixbuf, Arch.longBits, h0]
  have hraw : pngRawLen arch (pngInterlacePasses wrapIhdr.interlace) (pngChannels wrapIhdr.colourType)
      wrapIhdr.depth (2 ^ 26) 64 = 64 := by
    cases arch <;> rfl
  unfold pngImageHeader
  rw [show wrapIhdr.width = 2 ^ 26 from rfl, show wrapIhdr.height = 64 from rfl, hpix]
  simp only [hraw, h64]
  decide

set_option maxRecDepth 4000 in
/-- 展開した 64 byte がすべて filter 0 なら、unfilter は filter byte だけを読む。 -/
theorem pngUnfilter_wrapCtx :
    pngUnfilter wrapCtx (List.replicate 64 0) = .ok ⟨List.replicate 64 0, 64, 0, 0, 0, List.range 64⟩ := by
  rfl

/-- 巻き戻る IHDR は受理され、長さ 0 の pixel buffer と 64 byte の raw buffer ができる。
filter byte だけの raw buffer で IEND まで進むと、unfilter は raw buffer の中だけを読むが、
pixel の loop は長さ 0 の pixel buffer の位置 0 に書き、raw buffer の外の位置 65 を読む。 -/
theorem png_wrapped_ihdr_overruns (arch : Arch) (alloc : Nat → Bool) (palette : List Nat)
    (h0 : alloc 0 = true) (h64 : alloc 64 = true) :
    ∃ ctx, pngImageHeader arch alloc false 13 wrapIhdr = .ok ctx ∧
      ctx.pixbuf.len = 0 ∧ ctx.rawLen = 64 ∧
      ∃ u p, pngImageEnd arch ctx palette 0 true (List.replicate 64 0) = .ok (u, p) ∧
        (∀ a ∈ u.accesses, a < ctx.rawLen) ∧ (∃ v, (0, v) ∈ p.stores) ∧ 65 ∈ p.reads := by
  let u : UnfilterState := ⟨List.replicate 64 0, 64, 0, 0, 0, List.range 64⟩
  let p := pngPixels arch wrapCtx palette u.raw
  have hend : pngImageEnd arch wrapCtx palette 0 true (List.replicate 64 0) = .ok (u, p) := by
    unfold pngImageEnd
    rw [if_neg (by decide), if_neg (by decide), if_neg (by decide), pngUnfilter_wrapCtx]
    rfl
  have hpix := pngPixels_none arch wrapCtx palette u.raw rfl (by decide) (by decide) (by decide)
  -- 最初の pixel は pass の先頭、つまり位置 0 に書く
  have hstore : ∃ v, (0, v) ∈ p.stores := by
    obtain ⟨v, rest, hs⟩ := pngPixelsPass_first_store arch wrapCtx palette u.raw
      ⟨0, 0, 0, 1, 1, wrapCtx.pixbuf.width, wrapCtx.pixbuf.height⟩ ⟨0, 0, 0, [], []⟩ (by decide)
      (by decide)
    refine ⟨v, ?_⟩
    -- 位置の式は `simp` に渡すと pass 全体を評価しに行くので、書き換えで 0 にする
    rw [show p = _ from hpix, hs]
    dsimp only
    rw [Nat.zero_mul, Nat.zero_mod, Nat.add_zero, Nat.zero_mod, Nat.zero_mul, Nat.zero_mod]
    exact List.mem_append_right _ List.mem_cons_self
  -- 最初の行の 33 番目の sample（`k = 32`）は `1 + 32 * 2` を読む
  have hread : 65 ∈ p.reads := by
    rw [show p = _ from hpix, pngPixelsPass_reads_eight arch wrapCtx palette u.raw _ _ (by decide),
      List.nil_append]
    exact List.mem_flatMap.mpr ⟨0, List.mem_range.mpr (by decide),
      List.mem_map.mpr ⟨32, List.mem_range.mpr (by decide), by decide⟩⟩
  exact ⟨wrapCtx, pngImageHeader_wrapIhdr arch alloc h0 h64, rfl, rfl, u, p, hend,
    fun a ha => List.mem_range.mp ha, hstore, hread⟩

/-- どの `umalloc` も成功する i386 の build での例。 -/
theorem png_wrapped_ihdr_overruns_on_i386 :
    (fun _ => true : Nat → Bool) 0 = true ∧ (fun _ => true : Nat → Bool) 64 = true ∧
      ∃ ctx, pngImageHeader .i386 (fun _ => true) false 13 wrapIhdr = .ok ctx ∧
        ctx.pixbuf.len = 0 ∧ ctx.rawLen = 64 ∧
        ∃ u p, pngImageEnd .i386 ctx [] 0 true (List.replicate 64 0) = .ok (u, p) ∧
          (∀ a ∈ u.accesses, a < ctx.rawLen) ∧ (∃ v, (0, v) ∈ p.stores) ∧ 65 ∈ p.reads :=
  ⟨rfl, rfl, png_wrapped_ihdr_overruns .i386 (fun _ => true) [] rfl rfl⟩

end FlexBoot.Png
