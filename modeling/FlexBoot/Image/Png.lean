import FlexBoot.Core.Misc

/-!
# PNG の復号（`image/png.c`, `core/pixbuf.c`）

IHDR から pixel buffer と raw buffer（展開した IDAT の置き場）の長さを決め、IEND で raw
buffer を unfilter して pixel buffer に並べる。IDAT の展開（`deflate_inflate`）の結果は
外から与える：展開し終えたか（`deflate_finished`）と、raw buffer に書かれた byte 列である。

## 値の幅

`width`、`height`、`depth`、`channels` と interlace pass の値は `unsigned int` で、その積と
和は `2 ^ 32` で巻き戻る。`pixbuf->len`、`raw.len` と buffer の中の位置は `size_t` で、
`Arch.longBits` の幅で巻き戻る。どちらも定義の中で剰余を取って書く。

## buffer の読み書き

raw buffer と pixel buffer への `copy_from_user` と `copy_to_user` は、位置をすべて記録する。
範囲の外を読んだ値は 0 とする（C では範囲外の memory を読む）。範囲の外に書いた pixel は
記録に残るだけで、buffer の中身には現れない。

## 確保

`umalloc` が成功するかは `alloc : Nat → Bool` で外から与える。`umalloc ( 0 )` は
`UNOWHERE` を返すので失敗ではない。`zalloc` による構造体の確保は成功するものとする。
-/

namespace FlexBoot.Png

open Infra FlexBoot

/-! ## 定数 -/

def pngColourTypePalette : Nat := 0x01
def pngColourTypeRgb : Nat := 0x02
def pngColourTypeAlpha : Nat := 0x04
def pngCompressionUnknown : Nat := 0x01
def pngFilterUnknown : Nat := 0x01
def pngInterlaceUnknown : Nat := 0x02

/-- `png_interlace_passes[]`。`PNG_INTERLACE_NONE` は 1 pass、`PNG_INTERLACE_ADAM7` は 7 pass。
IHDR の検査を通った値でだけ引く。 -/
def pngInterlacePasses (interlace : Nat) : Nat := if interlace = 0 then 1 else 7

/-- 失敗の理由。 -/
inductive Rc
  | einval
  | enotsup
  | enomem
  deriving DecidableEq, Repr

/-! ## pixel buffer -/

structure PixelBuffer where
  width : Nat
  height : Nat
  /-- `size_t` の長さ。 -/
  len : Nat
  deriving DecidableEq, Repr

/-- `alloc_pixbuf ( width, height )`。`width * height` は `unsigned int` の積で、
`sizeof ( uint32_t )` を掛けるのは `size_t` である。 -/
def allocPixbuf (arch : Arch) (alloc : Nat → Bool) (width height : Nat) : Option PixelBuffer :=
  let len := width * height % 2 ^ 32 * 4 % 2 ^ arch.longBits
  if alloc len then some ⟨width, height, len⟩ else none

/-! ## interlace pass -/

structure PngInterlace where
  pass : Nat
  xIndent : Nat
  yIndent : Nat
  xStride : Nat
  yStride : Nat
  width : Nat
  height : Nat
  deriving DecidableEq, Repr

/-- `png_interlace ( png, pass, interlace )`。`passes` は 1 か 7 で、`pass < passes` なので
指数の引き算は負にならない。pass の幅 `( width - x_indent + x_stride - 1 ) >> x_stride_log2`
は `unsigned int` で計算する。 -/
def pngInterlace (passes pass width height : Nat) : PngInterlace :=
  let gridWidthLog2 := passes / 2
  let gridHeightLog2 := (passes - 1) / 2
  let xIndent := if pass % 2 = 1 then 1 <<< (gridWidthLog2 - pass / 2 - 1) else 0
  let yIndent := if pass ≠ 0 ∧ pass % 2 = 0 then 1 <<< (gridHeightLog2 - (pass - 1) / 2 - 1) else 0
  let xStrideLog2 := gridWidthLog2 - pass / 2
  let yStrideLog2 := gridHeightLog2 - (if pass ≠ 0 then (pass - 1) / 2 else 0)
  let xStride := 1 <<< xStrideLog2
  let yStride := 1 <<< yStrideLog2
  { pass, xIndent, yIndent, xStride, yStride
    width := ((width + (2 ^ 32 - xIndent) + (xStride - 1)) % 2 ^ 32) >>> xStrideLog2
    height := ((height + (2 ^ 32 - yIndent) + (yStride - 1)) % 2 ^ 32) >>> yStrideLog2 }

/-- `png_pixel_len`。 -/
def pngPixelLen (channels depth : Nat) : Nat := (channels * depth + 7) / 8

/-- `png_scanline_len`。filter byte の 1 に、pass の一行の byte 数を足す。
`interlace->width * png->channels * png->depth` は `unsigned int` の積である。 -/
def pngScanlineLen (channels depth : Nat) (interlace : PngInterlace) : Nat :=
  1 + (interlace.width * channels * depth % 2 ^ 32 + 7) % 2 ^ 32 / 8

/-! ## IHDR -/

/-- IHDR の値。`width` と `height` は `ntohl` した 32 bit の値、残りは 1 byte である。 -/
structure PngImageHeader where
  width : Nat
  height : Nat
  depth : Nat
  colourType : Nat
  compression : Nat
  filter : Nat
  interlace : Nat
  deriving DecidableEq, Repr

/-- IHDR の後に決まる `struct png_context` の値。 -/
structure PngContext where
  pixbuf : PixelBuffer
  depth : Nat
  colourType : Nat
  channels : Nat
  passes : Nat
  /-- `raw.len`。 -/
  rawLen : Nat
  deriving DecidableEq, Repr

/-- 色の型から channel の数を決める。palette なら 1、そうでなければ RGB で 2、alpha で 1 を
足す。 -/
def pngChannels (colourType : Nat) : Nat :=
  if colourType &&& pngColourTypePalette ≠ 0 then 1
  else 1 + (if colourType &&& pngColourTypeRgb ≠ 0 then 2 else 0) +
    (if colourType &&& pngColourTypeAlpha ≠ 0 then 1 else 0)

/-- `raw.len` を pass ごとに足す loop。幅 0 の pass は filter byte も持たない。
`interlace.height * png_scanline_len` と和は `size_t` である。 -/
def pngRawLen (arch : Arch) (passes channels depth width height : Nat) : Nat :=
  (List.range passes).foldl (fun rawLen pass =>
    let interlace := pngInterlace passes pass width height
    if interlace.width = 0 then rawLen
    else (rawLen + interlace.height * pngScanlineLen channels depth interlace) % 2 ^ arch.longBits) 0

/-- `png_image_header ( image, png, len )`。`hasPixbuf` は IHDR が二つ目であること。 -/
def pngImageHeader (arch : Arch) (alloc : Nat → Bool) (hasPixbuf : Bool) (len : Nat)
    (ihdr : PngImageHeader) : Except Rc PngContext :=
  if len ≠ 13 then .error .einval
  else if hasPixbuf then .error .einval
  else if ihdr.compression ≥ pngCompressionUnknown then .error .enotsup
  else if ihdr.filter ≥ pngFilterUnknown then .error .enotsup
  else if ihdr.interlace ≥ pngInterlaceUnknown then .error .enotsup
  else
    match allocPixbuf arch alloc ihdr.width ihdr.height with
    | none => .error .enomem
    | some pixbuf =>
      -- bit 深さは 2 の冪であればよく、上限はない
      if ihdr.depth = 0 ∨ ihdr.depth &&& (ihdr.depth - 1) ≠ 0 then .error .einval
      else
        let channels := pngChannels ihdr.colourType
        let passes := pngInterlacePasses ihdr.interlace
        let rawLen := pngRawLen arch passes channels ihdr.depth pixbuf.width pixbuf.height
        if alloc rawLen then .ok ⟨pixbuf, ihdr.depth, ihdr.colourType, channels, passes, rawLen⟩
        else .error .enomem

/-! ## unfilter -/

/-- `png_paeth_predictor`。`p = a + b - c` は `unsigned int` だが、`p - a` などを `abs` が
`int` として読むので、差の絶対値は整数の差の絶対値に等しい。 -/
def pngPaethPredictor (a b c : Nat) : Nat :=
  let p : Int := (a : Int) + b - c
  let pa := (p - a).natAbs
  let pb := (p - b).natAbs
  let pc := (p - c).natAbs
  if pa ≤ pb ∧ pa ≤ pc then a else if pb ≤ pc then b else c

/-- `png_filters[filter_type].unfilter`。結果は `uint8_t` の `current` に入る。 -/
def pngUnfilterByte (filterType current left above aboveLeft : Nat) : Nat :=
  (match filterType with
    | 0 => current
    | 1 => current + left
    | 2 => current + above
    | 3 => current + (above + left) >>> 1
    | _ => current + pngPaethPredictor left above aboveLeft) % 256

/-- `png_unfilter_pass` の途中の状態。 -/
structure UnfilterState where
  raw : Bytes
  offset : Nat
  left : Nat
  above : Nat
  aboveLeft : Nat
  /-- raw buffer で読み書きした位置。 -/
  accesses : List Nat
  deriving DecidableEq, Repr

/-- raw buffer を一 byte 読む。 -/
def UnfilterState.read (st : UnfilterState) (pos : Nat) : Nat × UnfilterState :=
  ((st.raw.getD pos 0).toNat, { st with accesses := st.accesses ++ [pos] })

/-- 一行の byte の loop。`left`、`above`、`above_left` は unfilter し終えた byte を読み直す。 -/
def pngUnfilterBytes (filterType pixelLen scanlineLen scanline : Nat) :
    Nat → Nat → UnfilterState → UnfilterState
  | 0, _, st => st
  | n + 1, byte, st =>
    let st := if byte ≥ pixelLen then
      let r := st.read (st.offset - pixelLen); { r.2 with left := r.1 } else st
    let st := if scanline > 0 then
      let r := st.read (st.offset - scanlineLen); { r.2 with above := r.1 } else st
    let st := if scanline > 0 ∧ byte ≥ pixelLen then
      let r := st.read (st.offset - scanlineLen - pixelLen); { r.2 with aboveLeft := r.1 } else st
    let r := st.read st.offset
    let current := pngUnfilterByte filterType r.1 r.2.left r.2.above r.2.aboveLeft
    let st := { r.2 with
      raw := r.2.raw.set r.2.offset (UInt8.ofNat current)
      accesses := r.2.accesses ++ [r.2.offset]
      offset := r.2.offset + 1 }
    pngUnfilterBytes filterType pixelLen scanlineLen scanline n (byte + 1) st

/-- 行の loop。各行は filter byte で始まり、知らない filter なら `-ENOTSUP` で止まる。 -/
def pngUnfilterScanlines (pixelLen scanlineLen : Nat) :
    Nat → Nat → UnfilterState → Except Rc UnfilterState
  | 0, _, st => .ok st
  | n + 1, scanline, st =>
    let r := st.read st.offset
    let st := { r.2 with offset := r.2.offset + 1 }
    if r.1 ≥ 5 then .error .enotsup
    else
      let st := pngUnfilterBytes r.1 pixelLen scanlineLen scanline (scanlineLen - 1) 0
        { st with left := 0, aboveLeft := 0 }
      pngUnfilterScanlines pixelLen scanlineLen n (scanline + 1) st

/-- `png_unfilter_pass ( image, png, interlace )`。最初の行の上の byte は 0 である。 -/
def pngUnfilterPass (ctx : PngContext) (interlace : PngInterlace) (st : UnfilterState) :
    Except Rc UnfilterState :=
  pngUnfilterScanlines (pngPixelLen ctx.channels ctx.depth)
    (pngScanlineLen ctx.channels ctx.depth interlace) interlace.height 0 { st with above := 0 }

/-- `png_unfilter ( image, png )`。幅 0 の pass は飛ばす。 -/
def pngUnfilter (ctx : PngContext) (raw : Bytes) : Except Rc UnfilterState :=
  (List.range ctx.passes).foldl (fun acc pass => acc.bind fun st =>
    let interlace := pngInterlace ctx.passes pass ctx.pixbuf.width ctx.pixbuf.height
    if interlace.width = 0 then .ok st else pngUnfilterPass ctx interlace st)
    (.ok ⟨raw, 0, 0, 0, 0, []⟩)

/-! ## pixel -/

/-- `png_pixel ( raw, alpha, max )`。`raw` と `alpha` は 255 以下なので積は巻き戻らない。 -/
def pngPixel (raw alpha max : Nat) : Nat := (0xff00 * raw * alpha / max / max + 0x80) >>> 8

/-- `png_pixels_pass` の途中の状態。 -/
structure PixelsState where
  rawOffset : Nat
  bits : Nat
  /-- `uint8_t current`。 -/
  current : Nat
  /-- raw buffer で読んだ位置。 -/
  reads : List Nat
  /-- pixel buffer に書いた位置と pixel。 -/
  stores : List (Nat × Nat)
  deriving DecidableEq, Repr

/-- 一つの sample。`current` を `depth` bit ずらし、使い切れば raw buffer から次の byte を読む。
16 bit 以上の sample は上の byte だけを使い、`raw_stride` で残りを飛ばす。 -/
def pngPixelsSample (raw : Bytes) (depth rawStride : Nat) (st : PixelsState) : Nat × PixelsState :=
  let bits := st.bits - depth
  let st := if bits = 0 then
      { st with
        current := (raw.getD st.rawOffset 0).toNat
        reads := st.reads ++ [st.rawOffset]
        rawOffset := st.rawOffset + rawStride
        bits := 8 }
    else { st with current := (st.current <<< depth) % 256, bits }
  (st.current >>> (8 - depth), st)

/-- 一つの pixel の channel の loop。 -/
def pngPixelsChannels (raw : Bytes) (depth rawStride : Nat) : Nat → PixelsState → List Nat × PixelsState
  | 0, st => ([], st)
  | n + 1, st =>
    let r := pngPixelsSample raw depth rawStride st
    let rs := pngPixelsChannels raw depth rawStride n r.2
    (r.1 :: rs.1, rs.2)

/-- channel の値を iPXE の pixel の形にする。palette なら引き、そうでなければ RGB（灰色は
同じ値を三つ）に alpha を掛ける。 -/
def pngPixelValue (colourType channels : Nat) (palette : List Nat) (max : Nat) (channel : List Nat) :
    Nat :=
  if colourType &&& pngColourTypePalette ≠ 0 then palette.getD (channel.getD 0 0) 0
  else
    let alpha := if colourType &&& pngColourTypeAlpha ≠ 0 then channel.getD (channels - 1) 0 else max
    let isRgb := colourType &&& pngColourTypeRgb ≠ 0
    [0, 1, 2].foldl (fun pixel c =>
      pixel <<< 8 ||| pngPixel (channel.getD (if isRgb then c else 0) 0) alpha max) 0

/-- `png_pixels_pass` の一行の pixel の loop。pixel buffer の位置は `size_t` で進む。 -/
def pngPixelsRow (arch : Arch) (ctx : PngContext) (palette : List Nat) (raw : Bytes)
    (depth rawStride max xStride : Nat) : Nat → Nat → PixelsState → PixelsState
  | 0, _, st => st
  | n + 1, offset, st =>
    let r := pngPixelsChannels raw depth rawStride ctx.channels st
    let st := { r.2 with stores := r.2.stores ++ [(offset, pngPixelValue ctx.colourType ctx.channels palette max r.1)] }
    pngPixelsRow arch ctx palette raw depth rawStride max xStride n ((offset + xStride) % 2 ^ arch.longBits) st

/-- `png_pixels_pass` の行の loop。各行は filter byte を飛ばして始まる。 -/
def pngPixelsRows (arch : Arch) (ctx : PngContext) (palette : List Nat) (raw : Bytes)
    (depth rawStride max xStride yStride width : Nat) : Nat → Nat → PixelsState → PixelsState
  | 0, _, st => st
  | n + 1, yOffset, st =>
    let st := pngPixelsRow arch ctx palette raw depth rawStride max xStride width yOffset
      { st with rawOffset := st.rawOffset + 1, bits := depth }
    pngPixelsRows arch ctx palette raw depth rawStride max xStride yStride width n
      ((yOffset + yStride) % 2 ^ arch.longBits) st

/-- `png_pixels_pass ( image, png, interlace )`。16 bit の sample は深さ 8 で `raw_stride` 2 と
して読む。pixel buffer の最初の位置と行の幅は、`y_indent * width` と `y_stride * width` を
`unsigned int` で掛けてから `sizeof ( pixel )` を掛ける。 -/
def pngPixelsPass (arch : Arch) (ctx : PngContext) (palette : List Nat) (raw : Bytes)
    (interlace : PngInterlace) (st : PixelsState) : PixelsState :=
  let rawStride := (ctx.depth + 7) / 8
  let depth := if ctx.depth > 8 then 8 else ctx.depth
  let max := (1 <<< depth) - 1
  let yOffset := ((interlace.yIndent * ctx.pixbuf.width % 2 ^ 32 + interlace.xIndent) % 2 ^ 32 * 4) %
    2 ^ arch.longBits
  let xStride := interlace.xStride * 4 % 2 ^ arch.longBits
  let yStride := interlace.yStride * ctx.pixbuf.width % 2 ^ 32 * 4 % 2 ^ arch.longBits
  pngPixelsRows arch ctx palette raw depth rawStride max xStride yStride interlace.width
    interlace.height yOffset st

/-- `png_pixels ( image, png )`。幅 0 の pass は飛ばす。 -/
def pngPixels (arch : Arch) (ctx : PngContext) (palette : List Nat) (raw : Bytes) : PixelsState :=
  (List.range ctx.passes).foldl (fun st pass =>
    let interlace := pngInterlace ctx.passes pass ctx.pixbuf.width ctx.pixbuf.height
    if interlace.width = 0 then st else pngPixelsPass arch ctx palette raw interlace st)
    ⟨0, 0, 0, [], []⟩

/-- `png_image_end ( image, png, len )`。`finished` は `deflate_finished`、`raw` は展開が raw
buffer に書いた byte 列で、その長さが `raw.offset` である。 -/
def pngImageEnd (arch : Arch) (ctx : PngContext) (palette : List Nat) (len : Nat) (finished : Bool)
    (raw : Bytes) : Except Rc (UnfilterState × PixelsState) :=
  if len ≠ 0 then .error .einval
  else if finished = false then .error .einval
  else if raw.length ≠ ctx.rawLen then .error .einval
  else (pngUnfilter ctx raw).map fun u => (u, pngPixels arch ctx palette u.raw)

/-! ## chunk の walk

`png_pixbuf` は signature の後から chunk を一つずつ読む。header の長さと型を読み、
`header + 長さ + footer` が残りに収まるかを `size_t` で確かめ、`png_chunk` を呼び、次の chunk に
進む。`png_chunk` は型が表にあればその handler を呼ぶ。handler の中身（IHDR、PLTE、IDAT、IEND の
処理）は `handle` で外から与え、ここでは chunk の位置と長さだけを追う。
-/

def pngTypeIhdr : Nat := 0x49484452
def pngTypePlte : Nat := 0x504C5445
def pngTypeIdat : Nat := 0x49444154
def pngTypeIend : Nat := 0x49454E44

/-- `PNG_CHUNK_ANCILLARY`。型の最初の文字が小文字なら ancillary である。 -/
def pngChunkAncillary : Nat := 0x20000000

/-- `png_chunk_handlers[]` の型。 -/
def pngChunkHandlerTypes : List Nat := [pngTypeIhdr, pngTypePlte, pngTypeIdat, pngTypeIend]

section Chunks

variable {σ : Type} (handle : Nat → Nat → Nat → σ → Except Rc σ)

/-- `png_chunk ( image, png, type, len )`。`handle type offset len` は表の handler で、`offset` は
`png->offset` である。表にない型は、critical なら `-ENOTSUP`、ancillary なら無視する。 -/
def pngChunk (type offset len : Nat) (ctx : σ) : Except Rc σ :=
  if type ∈ pngChunkHandlerTypes then handle type offset len ctx
  else if type &&& pngChunkAncillary = 0 then .error .enotsup
  else .ok ctx

/-- chunk の loop の状態。 -/
structure PngWalk (σ : Type) where
  /-- `png->offset`。 -/
  offset : Nat
  /-- 最後に読んだ `header.type`。 -/
  lastType : Nat
  ctx : σ
  /-- `png_chunk` に渡した型、`png->offset` と長さ。 -/
  chunks : List (Nat × Nat × Nat)

/-- `png_pixbuf` の `do { ... }` の一回。`remaining` と長さの検査は `size_t` の計算である。失敗は、
その時の状態と一緒に返す。 -/
def pngChunkStep (arch : Arch) (image : Bytes) (w : PngWalk σ) : Except (Rc × PngWalk σ) (PngWalk σ) :=
  let remaining := (image.length + (2 ^ arch.longBits - w.offset)) % 2 ^ arch.longBits
  if remaining < 8 then .error (.einval, w)
  else
    let chunkLen := be32 image w.offset
    let type := be32 image (w.offset + 4)
    let offset := (w.offset + 8) % 2 ^ arch.longBits
    if remaining < (8 + chunkLen + 4) % 2 ^ arch.longBits then .error (.einval, { w with offset, lastType := type })
    else
      let chunks := w.chunks ++ [(type, offset, chunkLen)]
      match pngChunk handle type offset chunkLen w.ctx with
      | .error rc => .error (rc, { w with offset, lastType := type, chunks })
      | .ok ctx => .ok ⟨(offset + (chunkLen + 4)) % 2 ^ arch.longBits, type, ctx, chunks⟩

/-- `while ( png->offset < image->len )`：前の回が成功し、まだ image の中にいれば次の chunk を読む。 -/
def pngChunkNext (arch : Arch) (image : Bytes) :
    Except (Rc × PngWalk σ) (PngWalk σ) → Option (Except (Rc × PngWalk σ) (PngWalk σ))
  | .error _ => none
  | .ok w => if w.offset < image.length then some (pngChunkStep handle arch image w) else none

/-- `png_pixbuf ( image, &pixbuf )` の chunk の loop と、最後が IEND かの検査。signature の 8 byte
の後から始める。`fuel` 回のうちに loop が終わらなければ `none` である。 -/
def pngPixbuf (arch : Arch) (image : Bytes) (ctx : σ) (fuel : Nat) :
    Option (Except (Rc × PngWalk σ) (PngWalk σ)) :=
  (whileSome (pngChunkNext handle arch image) fuel (pngChunkStep handle arch image ⟨8, 0, ctx, []⟩)).map
    fun r => r.bind fun w => if w.lastType = pngTypeIend then .ok w else .error (.einval, w)

end Chunks

end FlexBoot.Png
