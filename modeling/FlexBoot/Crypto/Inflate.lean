import FlexBoot.Crypto.Deflate

/-!
# DEFLATE の伸長（`deflate_inflate`）

`deflate_inflate` は label の間を `goto` で移る状態機械である。入力が足りなくなると、再開点
`deflate->resume` にその label を書いて 0 を返し、次の呼び出しはそこから続ける。

## model

* label は `Label`、`struct deflate` は `Inflater`。bit の読み出しの三つの field は
  `Inflater.reader` にまとめる
* `inflateStep` は一つの label の本体を実行し、次の label へ移るか（`Step.next`）、0 を返すか
  （`Step.stop`：中断なら再開点を書き、`finished` なら消す）、失敗するか（`Step.fail`）を返す。
  label の中の `while` の一回りも一歩とし、同じ label へ移る
* `inflateRun` は一歩を fuel 回まで続ける。fuel が尽きるのは一歩ごとに入力の bit を読むか label が
  先へ進むかするので起こらないが、尽きた時はその label で中断した形にしておく
* 出力の chunk の `data` が出力 buffer で、`deflate_copy` は `len` より先へは書かずに `offset`
  だけ進める。写し元 `CopySource.output` は出力 buffer そのもの（`out->data`）である
* 失敗した時に書きかけた `struct deflate` は返さない。呼ぶ側はそこで止まる
-/

namespace FlexBoot.Inflate

/-- `deflate_inflate` が返す失敗。 -/
inductive Rc
  | einval
  | enotsup
  /-- 表の外を読むなど、C では未定義の動作。 -/
  | fault (f : Fault)
  deriving DecidableEq, Repr

/-- `enum deflate_format`。 -/
inductive DeflateFormat
  | raw
  | zlib
  deriving DecidableEq, Repr

/-- `deflate_inflate` の label。`dynamic_block` は `dynamic_header` と同じ所を指す。 -/
inductive Label
  | zlibHeader
  | blockHeader
  | literalBlock
  | literalLen
  | literalNlen
  | literalData
  | staticBlock
  | dynamicHeader
  | dynamicCodelen
  | dynamicLitlenDistance
  | dynamicLitlenDistanceExtra
  | constructAlphabets
  | lzhufLitlen
  | lzhufLitlenExtra
  | lzhufDistance
  | lzhufDistanceExtra
  | blockDone
  | zlibFooter
  | zlibAdler32
  | finished
  deriving DecidableEq, Repr

/-- `struct deflate`。 -/
structure Inflater where
  resume : Option Label
  format : DeflateFormat
  reader : Deflate
  header : Nat
  remaining : Nat
  lengthIndex : Nat
  lengthTarget : Nat
  length : Nat
  extraBits : Nat
  dupLen : Nat
  dupDistance : Nat
  litlen : Alphabet
  litlenCount : Nat
  distanceCount : Nat
  distanceCodelen : Alphabet
  lengths : List UInt8

/-! ## 定数の表 -/

/-- `sizeof ( deflate->lengths )`：literal/length と distance の長さを 4 bit ずつ。 -/
def lengthsSize : Nat := ((287 + 1) + (31 + 1) + 1) / 2

/-- `deflate_codelen_map[]`。 -/
def deflateCodelenMap : List Nat := [16, 17, 18, 0, 8, 7, 9, 6, 10, 5, 11, 4, 12, 3, 13, 2, 14, 1, 15]

/-- `deflate_static_length_patterns[]`：長さの対 `fill` を `count` byte 並べる。 -/
def deflateStaticLengthPatterns : List (UInt8 × Nat) :=
  [(0x88, ((143 - 0) + 1) / 2), (0x99, ((255 - 144) + 1) / 2), (0x77, ((279 - 256) + 1) / 2),
    (0x88, ((287 - 280) + 1) / 2), (0x55, ((31 - 0) + 1) / 2)]

/-- `bits = ( i / div ); if ( bits ) bits--;`：符号 `i` の追加 bit の数。 -/
def extraBitsOf (i div : Nat) : Nat := i / div - 1

/-- `deflate_init` が作る base の表：`base` から始め、`i` 番目の後に `1 << bits` 足す。 -/
def baseTable (base count div : Nat) : List Nat :=
  ((List.range count).foldl (fun (acc : List Nat × Nat) i => (acc.1 ++ [acc.2], acc.2 + (1 <<< extraBitsOf i div)))
    ([], base)).1

/-- `deflate_litlen_base[]`。 -/
def deflateLitlenBase : List Nat := baseTable 3 28 4

/-- `deflate_distance_base[]`。初期化するのは 30 個で、残る二つは 0 のまま。 -/
def deflateDistanceBase : List Nat := baseTable 1 30 2 ++ [0, 0]

/-! ## 出力 -/

/-- `deflate_copy` の写し元。 -/
inductive CopySource
  /-- 出力 buffer そのもの（`out->data`）。写しながら読むので重なってよい。 -/
  | output
  /-- 別の領域。 -/
  | bytes (data : List UInt8)

/-- `while ( copy_len-- ) memcpy_user ( out->data, out_offset++, start, offset++, 1 )`。 -/
def copyLoop (src : CopySource) : Nat → List UInt8 → Nat → Nat → List UInt8
  | 0, data, _, _ => data
  | k + 1, data, o, s =>
    let byte := match src with
      | .output => data.getD s 0
      | .bytes b => b.getD s 0
    copyLoop src k (data.set o byte) (o + 1) (s + 1)

/-- `deflate_copy`：`out->len` までだけ写し、`offset` は `len` 進める。 -/
def deflateCopy (out : DeflateChunk) (src : CopySource) (offset len : Nat) : DeflateChunk :=
  let data := if out.offset < out.len then copyLoop src (min (out.len - out.offset) len) out.data out.offset offset
    else out.data
  { out with data := data, offset := out.offset + len }

/-- `deflate_discard_to_byte`。 -/
def deflateDiscardToByte (d : Deflate) : Deflate := (deflateConsume d (d.bits &&& 7)).2

/-! ## 一歩 -/

/-- label の本体を一つ実行した結果。 -/
inductive Step
  /-- `goto` で次の label へ。 -/
  | next (l : Label) (st : Inflater) (inp out : DeflateChunk)
  /-- 0 を返す。中断なら `st.resume` が再開点、`finished` なら `none`。 -/
  | stop (st : Inflater) (inp out : DeflateChunk)
  | fail (rc : Rc)

/-- `deflate->resume = &&l; return 0;`。 -/
def suspend (l : Label) (st : Inflater) (inp out : DeflateChunk) : Step :=
  .stop { st with resume := some l } inp out

/-- `deflate_extract` で `target` bit 読み、そろえば続きの `k` へ渡す。そろわなければ `l` で中断する。 -/
def extractThen (l : Label) (st : Inflater) (inp out : DeflateChunk) (target : Nat)
    (k : Nat → Inflater → DeflateChunk → Step) : Step :=
  let r := deflateExtract st.reader inp target
  if r.1 < 0 then suspend l { st with reader := r.2.1 } r.2.2 out
  else k r.1.toNat { st with reader := r.2.1 } r.2.2

/-- `deflate_decode` で記号を一つ読み、読めれば続きの `k` へ渡す。足りなければ `l` で中断する。 -/
def decodeThen (l : Label) (st : Inflater) (inp out : DeflateChunk) (alphabet : Alphabet)
    (k : Nat → Inflater → DeflateChunk → Step) : Step :=
  match deflateDecode st.reader inp alphabet with
  | .error f => .fail (.fault f)
  | .ok (code, d, inp') =>
    if code < 0 then suspend l { st with reader := d } inp' out
    else k code.toNat { st with reader := d } inp'

/-- `while ( ( length_index < length_target ) && dup_len-- ) deflate_set_length ( deflate, length_index++, length )`。 -/
def setLengths : Nat → List UInt8 → Nat → Nat → Nat → List UInt8 × Nat
  | 0, lengths, index, _, _ => (lengths, index)
  | dup + 1, lengths, index, target, length =>
    if index < target then setLengths dup (deflateSetLength lengths index length) (index + 1) target length
    else (lengths, index)

/-- 長さ `n` の符号の後の追加 bit。`dynamic_litlen_distance` の `dup_len[]`、`extra_bits[]`。 -/
def dupLenTable : List Nat := [3, 3, 11]

def extraBitsTable : List Nat := [2, 3, 7]

/-- `construct_alphabets`。 -/
def constructAlphabets (st : Inflater) : Option Inflater := do
  let litlen ← deflateAlphabet st.lengths st.litlen st.litlenCount 0
  -- distance の符号が一つだけなら、長さ 1 の符号を二つにする
  let (lengths, distanceOffset, distanceCount) :=
    if st.distanceCount = 1 then (st.lengths.set 0 0x11, 0, 2) else (st.lengths, st.litlenCount, st.distanceCount)
  let distance ← deflateAlphabet lengths st.distanceCodelen distanceCount distanceOffset
  return { st with litlen := litlen, lengths := lengths, distanceCodelen := distance }

/-- label `l` の本体。 -/
def inflateStep (l : Label) (st : Inflater) (inp out : DeflateChunk) : Step :=
  match l with
  | .zlibHeader =>
    extractThen .zlibHeader st inp out 16 fun header st inp =>
      if (header >>> 0) &&& 0x0f ≠ 8 then .fail .enotsup
      else if header &&& (1 <<< 13) ≠ 0 then .fail .enotsup
      else .next .blockHeader st inp out
  | .blockHeader =>
    extractThen .blockHeader st inp out 3 fun header st inp =>
      let st := { st with header := header }
      match header >>> 1 with
      | 0 => .next .literalBlock st inp out
      | 1 => .next .staticBlock st inp out
      | 2 => .next .dynamicHeader st inp out
      | _ => .fail .enotsup
  | .literalBlock => .next .literalLen { st with reader := deflateDiscardToByte st.reader } inp out
  | .literalLen =>
    extractThen .literalLen st inp out 16 fun len st inp =>
      .next .literalNlen { st with remaining := len } inp out
  | .literalNlen =>
    extractThen .literalNlen st inp out 16 fun nlen st inp =>
      -- `~nlen` の下 16 bit は `nlen ^ 0xffff`
      if (st.remaining ^^^ (nlen ^^^ 0xffff)) &&& ((1 <<< 16) - 1) ≠ 0 then .fail .einval
      else .next .literalData st inp out
  | .literalData =>
    let len := min st.remaining (inp.len - inp.offset)
    let out := deflateCopy out (.bytes inp.data) inp.offset len
    let inp := { inp with offset := inp.offset + len }
    let st := { st with remaining := st.remaining - len }
    if st.remaining ≠ 0 then suspend .literalData st inp out
    else .next .blockDone st inp out
  | .staticBlock =>
    let fill := deflateStaticLengthPatterns.flatMap fun p => List.replicate p.2 p.1
    .next .constructAlphabets
      { st with lengths := fill ++ st.lengths.drop fill.length, litlenCount := 288, distanceCount := 32 } inp out
  | .dynamicHeader =>
    extractThen .dynamicHeader st inp out 14 fun header st inp =>
      let hlit := (header >>> 0) &&& 0x1f
      let hdist := (header >>> 5) &&& 0x1f
      let hclen := (header >>> 10) &&& 0x0f
      .next .dynamicCodelen
        { st with litlenCount := hlit + 257, distanceCount := hdist + 1, lengthIndex := 0,
                  lengthTarget := hclen + 4, lengths := List.replicate lengthsSize 0 } inp out
  | .dynamicCodelen =>
    if st.lengthIndex < st.lengthTarget then
      extractThen .dynamicCodelen st inp out 3 fun len st inp =>
        let index := deflateCodelenMap.getD st.lengthIndex 0
        .next .dynamicCodelen
          { st with lengthIndex := st.lengthIndex + 1, lengths := deflateSetLength st.lengths index len } inp out
    else
      match deflateAlphabet st.lengths st.distanceCodelen (18 + 1) 0 with
      | none => .fail .einval
      | some alphabet =>
        .next .dynamicLitlenDistance
          { st with distanceCodelen := alphabet, lengths := List.replicate lengthsSize 0, lengthIndex := 0,
                    lengthTarget := st.litlenCount + st.distanceCount, length := 0 } inp out
  | .dynamicLitlenDistance =>
    decodeThen .dynamicLitlenDistance st inp out st.distanceCodelen fun len st inp =>
      if len < 16 then .next .dynamicLitlenDistanceExtra { st with length := len, extraBits := 0, dupLen := 1 } inp out
      else
        let index := len - 16
        let st := { st with dupLen := dupLenTable.getD index 0, extraBits := extraBitsTable.getD index 0 }
        .next .dynamicLitlenDistanceExtra (if index ≠ 0 then { st with length := 0 } else st) inp out
  | .dynamicLitlenDistanceExtra =>
    extractThen .dynamicLitlenDistanceExtra st inp out st.extraBits fun extra st inp =>
      let r := setLengths (st.dupLen + extra) st.lengths st.lengthIndex st.lengthTarget st.length
      let st := { st with lengths := r.1, lengthIndex := r.2 }
      if st.lengthIndex < st.lengthTarget then .next .dynamicLitlenDistance st inp out
      else .next .constructAlphabets st inp out
  | .constructAlphabets =>
    match constructAlphabets st with
    | none => .fail .einval
    | some st => .next .lzhufLitlen st inp out
  | .lzhufLitlen =>
    decodeThen .lzhufLitlen st inp out st.litlen fun code st inp =>
      if code < 256 then .next .lzhufLitlen st inp (deflateCopy out (.bytes [UInt8.ofNat code]) 0 1)
      else if code = 256 then .next .blockDone st inp out
      else
        let extra := code - 256 - 1
        if extra < 28 then
          .next .lzhufLitlenExtra
            { st with extraBits := extraBitsOf extra 4, dupLen := deflateLitlenBase.getD extra 0 } inp out
        else .next .lzhufLitlenExtra { st with extraBits := 0, dupLen := 258 } inp out
  | .lzhufLitlenExtra =>
    extractThen .lzhufLitlenExtra st inp out st.extraBits fun extra st inp =>
      .next .lzhufDistance { st with dupLen := st.dupLen + extra } inp out
  | .lzhufDistance =>
    decodeThen .lzhufDistance st inp out st.distanceCodelen fun code st inp =>
      .next .lzhufDistanceExtra
        { st with extraBits := extraBitsOf code 2, dupDistance := deflateDistanceBase.getD code 0 } inp out
  | .lzhufDistanceExtra =>
    extractThen .lzhufDistanceExtra st inp out st.extraBits fun extra st inp =>
      let dupDistance := st.dupDistance + extra
      if dupDistance > out.offset then .fail .einval
      else .next .lzhufLitlen st inp (deflateCopy out .output (out.offset - dupDistance) st.dupLen)
  | .blockDone =>
    if st.header &&& (1 <<< 0) = 0 then .next .blockHeader st inp out
    else match st.format with
      | .raw => .next .finished st inp out
      | .zlib => .next .zlibFooter st inp out
  | .zlibFooter => .next .zlibAdler32 { st with reader := deflateDiscardToByte st.reader } inp out
  | .zlibAdler32 =>
    let r := deflateAccumulate st.reader inp 32
    let st := { st with reader := r.1 }
    if r.2.2 < 0 then suspend .zlibAdler32 st r.2.1 out
    else .next .finished st r.2.1 out
  | .finished => .stop { st with resume := none } inp out

/-- 一歩を fuel 回まで続ける。 -/
def inflateRun : Nat → Label → Inflater → DeflateChunk → DeflateChunk → Except Rc (Inflater × DeflateChunk × DeflateChunk)
  | 0, l, st, inp, out => .ok ({ st with resume := some l }, inp, out)
  | fuel + 1, l, st, inp, out =>
    match inflateStep l st inp out with
    | .next l' st' inp' out' => inflateRun fuel l' st' inp' out'
    | .stop st' inp' out' => .ok (st', inp', out')
    | .fail rc => .error rc

theorem inflateRun_succ (fuel : Nat) (l : Label) (st : Inflater) (inp out : DeflateChunk) :
    inflateRun (fuel + 1) l st inp out =
      match inflateStep l st inp out with
      | .next l' st' inp' out' => inflateRun fuel l' st' inp' out'
      | .stop st' inp' out' => .ok (st', inp', out')
      | .fail rc => .error rc :=
  rfl

/-- 呼び出しの入口：再開点があればそこから、なければ形式の最初の label から。 -/
def entryLabel (st : Inflater) : Label :=
  match st.resume with
  | some l => l
  | none => match st.format with
    | .raw => .blockHeader
    | .zlib => .zlibHeader

/-- `deflate_inflate` の fuel：label は 20 個で、label が先へ進まない一歩は入力の bit を読む。 -/
def inflateFuel (st : Inflater) (inp : DeflateChunk) : Nat :=
  20 * (st.reader.bits + 8 * (inp.len - inp.offset) + 1) + 20

/-- `deflate_inflate`。 -/
def deflateInflate (st : Inflater) (inp out : DeflateChunk) : Except Rc (Inflater × DeflateChunk × DeflateChunk) :=
  inflateRun (inflateFuel st inp) (entryLabel st) st inp out

/-- `deflate_init`：`memset` で 0 にして形式を書く。 -/
def deflateInit (format : DeflateFormat) : Inflater :=
  { resume := none, format := format, reader := ⟨0, 0, 0⟩, header := 0, remaining := 0, lengthIndex := 0,
    lengthTarget := 0, length := 0, extraBits := 0, dupLen := 0, dupDistance := 0,
    litlen := ⟨fun _ => hufZero, fun _ => 0, fun _ => 0⟩, litlenCount := 0, distanceCount := 0,
    distanceCodelen := ⟨fun _ => hufZero, fun _ => 0, fun _ => 0⟩, lengths := List.replicate lengthsSize 0 }

/-- `deflate_finished`。 -/
def deflateFinished (st : Inflater) : Bool := st.resume.isNone

end FlexBoot.Inflate
