import FlexBoot.Core.Misc

/-!
# DEFLATE の bit の読み出しと Huffman 符号（`crypto/deflate.c`）

`deflate_alphabet` は符号の長さの表から Huffman の表を作り、`deflate_decode` はその表で入力の
先頭の符号を一つ読む。

## bit の読み出し

入力の byte は下の bit から順に読む。`deflate_accumulate` は byte を `accumulator` の上に足し、
同時に bit を逆順にした byte を `rotalumucca` の上から詰めていく。`rotalumucca` の上の 16 bit が、
読んでいない bit を読む順に上から並べた値で、Huffman 符号はこの値で引く。`deflate_consume` は
両方から `count` bit を捨てる。

## 表

`deflate_alphabet` は四つの loop で表を作る。

1. 長さごとに記号を数える（`countFreq`）
2. 長さ `bits` ごとに最初の符号を `16` bit にそろえた `start` と、記号を置く区画の始まりを埋め、
   符号が `2 ^ bits` を超えれば `-EINVAL` にする（`populateStep`）
3. 記号を順に、その長さの区画に置く（`placeRaw`）
4. 区画の位置を最初の符号の値だけ前へずらし、上の 7 bit で引く quick lookup を埋める（`adjustStep`）

最後に、符号がちょうど使い切られていなければ（`huf != 1 << 16`）`-EINVAL` である。

## model

* 配列（`huf[]`、`lookup[]`、`raw[]`）は添字から値への関数で持つ。`huf_sym->raw` は
  `alphabet->raw` の中の位置で、最初の符号の値だけ前へずらすと負にもなる。
* `-EINVAL` は `none` である。失敗した時に半分書いた表は、呼ぶ側がすぐ止まるので返さない。
* `huf_sym--` が表の先頭より前へ出ること、`raw[]` の先頭より前を読むことは
  `Fault.bufferUnderrun` で止める。
* `deflate_accumulate` の loop は、入力に残る byte の数を fuel にする。一回りで一 byte 読むので
  足りる。
-/

namespace FlexBoot.Inflate

/-- `DEFLATE_HUFFMAN_BITS`。 -/
def huffmanBits : Nat := 15

/-- `DEFLATE_HUFFMAN_QL_BITS`。 -/
def huffmanQlBits : Nat := 7

/-- `DEFLATE_HUFFMAN_QL_SHIFT`。 -/
def huffmanQlShift : Nat := 16 - huffmanQlBits

/-! ## 符号の長さの表 -/

/-- `deflate_set_length`：`lengths[ index / 2 ] |= ( bits << ( 4 * ( index % 2 ) ) )`。 -/
def deflateSetLength (lengths : List UInt8) (index bits : Nat) : List UInt8 :=
  lengths.modify (index / 2) fun b => b ||| UInt8.ofNat (bits <<< (4 * (index % 2)))

/-- `deflate_length`：`( lengths[ index / 2 ] >> ( 4 * ( index % 2 ) ) ) & 0x0f`。 -/
def deflateLength (lengths : List UInt8) (index : Nat) : Nat :=
  ((lengths.getD (index / 2) 0).toNat >>> (4 * (index % 2))) &&& 0x0f

/-! ## Huffman の表 -/

/-- `struct deflate_huf_symbols`。 -/
structure HufSymbols where
  bits : Nat
  shift : Nat
  freq : Nat
  start : Nat
  raw : Int
  deriving DecidableEq, Repr

/-- `memset` で 0 にした `struct deflate_huf_symbols`。 -/
def hufZero : HufSymbols := ⟨0, 0, 0, 0, 0⟩

/-- `struct deflate_alphabet`。 -/
structure Alphabet where
  huf : Nat → HufSymbols
  lookup : Nat → Nat
  raw : Int → Nat

/-- `if ( bits ) alphabet->huf[ bits - 1 ].freq++`。 -/
def countFreq (huf : Nat → HufSymbols) (bits : Nat) : Nat → HufSymbols :=
  if bits = 0 then huf
  else Function.update huf (bits - 1) { huf (bits - 1) with freq := (huf (bits - 1)).freq + 1 }

/-- 表を埋める loop の変数：次の符号 `huf`、短い記号の数 `cum_freq`、表。 -/
structure Populate where
  huf : Nat
  cumFreq : Nat
  table : Nat → HufSymbols

/-- 長さ `bits` の組を埋める一歩。長さ `bits` 以下の符号が `2 ^ bits` を超えれば `-EINVAL`。 -/
def populateStep (st : Populate) (bits : Nat) : Option Populate :=
  let sym := { st.table (bits - 1) with
    bits := bits, shift := 16 - bits, start := st.huf <<< (16 - bits), raw := (st.cumFreq : Int) }
  let huf := st.huf + sym.freq
  if huf > 1 <<< bits then none
  else some { huf := huf <<< 1, cumFreq := st.cumFreq + sym.freq, table := Function.update st.table (bits - 1) sym }

/-- `if ( bits ) *(huf_sym->raw++) = raw`：記号をその長さの区画の書き込み位置に置き、位置を進める。 -/
def placeRaw (st : (Nat → HufSymbols) × (Int → Nat)) (raw bits : Nat) : (Nat → HufSymbols) × (Int → Nat) :=
  if bits = 0 then st
  else
    let sym := st.1 (bits - 1)
    (Function.update st.1 (bits - 1) { sym with raw := sym.raw + 1 }, Function.update st.2 sym.raw raw)

/-- `for ( prefix = first ; prefix < ( 1 << DEFLATE_HUFFMAN_QL_BITS ) ; prefix++ ) lookup[prefix] = v`。 -/
def fillLookup (lookup : Nat → Nat) (first v : Nat) : Nat → Nat :=
  (List.range' first ((1 <<< huffmanQlBits) - first)).foldl (fun lk p => Function.update lk p v) lookup

/-- 長さ `bits` の組の書き込み位置を最初の記号に戻し、最初の符号の値だけ前へずらし、quick lookup を埋める。 -/
def adjustStep (st : (Nat → HufSymbols) × (Nat → Nat)) (bits : Nat) : (Nat → HufSymbols) × (Nat → Nat) :=
  let sym := st.1 (bits - 1)
  let raw := sym.raw - sym.freq
  let adjustment := sym.start >>> sym.shift
  let sym := { sym with raw := raw - adjustment }
  (Function.update st.1 (bits - 1) sym, fillLookup st.2 (sym.start >>> huffmanQlShift) (bits - 1))

/-- `deflate_alphabet ( deflate, alphabet, count, offset )`。記号 `raw` の長さは
`deflate_length ( deflate, raw + offset )`。 -/
def deflateAlphabet (lengths : List UInt8) (alphabet : Alphabet) (count offset : Nat) : Option Alphabet := do
  let len := fun raw => deflateLength lengths (raw + offset)
  let huf := (List.range count).foldl (fun huf raw => countFreq huf (len raw)) fun _ => hufZero
  let st ← (List.range' 1 huffmanBits).foldlM populateStep ⟨0, 0, huf⟩
  -- loop を抜けた時の `bits` は `DEFLATE_HUFFMAN_BITS + 1`
  let complete := st.huf == 1 <<< (huffmanBits + 1)
  let placed := (List.range count).foldl (fun acc raw => placeRaw acc raw (len raw)) (st.table, alphabet.raw)
  let adjusted := (List.range' 1 huffmanBits).foldl adjustStep (placed.1, alphabet.lookup)
  if complete then some { huf := adjusted.1, lookup := adjusted.2, raw := placed.2 } else none

/-! ## bit の読み出し -/

/-- `struct deflate` のうち bit の読み出しが使うもの。`accumulator` と `rotalumucca` は `uint32_t`。 -/
structure Deflate where
  accumulator : Nat
  rotalumucca : Nat
  bits : Nat
  deriving DecidableEq, Repr

/-- `struct deflate_chunk`。 -/
structure DeflateChunk where
  data : List UInt8
  offset : Nat
  len : Nat
  deriving DecidableEq, Repr

/-- `deflate_init` が作る `deflate_reverse[i]`：`bit` を 1 から 0x80 まで送りながら、`byte` を左へ
送って `i & bit` を下に足す。`deflate_reverse[0]` は static の 0 のままで、この式も 0 になる。 -/
def deflateReverse (i : Nat) : Nat :=
  ((List.range 8).map (1 <<< ·)).foldl (fun byte bit => (byte <<< 1) % 256 ||| if i &&& bit ≠ 0 then 1 else 0) 0

/-- `deflate_accumulate` の loop の一回りで、読んだ `byte` を足す。 -/
def accumulateByte (d : Deflate) (byte : Nat) : Deflate :=
  { accumulator := (d.accumulator ||| byte <<< d.bits) % 2 ^ 32,
    rotalumucca := (d.rotalumucca ||| deflateReverse byte <<< (24 - d.bits)) % 2 ^ 32,
    bits := d.bits + 8 }

/-- `deflate_accumulate` の loop。`fuel` は入力に残る byte の数。 -/
def accumulateLoop (target : Nat) : Nat → Deflate → DeflateChunk → Deflate × DeflateChunk
  | 0, d, inp => (d, inp)
  | fuel + 1, d, inp =>
    if d.bits < target then
      if inp.offset ≥ inp.len then (d, inp)
      else
        accumulateLoop target fuel (accumulateByte d (inp.data.getD inp.offset 0).toNat)
          { inp with offset := inp.offset + 1 }
    else (d, inp)

theorem accumulateLoop_succ (target fuel : Nat) (d : Deflate) (inp : DeflateChunk) :
    accumulateLoop target (fuel + 1) d inp =
      if d.bits < target then
        if inp.offset ≥ inp.len then (d, inp)
        else
          accumulateLoop target fuel (accumulateByte d (inp.data.getD inp.offset 0).toNat)
            { inp with offset := inp.offset + 1 }
      else (d, inp) :=
  rfl

/-- `deflate_accumulate`：`bits` が `target` に届くか入力が尽きるまで byte を足す。返す値は
`bits - target`（足りなければ負）。 -/
def deflateAccumulate (d : Deflate) (inp : DeflateChunk) (target : Nat) : Deflate × DeflateChunk × Int :=
  let r := accumulateLoop target (inp.len - inp.offset) d inp
  (r.1, r.2, (r.1.bits : Int) - target)

/-- `deflate_consume`：下の `count` bit を取り出し、`accumulator` と `rotalumucca` から捨てる。 -/
def deflateConsume (d : Deflate) (count : Nat) : Nat × Deflate :=
  (d.accumulator &&& ((1 <<< count) - 1),
    { accumulator := d.accumulator >>> count, rotalumucca := (d.rotalumucca <<< count) % 2 ^ 32,
      bits := d.bits - count })

/-- `deflate_extract`：`target` bit がそろえば取り出し、そろわなければ負の数を返す。 -/
def deflateExtract (d : Deflate) (inp : DeflateChunk) (target : Nat) : Int × Deflate × DeflateChunk :=
  if target = 0 then (0, d, inp)
  else
    let r := deflateAccumulate d inp target
    if r.2.2 < 0 then (r.2.2, r.1, r.2.1)
    else ((deflateConsume r.1 target).1, (deflateConsume r.1 target).2, r.2.1)

/-! ## 符号を一つ読む -/

/-- `while ( huf < huf_sym->start ) huf_sym--`。表の先頭より前へ出れば未定義動作。 -/
def walkSymbols (huf : Nat → HufSymbols) (x : Nat) : Nat → Except Fault Nat
  | 0 => if x < (huf 0).start then .error .bufferUnderrun else .ok 0
  | i + 1 => if x < (huf (i + 1)).start then walkSymbols huf x i else .ok (i + 1)

theorem walkSymbols_zero (huf : Nat → HufSymbols) (x : Nat) :
    walkSymbols huf x 0 = if x < (huf 0).start then .error .bufferUnderrun else .ok 0 :=
  rfl

theorem walkSymbols_succ (huf : Nat → HufSymbols) (x i : Nat) :
    walkSymbols huf x (i + 1) = if x < (huf (i + 1)).start then walkSymbols huf x i else .ok (i + 1) :=
  rfl

/-- `deflate_decode`。符号がそろえば記号を返してその bit を捨て、そろわなければ負の数を返す。 -/
def deflateDecode (d : Deflate) (inp : DeflateChunk) (alphabet : Alphabet) :
    Except Fault (Int × Deflate × DeflateChunk) := do
  let r := deflateAccumulate d inp huffmanBits
  let d := r.1
  -- `huf = ( deflate->rotalumucca >> 16 )` は `uint16_t`
  let huf := (d.rotalumucca >>> 16) % 2 ^ 16
  let i ← walkSymbols alphabet.huf huf (alphabet.lookup (huf >>> huffmanQlShift))
  let sym := alphabet.huf i
  let excess : Int := (d.bits : Int) - sym.bits
  if excess < 0 then return (excess, d, r.2.1)
  let index := sym.raw + (huf >>> sym.shift : Nat)
  if index < 0 then throw .bufferUnderrun
  return (alphabet.raw index, (deflateConsume d sym.bits).2, r.2.1)

end FlexBoot.Inflate
