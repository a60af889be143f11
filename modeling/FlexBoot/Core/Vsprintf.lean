import FlexBoot.Core.Misc

/-!
# 書式付きの書き出し（`core/vsprintf.c`）

`vcprintf` は書式を一文字ずつ読む。`%` の後は flag（`#` と `0`）、幅の数字、長さの修飾子
（`h`、`l`、`z`）を読み、次の一文字で変換を選ぶ。三つの `for ( ; ; fmt++ )` の `break` は、
同じ文字を次の段に渡すことである。この model は段（`Phase`）を状態に持ち、書式を一文字ずつ
進める（`printfStep`）。書式の終わりの NUL が変換の文字になると、`fmt++` は NUL の先を読む。

数の変換は `tmp_buf` の終わりから前へ書く。`formatHex` と `formatDecimal` は書いた文字を
前から順に返す。NUL の前の 31 byte を超えて書けば `tmp_buf` の前に書き込む。

## 可変長引数

`va_list` は語の並びで表す。i386 では引数を 4 byte の語に積み、`long long` は下の語から
二語を使う。x86_64 では引数一つが 8 byte の語一つである。`va_arg ( args, T )` は語を読み、
その下の `sizeof ( T )` byte を値とする（`vaArg`）。読む語がなければ `Fault.outOfBounds` で
止まる。`%d` は `int` を読んでも `signed long` に符号拡張してから `format_decimal` に渡す。

`%s` の指す文字列と `%ls` の指す wide 文字列は `Memory` で与える。`wchar_t` は
`-fshort-wchar` で 16 bit、`wint_t` は `int`、`intptr_t` は `unsigned long` である。
`wcrtomb` は下の byte を一つ書く。
-/

namespace FlexBoot.Vsprintf

open Infra

/-! ## flag と型の大きさ -/

/-- `ALT_FORM`。 -/
def altForm : Nat := 0x02

/-- `ZPAD`。 -/
def zpad : Nat := 0x10

/-- `LCASE`。 -/
def lcase : Nat := 0x20

/-- `type_sizes[]`：`CHAR_LEN` から `SIZE_T_LEN` までの型の大きさ（byte）。 -/
def typeSizes (arch : Arch) : List Nat := [1, 2, 4, arch.longBits / 8, 8, arch.longBits / 8]

/-- `INT_LEN`。 -/
def intLen : Int := 2

/-- `LONG_LEN`。 -/
def longLen : Int := 3

/-- `SIZE_T_LEN`。 -/
def sizeTLen : Int := 5

/-- `*length`。`length` は `type_sizes` の添字で、`h` と `l` を重ねれば配列の外を指す。 -/
def typeSize (arch : Arch) (length : Int) : Except Fault Nat :=
  if length < 0 then .error .bufferUnderrun
  else match (typeSizes arch)[length.toNat]? with
    | some n => .ok n
    | none => .error (.outOfBounds length.toNat (typeSizes arch).length)

/-! ## 可変長引数 -/

/-- `va_list`：積まれた語と、次に読む語の位置。 -/
structure VaList where
  words : List Nat
  pos : Nat
  deriving DecidableEq, Repr

/-- 次の語を読む。 -/
def VaList.next (ap : VaList) : Except Fault (Nat × VaList) :=
  match ap.words[ap.pos]? with
  | some w => .ok (w, ⟨ap.words, ap.pos + 1⟩)
  | none => .error (.outOfBounds ap.pos ap.words.length)

/-- `va_arg ( args, T )`。`T` は `size` byte の整数型で、値はその bit 列である。 -/
def vaArg (arch : Arch) (size : Nat) (ap : VaList) : Except Fault (Nat × VaList) := do
  let (lo, ap) ← ap.next
  if 8 * size ≤ arch.longBits then return (lo % 2 ^ (8 * size), ap)
  else
    -- i386 の 8 byte の型は、下の語と上の語の二つを読む
    let (hi, ap) ← ap.next
    return (lo % 2 ^ arch.longBits + hi % 2 ^ arch.longBits * 2 ^ arch.longBits, ap)

/-- 呼び出し側が `size` byte の整数型の値を積んだ語。`v` はその型の bit 列である。 -/
def pushArg (arch : Arch) (size : Nat) (v : Nat) : List Nat :=
  if 8 * size ≤ arch.longBits then [v] else [v % 2 ^ arch.longBits, v / 2 ^ arch.longBits]

/-- `bits` bit の bit 列を符号付きの値として読む。 -/
def toSigned (bits v : Nat) : Int := if v < 2 ^ (bits - 1) then v else (v : Int) - 2 ^ bits

/-! ## 数の書き出し -/

/-- `"0123456789ABCDEF"`。 -/
def hexChars : Bytes := ascii "0123456789ABCDEF"

/-- `format_hex ( end, num, width, flags )` が `end` の前に書いた文字。 -/
def formatHex (num width flags : Nat) : Bytes :=
  let caseMod := UInt8.ofNat (flags &&& lcase)
  let pad := UInt8.ofNat ((flags &&& zpad) ||| 0x20)
  let digits := digitsMsb 16 (fun d => hexChars.getD d 0 ||| caseMod) (num + 1) num
  let padded := List.replicate (width - digits.length) pad ++ digits
  -- 幅まで詰めた後に `0x` を前に足す
  if flags &&& altForm ≠ 0 then 0x30 :: (0x58 ||| caseMod) :: padded else padded

/-- `format_decimal ( end, num, width, flags )` が `end` の前に書いた文字。`num` は `bits` bit の
`signed long` で、最小の負の値では `num = -num` があふれる。 -/
def formatDecimal (bits : Nat) (num : Int) (width flags : Nat) : Except Fault Bytes :=
  let zp := flags &&& zpad
  let pad := UInt8.ofNat (zp ||| 0x20)
  if num = -2 ^ (bits - 1) then .error .signedOverflow
  else
    let negative := decide (num < 0)
    let digits := decimalDigits num.natAbs
    let s := if negative ∧ zp = 0 then 0x2D :: digits else digits
    let s := List.replicate (width - s.length) pad ++ s
    -- `0` の flag では、詰めた後の先頭の一文字を `-` で上書きする
    .ok (if negative ∧ zp ≠ 0 then 0x2D :: s.tail else s)

/-- `tmp_buf` に前から書いた `s`。NUL の前の 31 byte を超えれば `tmp_buf` の前に書き込む。 -/
def tmpBuf (s : Bytes) : Except Fault Bytes :=
  if s.length ≤ 31 then .ok s else .error .bufferUnderrun

/-! ## 変換 -/

/-- `%s` と `%ls` の指す先。`str p` は番地 `p` から NUL までの byte、`wstr p` は NUL までの
wide 文字である。 -/
structure Memory where
  str : Nat → Bytes
  wstr : Nat → List Nat

/-- 変換の文字 `c` が書く文字と、読んだ後の `va_list`。 -/
def convert (arch : Arch) (mem : Memory) (flags width : Nat) (length : Int) (c : UInt8) (ap : VaList) :
    Except Fault (Bytes × VaList) :=
  let ptrSize := arch.longBits / 8
  if c = 0x63 then
    if length < longLen then do
      let (v, ap) ← vaArg arch 4 ap
      return ([UInt8.ofNat v], ap)
    else do
      -- `wcrtomb` の書いた一文字を、NUL で終わる文字列として書き出す
      let (wc, ap) ← vaArg arch 4 ap
      return ((if UInt8.ofNat wc = 0 then [] else [UInt8.ofNat wc]), ap)
  else if c = 0x73 then do
    let (p, ap) ← vaArg arch ptrSize ap
    if length < longLen then return ((if p = 0 then ascii "<NULL>" else mem.str p), ap)
    else return ((if p = 0 then [] else (mem.wstr p).map UInt8.ofNat), ap)
  else if c = 0x70 then do
    let (p, ap) ← vaArg arch ptrSize ap
    let s ← tmpBuf (formatHex p width (altForm ||| lcase))
    return (s, ap)
  else if c &&& ~~~0x20 = 0x58 then do
    let flags := flags ||| (c.toNat &&& 0x20)
    let size ← typeSize arch length
    let (hex, ap) ←
      if 8 ≤ size then vaArg arch 8 ap
      else if ptrSize ≤ size then vaArg arch ptrSize ap
      else vaArg arch 4 ap
    let s ← tmpBuf (formatHex hex width flags)
    return (s, ap)
  else if c = 0x64 ∨ c = 0x69 then do
    let size ← typeSize arch length
    let (decimal, ap) ←
      if ptrSize ≤ size then (fun r => (toSigned arch.longBits r.1, r.2)) <$> vaArg arch ptrSize ap
      else (fun r => (toSigned 32 r.1, r.2)) <$> vaArg arch 4 ap
    let s ← formatDecimal arch.longBits decimal width flags
    let s ← tmpBuf s
    return (s, ap)
  else
    -- `*(--ptr) = *fmt`
    return ([c], ap)

/-! ## 書式を読む -/

/-- `vcprintf` が `%` の後のどこを読んでいるか。 -/
inductive Phase
  /-- 普通の文字 -/
  | text
  /-- flag 文字 -/
  | flags (flags : Nat)
  /-- 幅の数字 -/
  | width (flags width : Nat)
  /-- 長さの修飾子。`length` は `type_sizes` の添字。 -/
  | length (flags width : Nat) (length : Int)
  deriving DecidableEq, Repr

/-- `vcprintf` の状態。`out` は `cputchar` で渡した文字、`len` は `ctx->len` である。 -/
structure Printf where
  phase : Phase
  args : VaList
  out : Bytes
  len : Nat

/-- `cputchar ( ctx, c )` を `s` の文字ごとに。 -/
def Printf.puts (p : Printf) (s : Bytes) : Printf :=
  { p with out := p.out ++ s, len := p.len + s.length }

/-- 長さの修飾子の段。`h` と `l` は添字を動かし、`z` は `SIZE_T_LEN` にする。それ以外は変換の文字。 -/
def lengthStep (arch : Arch) (mem : Memory) (p : Printf) (flags width : Nat) (length : Int) (c : UInt8) :
    Except Fault Printf :=
  if c = 0x68 then .ok { p with phase := .length flags width (length - 1) }
  else if c = 0x6C then .ok { p with phase := .length flags width (length + 1) }
  else if c = 0x7A then .ok { p with phase := .length flags width sizeTLen }
  else do
    let (s, ap) ← convert arch mem flags width length c p.args
    return { p with phase := .text, args := ap }.puts s

/-- 幅の段。`width = ( width * 10 ) + ( *fmt - '0' )` は `int` で計算する。 -/
def widthStep (arch : Arch) (mem : Memory) (p : Printf) (flags width : Nat) (c : UInt8) :
    Except Fault Printf :=
  if 0x30 ≤ c.toNat ∧ c.toNat < 0x3A then
    let width := width * 10 + (c.toNat - 0x30)
    if width < 2 ^ 31 then .ok { p with phase := .width flags width } else .error .signedOverflow
  else lengthStep arch mem p flags width intLen c

/-- flag の段。 -/
def flagsStep (arch : Arch) (mem : Memory) (p : Printf) (flags : Nat) (c : UInt8) : Except Fault Printf :=
  if c = 0x23 then .ok { p with phase := .flags (flags ||| altForm) }
  else if c = 0x30 then .ok { p with phase := .flags (flags ||| zpad) }
  else widthStep arch mem p flags 0 c

/-- 書式の一文字。 -/
def printfStep (arch : Arch) (mem : Memory) (p : Printf) (c : UInt8) : Except Fault Printf :=
  match p.phase with
  | .text => if c = 0x25 then .ok { p with phase := .flags 0 } else .ok (p.puts [c])
  | .flags flags => flagsStep arch mem p flags c
  | .width flags width => widthStep arch mem p flags width c
  | .length flags width length => lengthStep arch mem p flags width length c

/-- `vcprintf ( ctx, fmt, args )`：`cputchar` で渡した文字と、返す `ctx->len`。書式は最初の NUL
まで読む。変換の途中で書式が終われば、NUL を変換の文字として処理した後の `fmt++` が NUL の先を
読む。 -/
def vcprintf (arch : Arch) (mem : Memory) (fmt : Bytes) (words : List Nat) : Except Fault (Bytes × Nat) := do
  let fmt := fmt.takeWhile (· ≠ 0)
  let p ← fmt.foldlM (printfStep arch mem) ⟨.text, ⟨words, 0⟩, [], 0⟩
  match p.phase with
  | .text => return (p.out, p.len)
  | _ => .error (.outOfBounds (fmt.length + 1) (fmt.length + 1))

/-- `vsnprintf ( buf, size, fmt, args )`：`buf` に残る NUL の前までの文字列と返り値。`printf_sputc` は
`ctx->len < max_len` の文字だけを書き、最後に `min ( len, size - 1 )` の位置に NUL を置く。
`size = 0` なら何も書かない。 -/
def vsnprintf (arch : Arch) (mem : Memory) (size : Nat) (fmt : Bytes) (words : List Nat) :
    Except Fault (Option Bytes × Nat) := do
  let (out, len) ← vcprintf arch mem fmt words
  return ((if size = 0 then none else some (out.take (min len (size - 1)))), len)

example : vsnprintf .x86_64 ⟨fun _ => [], fun _ => []⟩ 16 (ascii "%04d") [2 ^ 32 - 72] =
    .ok (some (ascii "-072"), 4) := by decide

end FlexBoot.Vsprintf
