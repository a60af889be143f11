import FlexBoot.Infra.Bytes
import FlexBoot.Infra.Digest

/-!
# RFC 1321 の MD5

RFC 1321 の書き方で byte 列の MD5 を定める。実装からは訳さない。

* 語は四 byte で、下位の byte が先に来る（§2）
* 詰め物（§3.1、§3.2）：`1` の bit と、長さが 512 を法として 448 になるまでの `0` の bit、
  長さ `b` の下位 64 bit を下位の語から。byte 列では `0x80`、`0` の byte、八 byte の little-endian
* register `A`、`B`、`C`、`D` の初めの値（§3.3）
* 一つの block の処理（§3.4）：四つの round の 16 の操作 `[abcd k s i]`、
  `a = b + ((a + F(b,c,d) + X[k] + T[i]) <<< s)`。操作ごとに書き換える register が
  `A`、`D`、`C`、`B` と回る。最後に block の前の値を足す
* 出力（§3.5）：`A`、`B`、`C`、`D` を下位の byte から

`T[i]` は `4294967296 * abs(sin(i))` の整数部で、ここでは RFC の参照実装（付録 A.3）に書かれた値を使う。
-/

namespace Rfc1321

open Infra

/-! ## 語 -/

/-- 値を下位の byte から `n` byte にする。 -/
def le (n v : Nat) : Bytes := (List.range n).map fun i => UInt8.ofNat (v / 256 ^ i)

/-- block の `j` 番目の語 `X[j]`：四 byte を下位の byte から読む。 -/
def word (blk : Bytes) (j : Nat) : UInt32 :=
  UInt32.ofNat ((blk.getD (4 * j) 0).toNat + 256 * (blk.getD (4 * j + 1) 0).toNat +
    65536 * (blk.getD (4 * j + 2) 0).toNat + 16777216 * (blk.getD (4 * j + 3) 0).toNat)

/-- `X <<< s`：左への巡回。 -/
def rotl (s : Nat) (x : UInt32) : UInt32 := (x <<< UInt32.ofNat s) ||| (x >>> UInt32.ofNat (32 - s))

/-! ## 詰め物 -/

/-- 詰め物の `0` の byte の数。長さを 64 を法として 56 にそろえる最小の数である。 -/
def padZeros (len : Nat) : Nat := (119 - len % 64) % 64

/-- 詰めた message（§3.1、§3.2）。長さは bit で数え、下位 64 bit を使う。 -/
def pad (M : Bytes) : Bytes := M ++ 0x80 :: List.replicate (padZeros M.length) 0 ++ le 8 (8 * M.length % 2 ^ 64)

theorem length_pad_mod (M : Bytes) : (pad M).length % 64 = 0 := by
  simp only [pad, padZeros, le, List.length_append, List.length_cons, List.length_replicate,
    List.length_map, List.length_range]
  omega

/-! ## 一つの block の処理 -/

/-- `F(X,Y,Z) = XY v not(X) Z`。 -/
def F (x y z : UInt32) : UInt32 := (x &&& y) ||| (~~~x &&& z)

/-- `G(X,Y,Z) = XZ v Y not(Z)`。 -/
def G (x y z : UInt32) : UInt32 := (x &&& z) ||| (y &&& ~~~z)

/-- `H(X,Y,Z) = X xor Y xor Z`。 -/
def H (x y z : UInt32) : UInt32 := x ^^^ y ^^^ z

/-- `I(X,Y,Z) = Y xor (X v not(Z))`。 -/
def I (x y z : UInt32) : UInt32 := y ^^^ (x ||| ~~~z)

/-- round `r` の関数。 -/
def roundFun : Nat → UInt32 → UInt32 → UInt32 → UInt32
  | 0 => F
  | 1 => G
  | 2 => H
  | _ => I

/-- `T[1]`〜`T[64]`。 -/
def T : List UInt32 :=
  [0xd76aa478, 0xe8c7b756, 0x242070db, 0xc1bdceee, 0xf57c0faf, 0x4787c62a, 0xa8304613, 0xfd469501,
   0x698098d8, 0x8b44f7af, 0xffff5bb1, 0x895cd7be, 0x6b901122, 0xfd987193, 0xa679438e, 0x49b40821,
   0xf61e2562, 0xc040b340, 0x265e5a51, 0xe9b6c7aa, 0xd62f105d, 0x02441453, 0xd8a1e681, 0xe7d3fbc8,
   0x21e1cde6, 0xc33707d6, 0xf4d50d87, 0x455a14ed, 0xa9e3e905, 0xfcefa3f8, 0x676f02d9, 0x8d2a4c8a,
   0xfffa3942, 0x8771f681, 0x6d9d6122, 0xfde5380c, 0xa4beea44, 0x4bdecfa9, 0xf6bb4b60, 0xbebfbc70,
   0x289b7ec6, 0xeaa127fa, 0xd4ef3085, 0x04881d05, 0xd9d4d039, 0xe6db99e5, 0x1fa27cf8, 0xc4ac5665,
   0xf4292244, 0x432aff97, 0xab9423a7, 0xfc93a039, 0x655b59c3, 0x8f0ccc92, 0xffeff47d, 0x85845dd1,
   0x6fa87e4f, 0xfe2ce6e0, 0xa3014314, 0x4e0811a1, 0xf7537e82, 0xbd3af235, 0x2ad7d2bb, 0xeb86d391]

/-- 64 の操作 `[abcd k s i]` の `k`。RFC の四つの round の表の順である。 -/
def kTable : List Nat :=
  [0, 1, 2, 3, 4, 5, 6, 7, 8, 9, 10, 11, 12, 13, 14, 15,
   1, 6, 11, 0, 5, 10, 15, 4, 9, 14, 3, 8, 13, 2, 7, 12,
   5, 8, 11, 14, 1, 4, 7, 10, 13, 0, 3, 6, 9, 12, 15, 2,
   0, 7, 14, 5, 12, 3, 10, 1, 8, 15, 6, 13, 4, 11, 2, 9]

/-- 64 の操作 `[abcd k s i]` の `s`。 -/
def sTable : List Nat :=
  [7, 12, 17, 22, 7, 12, 17, 22, 7, 12, 17, 22, 7, 12, 17, 22,
   5, 9, 14, 20, 5, 9, 14, 20, 5, 9, 14, 20, 5, 9, 14, 20,
   4, 11, 16, 23, 4, 11, 16, 23, 4, 11, 16, 23, 4, 11, 16, 23,
   6, 10, 15, 21, 6, 10, 15, 21, 6, 10, 15, 21, 6, 10, 15, 21]

/-- register `A`、`B`、`C`、`D`。 -/
structure Regs where
  A : UInt32
  B : UInt32
  C : UInt32
  D : UInt32
  deriving DecidableEq, Repr

/-- `[abcd k s i]` が `a` に書く値 `b + ((a + g(b,c,d) + X[k] + T[i]) <<< s)`。 -/
def op (g : UInt32 → UInt32 → UInt32 → UInt32) (X : Nat → UInt32) (a b c d : UInt32) (k s i : Nat) :
    UInt32 :=
  b + rotl s (a + g b c d + X k + T.getD (i - 1) 0)

/-- `j` 番目（0 から数える）の操作。round は `j / 16` で、register の並びは `j % 4` によって
`[ABCD]`、`[DABC]`、`[CDAB]`、`[BCDA]` と回る。 -/
def step (X : Nat → UInt32) (r : Regs) (j : Nat) : Regs :=
  let g := roundFun (j / 16)
  let k := kTable.getD j 0
  let s := sTable.getD j 0
  match j % 4 with
  | 0 => { r with A := op g X r.A r.B r.C r.D k s (j + 1) }
  | 1 => { r with D := op g X r.D r.A r.B r.C k s (j + 1) }
  | 2 => { r with C := op g X r.C r.D r.A r.B k s (j + 1) }
  | _ => { r with B := op g X r.B r.C r.D r.A k s (j + 1) }

/-- 一つの block の処理：64 の操作の後、block の前の値 `AA`、`BB`、`CC`、`DD` を足す。 -/
def compress (r : Regs) (blk : Bytes) : Regs :=
  let r' := (List.range 64).foldl (step (word blk)) r
  ⟨r'.A + r.A, r'.B + r.B, r'.C + r.C, r'.D + r.D⟩

/-- register の初めの値。 -/
def init : Regs := ⟨0x67452301, 0xefcdab89, 0x98badcfe, 0x10325476⟩

/-- MD5。詰めた message の block を順に処理し、`A`、`B`、`C`、`D` を下位の byte から並べる。 -/
def md5 (M : Bytes) : Bytes :=
  let P := pad M
  let r := absorb compress 64 (P.length / 64) init P
  le 4 r.A.toNat ++ le 4 r.B.toNat ++ le 4 r.C.toNat ++ le 4 r.D.toNat

end Rfc1321
