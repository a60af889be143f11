import FlexBoot.Core.Misc
import FlexBoot.Infra.Bytes
import FlexBoot.Infra.Digest

/-!
# MD5（`crypto/md5.c`）

`md5_update` は byte を一つずつ 64 byte の block に溜め、満ちるたびに `md5_digest` で
四つの語 `h[0..3]` を更新する。`md5_final` は `0x80` と 0 を足して長さを block の 56 byte 目に
そろえ、長さ（bit、little-endian の 64 bit）を足して最後の block を処理し、`h` を
little-endian で書き出す。

`digest_init`・`digest_update`・`digest_final` を続けて呼んだ結果は、足した byte 列全体の関数で
ある。ここではその関数 `md5` を、block ごとに `md5_digest` を呼ぶ形で書く。他の module は digest を
この関数で使う。

終わりの節は `md5_init`・`md5_update`・`md5_final` そのもので、context を `Infra.BlockStream` で持つ。
`h[0..3]` は memory の上で little-endian の語なので、x86 では `le32_to_cpus` は何もしない。
-/

namespace FlexBoot.Md5

open Infra

/-- `k[64]`。 -/
def md5K : List UInt32 :=
  [0xd76aa478, 0xe8c7b756, 0x242070db, 0xc1bdceee, 0xf57c0faf, 0x4787c62a,
   0xa8304613, 0xfd469501, 0x698098d8, 0x8b44f7af, 0xffff5bb1, 0x895cd7be,
   0x6b901122, 0xfd987193, 0xa679438e, 0x49b40821, 0xf61e2562, 0xc040b340,
   0x265e5a51, 0xe9b6c7aa, 0xd62f105d, 0x02441453, 0xd8a1e681, 0xe7d3fbc8,
   0x21e1cde6, 0xc33707d6, 0xf4d50d87, 0x455a14ed, 0xa9e3e905, 0xfcefa3f8,
   0x676f02d9, 0x8d2a4c8a, 0xfffa3942, 0x8771f681, 0x6d9d6122, 0xfde5380c,
   0xa4beea44, 0x4bdecfa9, 0xf6bb4b60, 0xbebfbc70, 0x289b7ec6, 0xeaa127fa,
   0xd4ef3085, 0x04881d05, 0xd9d4d039, 0xe6db99e5, 0x1fa27cf8, 0xc4ac5665,
   0xf4292244, 0x432aff97, 0xab9423a7, 0xfc93a039, 0x655b59c3, 0x8f0ccc92,
   0xffeff47d, 0x85845dd1, 0x6fa87e4f, 0xfe2ce6e0, 0xa3014314, 0x4e0811a1,
   0xf7537e82, 0xbd3af235, 0x2ad7d2bb, 0xeb86d391]

/-- `r[64]`。 -/
def md5R : List Nat :=
  [7, 12, 17, 22, 7, 12, 17, 22, 7, 12, 17, 22, 7, 12, 17, 22,
   5, 9, 14, 20, 5, 9, 14, 20, 5, 9, 14, 20, 5, 9, 14, 20,
   4, 11, 16, 23, 4, 11, 16, 23, 4, 11, 16, 23, 4, 11, 16, 23,
   6, 10, 15, 21, 6, 10, 15, 21, 6, 10, 15, 21, 6, 10, 15, 21]

/-- `struct md5_variables` の `a`〜`d`。 -/
structure Md5Variables where
  a : UInt32
  b : UInt32
  c : UInt32
  d : UInt32
  deriving DecidableEq, Repr

/-- `rol32`。 -/
def rol32 (x : UInt32) (n : Nat) : UInt32 :=
  (x <<< UInt32.ofNat n) ||| (x >>> UInt32.ofNat (32 - n))

/-- `md5_f_0_15` から `md5_f_48_63`。`md5_steps[i / 16].f` である。 -/
def md5F (v : Md5Variables) : Nat → UInt32
  | 0 => v.d ^^^ (v.b &&& (v.c ^^^ v.d))
  | 1 => v.c ^^^ (v.d &&& (v.b ^^^ v.c))
  | 2 => v.b ^^^ v.c ^^^ v.d
  | _ => v.c ^^^ (v.b ||| ~~~v.d)

/-- `md5_steps[i / 16]` の `coefficient` と `constant`。 -/
def md5G (i : Nat) : Nat :=
  match i / 16 with
  | 0 => i % 16
  | 1 => (5 * i + 1) % 16
  | 2 => (3 * i + 5) % 16
  | _ => (7 * i) % 16

/-- `md5_digest` の主 loop の一回。 -/
def md5Round (w : List UInt32) (v : Md5Variables) (i : Nat) : Md5Variables :=
  let f := md5F v (i / 16)
  let g := md5G i
  { a := v.d, d := v.c, c := v.b,
    b := v.b + rol32 (v.a + f + md5K.getD i 0 + w.getD g 0) (md5R.getD i 0) }

/-- block の `i` 番目の語。little-endian で読む（`le32_to_cpus`）。 -/
def le32At (block : Bytes) (i : Nat) : UInt32 :=
  UInt32.ofNat ((block.getD (4 * i) 0).toNat + 256 * (block.getD (4 * i + 1) 0).toNat +
    65536 * (block.getD (4 * i + 2) 0).toNat + 16777216 * (block.getD (4 * i + 3) 0).toNat)

/-- `md5_digest`。一つの 64 byte の block で `h` を更新する。 -/
def md5Digest (h : Md5Variables) (block : Bytes) : Md5Variables :=
  let w := (List.range 16).map (le32At block)
  let v := (List.range 64).foldl (md5Round w) h
  ⟨h.a + v.a, h.b + v.b, h.c + v.c, h.d + v.d⟩

/-- `md5_init` の `h[0..3]`。 -/
def md5Init : Md5Variables := ⟨0x67452301, 0xefcdab89, 0x98badcfe, 0x10325476⟩

/-- 溜まった block を順に `md5_digest` に通す。`n` は block の数である。 -/
def md5Blocks : Nat → Md5Variables → Bytes → Md5Variables
  | 0, h, _ => h
  | n + 1, h, data => md5Blocks n (md5Digest h (data.take 64)) (data.drop 64)

/-- 値を little-endian の `n` byte にする。 -/
def leBytes (n v : Nat) : Bytes := (List.range n).map fun i => UInt8.ofNat (v / 256 ^ i)

/-- `md5_final` の詰め物。`0x80` の後、長さが 64 で割って 56 余るまで 0 を足し、
bit 数を little-endian の 64 bit で足す。 -/
def md5Pad (len : Nat) : Bytes :=
  0x80 :: List.replicate ((119 - len % 64) % 64) 0 ++ leBytes 8 (len * 8 % 2 ^ 64)

/-- 入力全体の MD5。`h` を little-endian で書き出す。 -/
def md5 (data : Bytes) : Bytes :=
  let padded := data ++ md5Pad data.length
  let h := md5Blocks (padded.length / 64) md5Init padded
  leBytes 4 h.a.toNat ++ leBytes 4 h.b.toNat ++ leBytes 4 h.c.toNat ++ leBytes 4 h.d.toNat

/-- `md5_algorithm.digestsize`。 -/
def md5Digestsize : Nat := 16

theorem length_leBytes (n v : Nat) : (leBytes n v).length = n := by
  simp [leBytes]

/-- digest はいつも `md5_algorithm.digestsize` の 16 byte である。 -/
theorem length_md5 (data : Bytes) : (md5 data).length = md5Digestsize := by
  simp only [md5, md5Digestsize, List.length_append, length_leBytes]

example : md5 [] = [0xd4, 0x1d, 0x8c, 0xd9, 0x8f, 0x00, 0xb2, 0x04,
    0xe9, 0x80, 0x09, 0x98, 0xec, 0xf8, 0x42, 0x7e] := by decide +kernel

example : md5 (ascii "abc") = [0x90, 0x01, 0x50, 0x98, 0x3c, 0xd2, 0x4f, 0xb0,
    0xd6, 0x96, 0x3f, 0x7d, 0x28, 0xe1, 0x7f, 0x72] := by decide +kernel

/-! ## digest algorithm -/

/-- `struct digest_algorithm` のうち、一度に全体の digest を取る部分。出力の長さは
`digestsize` に決まっている。 -/
structure DigestAlgorithm where
  digestsize : Nat
  digest : Bytes → Bytes
  length_digest : ∀ data, (digest data).length = digestsize

/-- `md5_algorithm`。 -/
def md5Algorithm : DigestAlgorithm := ⟨md5Digestsize, md5, length_md5⟩

/-! ## `md5_init`、`md5_update`、`md5_final` -/

/-- `struct md5_context` の溜め方。block は 64 byte、`len` は `size_t` で数える。`md5_digest` は
data block を書き換えない。 -/
def md5Absorber (arch : Arch) : Absorber Md5Variables UInt8 :=
  ⟨64, 2 ^ arch.longBits, fun h block => (md5Digest h block, block), by decide,
    Nat.pow_dvd_pow 2 (show 6 ≤ arch.longBits by have := arch.longBits_ge; omega), fun _ _ hb => hb⟩

/-- `md5_init`。data block は満ちるまで読まれないので 0 で置く。 -/
def md5InitContext : BlockStream Md5Variables UInt8 := ⟨md5Init, List.replicate 64 0, 0⟩

/-- `md5_update`。 -/
def md5Update (arch : Arch) (ctx : BlockStream Md5Variables UInt8) (data : Bytes) :
    BlockStream Md5Variables UInt8 :=
  (md5Absorber arch).push ctx data

/-- `struct md5_digest` の memory：`h[0..3]` の little-endian。 -/
def md5Out (h : Md5Variables) : Bytes :=
  leBytes 4 h.a.toNat ++ leBytes 4 h.b.toNat ++ leBytes 4 h.c.toNat ++ leBytes 4 h.d.toNat

/-- `md5_final`。長さ `len_bits = cpu_to_le64 ( len * 8 )` は詰め物の前に覚える。 -/
def md5Final (arch : Arch) (ctx : BlockStream Md5Variables UInt8) : Bytes :=
  md5Out ((md5Absorber arch).finish 56 0x80 0x00 (fun len => leBytes 8 (len * 8 % 2 ^ 64)) ctx).state

end FlexBoot.Md5
