import FlexBoot.Core.Misc
import FlexBoot.Crypto.Md5
import FlexBoot.Infra.Digest

/-!
# SHA-256（`crypto/sha256.c`）

`sha256_update` は byte を一つずつ 64 byte の data block に溜め、満ちるたびに `sha256_digest` で
八つの語 `h[0..7]` を更新する。`sha256_final` は `0x80` と 0 を足して長さを block の 56 byte 目に
そろえ、詰め物の前に覚えた長さ（bit、big-endian の 64 bit）を足して、`h` を書き出す。

## model

context は `Infra.BlockStream` である。`h[0..7]` は memory の上では big-endian の語で、
`sha256_digest` がはじめに host の順にし、終わりに big-endian に戻す。ここでは host の順の値
（`Sha256Variables`）で持ち、書き出すときに big-endian にする。`sha256_digest` は data block の語も
その場で host の順にする（`be32ToCpus`）。block が満ちて圧縮した後は、次に書く byte がその位置を
上書きするまで領域は読まれない。

`len` は `size_t` なので、`2 ^ arch.longBits` で巻き戻る。詰め物の `do { ... } while` の loop は
64 回のうちに止まるので、64 回を上限に書く（`Infra.Absorber.finish`）。
-/

namespace FlexBoot.Sha256

open Infra FlexBoot.Md5

/-- `k[64]`。 -/
def sha256K : List UInt32 :=
  [0x428a2f98, 0x71374491, 0xb5c0fbcf, 0xe9b5dba5, 0x3956c25b, 0x59f111f1,
   0x923f82a4, 0xab1c5ed5, 0xd807aa98, 0x12835b01, 0x243185be, 0x550c7dc3,
   0x72be5d74, 0x80deb1fe, 0x9bdc06a7, 0xc19bf174, 0xe49b69c1, 0xefbe4786,
   0x0fc19dc6, 0x240ca1cc, 0x2de92c6f, 0x4a7484aa, 0x5cb0a9dc, 0x76f988da,
   0x983e5152, 0xa831c66d, 0xb00327c8, 0xbf597fc7, 0xc6e00bf3, 0xd5a79147,
   0x06ca6351, 0x14292967, 0x27b70a85, 0x2e1b2138, 0x4d2c6dfc, 0x53380d13,
   0x650a7354, 0x766a0abb, 0x81c2c92e, 0x92722c85, 0xa2bfe8a1, 0xa81a664b,
   0xc24b8b70, 0xc76c51a3, 0xd192e819, 0xd6990624, 0xf40e3585, 0x106aa070,
   0x19a4c116, 0x1e376c08, 0x2748774c, 0x34b0bcb5, 0x391c0cb3, 0x4ed8aa4a,
   0x5b9cca4f, 0x682e6ff3, 0x748f82ee, 0x78a5636f, 0x84c87814, 0x8cc70208,
   0x90befffa, 0xa4506ceb, 0xbef9a3f7, 0xc67178f2]

/-- `ror32`。 -/
def ror32 (x : UInt32) (n : Nat) : UInt32 :=
  (x >>> UInt32.ofNat n) ||| (x <<< UInt32.ofNat (32 - n))

/-- `struct sha256_variables` の `a`〜`h`。同じ並びの `struct sha256_digest` の `h[0..7]` も、
host の順にした値をこれで持つ。 -/
structure Sha256Variables where
  a : UInt32
  b : UInt32
  c : UInt32
  d : UInt32
  e : UInt32
  f : UInt32
  g : UInt32
  h : UInt32
  deriving DecidableEq, Repr

/-- data block の `i` 番目の語を host の順にしたもの（`be32_to_cpus`）。 -/
def sha256Word (block : Bytes) (i : Nat) : UInt32 := UInt32.ofNat (be32 block (4 * i))

/-- `w[16..63]` の loop で `w[i]` に書く値。 -/
def sha256W (w : List UInt32) (i : Nat) : UInt32 :=
  let s0 := ror32 (w.getD (i - 15) 0) 7 ^^^ ror32 (w.getD (i - 15) 0) 18 ^^^ (w.getD (i - 15) 0 >>> 3)
  let s1 := ror32 (w.getD (i - 2) 0) 17 ^^^ ror32 (w.getD (i - 2) 0) 19 ^^^ (w.getD (i - 2) 0 >>> 10)
  w.getD (i - 16) 0 + s0 + w.getD (i - 7) 0 + s1

/-- `w[0..63]`。`w[16..63]` の領域は初め不定で、どれも読む前に書かれるので 0 で置く。 -/
def sha256Schedule (block : Bytes) : List UInt32 :=
  (List.range' 16 48).foldl (fun w i => w.set i (sha256W w i))
    ((List.range 16).map (sha256Word block) ++ List.replicate 48 0)

/-- `sha256_digest` の主 loop の一回。 -/
def sha256Round (w : List UInt32) (v : Sha256Variables) (i : Nat) : Sha256Variables :=
  let s0 := ror32 v.a 2 ^^^ ror32 v.a 13 ^^^ ror32 v.a 22
  let maj := (v.a &&& v.b) ^^^ (v.a &&& v.c) ^^^ (v.b &&& v.c)
  let t2 := s0 + maj
  let s1 := ror32 v.e 6 ^^^ ror32 v.e 11 ^^^ ror32 v.e 25
  let ch := (v.e &&& v.f) ^^^ (~~~v.e &&& v.g)
  let t1 := v.h + s1 + ch + sha256K.getD i 0 + w.getD i 0
  ⟨t1 + t2, v.a, v.b, v.c, v.d + t1, v.e, v.f, v.g⟩

/-- `sha256_digest`。64 byte の block で `h` を更新し、書き換えた後の data block も返す。 -/
def sha256Digest (h : Sha256Variables) (block : Bytes) : Sha256Variables × Bytes :=
  let w := sha256Schedule block
  let v := (List.range 64).foldl (sha256Round w) h
  (⟨h.a + v.a, h.b + v.b, h.c + v.c, h.d + v.d, h.e + v.e, h.f + v.f, h.g + v.g, h.h + v.h⟩,
    be32ToCpus block)

/-- `sha256_init` の `h[0..7]`。 -/
def sha256InitH : Sha256Variables :=
  ⟨0x6a09e667, 0xbb67ae85, 0x3c6ef372, 0xa54ff53a, 0x510e527f, 0x9b05688c, 0x1f83d9ab, 0x5be0cd19⟩

theorem length_sha256Digest (h : Sha256Variables) {block : Bytes} (hb : block.length = 64) :
    (sha256Digest h block).2.length = 64 := by
  rw [← hb]
  exact length_be32ToCpus (by rw [hb])

theorem sixtyfour_dvd_longBits (arch : Arch) : 64 ∣ 2 ^ arch.longBits :=
  Nat.pow_dvd_pow 2 (show 6 ≤ arch.longBits by have := arch.longBits_ge; omega)

theorem sixtyfour_pos : 0 < 64 := by decide

/-- `struct sha256_context` の溜め方。block は 64 byte、`len` は `size_t` で数える。 -/
def sha256Absorber (arch : Arch) : Absorber Sha256Variables UInt8 :=
  ⟨64, 2 ^ arch.longBits, sha256Digest, sixtyfour_pos, sixtyfour_dvd_longBits arch,
    fun h _ hb => length_sha256Digest h hb⟩

/-- `sha256_init`。data block は初め不定で、満ちるまで読まれないので 0 で置く。 -/
def sha256Init : BlockStream Sha256Variables UInt8 := ⟨sha256InitH, List.replicate 64 0, 0⟩

/-- `sha256_update`。 -/
def sha256Update (arch : Arch) (ctx : BlockStream Sha256Variables UInt8) (data : Bytes) :
    BlockStream Sha256Variables UInt8 :=
  (sha256Absorber arch).push ctx data

/-- `struct sha256_digest` の memory：`h[0..7]` の big-endian。 -/
def sha256Out (v : Sha256Variables) : Bytes :=
  toBe32 v.a.toNat ++ toBe32 v.b.toNat ++ toBe32 v.c.toNat ++ toBe32 v.d.toNat ++
    toBe32 v.e.toNat ++ toBe32 v.f.toNat ++ toBe32 v.g.toNat ++ toBe32 v.h.toNat

/-- `sha256_final`。長さ `len_bits = cpu_to_be64 ( len * 8 )` は詰め物の前に覚える。
`offsetof ( final.len )` は 56 である。 -/
def sha256Final (arch : Arch) (ctx : BlockStream Sha256Variables UInt8) : Bytes :=
  sha256Out ((sha256Absorber arch).finish 56 0x80 0x00 (fun len => toBe64 (len * 8 % 2 ^ 64)) ctx).state

/-- `sha256_algorithm.digestsize`。 -/
def sha256Digestsize : Nat := 32

/-- `digest_init`、`digest_update`、`digest_final` を続けて呼んだ結果。 -/
def sha256 (arch : Arch) (data : Bytes) : Bytes := sha256Final arch (sha256Update arch sha256Init data)

theorem length_sha256 (arch : Arch) (data : Bytes) : (sha256 arch data).length = sha256Digestsize := rfl

example : sha256 .i386 (ascii "abc") = [0xba, 0x78, 0x16, 0xbf, 0x8f, 0x01, 0xcf, 0xea,
    0x41, 0x41, 0x40, 0xde, 0x5d, 0xae, 0x22, 0x23, 0xb0, 0x03, 0x61, 0xa3, 0x96, 0x17, 0x7a, 0x9c,
    0xb4, 0x10, 0xff, 0x61, 0xf2, 0x00, 0x15, 0xad] := by decide +kernel

/-- `sha256_algorithm`。 -/
def sha256Algorithm (arch : Arch) : DigestAlgorithm := ⟨sha256Digestsize, sha256 arch, length_sha256 arch⟩

end FlexBoot.Sha256
