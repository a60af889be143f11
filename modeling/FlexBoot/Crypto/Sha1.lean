import FlexBoot.Crypto.Sha256

/-!
# SHA-1（`crypto/sha1.c`）

`sha1_update` と `sha1_final` は SHA-256 と同じ形で、五つの語 `h[0..4]` を `sha1_digest` で
更新する。`sha1_digest` は 80 の step を回し、step `i` の `f` と `k` を `sha1_steps[ i / 20 ]`
から取る。

context の持ち方は `Crypto/Sha256` と同じである：`h[0..4]` は host の順の値で持ち、
data block はその場で host の順に書き換わる。
-/

namespace FlexBoot.Sha1

open Infra FlexBoot.Md5 FlexBoot.Sha256

/-- `struct sha1_variables` の `a`〜`e`。`h[0..4]` も host の順にした値をこれで持つ。 -/
structure Sha1Variables where
  a : UInt32
  b : UInt32
  c : UInt32
  d : UInt32
  e : UInt32
  deriving DecidableEq, Repr

/-- `sha1_f_0_19`。 -/
def sha1F0To19 (v : Sha1Variables) : UInt32 := (v.b &&& v.c) ||| (~~~v.b &&& v.d)

/-- `sha1_f_20_39_60_79`。 -/
def sha1F20To39And60To79 (v : Sha1Variables) : UInt32 := v.b ^^^ v.c ^^^ v.d

/-- `sha1_f_40_59`。 -/
def sha1F40To59 (v : Sha1Variables) : UInt32 := (v.b &&& v.c) ||| (v.b &&& v.d) ||| (v.c &&& v.d)

/-- `sha1_steps[4]`：step の組ごとの `f` と `k`。 -/
def sha1Steps : Nat → (Sha1Variables → UInt32) × UInt32
  | 0 => (sha1F0To19, 0x5a827999)
  | 1 => (sha1F20To39And60To79, 0x6ed9eba1)
  | 2 => (sha1F40To59, 0x8f1bbcdc)
  | _ => (sha1F20To39And60To79, 0xca62c1d6)

/-- `w[16..79]` の loop で `w[i]` に書く値。 -/
def sha1W (w : List UInt32) (i : Nat) : UInt32 :=
  rol32 (w.getD (i - 3) 0 ^^^ w.getD (i - 8) 0 ^^^ w.getD (i - 14) 0 ^^^ w.getD (i - 16) 0) 1

/-- `w[0..79]`。`w[16..79]` の領域は初め不定で、どれも読む前に書かれるので 0 で置く。 -/
def sha1Schedule (block : Bytes) : List UInt32 :=
  (List.range' 16 64).foldl (fun w i => w.set i (sha1W w i))
    ((List.range 16).map (sha256Word block) ++ List.replicate 64 0)

/-- `sha1_digest` の主 loop の一回。 -/
def sha1Round (w : List UInt32) (v : Sha1Variables) (i : Nat) : Sha1Variables :=
  let step := sha1Steps (i / 20)
  let temp := rol32 v.a 5 + step.1 v + v.e + step.2 + w.getD i 0
  ⟨temp, v.a, rol32 v.b 30, v.c, v.d⟩

/-- `sha1_digest`。64 byte の block で `h` を更新し、書き換えた後の data block も返す。 -/
def sha1Digest (h : Sha1Variables) (block : Bytes) : Sha1Variables × Bytes :=
  let w := sha1Schedule block
  let v := (List.range 80).foldl (sha1Round w) h
  (⟨h.a + v.a, h.b + v.b, h.c + v.c, h.d + v.d, h.e + v.e⟩, be32ToCpus block)

/-- `sha1_init` の `h[0..4]`。 -/
def sha1InitH : Sha1Variables := ⟨0x67452301, 0xefcdab89, 0x98badcfe, 0x10325476, 0xc3d2e1f0⟩

theorem length_sha1Digest (h : Sha1Variables) {block : Bytes} (hb : block.length = 64) :
    (sha1Digest h block).2.length = 64 := by
  rw [← hb]
  exact length_be32ToCpus (by rw [hb])

/-- `struct sha1_context` の溜め方。 -/
def sha1Absorber (arch : Arch) : Absorber Sha1Variables UInt8 :=
  ⟨64, 2 ^ arch.longBits, sha1Digest, sixtyfour_pos, sixtyfour_dvd_longBits arch,
    fun h _ hb => length_sha1Digest h hb⟩

/-- `sha1_init`。data block は満ちるまで読まれないので 0 で置く。 -/
def sha1Init : BlockStream Sha1Variables UInt8 := ⟨sha1InitH, List.replicate 64 0, 0⟩

/-- `sha1_update`。 -/
def sha1Update (arch : Arch) (ctx : BlockStream Sha1Variables UInt8) (data : Bytes) :
    BlockStream Sha1Variables UInt8 :=
  (sha1Absorber arch).push ctx data

/-- `struct sha1_digest` の memory：`h[0..4]` の big-endian。 -/
def sha1Out (v : Sha1Variables) : Bytes :=
  toBe32 v.a.toNat ++ toBe32 v.b.toNat ++ toBe32 v.c.toNat ++ toBe32 v.d.toNat ++ toBe32 v.e.toNat

/-- `sha1_final`。 -/
def sha1Final (arch : Arch) (ctx : BlockStream Sha1Variables UInt8) : Bytes :=
  sha1Out ((sha1Absorber arch).finish 56 0x80 0x00 (fun len => toBe64 (len * 8 % 2 ^ 64)) ctx).state

/-- `sha1_algorithm.digestsize`。 -/
def sha1Digestsize : Nat := 20

/-- `digest_init`、`digest_update`、`digest_final` を続けて呼んだ結果。 -/
def sha1 (arch : Arch) (data : Bytes) : Bytes := sha1Final arch (sha1Update arch sha1Init data)

theorem length_sha1 (arch : Arch) (data : Bytes) : (sha1 arch data).length = sha1Digestsize := rfl

example : sha1 .x86_64 (ascii "abc") = [0xa9, 0x99, 0x3e, 0x36, 0x47, 0x06, 0x81, 0x6a,
    0xba, 0x3e, 0x25, 0x71, 0x78, 0x50, 0xc2, 0x6c, 0x9c, 0xd0, 0xd8, 0x9d] := by decide +kernel

/-- `sha1_algorithm`。 -/
def sha1Algorithm (arch : Arch) : DigestAlgorithm := ⟨sha1Digestsize, sha1 arch, length_sha1 arch⟩

end FlexBoot.Sha1
