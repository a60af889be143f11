import FlexBoot.Infra.Bytes
import FlexBoot.Infra.Digest

/-!
# FIPS 180-4 の SHA-1 と SHA-256

標準（FIPS 180-4）の書き方で byte 列の SHA-1 と SHA-256 を定める。実装からは訳さない。

* 語の演算 `ROTL`、`ROTR`、`SHR`（§3.2）と関数（§4.1.1、§4.1.2）
* 定数（§4.2.1、§4.2.2）と初めの hash 値（§5.3.1、§5.3.3）
* 詰め物（§5.1.1）：`1` の bit、`ℓ + 1 + k ≡ 448 (mod 512)` の最小の `k` 個の `0` の bit、
  `ℓ` の 64 bit の big-endian。message は byte 列なので、`1` の bit と続く 7 個の `0` の bit は
  byte `0x80` になる
* block への分け方（§5.2.1）：512 bit の block と、その中の 16 個の big-endian の語
* hash の計算（§6.1.2、§6.2.2）：message schedule `W_t` の漸化式、作業変数の step、
  `H_i^(i) = a + H_i^(i-1)` など。最後の `H^(N)` を並べたものが hash である

標準は `ℓ < 2^64` を前提にする。長さの field は `ℓ` を `2^64` で割った余りで定める。
-/

namespace Fips180

open Infra

/-! ## 語の演算と関数 -/

/-- `ROTL^n(x)`。 -/
def ROTL (n : Nat) (x : UInt32) : UInt32 := (x <<< UInt32.ofNat n) ||| (x >>> UInt32.ofNat (32 - n))

/-- `ROTR^n(x)`。 -/
def ROTR (n : Nat) (x : UInt32) : UInt32 := (x >>> UInt32.ofNat n) ||| (x <<< UInt32.ofNat (32 - n))

/-- `SHR^n(x)`。 -/
def SHR (n : Nat) (x : UInt32) : UInt32 := x >>> UInt32.ofNat n

/-- `Ch(x, y, z)`。 -/
def Ch (x y z : UInt32) : UInt32 := (x &&& y) ^^^ (~~~x &&& z)

/-- `Parity(x, y, z)`。 -/
def Parity (x y z : UInt32) : UInt32 := x ^^^ y ^^^ z

/-- `Maj(x, y, z)`。 -/
def Maj (x y z : UInt32) : UInt32 := (x &&& y) ^^^ (x &&& z) ^^^ (y &&& z)

/-- SHA-1 の `f_t`。 -/
def f (t : Nat) (x y z : UInt32) : UInt32 :=
  if t ≤ 19 then Ch x y z else if t ≤ 39 then Parity x y z else if t ≤ 59 then Maj x y z
  else Parity x y z

/-- `Σ_0^{256}`。 -/
def Sigma0 (x : UInt32) : UInt32 := ROTR 2 x ^^^ ROTR 13 x ^^^ ROTR 22 x

/-- `Σ_1^{256}`。 -/
def Sigma1 (x : UInt32) : UInt32 := ROTR 6 x ^^^ ROTR 11 x ^^^ ROTR 25 x

/-- `σ_0^{256}`。 -/
def sigma0 (x : UInt32) : UInt32 := ROTR 7 x ^^^ ROTR 18 x ^^^ SHR 3 x

/-- `σ_1^{256}`。 -/
def sigma1 (x : UInt32) : UInt32 := ROTR 17 x ^^^ ROTR 19 x ^^^ SHR 10 x

/-! ## 定数 -/

/-- SHA-1 の `K_t`。 -/
def K1 (t : Nat) : UInt32 :=
  if t ≤ 19 then 0x5a827999 else if t ≤ 39 then 0x6ed9eba1 else if t ≤ 59 then 0x8f1bbcdc
  else 0xca62c1d6

/-- SHA-256 の `K_0^{256}`〜`K_63^{256}`。 -/
def K256 : List UInt32 :=
  [0x428a2f98, 0x71374491, 0xb5c0fbcf, 0xe9b5dba5, 0x3956c25b, 0x59f111f1, 0x923f82a4, 0xab1c5ed5,
   0xd807aa98, 0x12835b01, 0x243185be, 0x550c7dc3, 0x72be5d74, 0x80deb1fe, 0x9bdc06a7, 0xc19bf174,
   0xe49b69c1, 0xefbe4786, 0x0fc19dc6, 0x240ca1cc, 0x2de92c6f, 0x4a7484aa, 0x5cb0a9dc, 0x76f988da,
   0x983e5152, 0xa831c66d, 0xb00327c8, 0xbf597fc7, 0xc6e00bf3, 0xd5a79147, 0x06ca6351, 0x14292967,
   0x27b70a85, 0x2e1b2138, 0x4d2c6dfc, 0x53380d13, 0x650a7354, 0x766a0abb, 0x81c2c92e, 0x92722c85,
   0xa2bfe8a1, 0xa81a664b, 0xc24b8b70, 0xc76c51a3, 0xd192e819, 0xd6990624, 0xf40e3585, 0x106aa070,
   0x19a4c116, 0x1e376c08, 0x2748774c, 0x34b0bcb5, 0x391c0cb3, 0x4ed8aa4a, 0x5b9cca4f, 0x682e6ff3,
   0x748f82ee, 0x78a5636f, 0x84c87814, 0x8cc70208, 0x90befffa, 0xa4506ceb, 0xbef9a3f7, 0xc67178f2]

/-! ## 詰め物と block -/

/-- 詰め物の `0` の byte の数。`ℓ + 1 + k ≡ 448 (mod 512)` の最小の `k` から、`0x80` に入る
7 bit を除いて byte で数えたもの。 -/
def padZeros (len : Nat) : Nat := (119 - len % 64) % 64

/-- 詰めた message（§5.1.1）。 -/
def pad (M : Bytes) : Bytes :=
  M ++ 0x80 :: List.replicate (padZeros M.length) 0 ++ toBe64 (8 * M.length % 2 ^ 64)

/-- block の `j` 番目の語 `M_j^{(i)}`：四 byte の big-endian。 -/
def word (blk : Bytes) (j : Nat) : UInt32 := UInt32.ofNat (be32 blk (4 * j))

/-- 詰めた message は block の長さの倍数である。 -/
theorem length_pad_mod (M : Bytes) : (pad M).length % 64 = 0 := by
  simp only [pad, padZeros, List.length_append, List.length_cons, List.length_replicate, length_toBe64]
  omega

/-! ## SHA-1 -/

/-- 五つの語。hash 値 `H_0`〜`H_4` と作業変数 `a`〜`e` に使う。 -/
structure Words5 where
  a : UInt32
  b : UInt32
  c : UInt32
  d : UInt32
  e : UInt32
  deriving DecidableEq, Repr

/-- SHA-1 の message schedule `W_t`。 -/
def W1 (blk : Bytes) (t : Nat) : UInt32 :=
  if t < 16 then word blk t
  else ROTL 1 (W1 blk (t - 3) ^^^ W1 blk (t - 8) ^^^ W1 blk (t - 14) ^^^ W1 blk (t - 16))
termination_by t
decreasing_by all_goals omega

/-- SHA-1 の作業変数の step `t`。 -/
def step1 (blk : Bytes) (v : Words5) (t : Nat) : Words5 :=
  let T := ROTL 5 v.a + f t v.b v.c v.d + v.e + K1 t + W1 blk t
  ⟨T, v.a, ROTL 30 v.b, v.c, v.d⟩

/-- SHA-1 の一つの block の処理：80 の step の後、作業変数を hash 値に足す。 -/
def compress1 (H : Words5) (blk : Bytes) : Words5 :=
  let v := (List.range 80).foldl (step1 blk) H
  ⟨v.a + H.a, v.b + H.b, v.c + H.c, v.d + H.d, v.e + H.e⟩

/-- SHA-1 の初めの hash 値 `H^(0)`。 -/
def H1 : Words5 := ⟨0x67452301, 0xefcdab89, 0x98badcfe, 0x10325476, 0xc3d2e1f0⟩

/-- SHA-1。詰めた message の block を順に処理し、`H^(N)` を big-endian で並べる。 -/
def sha1 (M : Bytes) : Bytes :=
  let P := pad M
  let H := absorb compress1 64 (P.length / 64) H1 P
  toBe32 H.a.toNat ++ toBe32 H.b.toNat ++ toBe32 H.c.toNat ++ toBe32 H.d.toNat ++ toBe32 H.e.toNat

/-! ## SHA-256 -/

/-- 八つの語。hash 値 `H_0`〜`H_7` と作業変数 `a`〜`h` に使う。 -/
structure Words8 where
  a : UInt32
  b : UInt32
  c : UInt32
  d : UInt32
  e : UInt32
  f : UInt32
  g : UInt32
  h : UInt32
  deriving DecidableEq, Repr

/-- SHA-256 の message schedule `W_t`。 -/
def W256 (blk : Bytes) (t : Nat) : UInt32 :=
  if t < 16 then word blk t
  else sigma1 (W256 blk (t - 2)) + W256 blk (t - 7) + sigma0 (W256 blk (t - 15)) + W256 blk (t - 16)
termination_by t
decreasing_by all_goals omega

/-- SHA-256 の作業変数の step `t`。 -/
def step256 (blk : Bytes) (v : Words8) (t : Nat) : Words8 :=
  let T1 := v.h + Sigma1 v.e + Ch v.e v.f v.g + K256.getD t 0 + W256 blk t
  let T2 := Sigma0 v.a + Maj v.a v.b v.c
  ⟨T1 + T2, v.a, v.b, v.c, v.d + T1, v.e, v.f, v.g⟩

/-- SHA-256 の一つの block の処理：64 の step の後、作業変数を hash 値に足す。 -/
def compress256 (H : Words8) (blk : Bytes) : Words8 :=
  let v := (List.range 64).foldl (step256 blk) H
  ⟨v.a + H.a, v.b + H.b, v.c + H.c, v.d + H.d, v.e + H.e, v.f + H.f, v.g + H.g, v.h + H.h⟩

/-- SHA-256 の初めの hash 値 `H^(0)`。 -/
def H256 : Words8 :=
  ⟨0x6a09e667, 0xbb67ae85, 0x3c6ef372, 0xa54ff53a, 0x510e527f, 0x9b05688c, 0x1f83d9ab, 0x5be0cd19⟩

/-- SHA-256。詰めた message の block を順に処理し、`H^(N)` を big-endian で並べる。 -/
def sha256 (M : Bytes) : Bytes :=
  let P := pad M
  let H := absorb compress256 64 (P.length / 64) H256 P
  toBe32 H.a.toNat ++ toBe32 H.b.toNat ++ toBe32 H.c.toNat ++ toBe32 H.d.toNat ++
    toBe32 H.e.toNat ++ toBe32 H.f.toNat ++ toBe32 H.g.toNat ++ toBe32 H.h.toNat

end Fips180
