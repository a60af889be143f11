import FlexBoot.Core.Misc

/-!
# base64 の符号化と復号（`core/base64.c`）

`base64_encode` は `unsigned int` の `bit` を 0 から 6 ずつ進め、`size_t` の `raw_bit_len = 8 * len`
より小さい間、`bit` から始まる 6 bit を表 `base64` の文字にする。その後 `bit` が 8 の倍数になる
まで `=` を足す。どちらの loop も `whileSome` で書き、燃料が尽きれば `none` とする。

`base64_decode ( encoded, raw )` は空白を飛ばし、`=` を高々二つまで数え、それ以外の文字を表
`base64` で 6 bit の値にして足していく。`=` の後に普通の文字が来たら `-EINVAL`、最後に 8 の倍数の
bit になっていなければ `-EINVAL` である。

## 書き込む領域

`raw` は呼び出し側の領域で、その長さは呼び出し側が決める（`base64_test.c` は
`base64_decoded_max_len ( encoded )` byte、iSCSI は `strlen ( value )` byte を取る）。`base64_decode` は
まず先頭の `base64_decoded_max_len ( encoded )` byte を `memset` で 0 にし、一文字ごとに
`raw_bytes[ bit / 8 ]` と `raw_bytes[ bit / 8 + 1 ]` に `|=` で足す。領域の外の byte に触れれば
`Fault.outOfBounds` で止まる。`=` で終わらない文字列の最後の文字は `raw_bytes[ bit / 8 + 1 ]` として
ちょうど `raw[ base64_decoded_max_len ( encoded ) ]` に 0 を足すので、`base64_decoded_max_len` byte の
領域ではその外に触れる。

表 `base64` は NUL で終わらない 64 文字の配列で、`strchr ( base64, c )` は表にない文字では
配列の後ろまで読み進める。この model では表にない文字はそこで `-EINVAL` とする。
-/

namespace FlexBoot

open Infra

/-- `base64`。 -/
def base64Alphabet : Bytes := ascii "ABCDEFGHIJKLMNOPQRSTUVWXYZabcdefghijklmnopqrstuvwxyz0123456789+/"

/-- `raw_bytes[i] |= v`。領域 `raw` の外なら止まる。 -/
def orAt (raw : Bytes) (i : Nat) (v : UInt8) : Except Fault Bytes :=
  if i < raw.length then .ok (raw.set i (raw.getD i 0 ||| v)) else .error (.outOfBounds i raw.length)

/-- `base64_decoded_max_len ( encoded )`。`strlen` は最初の NUL までの長さである。 -/
def base64DecodedMaxLen (encoded : Bytes) : Nat := ((cstr encoded).length + 4 - 1) / 4 * 3

/-- `base64_decode` の読み取りの繰り返し。`bit` は `unsigned int` なので、先頭の `=` で
巻き戻る。`.ok none` は `-EINVAL` である。 -/
def base64DecodeLoop : Bytes → Nat → Nat → Bytes → Except Fault (Option (Nat × Bytes))
  | [], bit, _, raw => .ok (some (bit, raw))
  | c :: cs, bit, padCount, raw =>
    if c = 0 then .ok (some (bit, raw))
    else if isspace c then base64DecodeLoop cs bit padCount raw
    else if c = 0x3D then
      if 2 ≤ padCount then .ok none
      else base64DecodeLoop cs ((bit + 2 ^ 32 - 2) % 2 ^ 32) (padCount + 1) raw
    else if padCount ≠ 0 then .ok none
    else match base64Alphabet.findIdx? (· == c) with
      | none => .ok none
      | some d => do
        -- `decoded <<= 2` の後、上の bit を今の byte に、下の bit を次の byte に足す
        let decoded := d * 4
        let raw ← orAt raw (bit / 8) (UInt8.ofNat (decoded / 2 ^ (bit % 8)))
        let raw ← orAt raw (bit / 8 + 1) (UInt8.ofNat (decoded * 2 ^ (8 - bit % 8)))
        base64DecodeLoop cs ((bit + 6) % 2 ^ 32) padCount raw

/-- `base64_decode ( encoded, raw )`。返すのは `len` と書き終えた領域で、`.ok none` は `-EINVAL` である。 -/
def base64Decode (encoded raw : Bytes) : Except Fault (Option (Nat × Bytes)) := do
  let raw ← wr raw 0 (List.replicate (base64DecodedMaxLen encoded) 0)
  match ← base64DecodeLoop encoded 0 0 raw with
  | none => return none
  | some (bit, raw) => return if bit % 8 ≠ 0 then none else some (bit / 8, raw)

example : base64Decode (ascii "AAE=") [9, 9, 9] = .ok (some (2, [0, 1, 0])) := by decide

/-- `base64_encoded_len ( raw_len )`。 -/
def base64EncodedLen (rawLen : Nat) : Nat := (rawLen + 3 - 1) / 3 * 4

/-- `base64_encode` の一文字：`bit` から始まる 6 bit。`tmp` は `unsigned int` で、次の byte があれば
その上の bit を足す。 -/
def base64EncodeChar (raw : Bytes) (bit : Nat) : UInt8 :=
  let byte := bit / 8
  let shift := bit % 8
  let tmp := (raw.getD byte 0).toNat <<< shift
  let tmp := if byte + 1 < raw.length then tmp ||| (raw.getD (byte + 1) 0).toNat >>> (8 - shift) else tmp
  base64Alphabet.getD ((tmp >>> 2) &&& 0x3f) 0

/-- `base64_encode` の loop の変数。 -/
structure Base64Enc where
  bit : Nat
  encoded : Bytes
  deriving DecidableEq, Repr

/-- `for ( bit = 0 ; bit < raw_bit_len ; bit += 6 )` の一回。 -/
def base64EncodeStep (arch : Arch) (raw : Bytes) (s : Base64Enc) : Option Base64Enc :=
  if s.bit < 8 * raw.length % 2 ^ arch.longBits then
    some ⟨(s.bit + 6) % 2 ^ 32, s.encoded ++ [base64EncodeChar raw s.bit]⟩
  else none

/-- `for ( ; ( bit % 8 ) != 0 ; bit += 6 )` の一回。 -/
def base64EncodePadStep (s : Base64Enc) : Option Base64Enc :=
  if s.bit % 8 ≠ 0 then some ⟨(s.bit + 6) % 2 ^ 32, s.encoded ++ [0x3D]⟩ else none

/-- `base64_encode ( raw, len, encoded )` が書く文字列（NUL を除く）。 -/
def base64Encode (arch : Arch) (fuel : Nat) (raw : Bytes) : Option Bytes :=
  (whileSome (base64EncodeStep arch raw) fuel ⟨0, []⟩).bind fun s =>
    (whileSome base64EncodePadStep fuel s).map (·.encoded)

example : base64Encode .x86_64 10 (ascii "ab") = some (ascii "YWI=") := by decide

end FlexBoot
