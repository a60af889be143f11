import FlexBoot.Crypto.Md5
import FlexBoot.Crypto.Sha1

/-!
# HMAC（`crypto/hmac.c`）

`hmac_init` は key を block の長さに 0 で埋めて `0x36` を xor し、内側の digest を始める。
`hmac_update` はそのまま `digest_update` である。`hmac_final` は内側の digest を終え、
`0x5c` を xor した key の後にそれを通して外側の digest を取る。

key が block より長ければ、`hmac_init` も `hmac_final` も key をその digest で置き換え、
`key_len` を digest の長さにする。置き換えは呼び手の領域の上で行うので、同じ key で続けて
呼ぶと、二度目からは縮めた key を使う。

## model

digest の context は、`digest_init` から `digest_update` で足した byte 列で持つ
（`Crypto/Chap` と同じ）。`digest_final` はその列の digest である。key は `key_len` までの
byte 列で持ち、縮めた key を関数の値として返す。
-/

namespace FlexBoot.Hmac

open Infra FlexBoot.Md5

/-- `struct digest_algorithm` のうち HMAC が使うもの。digest は空でなく、block より長くない。 -/
structure BlockDigest extends DigestAlgorithm where
  blocksize : Nat
  digestsize_pos : 0 < digestsize
  digestsize_le_blocksize : digestsize ≤ blocksize

/-- `md5_algorithm`。block は 64 byte である。 -/
def md5BlockDigest : BlockDigest := ⟨md5Algorithm, 64, by decide, by decide⟩

/-- `sha1_algorithm`。block は 64 byte である。 -/
def sha1BlockDigest (arch : Arch) : BlockDigest :=
  ⟨Sha1.sha1Algorithm arch, 64, (by decide : 0 < 20), (by decide : 20 ≤ 64)⟩

/-- `sha256_algorithm`。block は 64 byte である。 -/
def sha256BlockDigest (arch : Arch) : BlockDigest :=
  ⟨Sha256.sha256Algorithm arch, 64, (by decide : 0 < 32), (by decide : 32 ≤ 64)⟩

/-! ## digest の context -/

/-- `digest_init`。 -/
def digestInit : Bytes := []

/-- `digest_update ( digest, ctx, data, len )`。 -/
def digestUpdate (ctx data : Bytes) : Bytes := ctx ++ data

/-- `digest_final ( digest, ctx, out )`。 -/
def digestFinal (digest : BlockDigest) (ctx : Bytes) : Bytes := digest.digest ctx

/-! ## `hmac.c` -/

/-- `hmac_reduce_key`：key をその digest で置き換える。 -/
def hmacReduceKey (digest : BlockDigest) (key : Bytes) : Bytes :=
  digestFinal digest (digestUpdate digestInit key)

/-- `if ( *key_len > sizeof ( k_ipad ) ) hmac_reduce_key ( ... )`。 -/
def hmacKey (digest : BlockDigest) (key : Bytes) : Bytes :=
  if key.length > digest.blocksize then hmacReduceKey digest key else key

/-- `k_ipad` と `k_opad`：block の長さの 0 に key を写し、各 byte に `pad` を xor する。 -/
def hmacPad (digest : BlockDigest) (key : Bytes) (pad : UInt8) : Bytes :=
  (key ++ List.replicate (digest.blocksize - key.length) 0).map (· ^^^ pad)

/-- `hmac_init ( digest, digest_ctx, key, &key_len )`。内側の context と、縮めた後の key。 -/
def hmacInit (digest : BlockDigest) (key : Bytes) : Bytes × Bytes :=
  let key := hmacKey digest key
  (digestUpdate digestInit (hmacPad digest key 0x36), key)

/-- `hmac_update`。 -/
def hmacUpdate (ctx data : Bytes) : Bytes := digestUpdate ctx data

/-- `hmac_final ( digest, digest_ctx, key, &key_len, hmac )`。HMAC と、縮めた後の key。 -/
def hmacFinal (digest : BlockDigest) (ctx key : Bytes) : Bytes × Bytes :=
  let key := hmacKey digest key
  let hmac := digestFinal digest ctx
  (digestFinal digest (digestUpdate (digestUpdate digestInit (hmacPad digest key 0x5c)) hmac), key)

end FlexBoot.Hmac
