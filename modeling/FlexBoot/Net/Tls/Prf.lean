import FlexBoot.Crypto.Hmac

/-!
# TLS の PRF（`net/tls.c` の `tls_p_hash_va`、`tls_prf`、`tls_prf_label`）

`tls_p_hash_va` は `A(1) = HMAC ( secret, seed )` を求めてから、出力が足りるまで
`HMAC ( secret, A(i) + seed )` を書き、`A(i+1) = HMAC ( secret, A(i) )` に進む。`A(i+1)` は、
`A(i)` だけを足した context を `digest_ctx_partial` に写しておき、それを終えて得る。

`tls_prf` は TLS 1.2 から `P_SHA256` を、それより前は secret を重なりのある二つに分けて
`P_MD5` と `P_SHA-1` の xor を使う。

## model

seed は `( data, len )` の組の列で、`va_list` の代わりに byte 列の列で渡す。`tls_hmac_update_va`
は `va_copy` した列を読むので、`seeds` 自身は何度でも始めから読める。secret は
`secret_copy` に写してから使うので、`hmac_init` が縮めても呼び手の secret は変わらない。
-/

namespace FlexBoot.Tls

open Infra FlexBoot.Hmac

/-- `TLS_VERSION_TLS_1_2`。 -/
def tlsVersionTls12 : Nat := 0x0303

/-- `tls_hmac_update_va ( digest, digest_ctx, args )`：seed を順に `hmac_update` する。 -/
def tlsHmacUpdateVa (ctx : Bytes) (seeds : List Bytes) : Bytes := seeds.foldl hmacUpdate ctx

/-- `while ( out_len )` の loop。`a` は `A(i)`。`frag_len` は digest の長さで、最後の一回だけ
`out_len` まで縮む。 -/
def tlsPHashLoop (digest : BlockDigest) (seeds : List Bytes) (secret a : Bytes) (outLen : Nat) :
    Bytes :=
  if outLen = 0 then []
  else
    let (ctx, secret) := hmacInit digest secret
    let ctx := hmacUpdate ctx a
    let digestCtxPartial := ctx
    let ctx := tlsHmacUpdateVa ctx seeds
    let (outTmp, secret) := hmacFinal digest ctx secret
    let fragLen := if digest.digestsize > outLen then outLen else digest.digestsize
    let (a, secret) := hmacFinal digest digestCtxPartial secret
    outTmp.take fragLen ++ tlsPHashLoop digest seeds secret a (outLen - fragLen)
termination_by outLen
decreasing_by
  have := digest.digestsize_pos
  split <;> omega

/-- `tls_p_hash_va ( tls, digest, secret, secret_len, out, out_len, seeds )`。 -/
def tlsPHashVa (digest : BlockDigest) (secret : Bytes) (outLen : Nat) (seeds : List Bytes) : Bytes :=
  let (ctx, secret) := hmacInit digest secret
  let ctx := tlsHmacUpdateVa ctx seeds
  let (a, secret) := hmacFinal digest ctx secret
  tlsPHashLoop digest seeds secret a outLen

/-- `tls_prf ( tls, secret, secret_len, out, out_len, ... )`。`md5`、`sha1`、`sha256` は
`md5_algorithm`、`sha1_algorithm`、`sha256_algorithm`、`version` は `tls->version` である。 -/
def tlsPrf (md5 sha1 sha256 : BlockDigest) (version : Nat) (secret : Bytes) (outLen : Nat)
    (seeds : List Bytes) : Bytes :=
  if version ≥ tlsVersionTls12 then tlsPHashVa sha256 secret outLen seeds
  else
    -- 二つに分けた secret は、長さが奇数なら真ん中の一 byte を共有する
    let subsecretLen := (secret.length + 1) / 2
    let md5Secret := secret.take subsecretLen
    let sha1Secret := (secret.drop (secret.length - subsecretLen)).take subsecretLen
    let out := tlsPHashVa md5 md5Secret outLen seeds
    let buf := tlsPHashVa sha1 sha1Secret outLen seeds
    List.zipWith (· ^^^ ·) out buf

/-- `tls_prf_label ( tls, secret, secret_len, out, out_len, label, ... )`。`label` は文字列
literal の領域で、終わりの NUL を含む。seed として `sizeof ( label ) - 1` byte を渡す。 -/
def tlsPrfLabel (md5 sha1 sha256 : BlockDigest) (version : Nat) (secret : Bytes) (outLen : Nat)
    (label : Bytes) (seeds : List Bytes) : Bytes :=
  tlsPrf md5 sha1 sha256 version secret outLen (label.take (label.length - 1) :: seeds)

end FlexBoot.Tls
