import FlexBoot.Crypto.Hmac

/-!
# HMAC は RFC 2104 の HMAC である

RFC 2104 の HMAC は、block より長い key をその digest で置き換え、block の長さに 0 で埋めて

`H ( K xor opad, H ( K xor ipad, text ) )`

とする（`hmacRfc2104`）。`hmac_init`、`hmac_update`、`hmac_final` を続けるとこれになる
（`hmacFinal_hmacInit`）。縮めた key は digest の長さで block を超えないので、縮めた key で続けて
呼んでも二度は縮まず、同じ HMAC になる（`hmacKey_hmacKey`、`hmacRfc2104_hmacKey`）。
-/

namespace FlexBoot.Hmac

open Infra FlexBoot.Md5

/-- RFC 2104 の HMAC。 -/
def hmacRfc2104 (H : BlockDigest) (key text : Bytes) : Bytes :=
  let k := if key.length > H.blocksize then H.digest key else key
  let k0 := k ++ List.replicate (H.blocksize - k.length) 0
  H.digest (k0.map (· ^^^ 0x5c) ++ H.digest (k0.map (· ^^^ 0x36) ++ text))

section Key

variable (digest : BlockDigest)

theorem hmacKey_eq (key : Bytes) :
    hmacKey digest key = if key.length > digest.blocksize then digest.digest key else key := rfl

/-- 縮めた後の key は block を超えない。 -/
theorem length_hmacKey_le (key : Bytes) : (hmacKey digest key).length ≤ digest.blocksize := by
  rw [hmacKey_eq]
  split
  · rw [digest.length_digest]
    exact digest.digestsize_le_blocksize
  · omega

/-- 縮めた key は二度は縮まない。 -/
@[simp] theorem hmacKey_hmacKey (key : Bytes) : hmacKey digest (hmacKey digest key) = hmacKey digest key := by
  rw [hmacKey_eq digest (hmacKey digest key), if_neg (Nat.not_lt.mpr (length_hmacKey_le digest key))]

/-- RFC 2104 の HMAC は、key を縮めてから取っても同じである。 -/
theorem hmacRfc2104_hmacKey (key text : Bytes) :
    hmacRfc2104 digest (hmacKey digest key) text = hmacRfc2104 digest key text := by
  have h := hmacKey_hmacKey digest key
  rw [hmacKey_eq] at h
  simp only [hmacRfc2104, h]
  rfl

theorem length_hmacRfc2104 (key text : Bytes) : (hmacRfc2104 digest key text).length = digest.digestsize :=
  digest.length_digest _

/-- **`hmac_init`、`hmac_update`、`hmac_final` は RFC 2104 の HMAC を返し、key を縮めた後のものに
置き換える。** -/
theorem hmacFinal_hmacInit (key text : Bytes) :
    hmacFinal digest (hmacUpdate (hmacInit digest key).1 text) (hmacInit digest key).2 =
      (hmacRfc2104 digest key text, hmacKey digest key) := by
  simp only [hmacFinal, hmacInit, hmacUpdate, hmacKey_hmacKey, digestFinal, digestUpdate, digestInit,
    List.nil_append, hmacPad, hmacRfc2104, ← hmacKey_eq]

/-- `hmac_update` を何度呼んでも、足した byte 列をつないで一度に呼んだのと同じである。 -/
theorem foldl_hmacUpdate (ctx : Bytes) (parts : List Bytes) :
    parts.foldl hmacUpdate ctx = hmacUpdate ctx parts.flatten := by
  induction parts generalizing ctx with
  | nil => simp [hmacUpdate, digestUpdate]
  | cons p ps ih => rw [List.foldl_cons, ih, List.flatten_cons, hmacUpdate, hmacUpdate, hmacUpdate,
      digestUpdate, digestUpdate, digestUpdate, List.append_assoc]

theorem length_hmacPad {key : Bytes} (hk : key.length ≤ digest.blocksize) (pad : UInt8) :
    (hmacPad digest key pad).length = digest.blocksize := by
  rw [hmacPad, List.length_map, List.length_append, List.length_replicate]
  omega

end Key

/-! ## digest を取り替える

RFC 2104 の HMAC は digest を二度と、key が長ければ三度目に呼ぶ。どの呼び出しでも二つの
digest が一致すれば、二つの HMAC も一致する。 -/

section Congr

variable {D S : BlockDigest}

/-- RFC 2104 の HMAC を、縮めた key と `hmacPad` で書いたもの。 -/
theorem hmacRfc2104_eq_pad (key text : Bytes) :
    hmacRfc2104 D key text =
      D.digest (hmacPad D (hmacKey D key) 0x5c ++ D.digest (hmacPad D (hmacKey D key) 0x36 ++ text)) := rfl

theorem hmacKey_congr {L : Nat} (hbs : D.blocksize = S.blocksize)
    (hd : ∀ m : Bytes, m.length < L → D.digest m = S.digest m) {key : Bytes} (hkey : key.length < L) :
    hmacKey D key = hmacKey S key := by
  rw [hmacKey_eq, hmacKey_eq, hbs, hd key hkey]

/-- **二つの digest が長さ `L` 未満の入力で一致するなら、HMAC も一致する。** key、内側の入力
（block と `text`）、外側の入力（block と digest）がどれも `L` 未満であればよい。 -/
theorem hmacRfc2104_congr {L : Nat} (hbs : D.blocksize = S.blocksize)
    (hd : ∀ m : Bytes, m.length < L → D.digest m = S.digest m) {key text : Bytes}
    (hkey : key.length < L) (htext : D.blocksize + text.length < L) (hout : D.blocksize + D.digestsize < L) :
    hmacRfc2104 D key text = hmacRfc2104 S key text := by
  have hk := hmacKey_congr hbs hd hkey
  have hpad : ∀ pad, hmacPad D (hmacKey D key) pad = hmacPad S (hmacKey S key) pad := by
    intro pad
    rw [hmacPad, hmacPad, hk, hbs]
  have hlen : ∀ pad, (hmacPad D (hmacKey D key) pad).length = D.blocksize :=
    fun pad => length_hmacPad D (length_hmacKey_le D key) pad
  -- 内側の digest の入力は block と `text`
  have hinner : D.digest (hmacPad D (hmacKey D key) 0x36 ++ text) =
      S.digest (hmacPad S (hmacKey S key) 0x36 ++ text) := by
    rw [hd _ (by rw [List.length_append, hlen]; exact htext), hpad]
  -- 外側の digest の入力は block と内側の digest
  have houter : (hmacPad D (hmacKey D key) 0x5c ++ D.digest (hmacPad D (hmacKey D key) 0x36 ++ text)).length < L := by
    rw [List.length_append, hlen, D.length_digest]
    exact hout
  rw [hmacRfc2104_eq_pad, hmacRfc2104_eq_pad, hd _ houter, hinner, hpad]

/-- `hmac_init`、何度かの `hmac_update`、`hmac_final` は、digest を `S` に取り替えた RFC 2104 の
HMAC と、`S` で縮めた key を返す。 -/
theorem hmacFinal_foldl_congr {L : Nat} (hbs : D.blocksize = S.blocksize)
    (hd : ∀ m : Bytes, m.length < L → D.digest m = S.digest m) {key : Bytes} (parts : List Bytes)
    (hkey : key.length < L) (htext : D.blocksize + parts.flatten.length < L)
    (hout : D.blocksize + D.digestsize < L) :
    hmacFinal D (parts.foldl hmacUpdate (hmacInit D key).1) (hmacInit D key).2 =
      (hmacRfc2104 S key parts.flatten, hmacKey S key) := by
  rw [foldl_hmacUpdate, hmacFinal_hmacInit, hmacRfc2104_congr hbs hd hkey htext hout,
    hmacKey_congr hbs hd hkey]

end Congr

end FlexBoot.Hmac
