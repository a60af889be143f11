import FlexBoot.Net.Tls.Prf
import FlexBoot.Properties.Hmac

/-!
# TLS の PRF は RFC の `P_hash` である

RFC 5246 §5 の `P_hash ( secret, seed )` は

`HMAC ( secret, A(1) + seed ) + HMAC ( secret, A(2) + seed ) + ...`、`A(0) = seed`、
`A(i) = HMAC ( secret, A(i-1) )`

で、必要な長さで切る（`pHash`）。RFC 2246 §5 の PRF は secret を前と後ろの
`ceil ( len / 2 )` byte に分け、`P_MD5` と `P_SHA-1` の xor を取る。

`tls_p_hash_va` の loop は一回ごとに一つの block を書き、`A(i)` を一つ進める
（`tlsPHashLoop_eq`）。最初の `hmac_init` が secret を縮めた後は、同じ縮めた secret を使い続ける。
-/

namespace FlexBoot.Tls

open Infra FlexBoot.Hmac

/-! ## `P_hash` -/

section PHash

variable (H : BlockDigest) (secret seed : Bytes)

/-- `A(i)`。 -/
def pHashA : Nat → Bytes
  | 0 => seed
  | i + 1 => hmacRfc2104 H secret (pHashA i)

/-- `HMAC ( secret, A(i+1) + seed )` から続く `n` 個の block。 -/
def pHashFrom (i : Nat) : Nat → Bytes
  | 0 => []
  | n + 1 => hmacRfc2104 H secret (pHashA H secret seed (i + 1) ++ seed) ++ pHashFrom (i + 1) n

/-- `P_hash ( secret, seed )` の最初の `outLen` byte。どの block も一 byte 以上あるので、
`outLen` 個の block で足りる。 -/
def pHash (outLen : Nat) : Bytes := (pHashFrom H secret seed 0 outLen).take outLen

theorem length_pHashFrom : ∀ (i n : Nat), (pHashFrom H secret seed i n).length = n * H.digestsize
  | _, 0 => by simp [pHashFrom]
  | i, n + 1 => by
    rw [pHashFrom, List.length_append, length_hmacRfc2104, length_pHashFrom (i + 1) n, Nat.succ_mul,
      Nat.add_comm]

/-- block を後ろに一つ足す形。 -/
theorem pHashFrom_succ' : ∀ (i n : Nat),
    pHashFrom H secret seed i (n + 1) =
      pHashFrom H secret seed i n ++ hmacRfc2104 H secret (pHashA H secret seed (i + n + 1) ++ seed)
  | i, 0 => by simp [pHashFrom]
  | i, n + 1 => by
    rw [pHashFrom, pHashFrom_succ' (i + 1) n, pHashFrom, List.append_assoc,
      show i + 1 + n + 1 = i + (n + 1) + 1 by omega]

/-- 先頭の `k` byte は、`k` byte を覆う以上の block をいくつ取っても変わらない。 -/
theorem take_pHashFrom_of_le {k n : Nat} (i : Nat) (hk : k ≤ n * H.digestsize) :
    ∀ m : Nat, (pHashFrom H secret seed i n).take k = (pHashFrom H secret seed i (n + m)).take k
  | 0 => rfl
  | m + 1 => by
    rw [take_pHashFrom_of_le i hk m, ← Nat.add_assoc, pHashFrom_succ', List.take_append_of_le_length]
    rw [length_pHashFrom]
    exact Nat.le_trans hk (Nat.mul_le_mul_right _ (Nat.le_add_right n m))

end PHash

/-! ## `tls_p_hash_va` -/

section Loop

variable (H : BlockDigest)

theorem tlsHmacUpdateVa_eq (ctx : Bytes) (seeds : List Bytes) :
    tlsHmacUpdateVa ctx seeds = ctx ++ seeds.flatten := by
  induction seeds generalizing ctx with
  | nil => simp [tlsHmacUpdateVa]
  | cons s ss ih =>
    rw [tlsHmacUpdateVa, List.foldl_cons, ← tlsHmacUpdateVa, ih, hmacUpdate, digestUpdate,
      List.flatten_cons, List.append_assoc]

/-- loop の一回。縮めた secret で呼ぶと、`HMAC ( secret, a + seed )` の先頭を書き、
`HMAC ( secret, a )` に進む。secret はそのままである。 -/
theorem tlsPHashLoop_eq (seeds : List Bytes) (secret a : Bytes) (outLen : Nat) (h : outLen ≠ 0) :
    tlsPHashLoop H seeds (hmacKey H secret) a outLen =
      (hmacRfc2104 H secret (a ++ seeds.flatten)).take (min H.digestsize outLen) ++
        tlsPHashLoop H seeds (hmacKey H secret) (hmacRfc2104 H secret a) (outLen - min H.digestsize outLen) := by
  rw [tlsPHashLoop, if_neg h]
  -- 一つの context に `a` を足し、その写しに seed を足す
  have hkey : (hmacInit H (hmacKey H secret)).2 = hmacKey H secret := hmacKey_hmacKey H secret
  have hctx : tlsHmacUpdateVa (hmacUpdate (hmacInit H (hmacKey H secret)).1 a) seeds =
      hmacUpdate (hmacInit H (hmacKey H secret)).1 (a ++ seeds.flatten) := by
    rw [tlsHmacUpdateVa_eq, hmacUpdate, hmacUpdate, digestUpdate, digestUpdate, List.append_assoc]
  have hout := hmacFinal_hmacInit H (hmacKey H secret) (a ++ seeds.flatten)
  have hnext := hmacFinal_hmacInit H (hmacKey H secret) a
  rw [hkey, hmacKey_hmacKey, hmacRfc2104_hmacKey] at hout hnext
  have hmin : (if H.digestsize > outLen then outLen else H.digestsize) = min H.digestsize outLen := by
    split <;> omega
  simp only [hctx, hkey, hout, hnext, hmin]

/-- loop は `A(i+1)` から始めると、`i` 番目からの block を `outLen` byte 書く。 -/
theorem tlsPHashLoop_pHash (seeds : List Bytes) (secret : Bytes) (outLen : Nat) :
    ∀ i : Nat, tlsPHashLoop H seeds (hmacKey H secret) (pHashA H secret seeds.flatten (i + 1)) outLen =
      (pHashFrom H secret seeds.flatten i outLen).take outLen := by
  -- `outLen` についての強い帰納法：一回ごとに一 byte 以上減る
  induction outLen using Nat.strongRecOn with
  | ind outLen ih =>
  intro i
  rcases Nat.eq_zero_or_pos outLen with rfl | hpos
  · simp [tlsPHashLoop]
  have hd := H.digestsize_pos
  obtain ⟨n, rfl⟩ : ∃ n, outLen = n + 1 := ⟨outLen - 1, by omega⟩
  rw [tlsPHashLoop_eq H seeds secret _ (n + 1) (by omega), pHashFrom, ← pHashA,
    ih _ (by omega) (i + 1), List.take_append, length_hmacRfc2104]
  generalize hblk : hmacRfc2104 H secret (pHashA H secret seeds.flatten (i + 1) ++ seeds.flatten) = blk
  have hlen : blk.length = H.digestsize := by rw [← hblk, length_hmacRfc2104]
  rcases Nat.le_total H.digestsize (n + 1) with hds | hds
  · -- 一つの block を全部書き、残りは次の block から。後ろの block は残りの byte を覆えばよい
    rw [Nat.min_eq_left hds, List.take_of_length_le (Nat.le_of_eq hlen),
      List.take_of_length_le (by omega : blk.length ≤ n + 1)]
    have hcover : n + 1 - H.digestsize ≤ (n + 1 - H.digestsize) * H.digestsize :=
      Nat.le_mul_of_pos_right _ hd
    rw [take_pHashFrom_of_le H secret seeds.flatten (i + 1) hcover (n - (n + 1 - H.digestsize)),
      Nat.add_sub_cancel' (by omega)]
  · -- 最後の block の先頭だけを書いて終わる
    rw [Nat.min_eq_right hds, Nat.sub_self, show n + 1 - H.digestsize = 0 by omega, List.take_zero,
      List.take_zero]

/-- `tls_p_hash_va` は `P_hash ( secret, seed )` の最初の `out_len` byte を書く。seed は
`( data, len )` の組をつないだものである。 -/
theorem tlsPHashVa_eq (secret : Bytes) (outLen : Nat) (seeds : List Bytes) :
    tlsPHashVa H secret outLen seeds = pHash H secret seeds.flatten outLen := by
  have ha := hmacFinal_hmacInit H secret seeds.flatten
  rw [hmacUpdate, digestUpdate, ← tlsHmacUpdateVa_eq] at ha
  simp only [tlsPHashVa, ha]
  exact tlsPHashLoop_pHash H seeds secret outLen 0

end Loop

/-! ## `tls_prf` -/

/-- **`tls_prf` は RFC の PRF を返す。** TLS 1.2 からは `P_SHA256 ( secret, seed )` の最初の
`out_len` byte、それより前は secret の前と後ろの `ceil ( len / 2 )` byte を `S1`、`S2` として
`P_MD5 ( S1, seed ) xor P_SHA-1 ( S2, seed )`。seed は `( data, len )` の組をつないだもので、
`tls_prf_label` は label を終わりの NUL を除いてその前に置く。 -/
theorem tls_prf_matches_rfc (md5 sha1 sha256 : BlockDigest) (version : Nat) (secret : Bytes)
    (outLen : Nat) (seeds : List Bytes) (label : Bytes) :
    tlsPrf md5 sha1 sha256 version secret outLen seeds =
        (if version ≥ tlsVersionTls12 then pHash sha256 secret seeds.flatten outLen
        else
          let half := (secret.length + 1) / 2
          List.zipWith (· ^^^ ·) (pHash md5 (secret.take half) seeds.flatten outLen)
            (pHash sha1 (secret.drop (secret.length - half)) seeds.flatten outLen)) ∧
      tlsPrfLabel md5 sha1 sha256 version secret outLen (label ++ [0]) seeds =
        tlsPrf md5 sha1 sha256 version secret outLen (label :: seeds) := by
  constructor
  · rw [tlsPrf]
    split
    · exact tlsPHashVa_eq sha256 secret outLen seeds
    · -- 後ろの半分は、ちょうど `ceil ( len / 2 )` byte ある
      have hsub : (secret.drop (secret.length - (secret.length + 1) / 2)).take ((secret.length + 1) / 2) =
          secret.drop (secret.length - (secret.length + 1) / 2) :=
        List.take_of_length_le (by rw [List.length_drop]; omega)
      simp only [hsub, tlsPHashVa_eq]
  · rw [tlsPrfLabel, List.length_append, List.length_singleton, Nat.add_sub_cancel, List.take_left' rfl]

end FlexBoot.Tls
