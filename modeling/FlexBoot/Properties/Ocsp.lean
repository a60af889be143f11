import FlexBoot.Crypto.Ocsp
import FlexBoot.Properties.Asn1

/-!
# `byKey` の responder は照合できない

RFC 6960 の `byKey` は `[2] EXPLICIT` の中の `OCTET STRING` で、SHA-1 の 20 byte を持つ。
`ocsp_parse_responder_id` は `[2]` の中に入るだけなので、`responder->id` は `OCTET STRING` の
header を含む 22 byte になる。`ocsp_compare_responder_key_hash` はまず長さの差 `20 - 22` を返す
ので、どの証明書とも一致しない（`ocsp_key_hash_responder_never_matches`）。
-/

namespace FlexBoot.Ocsp

open Infra FlexBoot Asn1

/-- 短い形の長さを持つ `ResponderID` を読むと、`responder->id` はその中身になり、照合の関数は
tag で決まる。 -/
theorem ocspParseResponderId_short {buf rest : Bytes} {raw : Asn1Cursor} {t l : UInt8}
    (hbuf : buf.drop raw.data = t :: l :: rest) (hl : l.toNat < 0x80) (hlen : 2 + l.toNat ≤ raw.len) :
    ocspParseResponderId buf raw =
      if t.toNat = asn1ExplicitTag 1 then .ok ⟨rest.take l.toNat, .name⟩
      else if t.toNat = asn1ExplicitTag 2 then .ok ⟨rest.take l.toNat, .keyHash⟩
      else .error .enotsupResponderId := by
  have henter : (asn1Enter buf raw asn1Any).1 = some ⟨raw.data + 2, l.toNat⟩ := by
    unfold asn1Enter
    rw [asn1Start_short hbuf (.inl rfl) hl hlen]
  have hid : cursorBytes buf (asn1Enter buf raw asn1Any).1 = rest.take l.toNat := by
    rw [henter, cursorBytes, ← List.drop_drop, hbuf]
    rfl
  unfold ocspParseResponderId
  rw [byte_of_drop_eq hbuf, hid]

/-- `responder->id` の長さの差が 0 でなければ、鍵の hash を計算せずにその差を返す。 -/
theorem ocspCompareResponderKeyHash_of_difference (sha1 : Bytes → Bytes) {responder : OcspResponder}
    (h : sizeDifference sha1DigestSize responder.id.length ≠ 0) (cert : ResponderCandidate) :
    ocspCompareResponderKeyHash sha1 responder cert = sizeDifference sha1DigestSize responder.id.length :=
  if_pos h

/-- **RFC 6960 の形の `byKey`（`a2 16 04 14` の後に 20 byte の hash）を、`ocsp_parse_responder_id`
は 22 byte の `OCTET STRING` ごと `responder->id` にする。すると照合はどの証明書にも `-2` を返し、
証明書の公開鍵の SHA-1 がその hash であっても一致しない。** そのため応答に証明書が付いていれば、
`ocsp_parse_certs` は必ず `-EACCES_NO_RESPONDER` で失敗する。 -/
theorem ocsp_key_hash_responder_never_matches (sha1 : Bytes → Bytes) (pre h rest : Bytes)
    (hh : h.length = sha1DigestSize) (certs : List ResponderCandidate) :
    ocspParseResponderId (pre ++ [0xa2, 22, 0x04, 20] ++ h ++ rest) ⟨pre.length, 24 + rest.length⟩ =
        .ok ⟨0x04 :: 20 :: h, .keyHash⟩ ∧
      (∀ cert, ocspCompareResponder sha1 ⟨0x04 :: 20 :: h, .keyHash⟩ cert = -2) ∧
      ocspParseCerts sha1 ⟨0x04 :: 20 :: h, .keyHash⟩ certs = .error .eaccesNoResponder := by
  have hlen : (0x04 :: 20 :: h : Bytes).length = 22 := by
    rw [List.length_cons, List.length_cons, hh]
    rfl
  have hdiff : sizeDifference sha1DigestSize (0x04 :: 20 :: h : Bytes).length = -2 := by
    rw [hlen]
    decide
  have hcmp : ∀ cert, ocspCompareResponder sha1 ⟨0x04 :: 20 :: h, .keyHash⟩ cert = -2 := by
    intro cert
    rw [ocspCompareResponder, ocspCompareResponderKeyHash_of_difference sha1 (by rw [hdiff]; decide)]
    exact hdiff
  refine ⟨?_, hcmp, ?_⟩
  · -- `[2]` の中身 22 byte が `responder->id` になる
    have hbuf : (pre ++ [0xa2, 22, 0x04, 20] ++ h ++ rest).drop pre.length =
        0xa2 :: 22 :: (0x04 :: 20 :: h ++ rest) := by simp
    rw [ocspParseResponderId_short hbuf (by decide) (by simp)]
    have htake : (0x04 :: 20 :: h ++ rest : Bytes).take (22 : UInt8).toNat = 0x04 :: 20 :: h := by
      rw [show (22 : UInt8).toNat = (0x04 :: 20 :: h : Bytes).length by rw [hlen]; rfl]
      exact List.take_left' rfl
    rw [htake]
    rfl
  · -- どの証明書も `-2` を返すので、一致する証明書はない
    unfold ocspParseCerts
    rw [List.find?_eq_none.mpr (fun cert _ => by simp [hcmp cert])]

theorem ocsp_key_hash_responder_never_matches_on_zero_hash :
    (List.replicate 20 (0 : UInt8)).length = sha1DigestSize ∧
      ocspParseCerts (fun _ => List.replicate 20 0) ⟨0x04 :: 20 :: List.replicate 20 0, .keyHash⟩
        [⟨[], []⟩] = .error .eaccesNoResponder :=
  ⟨rfl, (ocsp_key_hash_responder_never_matches (fun _ => List.replicate 20 0) [] (List.replicate 20 0) []
    rfl [⟨[], []⟩]).2.2⟩

end FlexBoot.Ocsp
