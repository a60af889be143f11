import FlexBoot.Crypto.Asn1
import FlexBoot.Crypto.X509

/-!
# OCSP の responder の照合（`crypto/ocsp.c`）

OCSP 応答の `tbsResponseData` は、署名した responder を `ResponderID` で名指す。

```
ResponderID ::= CHOICE {
   byName   [1] Name,
   byKey    [2] KeyHash }
KeyHash ::= OCTET STRING
```

`ocsp_parse_responder_id` は明示的な tag `[1]` か `[2]` の中に入り、その中身を `responder->id`
とする。応答に証明書が付いていれば、`ocsp_parse_certs` はその中から `responder->compare` が 0 を
返す最初の証明書を署名者とし、なければ `-EACCES_NO_RESPONDER` で失敗する。

## model

応答の byte 列は一つの buffer で、cursor は `Crypto/Asn1` の cursor である。付いている証明書は
`x509_certificate` が順に読み出した結果の列で与える。照合が読むのは証明書の `subject.raw` と
`subject.public_key.raw_bits` だけである。SHA-1 は引数に置く。
-/

namespace FlexBoot.Ocsp

open Infra FlexBoot Asn1

/-- `SHA1_DIGEST_SIZE`。 -/
def sha1DigestSize : Nat := 20

/-- `ASN1_EXPLICIT_TAG ( number )`。 -/
def asn1ExplicitTag (number : Nat) : Nat := 0xa0 ||| number

/-- cursor の指す byte 列。無効にされた cursor（`asn1_invalid_object`）は何も指さない。 -/
def cursorBytes (buf : Bytes) : Option Asn1Cursor → Bytes
  | some c => (buf.drop c.data).take c.len
  | none => []

/-- `responder->compare` の二つの関数。 -/
inductive ResponderCompare
  /-- `ocsp_compare_responder_name` -/
  | name
  /-- `ocsp_compare_responder_key_hash` -/
  | keyHash
  deriving DecidableEq, Repr

/-- `struct ocsp_responder`。`id` は cursor の指す byte 列で持つ。 -/
structure OcspResponder where
  id : Bytes
  compare : ResponderCompare
  deriving DecidableEq, Repr

/-- OCSP の照合の誤り。 -/
inductive OcspError
  /-- `-ENOTSUP_RESPONDER_ID` -/
  | enotsupResponderId
  /-- `-EACCES_NO_RESPONDER` -/
  | eaccesNoResponder
  deriving DecidableEq, Repr

/-- `ocsp_parse_responder_id ( ocsp, raw )`。`asn1_enter_any` の失敗は調べず、そのときの
`responder->id` は無効な cursor になる。 -/
def ocspParseResponderId (buf : Bytes) (raw : Asn1Cursor) : Except OcspError OcspResponder :=
  let type := raw.byte buf
  let id := cursorBytes buf (asn1Enter buf raw asn1Any).1
  if type = asn1ExplicitTag 1 then .ok ⟨id, .name⟩
  else if type = asn1ExplicitTag 2 then .ok ⟨id, .keyHash⟩
  else .error .enotsupResponderId

/-- `struct x509_certificate` のうち、responder の照合が読むもの。 -/
structure ResponderCandidate where
  /-- `subject.raw` -/
  subject : Bytes
  /-- `subject.public_key.raw_bits` の指す byte 列 -/
  rawBits : Bytes
  deriving DecidableEq, Repr

/-- `size_t` の差を `int` に入れた値。下の 32 bit を符号付きで読む。 -/
def sizeDifference (a b : Nat) : Int :=
  let d : Nat := (a + 2 ^ 32 - b % 2 ^ 32) % 2 ^ 32
  if d < 2 ^ 31 then d else (d : Int) - 2 ^ 32

section Compare

-- `sha1` は `sha1_algorithm` の digest で、長さ `SHA1_DIGEST_SIZE` の列を返す
variable (sha1 : Bytes → Bytes)

/-- `ocsp_compare_responder_name`。 -/
def ocspCompareResponderName (responder : OcspResponder) (cert : ResponderCandidate) : Int :=
  X509.asn1Compare responder.id cert.subject

/-- `ocsp_compare_responder_key_hash`。`responder->id` の長さが digest の長さと違えば、その差を
返す。同じなら、証明書の公開鍵の bit 列の SHA-1 と `memcmp` で比べる。 -/
def ocspCompareResponderKeyHash (responder : OcspResponder) (cert : ResponderCandidate) : Int :=
  let difference := sizeDifference sha1DigestSize responder.id.length
  if difference ≠ 0 then difference
  else memcmp sha1DigestSize (sha1 cert.rawBits) responder.id

/-- `response->responder.compare ( ocsp, cert )`。 -/
def ocspCompareResponder (responder : OcspResponder) (cert : ResponderCandidate) : Int :=
  match responder.compare with
  | .name => ocspCompareResponderName responder cert
  | .keyHash => ocspCompareResponderKeyHash sha1 responder cert

/-- `ocsp_parse_certs` の loop。`responder->compare` が 0 を返す最初の証明書を署名者とする。 -/
def ocspParseCerts (responder : OcspResponder) (certs : List ResponderCandidate) :
    Except OcspError ResponderCandidate :=
  match certs.find? (fun cert => ocspCompareResponder sha1 responder cert = 0) with
  | some cert => .ok cert
  | none => .error .eaccesNoResponder

end Compare

end FlexBoot.Ocsp
