import FlexBoot.Core.String
import FlexBoot.Crypto.Md5
import FlexBoot.Infra.Run

/-!
# X.509 の検証（`crypto/x509.c`）

`x509_validate` は一つの証明書を検証し、成功すれば `valid` を立てて結果を覚える。覚えた証明書を
もう一度検証すると、issuer、時刻、root の一覧を見ずに成功する。

1. 時刻の検査。`TIMESTAMP_ERROR_MARGIN`（12 時間半）だけ有効期間の両側を広げる。
2. root の一覧に fingerprint があれば root として成功し、`path_remaining` は
   `path_len + 1` になる。
3. issuer がなければ失敗。issuer がまだ検証されていなければ失敗。
4. `x509_check_issuer`：issuer の DN、CA であること、keyCertSign、署名。
5. issuer の `path_remaining` が 0 なら失敗。OCSP が要るのに済んでいなければ失敗。
6. `path_remaining` を issuer の値より一つ少なく、自分の `path_len + 1` 以下にする。

`x509_validate_chain` は、単独で検証できる最初の証明書を探し、そこから先頭へ向かって一つずつ
前の証明書を issuer として検証する。

## model

証明書は番号で指す。番号ごとに一つの証明書があり、store の中身は番号から証明書への関数である。
署名の検査（`x509_check_signature`）は、この module の引数に置く。
`valid` を立てた呼び出しは、その引数とともに `log` に記録する。`x509_validate` の
`DBGC` が出す「root certificate である」「issuer で検証した」の記録に当たる。
-/

namespace FlexBoot.X509

open Infra FlexBoot

/-! ## 証明書 -/

/-- `struct x509_certificate` のうち、検証が読み書きする部分。 -/
structure Certificate where
  /-- `raw`。fingerprint はこれの digest である。 -/
  raw : Bytes
  /-- `tbs.raw` と `signature`。署名の検査が読む。 -/
  tbs : Bytes
  signature : Bytes
  /-- `subject.public_key.raw`。この証明書が issuer のとき、署名の検査に使う。 -/
  publicKey : Bytes
  /-- `issuer.raw` と `subject.raw`。 -/
  issuer : Bytes
  subject : Bytes
  /-- `validity.not_before.time` と `validity.not_after.time`。 -/
  notBefore : Int
  notAfter : Int
  /-- `extensions.basic.ca` と `extensions.basic.path_len`（`unsigned int`）。 -/
  ca : Bool
  pathLen : Nat
  /-- `extensions.usage.present` と `extensions.usage.bits`。 -/
  usagePresent : Bool
  usageBits : Nat
  /-- `extensions.auth_info.ocsp.uri.len` と `extensions.auth_info.ocsp.good`。 -/
  ocspUriLen : Nat
  ocspGood : Bool
  /-- `valid` と `path_remaining`（`unsigned int`）。 -/
  valid : Bool
  pathRemaining : Nat
  deriving DecidableEq, Repr

/-- `X509_KEY_CERT_SIGN`。 -/
def x509KeyCertSign : Nat := 0x0004

/-- `X509_PATH_LEN_UNLIMITED`（`-2U`）。 -/
def x509PathLenUnlimited : Nat := 2 ^ 32 - 2

/-- `TIMESTAMP_ERROR_MARGIN`（`config/crypto.h`）。 -/
def timestampErrorMargin : Int := (12 * 60 + 30) * 60

/-- `struct x509_root`。digest と、その digest の長さの fingerprint を並べたもの。 -/
structure X509Root where
  digest : Md5.DigestAlgorithm
  fingerprints : List Bytes
  length_fingerprints : ∀ f ∈ fingerprints, f.length = digest.digestsize

/-- 検証の状態符号。 -/
inductive Rc
  | ok
  | enoent
  | eaccesExpired
  | eaccesUntrusted
  | eaccesOutOfOrder
  | eaccesWrongIssuer
  | eaccesNotCa
  | eaccesKeyUsage
  | eaccesPathLen
  | eaccesOcspRequired
  | eaccesEmpty
  | eaccesUseless
  /-- `x509_check_signature` の失敗。 -/
  | signature
  deriving DecidableEq, Repr

/-! ## 検査 -/

section Checks

-- `checkSignature tbs signature publicKey` は `x509_check_signature` で、`tbs` の digest と
-- 署名を、issuer の公開鍵で確かめる
variable (checkSignature : Bytes → Bytes → Bytes → Rc)

/-- `asn1_compare`。長さの差が 0 でなければそれを、同じ長さなら `memcmp` の値を返す。 -/
def asn1Compare (a b : Bytes) : Int :=
  if b.length ≠ a.length then (b.length : Int) - a.length else memcmp a.length a b

/-- `x509_check_issuer`。 -/
def x509CheckIssuer (cert issuer : Certificate) : Rc :=
  if asn1Compare cert.issuer issuer.subject ≠ 0 then .eaccesWrongIssuer
  else if !issuer.ca then .eaccesNotCa
  else if issuer.usagePresent && issuer.usageBits &&& x509KeyCertSign = 0 then .eaccesKeyUsage
  else checkSignature cert.tbs cert.signature issuer.publicKey

/-- `x509_check_root`。一覧の fingerprint を順に `memcmp` で比べる。 -/
def x509CheckRoot (cert : Certificate) (root : X509Root) : Rc :=
  let fingerprint := root.digest.digest cert.raw
  if root.fingerprints.any (fun f => memcmp root.digest.digestsize fingerprint f = 0) then .ok
  else .enoent

/-- `x509_check_time`。 -/
def x509CheckTime (cert : Certificate) (time : Int) : Rc :=
  if cert.notBefore > time + timestampErrorMargin then .eaccesExpired
  else if cert.notAfter < time - timestampErrorMargin then .eaccesExpired
  else .ok

end Checks

/-! ## store -/

/-- `valid` を立てた呼び出し。root として検証したか、issuer で検証したか。 -/
inductive Validation
  | root (cert : Nat) (time : Int) (root : X509Root)
  | issued (cert issuer : Nat) (time : Int)

/-- 記録が指す証明書。 -/
def Validation.cert : Validation → Nat
  | .root cert _ _ => cert
  | .issued cert _ _ => cert

/-- 証明書の store と、`valid` を立てた呼び出しの記録（新しいものが先）。 -/
structure X509State where
  certs : Nat → Certificate
  log : List Validation

/-- 番号 `c` の証明書を置き換える。 -/
def X509State.set (s : X509State) (c : Nat) (cert : Certificate) : X509State :=
  { s with certs := fun d => if d = c then cert else s.certs d }

@[simp] theorem X509State.set_certs_self (s : X509State) (c : Nat) (cert : Certificate) :
    (s.set c cert).certs c = cert := by
  simp [X509State.set]

@[simp] theorem X509State.set_certs_of_ne (s : X509State) {c d : Nat} (cert : Certificate)
    (h : d ≠ c) : (s.set c cert).certs d = s.certs d := by
  simp [X509State.set, h]

@[simp] theorem X509State.set_log (s : X509State) (c : Nat) (cert : Certificate) :
    (s.set c cert).log = s.log := rfl

/-- 読み込んだばかりの証明書の store。`zalloc` したので、どれもまだ検証されていない。 -/
def X509State.fresh (certs : Nat → Certificate) : X509State :=
  ⟨fun c => { certs c with valid := false, pathRemaining := 0 }, []⟩

/-! ## 検証 -/

section Validate

variable (checkSignature : Bytes → Bytes → Bytes → Rc) (rootCertificates : X509Root)

/-- `x509_validate` の、issuer を使う後半。issuer は検証済みである。 -/
def x509ValidateIssued (s : X509State) (c i : Nat) (time : Int) : X509State × Rc :=
  let cert := s.certs c
  let issuer := s.certs i
  let rc := x509CheckIssuer checkSignature cert issuer
  if rc ≠ .ok then (s, rc)
  else if issuer.pathRemaining = 0 then (s, .eaccesPathLen)
  else if cert.ocspUriLen ≠ 0 ∧ !cert.ocspGood then (s, .eaccesOcspRequired)
  else
    -- `unsigned int` の計算。issuer の値は 0 でないので巻き戻らない
    let pathRemaining := issuer.pathRemaining - 1
    let maxPathRemaining := (cert.pathLen + 1) % 2 ^ 32
    let pathRemaining := if pathRemaining > maxPathRemaining then maxPathRemaining else pathRemaining
    ({ s.set c { cert with valid := true, pathRemaining := pathRemaining } with
        log := .issued c i time :: s.log }, .ok)

/-- `x509_validate ( cert, issuer, time, root )`。`root` が `NULL` なら既定の一覧を使う。 -/
def x509Validate (s : X509State) (c : Nat) (issuer : Option Nat) (time : Int)
    (root : Option X509Root) : X509State × Rc :=
  let root := root.getD rootCertificates
  let cert := s.certs c
  if cert.valid then (s, .ok)
  else
    let rc := x509CheckTime cert time
    if rc ≠ .ok then (s, rc)
    else if x509CheckRoot cert root = .ok then
      ({ s.set c { cert with valid := true, pathRemaining := (cert.pathLen + 1) % 2 ^ 32 } with
          log := .root c time root :: s.log }, .ok)
    else
      match issuer with
      | none => (s, .eaccesUntrusted)
      | some i =>
        if !(s.certs i).valid then (s, .eaccesOutOfOrder)
        else x509ValidateIssued checkSignature s c i time

/-- `x509_invalidate`。 -/
def x509Invalidate (s : X509State) (c : Nat) : X509State :=
  s.set c { s.certs c with valid := false, pathRemaining := 0 }

/-- `x509_validate_chain` の後半。単独で検証できた証明書 `issuer` から先頭へ向かい、
前の証明書を一つずつ検証する。`links` は手前のものから並べてある。 -/
def x509ValidateChainBack (time : Int) (root : Option X509Root) (s : X509State) (issuer : Nat) :
    List Nat → X509State × Rc
  | [] => (s, .ok)
  | c :: links =>
    let r := x509Validate checkSignature rootCertificates s c (some issuer) time root
    if r.2 ≠ .ok then r else x509ValidateChainBack time root r.1 c links

/-- `x509_validate_chain` の前半。単独で検証できる最初の証明書を探す。`before` はそれまでに
見た証明書を、近いものから並べたもの。 -/
def x509ValidateChainFind (time : Int) (root : Option X509Root) (s : X509State)
    (before : List Nat) : List Nat → X509State × Rc
  | [] => (s, .eaccesUseless)
  | c :: links =>
    let r := x509Validate checkSignature rootCertificates s c none time root
    if r.2 ≠ .ok then x509ValidateChainFind time root r.1 (c :: before) links
    else x509ValidateChainBack checkSignature rootCertificates time root r.1 c before

/-- `x509_validate_chain ( chain, time, store, root )`。store から足す証明書は、はじめから
`chain` に入れてある。 -/
def x509ValidateChain (s : X509State) (chain : List Nat) (time : Int) (root : Option X509Root) :
    X509State × Rc :=
  if chain = [] then (s, .eaccesEmpty)
  else x509ValidateChainFind checkSignature rootCertificates time root s [] chain

/-- store に起きる事象。 -/
inductive Event
  | validate (cert : Nat) (issuer : Option Nat) (time : Int) (root : Option X509Root)
  | validateChain (chain : List Nat) (time : Int) (root : Option X509Root)
  | invalidate (cert : Nat)
  /-- `ocsp_validate` が応答を確かめて `ocsp.good` を立てる。 -/
  | ocspGood (cert : Nat)

/-- 一つの事象。 -/
def step (s : X509State) : Event → X509State
  | .validate c issuer time root =>
    (x509Validate checkSignature rootCertificates s c issuer time root).1
  | .validateChain chain time root =>
    (x509ValidateChain checkSignature rootCertificates s chain time root).1
  | .invalidate c => x509Invalidate s c
  | .ocspGood c => s.set c { s.certs c with ocspGood := true }

/-- 事象の列。 -/
def runX509 (s : X509State) (es : List Event) : X509State :=
  run (step checkSignature rootCertificates) s es

end Validate

/-! ## 連鎖を store から伸ばす -/

/-- `x509_auto_append` の失敗。 -/
inductive AppendError
  /-- `-EACCES_EMPTY`。連鎖に証明書がない。 -/
  | eaccesEmpty
  /-- `-ENOMEM`。`x509_append` の `zalloc` が失敗した。 -/
  | enomem
  deriving DecidableEq, Repr

/-- `x509_find_subject ( certs, subject )`。store の列の先頭から、subject が一致する最初の証明書。 -/
def x509FindSubject (certs : Nat → Certificate) (store : List Nat) (subject : Bytes) : Option Nat :=
  store.find? (fun c => asn1Compare subject (certs c).subject = 0)

/-- `x509_auto_append` の `while ( 1 )` の loop。今の証明書 `cert` の issuer を subject に持つ
証明書を探し、見つからないか `cert` 自身なら止まる。`alloc k` は、連鎖の長さが `k` のときの
`x509_append` の確保が成功するかである。C の loop には回る数の上限がないので、`fuel` を使い切った
ことを `none` で表す。失敗しても、それまでに足した証明書は連鎖に残る。 -/
def x509AutoAppendLoop (certs : Nat → Certificate) (store : List Nat) (alloc : Nat → Bool) :
    Nat → List Nat → Nat → Option (List Nat × Except AppendError Unit)
  | 0, _, _ => none
  | fuel + 1, chain, cert =>
    match x509FindSubject certs store (certs cert).issuer with
    | none => some (chain, .ok ())
    | some next =>
      if next = cert then some (chain, .ok ())
      else if alloc chain.length then x509AutoAppendLoop certs store alloc fuel (chain ++ [next]) next
      else some (chain, .error .enomem)

/-- `x509_auto_append ( chain, certs )`。連鎖の最後の証明書から始める。 -/
def x509AutoAppend (certs : Nat → Certificate) (store : List Nat) (alloc : Nat → Bool) (fuel : Nat)
    (chain : List Nat) : Option (List Nat × Except AppendError Unit) :=
  match chain.getLast? with
  | none => some (chain, .error .eaccesEmpty)
  | some cert => x509AutoAppendLoop certs store alloc fuel chain cert

end FlexBoot.X509
