import FlexBoot.Crypto.X509

/-!
# 検証済みの証明書の道

`valid` が立った証明書 `c` から、記録を新しいものへ向かって辿ると root に着く（`TrustedPath`）。

* 道の上のどの証明書も、検証した時刻に、`TIMESTAMP_ERROR_MARGIN` だけ両側を広げた有効期間の
  中にある
* 道の終わりの root の fingerprint は、それを検証した呼び出しの root の一覧にある
* root でない証明書は次の証明書を issuer として `x509_check_issuer` を通り、OCSP が要るなら
  済んでいる
* 道の上のどの証明書も、その下にある証明書の数が `path_len + 1` を超えない

これはどんな事象の列の後でも成り立つ（`x509_validated_certificates_have_trusted_paths`）。
`x509_validate_chain` が 0 を返せば、chain の先頭の証明書はこの意味で検証されている。

有効期間の余裕のために期限の切れた証明書も受け付け、root として受け付けた証明書は OCSP を
調べない（`x509_expired_leaf_and_unchecked_root_accepted`）。
-/

namespace FlexBoot.X509

open Infra FlexBoot

section Spec

variable (checkSignature : Bytes → Bytes → Bytes → Rc)

/-! ## 検査の意味 -/

/-- `TIMESTAMP_ERROR_MARGIN` だけ両側を広げた有効期間の中にある。 -/
def WithinValidity (cert : Certificate) (time : Int) : Prop :=
  cert.notBefore ≤ time + timestampErrorMargin ∧ time - timestampErrorMargin ≤ cert.notAfter

/-- `issuer` は `cert` を発行できる。 -/
structure IssuedBy (cert issuer : Certificate) : Prop where
  dn : cert.issuer = issuer.subject
  ca : issuer.ca = true
  keyCertSign : issuer.usagePresent = true → issuer.usageBits &&& x509KeyCertSign ≠ 0
  signature : checkSignature cert.tbs cert.signature issuer.publicKey = .ok

/-- fingerprint が root の一覧にある。 -/
def Trusted (root : X509Root) (cert : Certificate) : Prop :=
  root.digest.digest cert.raw ∈ root.fingerprints

/-- OCSP が要るなら済んでいる。 -/
def OcspChecked (cert : Certificate) : Prop := cert.ocspUriLen ≠ 0 → cert.ocspGood = true

theorem x509CheckTime_ok_iff (cert : Certificate) (time : Int) :
    x509CheckTime cert time = .ok ↔ WithinValidity cert time := by
  unfold x509CheckTime WithinValidity
  split_ifs with hbefore hafter
  · simp only [false_iff, not_and]
    intro h
    omega
  · simp only [false_iff, not_and]
    intro _
    omega
  · simp only [true_iff]
    omega

theorem asn1Compare_eq_zero_iff (a b : Bytes) : asn1Compare a b = 0 ↔ a = b := by
  unfold asn1Compare
  split_ifs with hlen
  · constructor
    · intro h
      omega
    · rintro rfl
      exact absurd rfl hlen
  · exact memcmp_eq_zero_iff rfl (by omega)

theorem x509CheckIssuer_ok_iff (cert issuer : Certificate) :
    x509CheckIssuer checkSignature cert issuer = .ok ↔ IssuedBy checkSignature cert issuer := by
  unfold x509CheckIssuer
  by_cases hdn : asn1Compare cert.issuer issuer.subject ≠ 0
  · rw [if_pos hdn]
    refine ⟨fun h => ?_, fun h => absurd ((asn1Compare_eq_zero_iff _ _).mpr h.dn) hdn⟩
    cases h
  rw [if_neg hdn]
  have hdn' : cert.issuer = issuer.subject := (asn1Compare_eq_zero_iff _ _).mp (not_not.mp hdn)
  by_cases hca : (!issuer.ca) = true
  · rw [if_pos hca]
    refine ⟨fun h => ?_, fun h => ?_⟩
    · cases h
    · simp [h.ca] at hca
  rw [if_neg hca]
  have hca' : issuer.ca = true := by simpa using hca
  by_cases hku : (issuer.usagePresent && issuer.usageBits &&& x509KeyCertSign = 0) = true
  · rw [if_pos hku]
    simp only [Bool.and_eq_true, decide_eq_true_eq] at hku
    refine ⟨fun h => ?_, fun h => absurd hku.2 (h.keyCertSign hku.1)⟩
    cases h
  rw [if_neg hku]
  have hku' : issuer.usagePresent = true → issuer.usageBits &&& x509KeyCertSign ≠ 0 := by
    simpa using hku
  exact ⟨fun hs => ⟨hdn', hca', hku', hs⟩, fun h => h.signature⟩

theorem x509CheckRoot_ok_iff (cert : Certificate) (root : X509Root) :
    x509CheckRoot cert root = .ok ↔ Trusted root cert := by
  unfold x509CheckRoot Trusted
  dsimp only
  -- 一覧の fingerprint はどれも digest と同じ長さなので、`memcmp` は等しさを調べる
  have key : ∀ f ∈ root.fingerprints,
      memcmp root.digest.digestsize (root.digest.digest cert.raw) f = 0 ↔
        f = root.digest.digest cert.raw := fun f hf =>
    (memcmp_eq_zero_iff (root.digest.length_digest _) (root.length_fingerprints f hf)).trans
      eq_comm
  split_ifs with h
  · simp only [true_iff]
    obtain ⟨f, hf, hm⟩ := List.any_eq_true.mp h
    rw [← (key f hf).mp (by simpa using hm)]
    exact hf
  · simp only [false_iff]
    intro hmem
    exact h (List.any_eq_true.mpr ⟨_, hmem, by simpa using (key _ hmem).mpr rfl⟩)

/-! ## 道 -/

/-- 記録 `log` で `c` を新しいものから辿った道が、検証の条件を満たす。`below` は道の上で
`c` より下にある証明書の数である。 -/
def TrustedPath (certs : Nat → Certificate) : List Validation → Nat → Nat → Prop
  | [], _, _ => False
  | e :: older, c, below =>
    if e.cert = c then
      match e with
      | .root _ time root =>
        WithinValidity (certs c) time ∧ Trusted root (certs c) ∧ below ≤ (certs c).pathLen + 1
      | .issued _ i time =>
        WithinValidity (certs c) time ∧ IssuedBy checkSignature (certs c) (certs i) ∧
          OcspChecked (certs c) ∧ below ≤ (certs c).pathLen + 1 ∧
          TrustedPath certs older i (below + 1)
    else TrustedPath certs older c below

theorem trustedPath_cons_of_ne {certs : Nat → Certificate} {e : Validation}
    {log : List Validation} {c below : Nat} (h : e.cert ≠ c) :
    TrustedPath checkSignature certs (e :: log) c below ↔
      TrustedPath checkSignature certs log c below := by
  simp only [TrustedPath, if_neg h]

end Spec

/-! ## 検証で変わらないもの

検証は `valid` と `path_remaining` だけを書き、OCSP は `ocsp.good` を立てるだけである。
証明書のそれ以外の部分は変わらない。
-/

/-- 検証が書く部分を除いた証明書。 -/
def Certificate.static (cert : Certificate) : Certificate :=
  { cert with ocspGood := false, valid := false, pathRemaining := 0 }

/-- `a` から `b` へ、検証が読む部分が変わらず、`ocsp.good` は下りない。 -/
structure Keeps (a b : Certificate) : Prop where
  static : b.static = a.static
  ocspGood : a.ocspGood = true → b.ocspGood = true

theorem Keeps.refl (a : Certificate) : Keeps a a := ⟨rfl, id⟩

theorem Keeps.trans {a b c : Certificate} (h₁ : Keeps a b) (h₂ : Keeps b c) : Keeps a c :=
  ⟨h₂.static.trans h₁.static, fun h => h₂.ocspGood (h₁.ocspGood h)⟩

/-- `Keeps` は、`static` が残す field を変えない。 -/
theorem Keeps.field {α : Type} {a b : Certificate} (h : Keeps a b) (f : Certificate → α)
    (hf : ∀ x, f x.static = f x) : f b = f a := by
  rw [← hf b, ← hf a, h.static]

section Keeping

variable {checkSignature : Bytes → Bytes → Bytes → Rc}

theorem WithinValidity.keeps {a b : Certificate} {time : Int} (h : Keeps a b)
    (hv : WithinValidity a time) : WithinValidity b time := by
  unfold WithinValidity
  rw [h.field Certificate.notBefore (fun _ => rfl), h.field Certificate.notAfter (fun _ => rfl)]
  exact hv

theorem Trusted.keeps {a b : Certificate} {root : X509Root} (h : Keeps a b) (ht : Trusted root a) :
    Trusted root b := by
  unfold Trusted
  rw [h.field Certificate.raw (fun _ => rfl)]
  exact ht

theorem IssuedBy.keeps {a b i j : Certificate} (ha : Keeps a b) (hi : Keeps i j)
    (h : IssuedBy checkSignature a i) : IssuedBy checkSignature b j := by
  have hissuer := ha.field Certificate.issuer (fun _ => rfl)
  have htbs := ha.field Certificate.tbs (fun _ => rfl)
  have hsig := ha.field Certificate.signature (fun _ => rfl)
  have hsubject := hi.field Certificate.subject (fun _ => rfl)
  have hca := hi.field Certificate.ca (fun _ => rfl)
  have hpresent := hi.field Certificate.usagePresent (fun _ => rfl)
  have hbits := hi.field Certificate.usageBits (fun _ => rfl)
  have hkey := hi.field Certificate.publicKey (fun _ => rfl)
  exact ⟨by rw [hissuer, hsubject]; exact h.dn, by rw [hca]; exact h.ca,
    by rw [hpresent, hbits]; exact h.keyCertSign, by rw [htbs, hsig, hkey]; exact h.signature⟩

theorem OcspChecked.keeps {a b : Certificate} (h : Keeps a b) (ho : OcspChecked a) :
    OcspChecked b := by
  unfold OcspChecked
  rw [h.field Certificate.ocspUriLen (fun _ => rfl)]
  exact fun hu => h.ocspGood (ho hu)

/-- 道は記録だけで決まり、証明書の検証が読む部分が変わらなければ残る。記録の長さで帰納法を
使う。 -/
theorem TrustedPath.keeps {certs certs' : Nat → Certificate} (h : ∀ x, Keeps (certs x) (certs' x)) :
    ∀ {log : List Validation} {c below : Nat}, TrustedPath checkSignature certs log c below →
      TrustedPath checkSignature certs' log c below
  | [], _, _, hp => hp
  | e :: older, c, below, hp => by
    unfold TrustedPath at hp ⊢
    split_ifs at hp ⊢ with hc
    · cases e with
      | root _ time root =>
        obtain ⟨hv, ht, hb⟩ := hp
        exact ⟨hv.keeps (h c), ht.keeps (h c), by rw [(h c).field Certificate.pathLen (fun _ => rfl)]; exact hb⟩
      | issued _ i time =>
        obtain ⟨hv, hi, ho, hb, hrest⟩ := hp
        exact ⟨hv.keeps (h c), hi.keeps (h c) (h i), ho.keeps (h c),
          by rw [(h c).field Certificate.pathLen (fun _ => rfl)]; exact hb, TrustedPath.keeps h hrest⟩
    · exact TrustedPath.keeps h hp

end Keeping

/-! ## 検証の一回

`x509_validate` は store を変えないか、`c` に `valid` を立ててその記録を足すかのどちらかで
ある（`x509Validate_cases`）。足した記録からの道は、それまでの記録での issuer の道に続く。
-/

section Validate

variable (checkSignature : Bytes → Bytes → Bytes → Rc) (rootCertificates : X509Root)

/-- 検証済みのどの証明書も、`path_remaining` 以下のどの `below` についても道を持つ。 -/
def Sound (s : X509State) : Prop :=
  ∀ c, (s.certs c).valid = true → ∀ below ≤ (s.certs c).pathRemaining,
    TrustedPath checkSignature s.certs s.log c below

/-- 検証が `c` に `valid` を立て、記録 `e` を足したときの store。 -/
def X509State.validated (s : X509State) (c : Nat) (cert : Certificate) (e : Validation) :
    X509State :=
  { s.set c cert with log := e :: s.log }

@[simp] theorem X509State.validated_log (s : X509State) (c : Nat) (cert : Certificate)
    (e : Validation) : (s.validated c cert e).log = e :: s.log := rfl

@[simp] theorem X509State.validated_certs (s : X509State) (c : Nat) (cert : Certificate)
    (e : Validation) : (s.validated c cert e).certs = (s.set c cert).certs := rfl

theorem keeps_set {s : X509State} {c : Nat} {cert : Certificate} (h : Keeps (s.certs c) cert) :
    ∀ x, Keeps (s.certs x) ((s.set c cert).certs x) := by
  intro x
  by_cases hx : x = c
  · subst hx
    rw [X509State.set_certs_self]
    exact h
  · rw [X509State.set_certs_of_ne _ _ hx]
    exact Keeps.refl _

/-- 新しい記録は、それが指す証明書の道だけを変える。 -/
theorem Sound.validated {s : X509State} {c : Nat} {cert : Certificate} {e : Validation}
    (hs : Sound checkSignature s) (he : e.cert = c) (hk : Keeps (s.certs c) cert)
    (hpath : ∀ below ≤ cert.pathRemaining,
      TrustedPath checkSignature (s.set c cert).certs (e :: s.log) c below) :
    Sound checkSignature (s.validated c cert e) := by
  intro d hd below hb
  by_cases hdc : d = c
  · subst hdc
    simp only [X509State.validated_certs, X509State.set_certs_self] at hb
    exact hpath below hb
  · simp only [X509State.validated_certs, X509State.set_certs_of_ne _ _ hdc] at hd hb
    rw [X509State.validated_log, X509State.validated_certs,
      trustedPath_cons_of_ne _ (by rw [he]; exact Ne.symm hdc)]
    exact TrustedPath.keeps (keeps_set hk) (hs d hd below hb)

/-- 検証が読む部分を変えず、`valid` も `path_remaining` も増やさず、記録も足さない変化。 -/
theorem Sound.of_frame {s t : X509State} (hs : Sound checkSignature s)
    (hk : ∀ x, Keeps (s.certs x) (t.certs x)) (hlog : t.log = s.log)
    (hv : ∀ x, (t.certs x).valid = true →
      (s.certs x).valid = true ∧ (t.certs x).pathRemaining ≤ (s.certs x).pathRemaining) :
    Sound checkSignature t := by
  intro d hd below hb
  obtain ⟨hd', hle⟩ := hv d hd
  rw [hlog]
  exact TrustedPath.keeps hk (hs d hd' below (Nat.le_trans hb hle))

/-- issuer による検証の一回。issuer の `path_remaining` から一つ減らすので、新しい証明書の
`path_remaining` 以下の `below` には、issuer の道の `below + 1` が使える。 -/
theorem x509ValidateIssued_cases (s : X509State) (c i : Nat) (time : Int)
    (hwithin : WithinValidity (s.certs c) time) (hi : (s.certs i).valid = true)
    (hic : i ≠ c) :
    let r := x509ValidateIssued checkSignature s c i time
    (r.1 = s ∧ r.2 ≠ .ok) ∨
    (r.2 = .ok ∧ ∃ cert, r.1 = s.validated c cert (.issued c i time) ∧ cert.valid = true ∧
      Keeps (s.certs c) cert ∧
      (Sound checkSignature s → ∀ below ≤ cert.pathRemaining,
        TrustedPath checkSignature (s.set c cert).certs (.issued c i time :: s.log) c below)) := by
  unfold x509ValidateIssued
  dsimp only
  by_cases hrc : x509CheckIssuer checkSignature (s.certs c) (s.certs i) ≠ .ok
  · rw [if_pos hrc]
    exact .inl ⟨rfl, hrc⟩
  rw [if_neg hrc]
  have hissued := (x509CheckIssuer_ok_iff _ _ _).mp (not_not.mp hrc)
  by_cases hpr : (s.certs i).pathRemaining = 0
  · rw [if_pos hpr]
    exact .inl ⟨rfl, fun h => by cases h⟩
  rw [if_neg hpr]
  by_cases hocsp : (s.certs c).ocspUriLen ≠ 0 ∧ (!(s.certs c).ocspGood) = true
  · rw [if_pos hocsp]
    exact .inl ⟨rfl, fun h => by cases h⟩
  rw [if_neg hocsp]
  have hchecked : OcspChecked (s.certs c) := fun hu => by simpa [hu] using hocsp
  refine .inr ⟨rfl, _, rfl, rfl, ⟨rfl, id⟩, fun hs below hb => ?_⟩
  -- 新しい `path_remaining` は issuer の値より小さく、`path_len + 1` 以下である
  have hmod := Nat.mod_le ((s.certs c).pathLen + 1) (2 ^ 32)
  have hb' : below + 1 ≤ (s.certs i).pathRemaining ∧ below ≤ (s.certs c).pathLen + 1 := by
    dsimp only at hb
    split at hb <;> omega
  simp only [TrustedPath, Validation.cert, if_true, X509State.set_certs_self,
    X509State.set_certs_of_ne _ _ hic]
  refine ⟨hwithin, hissued.keeps ?_ (Keeps.refl _), hchecked, hb'.2,
    TrustedPath.keeps (keeps_set ?_) (hs i hi (below + 1) hb'.1)⟩
  · exact ⟨rfl, id⟩
  · exact ⟨rfl, id⟩

/-- **`x509_validate` が一回でしうること。** store を変えないか、まだ検証されていない `c` に
`valid` を立て、その呼び出しの記録を足す。足した記録からの道は検証の条件を満たす。 -/
theorem x509Validate_cases (s : X509State) (c : Nat) (issuer : Option Nat) (time : Int)
    (root : Option X509Root) :
    let r := x509Validate checkSignature rootCertificates s c issuer time root
    (r.1 = s ∧ (r.2 = .ok → (s.certs c).valid = true)) ∨
    (r.2 = .ok ∧ ∃ cert e, r.1 = s.validated c cert e ∧ e.cert = c ∧ cert.valid = true ∧
      Keeps (s.certs c) cert ∧
      (Sound checkSignature s → ∀ below ≤ cert.pathRemaining,
        TrustedPath checkSignature (s.set c cert).certs (e :: s.log) c below)) := by
  unfold x509Validate
  dsimp only
  by_cases hvalid : (s.certs c).valid = true
  · rw [if_pos hvalid]
    exact .inl ⟨rfl, fun _ => hvalid⟩
  rw [if_neg hvalid]
  by_cases htime : x509CheckTime (s.certs c) time ≠ .ok
  · rw [if_pos htime]
    exact .inl ⟨rfl, fun h => absurd h htime⟩
  rw [if_neg htime]
  have hwithin := (x509CheckTime_ok_iff _ _).mp (not_not.mp htime)
  by_cases hroot : x509CheckRoot (s.certs c) (root.getD rootCertificates) = .ok
  · -- root として検証する
    rw [if_pos hroot]
    refine .inr ⟨rfl, _, _, rfl, rfl, rfl, ⟨rfl, id⟩, fun _ below hb => ?_⟩
    simp only [TrustedPath, Validation.cert, if_true, X509State.set_certs_self]
    exact ⟨hwithin, (x509CheckRoot_ok_iff _ _).mp hroot,
      Nat.le_trans hb (Nat.mod_le _ _)⟩
  rw [if_neg hroot]
  cases issuer with
  | none => exact .inl ⟨rfl, fun h => by cases h⟩
  | some i =>
    dsimp only
    by_cases hiv : (!(s.certs i).valid) = true
    · rw [if_pos hiv]
      exact .inl ⟨rfl, fun h => by cases h⟩
    rw [if_neg hiv]
    have hi : (s.certs i).valid = true := by simpa using hiv
    have hic : i ≠ c := fun h => hvalid (h ▸ hi)
    rcases x509ValidateIssued_cases checkSignature s c i time hwithin hi hic with
      ⟨h₁, h₂⟩ | ⟨h₁, cert, h₂, h₃, h₄, h₅⟩
    · exact .inl ⟨h₁, fun h => absurd h h₂⟩
    · exact .inr ⟨h₁, cert, _, h₂, rfl, h₃, h₄, h₅⟩

theorem x509Validate_sound {s : X509State} (hs : Sound checkSignature s) (c : Nat)
    (issuer : Option Nat) (time : Int) (root : Option X509Root) :
    Sound checkSignature (x509Validate checkSignature rootCertificates s c issuer time root).1 := by
  rcases x509Validate_cases checkSignature rootCertificates s c issuer time root with
    ⟨h, -⟩ | ⟨-, cert, e, h, he, -, hk, hpath⟩
  · rw [h]
    exact hs
  · rw [h]
    exact hs.validated checkSignature he hk (hpath hs)

/-- 検証が成功すれば、その証明書は検証されている。 -/
theorem x509Validate_ok_valid {s : X509State} {c : Nat} {issuer : Option Nat} {time : Int}
    {root : Option X509Root}
    (h : (x509Validate checkSignature rootCertificates s c issuer time root).2 = .ok) :
    ((x509Validate checkSignature rootCertificates s c issuer time root).1.certs c).valid =
      true := by
  rcases x509Validate_cases checkSignature rootCertificates s c issuer time root with
    ⟨h₁, h₂⟩ | ⟨-, cert, e, h₁, -, hv, -, -⟩
  · rw [h₁]
    exact h₂ h
  · rw [h₁, X509State.validated_certs, X509State.set_certs_self]
    exact hv

end Validate

/-! ## chain の検証 -/

section Chain

variable (checkSignature : Bytes → Bytes → Bytes → Rc) (rootCertificates : X509Root)
  (time : Int) (root : Option X509Root)

theorem x509ValidateChainBack_sound :
    ∀ (links : List Nat) (s : X509State) (issuer : Nat), Sound checkSignature s →
      Sound checkSignature
        (x509ValidateChainBack checkSignature rootCertificates time root s issuer links).1
  | [], _, _, hs => hs
  | c :: links, s, issuer, hs => by
    unfold x509ValidateChainBack
    dsimp only
    have h₁ := x509Validate_sound checkSignature rootCertificates hs c (some issuer) time root
    split
    · exact h₁
    · exact x509ValidateChainBack_sound links _ c h₁

theorem x509ValidateChainFind_sound :
    ∀ (links : List Nat) (s : X509State) (before : List Nat), Sound checkSignature s →
      Sound checkSignature
        (x509ValidateChainFind checkSignature rootCertificates time root s before links).1
  | [], _, _, hs => hs
  | c :: links, s, before, hs => by
    unfold x509ValidateChainFind
    dsimp only
    have h₁ := x509Validate_sound checkSignature rootCertificates hs c none time root
    split
    · exact x509ValidateChainFind_sound links _ (c :: before) h₁
    · exact x509ValidateChainBack_sound checkSignature rootCertificates time root before _ c h₁

theorem x509ValidateChain_sound {s : X509State} (hs : Sound checkSignature s) (chain : List Nat) :
    Sound checkSignature (x509ValidateChain checkSignature rootCertificates s chain time root).1 := by
  unfold x509ValidateChain
  split
  · exact hs
  · exact x509ValidateChainFind_sound checkSignature rootCertificates time root chain s [] hs

/-- 後半が成功すれば、最後に検証した証明書、つまり `links` の終わりが検証されている。
`links` の長さで帰納法を使う。 -/
theorem x509ValidateChainBack_valid :
    ∀ (links : List Nat) (s : X509State) (issuer : Nat), (s.certs issuer).valid = true →
      (x509ValidateChainBack checkSignature rootCertificates time root s issuer links).2 = .ok →
      ∀ c, (issuer :: links).getLast? = some c →
        ((x509ValidateChainBack checkSignature rootCertificates time root s issuer links).1.certs
          c).valid = true
  | [], s, issuer, hi, _, c, hc => by
    simp only [List.getLast?_singleton, Option.some.injEq] at hc
    subst hc
    exact hi
  | d :: links, s, issuer, _, hok, c, hc => by
    unfold x509ValidateChainBack at hok ⊢
    dsimp only at hok ⊢
    split at hok
    · next hne => exact absurd hok hne
    · next heq =>
      rw [if_neg heq]
      have hd := x509Validate_ok_valid checkSignature rootCertificates (not_not.mp heq)
      exact x509ValidateChainBack_valid links _ d hd hok c (by simpa [List.getLast?_cons] using hc)

/-- 前半が成功すれば、chain の先頭が検証されている。`before` は見てきた証明書を逆順に
持つので、chain の先頭は `before.reverse ++ links` の先頭である。 -/
theorem x509ValidateChainFind_valid :
    ∀ (links : List Nat) (s : X509State) (before : List Nat),
      (x509ValidateChainFind checkSignature rootCertificates time root s before links).2 = .ok →
      ∃ c, (before.reverse ++ links).head? = some c ∧
        ((x509ValidateChainFind checkSignature rootCertificates time root s before links).1.certs
          c).valid = true
  | [], _, _, hok => by
    unfold x509ValidateChainFind at hok
    cases hok
  | d :: links, s, before, hok => by
    unfold x509ValidateChainFind at hok ⊢
    dsimp only at hok ⊢
    split at hok
    · next hne =>
      rw [if_pos hne]
      obtain ⟨c, hc, hv⟩ := x509ValidateChainFind_valid links _ (d :: before) hok
      exact ⟨c, by simpa using hc, hv⟩
    · next heq =>
      rw [if_neg heq]
      have hd := x509Validate_ok_valid checkSignature rootCertificates (not_not.mp heq)
      obtain ⟨c, hc⟩ : ∃ c, (d :: before).getLast? = some c :=
        ⟨_, List.getLast?_eq_some_getLast (by simp)⟩
      refine ⟨c, ?_, x509ValidateChainBack_valid checkSignature rootCertificates time root
        before _ d hd hok c hc⟩
      rw [← hc]
      simp [List.getLast?_cons]

/-- `x509_validate_chain` が 0 を返せば、chain は空でなく、その先頭が検証されている。 -/
theorem x509ValidateChain_valid {s : X509State} {chain : List Nat}
    (hok : (x509ValidateChain checkSignature rootCertificates s chain time root).2 = .ok) :
    ∃ c, chain.head? = some c ∧
      ((x509ValidateChain checkSignature rootCertificates s chain time root).1.certs c).valid =
        true := by
  unfold x509ValidateChain at hok ⊢
  split at hok
  · cases hok
  · next hne =>
    rw [if_neg hne]
    simpa using x509ValidateChainFind_valid checkSignature rootCertificates time root chain s [] hok

end Chain

/-! ## 実行全体 -/

section Run

variable (checkSignature : Bytes → Bytes → Bytes → Rc) (rootCertificates : X509Root)

/-- 一つの事象は `Sound` を保つ。`x509_invalidate` と OCSP は記録を足さず、検証が読む部分も
変えない。 -/
theorem step_sound : Invariant (step checkSignature rootCertificates) (Sound checkSignature) := by
  intro s e hs
  cases e with
  | validate c issuer time root =>
    exact x509Validate_sound checkSignature rootCertificates hs c issuer time root
  | validateChain chain time root =>
    exact x509ValidateChain_sound checkSignature rootCertificates time root hs chain
  | invalidate c =>
    refine Sound.of_frame checkSignature hs (keeps_set ⟨rfl, id⟩) rfl (fun x hx => ?_)
    by_cases hxc : x = c
    · subst hxc
      simp [step, x509Invalidate] at hx
    · simp only [step, x509Invalidate, X509State.set_certs_of_ne _ _ hxc] at hx ⊢
      exact ⟨hx, Nat.le_refl _⟩
  | ocspGood c =>
    refine Sound.of_frame checkSignature hs (keeps_set ⟨rfl, fun _ => rfl⟩) rfl (fun x hx => ?_)
    by_cases hxc : x = c
    · subst hxc
      simp only [step, X509State.set_certs_self] at hx ⊢
      exact ⟨hx, Nat.le_refl _⟩
    · simp only [step, X509State.set_certs_of_ne _ _ hxc] at hx ⊢
      exact ⟨hx, Nat.le_refl _⟩

theorem fresh_sound (certs : Nat → Certificate) : Sound checkSignature (X509State.fresh certs) := by
  intro c hc
  simp [X509State.fresh] at hc

/-- **検証済みの証明書は、どんな呼び出しの列の後でも root への道を持つ。** 道の上の証明書は、
それを検証した時刻に `TIMESTAMP_ERROR_MARGIN` だけ広げた有効期間の中にあり、root の
fingerprint はそれを検証した呼び出しの root の一覧にある。root でない証明書は issuer の検査を
通り、OCSP が要るなら済んでいる。どの証明書も、その下にある証明書の数が `path_len + 1` を
超えない。`x509_validate_chain` が 0 を返せば、chain の先頭がそのような道を持つ。 -/
theorem x509_validated_certificates_have_trusted_paths (certs : Nat → Certificate)
    (es : List Event) :
    let s := runX509 checkSignature rootCertificates (X509State.fresh certs) es
    (∀ c, (s.certs c).valid = true → TrustedPath checkSignature s.certs s.log c 0) ∧
    ∀ chain time root,
      (x509ValidateChain checkSignature rootCertificates s chain time root).2 = .ok →
      ∃ c, chain.head? = some c ∧
        TrustedPath checkSignature
          (x509ValidateChain checkSignature rootCertificates s chain time root).1.certs
          (x509ValidateChain checkSignature rootCertificates s chain time root).1.log c 0 := by
  intro s
  have hs : Sound checkSignature s :=
    (step_sound checkSignature rootCertificates).run (fresh_sound checkSignature certs) es
  refine ⟨fun c hc => hs c hc 0 (Nat.zero_le _), fun chain time root hok => ?_⟩
  obtain ⟨c, hc, hv⟩ := x509ValidateChain_valid checkSignature rootCertificates time root hok
  exact ⟨c, hc, x509ValidateChain_sound checkSignature rootCertificates time root hs chain c hv 0
    (Nat.zero_le _)⟩

end Run

/-! ## 期限の切れた証明書と、OCSP を調べない root -/

/-- どの署名も受け付ける署名の検査。 -/
def acceptSignature : Bytes → Bytes → Bytes → Rc := fun _ _ _ => .ok

/-- `CN=CA` が発行し、時刻 1000 で期限の切れる証明書。 -/
def expiredLeaf : Certificate :=
  { raw := ascii "leaf", tbs := ascii "leaf-tbs", signature := ascii "leaf-sig",
    publicKey := ascii "leaf-key", issuer := ascii "CN=CA", subject := ascii "CN=leaf",
    notBefore := 0, notAfter := 1000, ca := false, pathLen := 0, usagePresent := false,
    usageBits := 0, ocspUriLen := 0, ocspGood := false, valid := false, pathRemaining := 0 }

/-- OCSP の URI を持ち、まだ OCSP の済んでいない CA。 -/
def ocspCa : Certificate :=
  { raw := ascii "ca", tbs := ascii "ca-tbs", signature := ascii "ca-sig",
    publicKey := ascii "ca-key", issuer := ascii "CN=CA", subject := ascii "CN=CA",
    notBefore := 0, notAfter := 100000, ca := true, pathLen := x509PathLenUnlimited,
    usagePresent := true, usageBits := x509KeyCertSign, ocspUriLen := 24, ocspGood := false,
    valid := false, pathRemaining := 0 }

/-- 番号 0 が `expiredLeaf`、それ以外が `ocspCa`。 -/
def exampleCerts (n : Nat) : Certificate := if n = 0 then expiredLeaf else ocspCa

/-- `ocspCa` の MD5 fingerprint だけを持つ root の一覧。 -/
def ocspCaRoot : X509Root :=
  ⟨Md5.md5Algorithm, [Md5.md5 ocspCa.raw], fun f hf => by
    rw [List.mem_singleton.mp hf]
    exact Md5.length_md5 _⟩

/-- 時刻 41000 で chain `[0, 1]` を検証すると 0 が返る。先頭の証明書は 40000 秒前に期限が
切れており、root の CA は OCSP が要るのに済んでいない。 -/
theorem x509_expired_leaf_and_unchecked_root_accepted :
    let r := x509ValidateChain acceptSignature ocspCaRoot (X509State.fresh exampleCerts) [0, 1]
      41000 none
    r.2 = .ok ∧ (r.1.certs 0).valid = true ∧ (r.1.certs 0).notAfter < 41000 ∧
      (r.1.certs 1).valid = true ∧ (r.1.certs 1).ocspUriLen ≠ 0 ∧
      (r.1.certs 1).ocspGood = false := by
  decide +kernel

end FlexBoot.X509
