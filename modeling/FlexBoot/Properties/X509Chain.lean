import FlexBoot.Crypto.X509

/-!
# 連鎖を伸ばす loop は issuer の輪を回り続ける

`x509_auto_append` は、今の証明書の issuer を subject に持つ証明書を store から探して連鎖に足す。
止まるのは、見つからないときか、見つかったのが今の証明書自身のときだけである。二つの証明書が
互いの issuer になっていれば、loop は二つを交互に足し続け、既に連鎖にある証明書をまた足す
（`x509_auto_append_cycles`）。
-/

namespace FlexBoot.X509

open Infra FlexBoot

section Loop

variable {certs : Nat → Certificate} {store : List Nat} {alloc : Nat → Bool}

/-- 見つかった issuer が今の証明書と違い、確保が成功すれば、それを足して続ける。 -/
theorem x509AutoAppendLoop_step {fuel : Nat} {chain : List Nat} {cert next : Nat}
    (hfind : x509FindSubject certs store (certs cert).issuer = some next) (hne : next ≠ cert)
    (halloc : alloc chain.length = true) :
    x509AutoAppendLoop certs store alloc (fuel + 1) chain cert =
      x509AutoAppendLoop certs store alloc fuel (chain ++ [next]) next := by
  rw [x509AutoAppendLoop, hfind]
  dsimp only
  rw [if_neg hne, if_pos halloc]

variable {a b : Nat}

/-- 互いの issuer である二つの証明書の間を、loop は何回回っても抜けない。 -/
theorem x509AutoAppendLoop_cycle_none (hab : a ≠ b)
    (ha : x509FindSubject certs store (certs a).issuer = some b)
    (hb : x509FindSubject certs store (certs b).issuer = some a) (halloc : ∀ k, alloc k = true) :
    ∀ fuel,
      (∀ chain, x509AutoAppendLoop certs store alloc fuel chain a = none) ∧
        ∀ chain, x509AutoAppendLoop certs store alloc fuel chain b = none
  | 0 => ⟨fun _ => rfl, fun _ => rfl⟩
  | fuel + 1 => by
    -- `a` からは `b` へ、`b` からは `a` へ一つ進む
    obtain ⟨iha, ihb⟩ := x509AutoAppendLoop_cycle_none hab ha hb halloc fuel
    refine ⟨fun chain => ?_, fun chain => ?_⟩
    · rw [x509AutoAppendLoop_step ha (Ne.symm hab) (halloc _)]
      exact ihb _
    · rw [x509AutoAppendLoop_step hb hab (halloc _)]
      exact iha _

end Loop

/-- **二つの証明書 `a` と `b` が store の中で互いの issuer なら、`a` で終わる連鎖に対して
`x509_auto_append` はどれだけ回しても返らない。二回りごとに `b` と、既に連鎖にある `a` を足す。** -/
theorem x509_auto_append_cycles (certs : Nat → Certificate) (store : List Nat) (alloc : Nat → Bool)
    (a b : Nat) (chain : List Nat) (hab : a ≠ b)
    (ha : x509FindSubject certs store (certs a).issuer = some b)
    (hb : x509FindSubject certs store (certs b).issuer = some a) (halloc : ∀ k, alloc k = true) :
    (∀ fuel, x509AutoAppend certs store alloc fuel (chain ++ [a]) = none) ∧
      ∀ fuel, x509AutoAppendLoop certs store alloc (fuel + 2) (chain ++ [a]) a =
        x509AutoAppendLoop certs store alloc fuel (chain ++ [a, b, a]) a := by
  refine ⟨fun fuel => ?_, fun fuel => ?_⟩
  · rw [x509AutoAppend, List.getLast?_concat]
    exact (x509AutoAppendLoop_cycle_none hab ha hb halloc fuel).1 _
  · rw [x509AutoAppendLoop_step ha (Ne.symm hab) (halloc _),
      x509AutoAppendLoop_step hb hab (halloc _)]
    simp

/-- subject と issuer だけを持つ証明書。 -/
def namedCertificate (subject issuer : Bytes) : Certificate :=
  ⟨[], [], [], [], issuer, subject, 0, 0, false, 0, false, 0, 0, false, false, 0⟩

/-- `A` は `B` が、`B` は `A` が発行した。 -/
def crossSignedCertificates : Nat → Certificate
  | 0 => namedCertificate (ascii "A") (ascii "B")
  | _ => namedCertificate (ascii "B") (ascii "A")

theorem x509_auto_append_cycles_on_cross_signed :
    (0 : Nat) ≠ 1 ∧ x509FindSubject crossSignedCertificates [0, 1] (crossSignedCertificates 0).issuer = some 1 ∧
      x509FindSubject crossSignedCertificates [0, 1] (crossSignedCertificates 1).issuer = some 0 ∧
      x509AutoAppend crossSignedCertificates [0, 1] (fun _ => true) 1000 ([] ++ [0]) = none :=
  ⟨by decide, by decide, by decide,
    (x509_auto_append_cycles crossSignedCertificates [0, 1] (fun _ => true) 0 1 [] (by decide)
      (by decide) (by decide) (fun _ => rfl)).1 1000⟩

end FlexBoot.X509
