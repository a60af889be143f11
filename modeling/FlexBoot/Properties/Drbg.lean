import FlexBoot.Properties.HmacDrbg

/-!
# `drbg.c` は SP 800-90 の DRBG の関数である

SP 800-90 9 の Instantiate、Reseed、Generate、Uninstantiate の関数を、`Properties/HmacDrbg` の
HMAC_DRBG の algorithm と、code と同じ `Get_entropy_input` の oracle の上に書く（`Sp80090`）。
DRBG の internal state は、あれば working state、なければ `none` である。

証明は三段である。

1. 抽象化：`drbg_state` は `valid` なら `hmac_drbg_state` の `( V, Key, reseed_counter )` を、
   そうでなければ `none` を表す（`DrbgState.abs`）。`reseed_required` は Generate の中だけの
   flag で、step 6 で消されるので、表される状態には入らない。
2. 関数ごとに、code の状態と返り値が仕様のそれを表す（`drbgInstantiate_refines`、
   `drbgReseed_refines`、`drbgGenerate_refines`）。key は HMAC の出力なので縮められないことも、
   関係（`Refines`）に含めて引き継ぐ。
3. 呼び出しの列について、列の帰納法でそれをつなぐ（`drbgRun_refines`）。

Generate の step 9 は step 7 へ戻るが、step 7 の reseed の後の reseed_counter は 1 なので、
Generate algorithm はもう reseed を求めない。`drbg_generate` の loop は二回で終わる
（`drbgGenerateStep7_add_two`）。
-/

namespace FlexBoot.Drbg

open Infra FlexBoot.Hmac

namespace Sp80090

/-- 9 の関数が返す誤りの status。 -/
inductive Status
  /-- `ERROR_FLAG` -/
  | errorFlag
  /-- `CATASTROPHIC_ERROR_FLAG` -/
  | catastrophicErrorFlag
  deriving DecidableEq, Repr

/-- DRBG の internal state（instantiate されていなければ `none`）と、`Get_entropy_input` を
呼んだ回数。 -/
structure System where
  state : Option WorkingState
  calls : Nat

section Function

variable (H : BlockDigest) (oracle : EntropyOracle)

/-- `Get_entropy_input ( min_entropy, min_length, max_length )`。 -/
def getEntropyInput (sys : System) (request : EntropyRequest) : Except Int Bytes × System :=
  (oracle sys.calls request, { sys with calls := sys.calls + 1 })

/-- 9.1 Instantiate_function。prediction resistance はいつも使え、nonce は entropy input と
一度に得る（8.6.7）。 -/
def instantiateFunction (sys : System) (personalizationString : Bytes) : System × Except Status Unit :=
  if drbgSecurityStrength > drbgMaxSecurityStrength then (sys, .error .errorFlag)
  else if personalizationString.length > drbgMaxPersonalLenBytes then (sys, .error .errorFlag)
  else
    let request : EntropyRequest :=
      ⟨(3 * drbgSecurityStrength + 1) / 2, drbgMinEntropyLenBytes, drbgMaxEntropyLenBytes⟩
    match getEntropyInput oracle sys request with
    | (.error _, sys) => (sys, .error .catastrophicErrorFlag)
    | (.ok entropyInput, sys) =>
      ({ sys with state := some (instantiateAlgorithm H entropyInput [] personalizationString) }, .ok ())

/-- 9.2 Reseed_function。 -/
def reseedFunction (sys : System) (additionalInput : Bytes) : System × Except Status Unit :=
  match sys.state with
  | none => (sys, .error .errorFlag)
  | some ws =>
    if additionalInput.length > drbgMaxAdditionalLenBytes then (sys, .error .errorFlag)
    else
      match getEntropyInput oracle sys ⟨drbgSecurityStrength, drbgMinEntropyLenBytes, drbgMaxEntropyLenBytes⟩ with
      | (.error _, sys) => (sys, .error .catastrophicErrorFlag)
      | (.ok entropyInput, sys) =>
        ({ sys with state := some (reseedAlgorithm H ws entropyInput additionalInput) }, .ok ())

/-- 9.3 Generate_function の step 7.1–7.5 と 8：reseed し、additional input なしで
Generate algorithm を呼ぶ。 -/
def reseedAndGenerate (sys : System) (requested : Nat) (additionalInput : Bytes) :
    System × Except Status Bytes :=
  match reseedFunction H oracle sys additionalInput with
  | (sys, .error status) => (sys, .error status)
  | (sys, .ok ()) =>
    match sys.state.bind (fun ws => generateAlgorithm H ws requested []) with
    | some (bits, ws) => ({ sys with state := some ws }, .ok bits)
    -- reseed の後の reseed_counter は 1 なので、ここへは来ない
    | none => (sys, .error .errorFlag)

/-- 9.3 Generate_function。step 9 で step 7 へ戻るのは一度で、そのときは reseed する。 -/
def generateFunction (sys : System) (requested : Nat) (predictionResistanceRequest : Bool)
    (additionalInput : Bytes) : System × Except Status Bytes :=
  match sys.state with
  | none => (sys, .error .errorFlag)
  | some ws =>
    if requested > drbgMaxGeneratedLenBytes then (sys, .error .errorFlag)
    else if additionalInput.length > drbgMaxAdditionalLenBytes then (sys, .error .errorFlag)
    else if predictionResistanceRequest then reseedAndGenerate H oracle sys requested additionalInput
    else
      match generateAlgorithm H ws requested additionalInput with
      | some (bits, ws) => ({ sys with state := some ws }, .ok bits)
      | none => reseedAndGenerate H oracle sys requested additionalInput

/-- 9.4 Uninstantiate_function。 -/
def uninstantiateFunction (sys : System) : System := { sys with state := none }

end Function

end Sp80090

/-! ## 抽象化 -/

/-- `drbg.c` の誤りを SP 800-90 の status に移す。`get_entropy_input` の失敗だけが
`CATASTROPHIC_ERROR_FLAG` である。 -/
def DrbgError.status : DrbgError → Sp80090.Status
  | .enotsup | .erange | .einval => .errorFlag
  | .entropy _ => .catastrophicErrorFlag

/-- `drbg_state` が表す internal state。 -/
def DrbgState.abs (drbg : DrbgState) : Option Sp80090.WorkingState :=
  if drbg.valid then some drbg.internal.workingState else none

/-- `DrbgSystem` が表す `Sp80090.System`。 -/
def DrbgSystem.abs (sys : DrbgSystem) : Sp80090.System := ⟨sys.drbg.abs, sys.calls⟩

@[simp] theorem DrbgSystem.abs_state (sys : DrbgSystem) : sys.abs.state = sys.drbg.abs := rfl

@[simp] theorem DrbgSystem.abs_calls (sys : DrbgSystem) : sys.abs.calls = sys.calls := rfl

theorem DrbgState.abs_of_valid {drbg : DrbgState} (h : drbg.valid = true) :
    drbg.abs = some drbg.internal.workingState := by
  rw [DrbgState.abs, if_pos h]

theorem DrbgState.abs_of_not_valid {drbg : DrbgState} (h : drbg.valid = false) : drbg.abs = none := by
  rw [DrbgState.abs, h]
  rfl

/-- code の状態 `sys` が仕様の状態 `spec` を表し、使える状態の key は縮められない。 -/
structure Refines (H : BlockDigest) (sys : DrbgSystem) (spec : Sp80090.System) : Prop where
  abs_eq : sys.abs = spec
  key_reduced : sys.drbg.valid = true → hmacKey H sys.drbg.internal.key = sys.drbg.internal.key

/-! ## 関数ごとの対応 -/

section Refines

variable (H : BlockDigest) (oracle : EntropyOracle)

/-- working state を変えずに entropy input を一つ読んでも、関係は保たれる。 -/
theorem Refines.calls_succ {sys : DrbgSystem} {spec : Sp80090.System} (hr : Refines H sys spec) :
    Refines H { sys with calls := sys.calls + 1 } { spec with calls := spec.calls + 1 } := by
  obtain ⟨rfl, hkey⟩ := hr
  exact ⟨rfl, hkey⟩

/-- `reseed_required` は表される状態に入らない。 -/
theorem Refines.reseedRequired {sys : DrbgSystem} {spec : Sp80090.System} (hr : Refines H sys spec)
    (b : Bool) : Refines H { sys with drbg := { sys.drbg with reseedRequired := b } } spec := by
  obtain ⟨rfl, hkey⟩ := hr
  exact ⟨rfl, hkey⟩

/-- 使える状態は、その working state を表す。 -/
theorem Refines.of_valid {sys : DrbgSystem} (hv : sys.drbg.valid = true)
    (hkey : hmacKey H sys.drbg.internal.key = sys.drbg.internal.key) :
    Refines H sys ⟨some sys.drbg.internal.workingState, sys.calls⟩ :=
  ⟨by rw [DrbgSystem.abs, DrbgState.abs_of_valid hv], fun _ => hkey⟩

/-- `drbg_instantiate` は Instantiate_function である。 -/
theorem drbgInstantiate_refines {sys : DrbgSystem} {spec : Sp80090.System} (hr : Refines H sys spec)
    (personal : Bytes) :
    Refines H (drbgInstantiate H oracle sys personal).1 (Sp80090.instantiateFunction H oracle spec personal).1 ∧
      (drbgInstantiate H oracle sys personal).2.mapError DrbgError.status =
        (Sp80090.instantiateFunction H oracle spec personal).2 := by
  have hs : ¬drbgSecurityStrength > drbgMaxSecurityStrength := by decide
  by_cases hp : personal.length > drbgMaxPersonalLenBytes
  · simp only [drbgInstantiate, Sp80090.instantiateFunction, hs, hp, if_false, if_true]
    exact ⟨hr, rfl⟩
  obtain ⟨rfl, hkey⟩ := hr
  cases hor : oracle sys.calls ⟨(3 * drbgSecurityStrength + 1) / 2, drbgMinEntropyLenBytes, drbgMaxEntropyLenBytes⟩ with
  | error rc =>
    simp only [drbgInstantiate, Sp80090.instantiateFunction, hs, hp, if_false, getEntropyInput,
      Sp80090.getEntropyInput, DrbgSystem.abs, hor]
    exact ⟨⟨rfl, hkey⟩, rfl⟩
  | ok data =>
    simp only [drbgInstantiate, Sp80090.instantiateFunction, hs, hp, if_false, getEntropyInput,
      Sp80090.getEntropyInput, DrbgSystem.abs, hor]
    refine ⟨⟨?_, fun _ => hmacKey_hmacDrbgInstantiate H _ data personal⟩, rfl⟩
    simp only [DrbgSystem.abs, DrbgState.abs, if_true, hmacDrbgInstantiate_eq]

/-- `drbg_reseed` は Reseed_function である。 -/
theorem drbgReseed_refines {sys : DrbgSystem} {spec : Sp80090.System} (hr : Refines H sys spec)
    (additional : Bytes) :
    Refines H (drbgReseed H oracle sys additional).1 (Sp80090.reseedFunction H oracle spec additional).1 ∧
      (drbgReseed H oracle sys additional).2.mapError DrbgError.status =
        (Sp80090.reseedFunction H oracle spec additional).2 := by
  cases hv : sys.drbg.valid
  · -- 1.  使える状態がない
    have hs : spec.state = none := by rw [← hr.abs_eq, DrbgSystem.abs_state, DrbgState.abs_of_not_valid hv]
    simp only [drbgReseed, Sp80090.reseedFunction, hs, hv, Bool.not_false, if_true]
    exact ⟨hr, rfl⟩
  have hs : spec.state = some sys.drbg.internal.workingState := by
    rw [← hr.abs_eq, DrbgSystem.abs_state, DrbgState.abs_of_valid hv]
  by_cases ha : additional.length > drbgMaxAdditionalLenBytes
  · -- 3.  additional input が長すぎる
    simp only [drbgReseed, Sp80090.reseedFunction, hs, hv, Bool.not_true, Bool.false_eq_true, if_false, ha,
      if_true]
    exact ⟨hr, rfl⟩
  have hcalls : spec.calls = sys.calls := by rw [← hr.abs_eq, DrbgSystem.abs_calls]
  cases hor : oracle sys.calls ⟨drbgSecurityStrength, drbgMinEntropyLenBytes, drbgMaxEntropyLenBytes⟩ with
  | error rc =>
    -- 4.–5.  entropy input が得られない
    simp only [drbgReseed, Sp80090.reseedFunction, hs, hv, Bool.not_true, Bool.false_eq_true, if_false, ha,
      getEntropyInput, Sp80090.getEntropyInput, hcalls, hor]
    have hr' := hr.calls_succ H
    rw [hs, hcalls] at hr'
    exact ⟨hr', rfl⟩
  | ok data =>
    simp only [drbgReseed, Sp80090.reseedFunction, hs, hv, Bool.not_true, Bool.false_eq_true, if_false, ha,
      getEntropyInput, Sp80090.getEntropyInput, hcalls, hor, ← hmacDrbgReseed_eq]
    exact ⟨Refines.of_valid H rfl (hmacKey_hmacDrbgReseed H _ data additional), rfl⟩

end Refines

/-! ## `drbg_reseed` -/

section Reseed

variable (H : BlockDigest) (oracle : EntropyOracle)

/-- `drbg_reseed` が成功すれば、状態は使えるもので additional input は長すぎず、entropy input を
一つ読んで working state を reseed したものに置き換えている。 -/
theorem drbgReseed_ok {sys sys' : DrbgSystem} {additional : Bytes}
    (h : drbgReseed H oracle sys additional = (sys', .ok ())) :
    sys.drbg.valid = true ∧ ¬additional.length > drbgMaxAdditionalLenBytes ∧
      ∃ data, oracle sys.calls ⟨drbgSecurityStrength, drbgMinEntropyLenBytes, drbgMaxEntropyLenBytes⟩ = .ok data ∧
        sys' = { drbg := { sys.drbg with internal := hmacDrbgReseed H sys.drbg.internal data additional },
                 calls := sys.calls + 1 } := by
  rw [drbgReseed] at h
  split at h
  · cases h
  split at h
  · cases h
  rename_i hv ha
  simp only [getEntropyInput] at h
  split at h
  · cases h
  · rename_i data sys'' heq
    simp only [Prod.mk.injEq] at heq h
    obtain ⟨hor, rfl⟩ := heq
    exact ⟨by simpa using hv, ha, data, hor, h.1.symm⟩

end Reseed

/-! ## `drbg_generate` の step 7 -/

section Step7

variable (H : BlockDigest) (oracle : EntropyOracle)

-- step 7 を一回通る式。以下の証明は `drbgGenerateStep7` を開かず、これで一歩進める
theorem drbgGenerateStep7_succ (sys : DrbgSystem) (additional : Bytes) (predictionResist : Bool)
    (len passes : Nat) :
    drbgGenerateStep7 H oracle sys additional predictionResist len (passes + 1) =
      match (if sys.drbg.reseedRequired || predictionResist then
          match drbgReseed H oracle sys additional with
          | (sys, .error rc) => .error (sys, rc)
          | (sys, .ok ()) => .ok ({ sys with drbg := { sys.drbg with reseedRequired := false } }, [])
        else .ok (sys, additional) : Except (DrbgSystem × DrbgError) (DrbgSystem × Bytes)) with
      | .error (sys, rc) => some (sys, .error rc)
      | .ok (sys, additional) =>
        match hmacDrbgGenerate H sys.drbg.internal additional len with
        | some (data, internal) => some ({ sys with drbg := { sys.drbg with internal := internal } }, .ok data)
        | none =>
          drbgGenerateStep7 H oracle { sys with drbg := { sys.drbg with reseedRequired := true } } additional
            true len passes :=
  rfl

/-- reseed が要るか prediction resistance が要求されていれば、step 7 は reseed し、その後の
Generate algorithm は reseed を求めない。step 7 は一度通るだけで終わる。 -/
theorem drbgGenerateStep7_of_reseed (sys : DrbgSystem) (additional : Bytes) (predictionResist : Bool)
    (len passes : Nat) (hflag : (sys.drbg.reseedRequired || predictionResist) = true) :
    drbgGenerateStep7 H oracle sys additional predictionResist len (passes + 1) =
      drbgGenerateStep7 H oracle sys additional predictionResist len 1 := by
  rw [drbgGenerateStep7_succ, drbgGenerateStep7_succ]
  simp only [hflag, if_true]
  rcases hr : drbgReseed H oracle sys additional with ⟨sys', rc | u⟩
  · rfl
  · obtain ⟨-, -, data, -, rfl⟩ := drbgReseed_ok H oracle hr
    -- reseed の後の reseed_counter は 1 である
    obtain ⟨⟨out, st⟩, hg⟩ := Option.isSome_iff_exists.mp
      (hmacDrbgGenerate_isSome H (hmacDrbgReseed H sys.drbg.internal data additional) [] len
        (by simp [hmacDrbgReseedInterval]))
    simp only [hg]

/-- reseed してから生成する一回は、いつも値を返す。 -/
theorem drbgGenerateStep7_one_isSome (sys : DrbgSystem) (additional : Bytes) (predictionResist : Bool)
    (len : Nat) (hflag : (sys.drbg.reseedRequired || predictionResist) = true) :
    (drbgGenerateStep7 H oracle sys additional predictionResist len 1).isSome := by
  rw [drbgGenerateStep7_succ]
  simp only [hflag, if_true]
  rcases hr : drbgReseed H oracle sys additional with ⟨sys', rc | u⟩
  · rfl
  · obtain ⟨-, -, data, -, rfl⟩ := drbgReseed_ok H oracle hr
    obtain ⟨⟨out, st⟩, hg⟩ := Option.isSome_iff_exists.mp
      (hmacDrbgGenerate_isSome H (hmacDrbgReseed H sys.drbg.internal data additional) [] len
        (by simp [hmacDrbgReseedInterval]))
    simp only [hg, Option.isSome_some]

/-- step 9 で戻るときは reseed を要求するので、step 7 は二回より多くは通らない。二回まで
通れれば、それより多く通れても同じ値を返す。 -/
theorem drbgGenerateStep7_add_two (sys : DrbgSystem) (additional : Bytes) (predictionResist : Bool)
    (len passes : Nat) :
    drbgGenerateStep7 H oracle sys additional predictionResist len (passes + 2) =
      drbgGenerateStep7 H oracle sys additional predictionResist len 2 := by
  by_cases hflag : (sys.drbg.reseedRequired || predictionResist) = true
  · rw [drbgGenerateStep7_of_reseed H oracle sys additional predictionResist len (passes + 1) hflag,
      drbgGenerateStep7_of_reseed H oracle sys additional predictionResist len 1 hflag]
  · -- reseed せずに生成する。reseed を求められれば、reseed を要求して一度だけ戻る
    have hflag' : (sys.drbg.reseedRequired || predictionResist) = false := by simpa using hflag
    rw [drbgGenerateStep7_succ, drbgGenerateStep7_succ]
    simp only [hflag', Bool.false_eq_true, if_false]
    cases hmacDrbgGenerate H sys.drbg.internal additional len with
    | some r => rfl
    | none => rw [drbgGenerateStep7_of_reseed H oracle _ additional true len passes (Bool.or_true _)]

/-- `drbg_generate` の二回の step 7 は、いつも値を返す。 -/
theorem drbgGenerateStep7_two_isSome (sys : DrbgSystem) (additional : Bytes) (predictionResist : Bool)
    (len : Nat) : (drbgGenerateStep7 H oracle sys additional predictionResist len 2).isSome := by
  by_cases hflag : (sys.drbg.reseedRequired || predictionResist) = true
  · rw [drbgGenerateStep7_of_reseed H oracle sys additional predictionResist len 1 hflag]
    exact drbgGenerateStep7_one_isSome H oracle sys additional predictionResist len hflag
  · have hflag' : (sys.drbg.reseedRequired || predictionResist) = false := by simpa using hflag
    rw [drbgGenerateStep7_succ]
    simp only [hflag', Bool.false_eq_true, if_false]
    cases hmacDrbgGenerate H sys.drbg.internal additional len with
    | some r => rfl
    | none => exact drbgGenerateStep7_one_isSome H oracle _ additional true len (Bool.or_true _)

/-- step 7 が bytes を返すなら、それは reseed_counter が reseed interval を超えない working state
から `hmac_drbg_generate` が作ったもので、返す状態の working state はその後のものである。 -/
theorem drbgGenerateStep7_ok {len : Nat} {data : Bytes} {sys' : DrbgSystem} (passes : Nat) :
    ∀ (sys : DrbgSystem) (additional : Bytes) (predictionResist : Bool),
      drbgGenerateStep7 H oracle sys additional predictionResist len passes = some (sys', .ok data) →
        ∃ state additional', state.reseedCounter ≤ hmacDrbgReseedInterval ∧
          hmacDrbgGenerate H state additional' len = some (data, sys'.drbg.internal) := by
  -- 通れる回数についての帰納法。bytes は step 8 でしか作られない
  induction passes with
  | zero => intro sys additional predictionResist h; cases h
  | succ passes ih =>
    intro sys additional predictionResist h
    rw [drbgGenerateStep7_succ] at h
    split at h
    · cases h
    · rename_i sys₂ additional₂ _
      split at h
      · rename_i data₂ internal hg
        simp only [Option.some.injEq, Prod.mk.injEq, Except.ok.injEq] at h
        obtain ⟨rfl, rfl⟩ := h
        exact ⟨sys₂.drbg.internal, additional₂, (hmacDrbgGenerate_some H hg).1, hg⟩
      · exact ih _ _ _ h

/-- reseed してから生成する step 7 の一回は、Generate_function の step 7.1–8 である。 -/
theorem drbgGenerateStep7_reseed_refines {sys : DrbgSystem} {spec : Sp80090.System} (hr : Refines H sys spec)
    (additional : Bytes) (predictionResist : Bool) (len : Nat)
    (hflag : (sys.drbg.reseedRequired || predictionResist) = true) :
    ∃ sys' r, drbgGenerateStep7 H oracle sys additional predictionResist len 1 = some (sys', r) ∧
      Refines H sys' (Sp80090.reseedAndGenerate H oracle spec len additional).1 ∧
      r.mapError DrbgError.status = (Sp80090.reseedAndGenerate H oracle spec len additional).2 := by
  have hre := drbgReseed_refines H oracle hr additional
  rw [drbgGenerateStep7_succ, Sp80090.reseedAndGenerate]
  simp only [hflag, if_true]
  rcases hcode : drbgReseed H oracle sys additional with ⟨sys₁, rc | u⟩ <;>
    rcases hspec : Sp80090.reseedFunction H oracle spec additional with ⟨spec₁, status | u'⟩ <;>
    rw [hcode, hspec] at hre <;> simp only [Except.mapError, reduceCtorEq, Except.error.injEq, and_false] at hre
  · -- 7.2  reseed の誤りをそのまま返す
    exact ⟨sys₁, .error rc, rfl, hre.1, by simp only [Except.mapError, hre.2]⟩
  · -- 7.3–8  reseed の後の reseed_counter は 1 で、Generate algorithm は値を返す
    obtain ⟨hv, -, data, -, rfl⟩ := drbgReseed_ok H oracle hcode
    obtain ⟨hr₁, -⟩ := hre
    obtain ⟨⟨out, internal⟩, hg⟩ := Option.isSome_iff_exists.mp
      (hmacDrbgGenerate_isSome H (hmacDrbgReseed H sys.drbg.internal data additional) [] len
        (by simp [hmacDrbgReseedInterval]))
    have hs : spec₁.state = some (hmacDrbgReseed H sys.drbg.internal data additional).workingState := by
      rw [← hr₁.abs_eq, DrbgSystem.abs_state, DrbgState.abs_of_valid (by exact hv)]
    have halg := hmacDrbgGenerate_eq H (hmacDrbgReseed H sys.drbg.internal data additional) [] len
      (hmacKey_hmacDrbgReseed H sys.drbg.internal data additional)
    rw [hg, Option.map_some] at halg
    simp only [hg, hs, Option.bind_some, ← halg]
    refine ⟨_, _, rfl, ?_, rfl⟩
    have hcalls : spec₁.calls = sys.calls + 1 := by rw [← hr₁.abs_eq, DrbgSystem.abs_calls]
    rw [hcalls]
    exact Refines.of_valid H hv (hmacDrbgGenerate_some H hg).2

end Step7

/-! ## `drbg_generate` -/

section Generate

variable (H : BlockDigest) (oracle : EntropyOracle)

/-- `drbg_generate` は Generate_function である。step 7 は二回までしか通らず、二回目は
reseed してからである。 -/
theorem drbgGenerate_refines {sys : DrbgSystem} {spec : Sp80090.System} (hr : Refines H sys spec)
    (additional : Bytes) (predictionResist : Bool) (len : Nat) :
    ∃ sys' r, drbgGenerate H oracle sys additional predictionResist len = some (sys', r) ∧
      Refines H sys' (Sp80090.generateFunction H oracle spec len predictionResist additional).1 ∧
      r.mapError DrbgError.status = (Sp80090.generateFunction H oracle spec len predictionResist additional).2 := by
  cases hv : sys.drbg.valid
  · -- 1.  使える状態がない
    have hs : spec.state = none := by rw [← hr.abs_eq, DrbgSystem.abs_state, DrbgState.abs_of_not_valid hv]
    simp only [drbgGenerate, Sp80090.generateFunction, hs, hv, Bool.not_false, if_true]
    exact ⟨_, _, rfl, hr, rfl⟩
  have hs : spec.state = some sys.drbg.internal.workingState := by
    rw [← hr.abs_eq, DrbgSystem.abs_state, DrbgState.abs_of_valid hv]
  have hnv : (!sys.drbg.valid) = false := by rw [hv]; rfl
  by_cases hl : len > drbgMaxGeneratedLenBytes
  · -- 2.  要求が長すぎる
    simp only [drbgGenerate, Sp80090.generateFunction, hs, hnv, Bool.false_eq_true, if_false, hl, if_true]
    exact ⟨_, _, rfl, hr, rfl⟩
  by_cases ha : additional.length > drbgMaxAdditionalLenBytes
  · -- 4.  additional input が長すぎる
    simp only [drbgGenerate, Sp80090.generateFunction, hs, hnv, Bool.false_eq_true, if_false, hl, ha, if_true]
    exact ⟨_, _, rfl, hr, rfl⟩
  simp only [drbgGenerate, Sp80090.generateFunction, hs, hnv, Bool.false_eq_true, if_false, hl, ha]
  -- 6.  reseed_required を消しても、表す状態は変わらない
  have hr₀ := hr.reseedRequired H false
  cases predictionResist
  · -- 8.  reseed せずに Generate algorithm を呼ぶ
    have halg := hmacDrbgGenerate_eq H sys.drbg.internal additional len (hr.key_reduced hv)
    rw [drbgGenerateStep7_succ]
    simp only [Bool.or_false, Bool.false_eq_true, if_false, Bool.false_eq_true]
    cases hg : hmacDrbgGenerate H sys.drbg.internal additional len with
    | some r =>
      obtain ⟨data, internal⟩ := r
      rw [hg, Option.map_some] at halg
      simp only [← halg]
      refine ⟨_, _, rfl, ?_, rfl⟩
      have hcalls : spec.calls = sys.calls := by rw [← hr.abs_eq, DrbgSystem.abs_calls]
      rw [hcalls]
      exact Refines.of_valid H hv (hmacDrbgGenerate_some H hg).2
    | none =>
      -- 9.  reseed を要求して step 7 へ戻る
      rw [hg, Option.map_none] at halg
      simp only [← halg]
      exact drbgGenerateStep7_reseed_refines H oracle (hr.reseedRequired H true) additional true len
        (Bool.or_true _)
  · -- 7.  prediction resistance が要求されたので reseed する
    rw [drbgGenerateStep7_of_reseed H oracle _ additional true len 1 (Bool.or_true _)]
    simp only [if_true]
    exact drbgGenerateStep7_reseed_refines H oracle hr₀ additional true len (Bool.or_true _)

/-- `drbg_generate` が bytes を返すなら、それは reseed_counter が reseed interval を超えない
working state から `hmac_drbg_generate` が作ったものである。 -/
theorem drbgGenerate_ok {sys sys' : DrbgSystem} {additional : Bytes} {predictionResist : Bool} {len : Nat}
    {data : Bytes} (h : drbgGenerate H oracle sys additional predictionResist len = some (sys', .ok data)) :
    ∃ state additional', state.reseedCounter ≤ hmacDrbgReseedInterval ∧
      hmacDrbgGenerate H state additional' len = some (data, sys'.drbg.internal) := by
  rw [drbgGenerate] at h
  split at h
  · cases h
  split at h
  · cases h
  split at h
  · cases h
  exact drbgGenerateStep7_ok H oracle 2 _ _ _ h

end Generate

/-! ## 呼び出しの列 -/

/-- DRBG への呼び出し。 -/
inductive DrbgCall
  /-- `drbg_instantiate ( state, personal, personal_len )` -/
  | instantiate (personal : Bytes)
  /-- `drbg_reseed ( state, additional, additional_len )` -/
  | reseed (additional : Bytes)
  /-- `drbg_generate ( state, additional, additional_len, prediction_resist, data, len )` -/
  | generate (additional : Bytes) (predictionResist : Bool) (len : Nat)
  /-- `drbg_uninstantiate ( state )` -/
  | uninstantiate
  deriving DecidableEq, Repr

/-- 断られる要求：使える状態がないのに reseed や generate を求めるか、personalization string、
additional input、求める長さが限度を超える。 -/
def DrbgCall.Rejected (sys : DrbgSystem) : DrbgCall → Prop
  | .instantiate personal => personal.length > drbgMaxPersonalLenBytes
  | .reseed additional => sys.drbg.valid = false ∨ additional.length > drbgMaxAdditionalLenBytes
  | .generate additional _ len =>
    sys.drbg.valid = false ∨ len > drbgMaxGeneratedLenBytes ∨ additional.length > drbgMaxAdditionalLenBytes
  | .uninstantiate => False

section Run

variable (H : BlockDigest) (oracle : EntropyOracle)

/-- 始めの状態：`struct drbg_state` は 0 で埋まっていて、使えない。 -/
def drbgInitial : DrbgSystem :=
  ⟨⟨⟨List.replicate H.digestsize 0, List.replicate H.digestsize 0, 0⟩, false, false⟩, 0⟩

/-- 呼び出しを一つ行い、返された bytes（instantiate、reseed、uninstantiate では空）か誤りを
返す。`none` は `drbg_generate` の step 7 が通れる回数を使い切ったことを表す。 -/
def drbgCall (sys : DrbgSystem) : DrbgCall → Option (DrbgSystem × Except DrbgError Bytes)
  | .instantiate personal =>
    let (sys, r) := drbgInstantiate H oracle sys personal
    some (sys, r.map fun _ => [])
  | .reseed additional =>
    let (sys, r) := drbgReseed H oracle sys additional
    some (sys, r.map fun _ => [])
  | .generate additional predictionResist len => drbgGenerate H oracle sys additional predictionResist len
  | .uninstantiate => some (drbgUninstantiate H sys, .ok [])

/-- 仕様の関数を一つ呼ぶ。 -/
def specCall (spec : Sp80090.System) : DrbgCall → Sp80090.System × Except Sp80090.Status Bytes
  | .instantiate personal =>
    let (spec, r) := Sp80090.instantiateFunction H oracle spec personal
    (spec, r.map fun _ => [])
  | .reseed additional =>
    let (spec, r) := Sp80090.reseedFunction H oracle spec additional
    (spec, r.map fun _ => [])
  | .generate additional predictionResistance len =>
    Sp80090.generateFunction H oracle spec len predictionResistance additional
  | .uninstantiate => (Sp80090.uninstantiateFunction spec, .ok [])

/-- 呼び出しの列を順に行う。 -/
def drbgRun (sys : DrbgSystem) : List DrbgCall → Option (DrbgSystem × List (Except DrbgError Bytes))
  | [] => some (sys, [])
  | call :: calls =>
    match drbgCall H oracle sys call with
    | none => none
    | some (sys, r) => (drbgRun sys calls).map fun (sys, rs) => (sys, r :: rs)

/-- 仕様の関数の列を順に呼ぶ。 -/
def specRun (spec : Sp80090.System) : List DrbgCall → Sp80090.System × List (Except Sp80090.Status Bytes)
  | [] => (spec, [])
  | call :: calls =>
    let (spec, r) := specCall H oracle spec call
    let (spec, rs) := specRun spec calls
    (spec, r :: rs)

theorem mapError_map {α β ε ε' : Type} (f : α → β) (g : ε → ε') (r : Except ε α) :
    (r.map f).mapError g = (r.mapError g).map f := by
  cases r <;> rfl

/-- 呼び出し一つで、code の状態と返り値は仕様のそれを表す。 -/
theorem drbgCall_refines {sys : DrbgSystem} {spec : Sp80090.System} (hr : Refines H sys spec)
    (call : DrbgCall) :
    ∃ sys' r, drbgCall H oracle sys call = some (sys', r) ∧ Refines H sys' (specCall H oracle spec call).1 ∧
      r.mapError DrbgError.status = (specCall H oracle spec call).2 := by
  cases call with
  | instantiate personal =>
    obtain ⟨h₁, h₂⟩ := drbgInstantiate_refines H oracle hr personal
    simp only [drbgCall, specCall]
    generalize drbgInstantiate H oracle sys personal = res at h₁ h₂ ⊢
    generalize Sp80090.instantiateFunction H oracle spec personal = res' at h₁ h₂ ⊢
    exact ⟨res.1, _, rfl, h₁, by rw [mapError_map, h₂]⟩
  | reseed additional =>
    obtain ⟨h₁, h₂⟩ := drbgReseed_refines H oracle hr additional
    simp only [drbgCall, specCall]
    generalize drbgReseed H oracle sys additional = res at h₁ h₂ ⊢
    generalize Sp80090.reseedFunction H oracle spec additional = res' at h₁ h₂ ⊢
    exact ⟨res.1, _, rfl, h₁, by rw [mapError_map, h₂]⟩
  | generate additional predictionResist len =>
    exact drbgGenerate_refines H oracle hr additional predictionResist len
  | uninstantiate =>
    -- 使えない状態は何も表さない
    refine ⟨_, _, rfl, ⟨?_, fun h => by cases h⟩, rfl⟩
    obtain ⟨rfl, -⟩ := hr
    rfl

/-- **呼び出しの列の全体で、code の状態と返り値は仕様のそれを表す。** -/
theorem drbgRun_refines (calls : List DrbgCall) :
    ∀ {sys : DrbgSystem} {spec : Sp80090.System}, Refines H sys spec →
      ∃ sys' outs, drbgRun H oracle sys calls = some (sys', outs) ∧
        Refines H sys' (specRun H oracle spec calls).1 ∧
        outs.map (Except.mapError DrbgError.status) = (specRun H oracle spec calls).2 := by
  -- 列についての帰納法。一つの呼び出しは `drbgCall_refines` で進める
  induction calls with
  | nil => intro sys spec hr; exact ⟨sys, [], rfl, hr, rfl⟩
  | cons call calls ih =>
    intro sys spec hr
    obtain ⟨sys₁, r, hcall, hr₁, hres⟩ := drbgCall_refines H oracle hr call
    obtain ⟨sys', outs, hrun, hr', houts⟩ := ih hr₁
    refine ⟨sys', r :: outs, ?_, hr', ?_⟩
    · simp only [drbgRun, hcall, hrun, Option.map_some]
    · simp only [specRun, List.map_cons, hres, houts]

/-- 始めの状態は何も表さない。 -/
theorem refines_drbgInitial : Refines H (drbgInitial H) ⟨none, 0⟩ :=
  ⟨rfl, fun h => by cases h⟩

/-- 断られる要求は誤りを返し、状態を変えない。 -/
theorem drbgCall_rejected {sys : DrbgSystem} {call : DrbgCall} (h : call.Rejected sys) :
    ∃ e, drbgCall H oracle sys call = some (sys, .error e) := by
  cases call with
  | instantiate personal =>
    have hp : personal.length > drbgMaxPersonalLenBytes := h
    have hs : ¬drbgSecurityStrength > drbgMaxSecurityStrength := by decide
    exact ⟨.erange, by simp only [drbgCall, drbgInstantiate, hs, hp, if_false, if_true]; rfl⟩
  | reseed additional =>
    -- 使える状態がなければ、長さより先にそれを断る
    cases hv : sys.drbg.valid
    · exact ⟨.einval, by simp only [drbgCall, drbgReseed, hv, Bool.not_false, if_true]; rfl⟩
    have ha : additional.length > drbgMaxAdditionalLenBytes := by
      rcases h with h | h
      · rw [hv] at h; cases h
      · exact h
    refine ⟨.erange, ?_⟩
    simp only [drbgCall, drbgReseed, hv, Bool.not_true, Bool.false_eq_true, ha, if_false, if_true]
    rfl
  | generate additional predictionResist len =>
    cases hv : sys.drbg.valid
    · exact ⟨.einval, by simp only [drbgCall, drbgGenerate, hv, Bool.not_false, if_true]⟩
    have hla : len > drbgMaxGeneratedLenBytes ∨ additional.length > drbgMaxAdditionalLenBytes := by
      rcases h with h | h
      · rw [hv] at h; cases h
      · exact h
    refine ⟨.erange, ?_⟩
    simp only [drbgCall, drbgGenerate, hv, Bool.not_true, Bool.false_eq_true, if_false]
    rcases hla with hl | ha
    · simp only [hl, if_true]
    · by_cases hl : len > drbgMaxGeneratedLenBytes <;> simp only [hl, ha, if_true, if_false]
  | uninstantiate => exact h.elim

/-- **`drbg.c` と `hmac_drbg.c` は、prediction resistance つきの SP 800-90 HMAC_DRBG である。**
始めの状態からのどの呼び出しの列でも、状態の `( V, Key, reseed_counter )` と返す bytes は
SP 800-90 の関数のものと同じで、誤りは同じ status に移る。`drbg_generate` の返す bytes は
reseed_counter が reseed interval を超えない working state から作られ、step 7 の loop は二回で
終わり、断られる要求は誤りを返して状態を変えない。 -/
theorem drbg_implements_hmac_drbg (H : BlockDigest) (oracle : EntropyOracle) :
    (∀ calls : List DrbgCall, ∃ sys' outs, drbgRun H oracle (drbgInitial H) calls = some (sys', outs) ∧
        sys'.abs = (specRun H oracle ⟨none, 0⟩ calls).1 ∧
        outs.map (Except.mapError DrbgError.status) = (specRun H oracle ⟨none, 0⟩ calls).2) ∧
      (∀ (sys sys' : DrbgSystem) (additional : Bytes) (predictionResist : Bool) (len : Nat) (data : Bytes),
        drbgGenerate H oracle sys additional predictionResist len = some (sys', .ok data) →
          ∃ state additional', state.reseedCounter ≤ hmacDrbgReseedInterval ∧
            hmacDrbgGenerate H state additional' len = some (data, sys'.drbg.internal)) ∧
      (∀ (sys : DrbgSystem) (additional : Bytes) (predictionResist : Bool) (len passes : Nat),
        drbgGenerateStep7 H oracle sys additional predictionResist len (passes + 2) =
            drbgGenerateStep7 H oracle sys additional predictionResist len 2 ∧
          (drbgGenerateStep7 H oracle sys additional predictionResist len 2).isSome) ∧
      (∀ (sys : DrbgSystem) (call : DrbgCall), call.Rejected sys →
        ∃ e, drbgCall H oracle sys call = some (sys, .error e)) := by
  refine ⟨fun calls => ?_, fun _ _ _ _ _ _ h => drbgGenerate_ok H oracle h,
    fun sys additional predictionResist len passes => ⟨?_, ?_⟩, fun _ _ h => drbgCall_rejected H oracle h⟩
  · obtain ⟨sys', outs, hrun, hr, houts⟩ := drbgRun_refines H oracle calls (refines_drbgInitial H)
    exact ⟨sys', outs, hrun, hr.abs_eq, houts⟩
  · exact drbgGenerateStep7_add_two H oracle sys additional predictionResist len passes
  · exact drbgGenerateStep7_two_isSome H oracle sys additional predictionResist len

end Run

end FlexBoot.Drbg
