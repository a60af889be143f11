import FlexBoot.Crypto.Drbg
import FlexBoot.Properties.Hmac

/-!
# `hmac_drbg.c` は SP 800-90 の HMAC_DRBG の algorithm である

SP 800-90 10.1.2 は HMAC_DRBG の working state を `( V, Key, reseed_counter )` とし、
HMAC を使って

* `HMAC_DRBG_Update ( provided_data, Key, V )`（10.1.2.2）
* Instantiate、Reseed、Generate の algorithm（10.1.2.3–10.1.2.5）

を書く。ここではそれを `Sp80090` に HMAC（`hmacRfc2104`）の上の関数として書き、
`hmac_drbg.c` の関数がそれを計算することを示す。

証明は三段である。

1. HMAC の一回：`hmac_drbg_update_key` と `hmac_drbg_update_value` は、`hmacFinal_hmacInit`
   により RFC 2104 の HMAC を一つ計算する（`hmacDrbgUpdateKey_eq`、`hmacDrbgUpdateValue_eq`）。
2. `hmac_drbg_update` は HMAC_DRBG_Update である（`hmacDrbgUpdate_eq`）。
3. `hmac_drbg_generate` の `while ( len )` は、`temp` に `V` を足していく step 4 の先頭を
   書く（`hmacDrbgGenerateLoop_eq`）。

key は block より長くなければ HMAC に縮められない。Update の後の key は HMAC の出力で、
digest の長さしかないので、その条件はいつも成り立つ（`keyFits_hmacDrbgUpdate`）。
-/

namespace FlexBoot.Drbg

open Infra FlexBoot.Hmac

/-! ## SP 800-90 の HMAC_DRBG -/

namespace Sp80090

/-- 10.1.2.1 の working state。 -/
structure WorkingState where
  v : Bytes
  key : Bytes
  reseedCounter : Nat
  deriving DecidableEq, Repr

section Algorithm

variable (H : BlockDigest)

/-- 10.1.2.2 `HMAC_DRBG_Update ( provided_data, K, V )`。新しい `( K, V )` を返す。 -/
def update (providedData key v : Bytes) : Bytes × Bytes :=
  let key := hmacRfc2104 H key (v ++ [0x00] ++ providedData)
  let v := hmacRfc2104 H key v
  if providedData = [] then (key, v)
  else
    let key := hmacRfc2104 H key (v ++ [0x01] ++ providedData)
    (key, hmacRfc2104 H key v)

/-- 10.1.2.3 Instantiate algorithm。nonce は entropy input の後に置く。 -/
def instantiateAlgorithm (entropyInput nonce personalizationString : Bytes) : WorkingState :=
  let seedMaterial := entropyInput ++ nonce ++ personalizationString
  let key := List.replicate H.digestsize 0x00
  let v := List.replicate H.digestsize 0x01
  let (key, v) := update H seedMaterial key v
  ⟨v, key, 1⟩

/-- 10.1.2.4 Reseed algorithm。 -/
def reseedAlgorithm (ws : WorkingState) (entropyInput additionalInput : Bytes) : WorkingState :=
  let seedMaterial := entropyInput ++ additionalInput
  let (key, v) := update H seedMaterial ws.key ws.v
  ⟨v, key, 1⟩

/-- 10.1.2.5 step 3–4：`temp` が `requested` byte に届くまで、`V = HMAC ( Key, V )` を
`temp` に足す。最後の `temp` と `V` を返す。 -/
def generateTemp (key : Bytes) (requested : Nat) (temp v : Bytes) : Bytes × Bytes :=
  if temp.length < requested then
    let v := hmacRfc2104 H key v
    generateTemp key requested (temp ++ v) v
  else (temp, v)
termination_by requested - temp.length
decreasing_by
  have := H.digestsize_pos
  rw [List.length_append, length_hmacRfc2104]
  omega

/-- 10.1.2.5 Generate algorithm。長さは byte で数える。`none` は reseed が要ることを表す。 -/
def generateAlgorithm (ws : WorkingState) (requested : Nat) (additionalInput : Bytes) :
    Option (Bytes × WorkingState) :=
  if ws.reseedCounter > hmacDrbgReseedInterval then none
  else
    let (key, v) := if additionalInput ≠ [] then update H additionalInput ws.key ws.v else (ws.key, ws.v)
    let (temp, v) := generateTemp H key requested [] v
    let returnedBits := temp.take requested
    let (key, v) := update H additionalInput key v
    some (returnedBits, ⟨v, key, ws.reseedCounter + 1⟩)

end Algorithm

end Sp80090

/-! ## HMAC の一回 -/

section Hmac

variable (H : BlockDigest)

/-- HMAC の出力は digest の長さしかないので、縮められない。 -/
theorem hmacKey_hmacRfc2104 (key text : Bytes) : hmacKey H (hmacRfc2104 H key text) = hmacRfc2104 H key text := by
  rw [hmacKey_eq, if_neg]
  rw [length_hmacRfc2104]
  exact Nat.not_lt.mpr H.digestsize_le_blocksize

/-- `hmac_drbg_update_key` は `K = HMAC ( K, V || single || provided_data )` である。 -/
theorem hmacDrbgUpdateKey_eq (state : HmacDrbgState) (data : Bytes) (single : UInt8) :
    hmacDrbgUpdateKey H state data single =
      { state with key := hmacRfc2104 H state.key (state.value ++ [single] ++ data) } := by
  have h := hmacFinal_hmacInit H state.key (state.value ++ [single] ++ data)
  simp only [hmacUpdate, digestUpdate, List.append_assoc] at h
  simp only [hmacDrbgUpdateKey, hmacUpdate, digestUpdate, List.append_assoc, h]

/-- `hmac_drbg_update_value` は `V = HMAC ( K, V )` で、key を縮めた後のものに置き換える。 -/
theorem hmacDrbgUpdateValue_eq (state : HmacDrbgState) :
    hmacDrbgUpdateValue H state =
      { state with value := hmacRfc2104 H state.key state.value, key := hmacKey H state.key } := by
  have h := hmacFinal_hmacInit H state.key state.value
  simp only [hmacDrbgUpdateValue, h]

end Hmac

/-! ## HMAC_DRBG_Update -/

section Update

variable (H : BlockDigest)

/-- HMAC_DRBG_Update の後の key は HMAC の出力で、縮められない。 -/
theorem hmacKey_update_fst (data key v : Bytes) :
    hmacKey H (Sp80090.update H data key v).1 = (Sp80090.update H data key v).1 := by
  rw [Sp80090.update]
  split <;> exact hmacKey_hmacRfc2104 H _ _

/-- `hmac_drbg_update` は HMAC_DRBG_Update である。 -/
theorem hmacDrbgUpdate_eq (state : HmacDrbgState) (data : Bytes) :
    hmacDrbgUpdate H state data =
      { state with key := (Sp80090.update H data state.key state.value).1,
                   value := (Sp80090.update H data state.key state.value).2 } := by
  -- `data.length = 0` は `data = []` と同じ
  by_cases hd : data = []
  · simp only [hmacDrbgUpdate, hmacDrbgUpdateKey_eq, hmacDrbgUpdateValue_eq, hmacKey_hmacRfc2104,
      Sp80090.update, hd, List.length_nil, if_true]
  · have hlen : data.length ≠ 0 := fun h => hd (List.length_eq_zero_iff.mp h)
    simp only [hmacDrbgUpdate, hmacDrbgUpdateKey_eq, hmacDrbgUpdateValue_eq, hmacKey_hmacRfc2104,
      Sp80090.update, hd, hlen, if_false]

end Update

/-! ## Generate の loop -/

section Generate

variable (H : BlockDigest)

/-- step 4 の `temp` は、始めの `temp` の後に足していったものである。 -/
theorem generateTemp_extends (key : Bytes) (requested : Nat) (temp v : Bytes) :
    temp <+: (Sp80090.generateTemp H key requested temp v).1 := by
  fun_induction Sp80090.generateTemp H key requested temp v with
  | case1 temp v h v' ih => exact (List.prefix_append temp v').trans ih
  | case2 temp v h => exact List.prefix_refl temp

/-- `while ( len )` の loop は、step 4 の `temp` のうち始めの `temp` より後の `len` byte を書き、
最後の `V` を残す。key は縮められない長さとする。 -/
theorem hmacDrbgGenerateLoop_eq (len : Nat) :
    ∀ (state : HmacDrbgState) (temp : Bytes), hmacKey H state.key = state.key →
      hmacDrbgGenerateLoop H state len =
        (((Sp80090.generateTemp H state.key (temp.length + len) temp state.value).1.drop temp.length).take len,
         { state with value := (Sp80090.generateTemp H state.key (temp.length + len) temp state.value).2 }) := by
  -- `len` についての強い帰納法：一回ごとに一 byte 以上減る
  induction len using Nat.strongRecOn with
  | ind len ih =>
  intro state temp hkey
  rcases Nat.eq_zero_or_pos len with rfl | hpos
  · rw [hmacDrbgGenerateLoop, Sp80090.generateTemp, Nat.add_zero, if_neg (Nat.lt_irrefl _)]
    simp
  have hd := H.digestsize_pos
  generalize hv : hmacRfc2104 H state.key state.value = v
  have hvlen : v.length = H.digestsize := by rw [← hv, length_hmacRfc2104]
  have hstep : hmacDrbgUpdateValue H state = { state with value := v } := by
    rw [hmacDrbgUpdateValue_eq, hkey, hv]
  have hspec : Sp80090.generateTemp H state.key (temp.length + len) temp state.value =
      Sp80090.generateTemp H state.key (temp.length + len) (temp ++ v) v := by
    rw [Sp80090.generateTemp, if_pos (by omega), hv]
  rw [hmacDrbgGenerateLoop, if_neg (by omega), hspec, hstep]
  obtain ⟨rest, hrest⟩ := generateTemp_extends H state.key (temp.length + len) (temp ++ v) v
  by_cases hlen : len > H.digestsize
  · -- `V` を全部書き、残りは次の `V` から
    have hsum : (temp ++ v).length + (len - H.digestsize) = temp.length + len := by
      rw [List.length_append, hvlen]
      omega
    have hrec := ih (len - H.digestsize) (by omega) { state with value := v } (temp ++ v) hkey
    rw [hsum] at hrec
    simp only [hlen, if_true, hrec, ← hrest]
    rw [List.drop_left, List.append_assoc, List.drop_left, List.take_append, hvlen,
      List.take_of_length_le (Nat.le_of_eq hvlen), List.take_of_length_le (show v.length ≤ len by omega)]
  · -- `V` の先頭だけを書いて終わる。`temp` はもう足りている
    have hstop : Sp80090.generateTemp H state.key (temp.length + len) (temp ++ v) v = (temp ++ v, v) := by
      rw [Sp80090.generateTemp, if_neg (by rw [List.length_append, hvlen]; omega)]
    have hzero : hmacDrbgGenerateLoop H { state with value := v } 0 = ([], { state with value := v }) := by
      rw [hmacDrbgGenerateLoop, if_pos rfl]
    simp only [hlen, if_false, Nat.sub_self, hzero, hstop, List.append_nil, List.drop_left]

end Generate

/-! ## algorithm -/

section Algorithm

variable (H : BlockDigest)

/-- `hmac_drbg_state` の `( V, Key, reseed_counter )`。 -/
def HmacDrbgState.workingState (state : HmacDrbgState) : Sp80090.WorkingState :=
  ⟨state.value, state.key, state.reseedCounter⟩

/-- `hmac_drbg_reseed` は Reseed algorithm である。 -/
theorem hmacDrbgReseed_eq (state : HmacDrbgState) (entropy additional : Bytes) :
    (hmacDrbgReseed H state entropy additional).workingState =
      Sp80090.reseedAlgorithm H state.workingState entropy additional := by
  simp only [hmacDrbgReseed, hmacDrbgUpdate_eq, Sp80090.reseedAlgorithm, HmacDrbgState.workingState]

/-- `hmac_drbg_instantiate` は、nonce を entropy input に含めた Instantiate algorithm である。 -/
theorem hmacDrbgInstantiate_eq (state : HmacDrbgState) (entropy personal : Bytes) :
    (hmacDrbgInstantiate H state entropy personal).workingState =
      Sp80090.instantiateAlgorithm H entropy [] personal := by
  simp only [hmacDrbgInstantiate, hmacDrbgReseed, hmacDrbgUpdate_eq, Sp80090.instantiateAlgorithm,
    HmacDrbgState.workingState, List.append_nil]

/-- `hmac_drbg_generate` は Generate algorithm である。key は縮められない長さとする。 -/
theorem hmacDrbgGenerate_eq (state : HmacDrbgState) (additional : Bytes) (len : Nat)
    (hkey : hmacKey H state.key = state.key) :
    (hmacDrbgGenerate H state additional len).map (fun r => (r.1, r.2.workingState)) =
      Sp80090.generateAlgorithm H state.workingState len additional := by
  by_cases hc : state.reseedCounter > hmacDrbgReseedInterval
  · simp only [hmacDrbgGenerate, Sp80090.generateAlgorithm, HmacDrbgState.workingState, hc, if_true,
      Option.map_none]
  -- step 2 の後の `( Key, V )`。どちらの場合も key は縮められない
  generalize hp : (if additional ≠ [] then Sp80090.update H additional state.key state.value
    else (state.key, state.value)) = p
  have h2 : (if additional.length ≠ 0 then hmacDrbgUpdate H state additional else state) =
      { state with key := p.1, value := p.2 } := by
    by_cases ha : additional = []
    · simp only [← hp, ha, List.length_nil, ne_eq, not_true_eq_false, if_false]
    · have hlen : additional.length ≠ 0 := fun h => ha (List.length_eq_zero_iff.mp h)
      simp only [← hp, ha, hlen, ne_eq, not_false_eq_true, if_true, hmacDrbgUpdate_eq]
  have hkey2 : hmacKey H p.1 = p.1 := by
    by_cases ha : additional = []
    · simp only [← hp, ha, ne_eq, not_true_eq_false, if_false, hkey]
    · simp only [← hp, ha, ne_eq, not_false_eq_true, if_true, hmacKey_update_fst]
  have hloop := hmacDrbgGenerateLoop_eq H len { state with key := p.1, value := p.2 } [] hkey2
  simp only [hmacDrbgGenerate, Sp80090.generateAlgorithm, HmacDrbgState.workingState, hc, if_false, hp, h2]
  simp only [hloop, hmacDrbgUpdate_eq, List.length_nil, Nat.zero_add, List.drop_zero, Option.map_some]

end Algorithm

/-! ## reseed_counter と key -/

section Counter

variable (H : BlockDigest)

@[simp] theorem reseedCounter_hmacDrbgReseed (state : HmacDrbgState) (entropy additional : Bytes) :
    (hmacDrbgReseed H state entropy additional).reseedCounter = 1 := rfl

/-- reseed の後の key は HMAC の出力で、縮められない。 -/
theorem hmacKey_hmacDrbgReseed (state : HmacDrbgState) (entropy additional : Bytes) :
    hmacKey H (hmacDrbgReseed H state entropy additional).key = (hmacDrbgReseed H state entropy additional).key := by
  simp only [hmacDrbgReseed, hmacDrbgUpdate_eq, hmacKey_update_fst]

theorem hmacKey_hmacDrbgInstantiate (state : HmacDrbgState) (entropy personal : Bytes) :
    hmacKey H (hmacDrbgInstantiate H state entropy personal).key = (hmacDrbgInstantiate H state entropy personal).key :=
  hmacKey_hmacDrbgReseed H _ entropy personal

/-- `hmac_drbg_generate` が返すのは、reseed_counter が reseed interval を超えないときだけで、
その後の key は縮められない。 -/
theorem hmacDrbgGenerate_some {state : HmacDrbgState} {additional : Bytes} {len : Nat} {data : Bytes}
    {state' : HmacDrbgState} (h : hmacDrbgGenerate H state additional len = some (data, state')) :
    state.reseedCounter ≤ hmacDrbgReseedInterval ∧ hmacKey H state'.key = state'.key := by
  rw [hmacDrbgGenerate] at h
  split at h
  · cases h
  · simp only [Option.some.injEq, Prod.mk.injEq] at h
    obtain ⟨-, rfl⟩ := h
    refine ⟨Nat.le_of_not_lt ‹_›, ?_⟩
    simp only [hmacDrbgUpdate_eq, hmacKey_update_fst]

/-- reseed_counter が reseed interval を超えなければ、`hmac_drbg_generate` は reseed を求めない。 -/
theorem hmacDrbgGenerate_isSome (state : HmacDrbgState) (additional : Bytes) (len : Nat)
    (h : state.reseedCounter ≤ hmacDrbgReseedInterval) :
    (hmacDrbgGenerate H state additional len).isSome := by
  rw [hmacDrbgGenerate, if_neg (Nat.not_lt.mpr h)]
  rfl

end Counter

end FlexBoot.Drbg
