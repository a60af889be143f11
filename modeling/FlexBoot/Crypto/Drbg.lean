import FlexBoot.Crypto.Hmac

/-!
# DRBG（`crypto/drbg.c`、`crypto/hmac_drbg.c`）

`drbg.c` は ANS X9.82 Part 3 / NIST SP 800-90 の Instantiate、Reseed、Generate、Uninstantiate の
関数を、`hmac_drbg.c` はその下の HMAC_DRBG の algorithm を書き写したものである。安全強度は
一つだけで、prediction resistance はいつも使える。nonce は entropy input に含める。

`drbg_generate` は step 7 で要れば reseed し、HMAC_DRBG の generate が `-ESTALE`（reseed が
要る）を返すと、prediction resistance を要求して step 7 へ戻る。

## model

* HMAC は `Crypto/Hmac` の `hmac_init`、`hmac_update`、`hmac_final` で、digest は
  `HMAC_DRBG_HASH ( HMAC_DRBG_ALGORITHM )`（`sha256_algorithm`）を引数 `hash` に置く。
* `key` と `value` は `HMAC_DRBG_MAX_OUTLEN_BYTES` の配列のうち、読み書きされる先頭の
  `out_len` byte で持つ。
* `get_entropy_input` は oracle で、何度目の呼び出しかと要求から結果を返す。呼んだ回数は
  `DrbgSystem.calls` に数える。
* step 7 へ戻る `goto` は、step 7 からの残りを何回まで通るかを数える引数で書く。
  `drbg_generate` は二回で始め、それを使い切ることはない（`Properties/Drbg`）。
-/

namespace FlexBoot.Drbg

open Infra FlexBoot.Hmac

/-! ## 定数 -/

/-- `DRBG_SECURITY_STRENGTH`。 -/
def drbgSecurityStrength : Nat := 128

/-- `DRBG_MAX_SECURITY_STRENGTH`（`HMAC_DRBG_SHA256` の 256）。 -/
def drbgMaxSecurityStrength : Nat := 256

/-- `DRBG_MIN_ENTROPY_LEN_BYTES`（`HMAC_DRBG_MIN_ENTROPY_LEN_BYTES ( 128 )`）。 -/
def drbgMinEntropyLenBytes : Nat := drbgSecurityStrength / 8

/-- `DRBG_MAX_ENTROPY_LEN_BYTES`。 -/
def drbgMaxEntropyLenBytes : Nat := 32

/-- `DRBG_MAX_PERSONAL_LEN_BYTES`。 -/
def drbgMaxPersonalLenBytes : Nat := 0xffffffff

/-- `DRBG_MAX_ADDITIONAL_LEN_BYTES`。 -/
def drbgMaxAdditionalLenBytes : Nat := 0xffffffff

/-- `DRBG_MAX_GENERATED_LEN_BYTES`。 -/
def drbgMaxGeneratedLenBytes : Nat := 0xffff

/-- `HMAC_DRBG_RESEED_INTERVAL`。 -/
def hmacDrbgReseedInterval : Nat := 1024

/-! ## 状態 -/

/-- `struct hmac_drbg_state`。 -/
structure HmacDrbgState where
  value : Bytes
  key : Bytes
  reseedCounter : Nat
  deriving DecidableEq, Repr

/-- `struct drbg_state`。 -/
structure DrbgState where
  internal : HmacDrbgState
  reseedRequired : Bool
  valid : Bool
  deriving DecidableEq, Repr

/-- `drbg.c` の返す誤り。 -/
inductive DrbgError
  /-- `-ENOTSUP` -/
  | enotsup
  /-- `-ERANGE` -/
  | erange
  /-- `-EINVAL` -/
  | einval
  /-- `get_entropy_input` の返した負の値 -/
  | entropy (rc : Int)
  deriving DecidableEq, Repr

/-- `get_entropy_input ( min_entropy_bits, data, min_len, max_len )` の引数。 -/
structure EntropyRequest where
  minEntropyBits : Nat
  minLen : Nat
  maxLen : Nat
  deriving DecidableEq, Repr

/-- `get_entropy_input` の oracle：何度目の呼び出しかと要求から、entropy input か負の値を返す。 -/
def EntropyOracle : Type := Nat → EntropyRequest → Except Int Bytes

/-- DRBG の状態と、`get_entropy_input` を呼んだ回数。 -/
structure DrbgSystem where
  drbg : DrbgState
  calls : Nat

/-- `get_entropy_input` を一回呼ぶ。 -/
def getEntropyInput (oracle : EntropyOracle) (sys : DrbgSystem) (request : EntropyRequest) :
    Except Int Bytes × DrbgSystem :=
  (oracle sys.calls request, { sys with calls := sys.calls + 1 })

/-! ## `hmac_drbg.c` -/

section HmacDrbg

variable (hash : BlockDigest)

/-- `hmac_drbg_update_key`：`K = HMAC ( K, V || single || provided_data )`。 -/
def hmacDrbgUpdateKey (state : HmacDrbgState) (data : Bytes) (single : UInt8) : HmacDrbgState :=
  let (context, key) := hmacInit hash state.key
  let context := hmacUpdate context state.value
  let context := hmacUpdate context [single]
  let context := hmacUpdate context data
  -- 出力は `state->key` に書く。`k_opad` は書く前に key から作ってある
  let (key, _) := hmacFinal hash context key
  { state with key := key }

/-- `hmac_drbg_update_value`：`V = HMAC ( K, V )`。 -/
def hmacDrbgUpdateValue (state : HmacDrbgState) : HmacDrbgState :=
  let (context, key) := hmacInit hash state.key
  let context := hmacUpdate context state.value
  let (value, key) := hmacFinal hash context key
  { state with value := value, key := key }

/-- `hmac_drbg_update`（HMAC_DRBG_Update）。 -/
def hmacDrbgUpdate (state : HmacDrbgState) (data : Bytes) : HmacDrbgState :=
  let state := hmacDrbgUpdateKey hash state data 0x00
  let state := hmacDrbgUpdateValue hash state
  if data.length = 0 then state
  else
    let state := hmacDrbgUpdateKey hash state data 0x01
    hmacDrbgUpdateValue hash state

/-- `hmac_drbg_reseed`。 -/
def hmacDrbgReseed (state : HmacDrbgState) (entropy additional : Bytes) : HmacDrbgState :=
  let seedMaterial := entropy ++ additional
  let state := hmacDrbgUpdate hash state seedMaterial
  { state with reseedCounter := 1 }

/-- `hmac_drbg_instantiate`。`Key = 0x00 00..00`、`V = 0x01 01..01` から reseed する。 -/
def hmacDrbgInstantiate (state : HmacDrbgState) (entropy personal : Bytes) : HmacDrbgState :=
  let state := { state with
    key := List.replicate hash.digestsize 0x00, value := List.replicate hash.digestsize 0x01 }
  hmacDrbgReseed hash state entropy personal

/-- `hmac_drbg_generate` の `while ( len )` の loop。`V = HMAC ( Key, V )` の先頭を書いていく。 -/
def hmacDrbgGenerateLoop (state : HmacDrbgState) (len : Nat) : Bytes × HmacDrbgState :=
  if len = 0 then ([], state)
  else
    let state := hmacDrbgUpdateValue hash state
    let fragLen := if len > hash.digestsize then hash.digestsize else len
    let data := state.value.take fragLen
    let (rest, state) := hmacDrbgGenerateLoop state (len - fragLen)
    (data ++ rest, state)
termination_by len
decreasing_by
  have := hash.digestsize_pos
  split <;> omega

/-- `hmac_drbg_generate`。reseed が要れば `-ESTALE`（`none`）で、状態は変わらない。 -/
def hmacDrbgGenerate (state : HmacDrbgState) (additional : Bytes) (len : Nat) :
    Option (Bytes × HmacDrbgState) :=
  if state.reseedCounter > hmacDrbgReseedInterval then none
  else
    let state := if additional.length ≠ 0 then hmacDrbgUpdate hash state additional else state
    let (data, state) := hmacDrbgGenerateLoop hash state len
    let state := hmacDrbgUpdate hash state additional
    some (data, { state with reseedCounter := state.reseedCounter + 1 })

end HmacDrbg

/-! ## `drbg.c` -/

section Drbg

variable (hash : BlockDigest) (oracle : EntropyOracle)

/-- `drbg_instantiate ( state, personal, personal_len )`。 -/
def drbgInstantiate (sys : DrbgSystem) (personal : Bytes) : DrbgSystem × Except DrbgError Unit :=
  if drbgSecurityStrength > drbgMaxSecurityStrength then (sys, .error .enotsup)
  else if personal.length > drbgMaxPersonalLenBytes then (sys, .error .erange)
  else
    let entropyBits := (3 * drbgSecurityStrength + 1) / 2
    match getEntropyInput oracle sys ⟨entropyBits, drbgMinEntropyLenBytes, drbgMaxEntropyLenBytes⟩ with
    | (.error rc, sys) => (sys, .error (.entropy rc))
    | (.ok data, sys) =>
      let internal := hmacDrbgInstantiate hash sys.drbg.internal data personal
      ({ sys with drbg := { internal := internal, reseedRequired := false, valid := true } }, .ok ())

/-- `drbg_reseed ( state, additional, additional_len )`。 -/
def drbgReseed (sys : DrbgSystem) (additional : Bytes) : DrbgSystem × Except DrbgError Unit :=
  if !sys.drbg.valid then (sys, .error .einval)
  else if additional.length > drbgMaxAdditionalLenBytes then (sys, .error .erange)
  else
    match getEntropyInput oracle sys ⟨drbgSecurityStrength, drbgMinEntropyLenBytes, drbgMaxEntropyLenBytes⟩ with
    | (.error rc, sys) => (sys, .error (.entropy rc))
    | (.ok data, sys) =>
      let internal := hmacDrbgReseed hash sys.drbg.internal data additional
      ({ sys with drbg := { sys.drbg with internal := internal } }, .ok ())

/-- `drbg_generate` の step 7 から後。`passes` は step 7 をあと何回通れるか。`none` は、それを
使い切ってなお step 7 へ戻ろうとしたことを表す。 -/
def drbgGenerateStep7 (sys : DrbgSystem) (additional : Bytes) (predictionResist : Bool) (len : Nat) :
    Nat → Option (DrbgSystem × Except DrbgError Bytes)
  | 0 => none
  | passes + 1 =>
    -- 7.  reseed が要るか、prediction resistance が要求されていれば reseed する
    let reseeded : Except (DrbgSystem × DrbgError) (DrbgSystem × Bytes) :=
      if sys.drbg.reseedRequired || predictionResist then
        match drbgReseed hash oracle sys additional with
        | (sys, .error rc) => .error (sys, rc)
        | (sys, .ok ()) => .ok ({ sys with drbg := { sys.drbg with reseedRequired := false } }, [])
      else .ok (sys, additional)
    match reseeded with
    | .error (sys, rc) => some (sys, .error rc)
    | .ok (sys, additional) =>
      -- 8.  Generate_algorithm
      match hmacDrbgGenerate hash sys.drbg.internal additional len with
      | some (data, internal) => some ({ sys with drbg := { sys.drbg with internal := internal } }, .ok data)
      | none =>
        -- 9.  reseed を要求して step 7 へ戻る
        drbgGenerateStep7 { sys with drbg := { sys.drbg with reseedRequired := true } } additional true len
          passes

/-- `drbg_generate ( state, additional, additional_len, prediction_resist, data, len )`。 -/
def drbgGenerate (sys : DrbgSystem) (additional : Bytes) (predictionResist : Bool) (len : Nat) :
    Option (DrbgSystem × Except DrbgError Bytes) :=
  if !sys.drbg.valid then some (sys, .error .einval)
  else if len > drbgMaxGeneratedLenBytes then some (sys, .error .erange)
  else if additional.length > drbgMaxAdditionalLenBytes then some (sys, .error .erange)
  else
    -- 6.  reseed_required を消す
    let sys := { sys with drbg := { sys.drbg with reseedRequired := false } }
    drbgGenerateStep7 hash oracle sys additional predictionResist len 2

/-- `drbg_uninstantiate ( state )`：状態をすべて 0 にする。 -/
def drbgUninstantiate (sys : DrbgSystem) : DrbgSystem :=
  { sys with drbg := { internal := ⟨List.replicate hash.digestsize 0, List.replicate hash.digestsize 0, 0⟩,
                       reseedRequired := false, valid := false } }

end Drbg

end FlexBoot.Drbg
