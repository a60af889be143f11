import FlexBoot.Core.Base64
import FlexBoot.Crypto.Md5
import FlexBoot.Net.Tcp.Iscsi.Session

/-!
# iSCSI の login（`net/tcp/iscsi.c`）

login response の data は `key=value` の NUL 終端の文字列の並びである。
`iscsi_handle_strings` は一つずつ `iscsi_handle_string` に渡し、`iscsi_handle_string` は
`=` の前の key で表 `iscsi_string_types` を引いて、その値の処理を呼ぶ。

表は `strncmp ( string, type->key, key_len )` で引くので、受け取った key が表の key の
先頭と一致すればその entry になる（空の key は最初の `TargetAddress` になる）。

## CHAP

* `CHAP_I` と `CHAP_C` — initiator の応答を作る。target の認証も要るなら、17 byte の
  challenge を `random()` で作り、次の login request で `CHAP_I` と `CHAP_C` として送る
* `CHAP_R` — session に残っている `chap_challenge` から期待する応答を作り、一致すれば
  `ISCSI_STATUS_AUTH_REVERSE_OK` を立てる

`CHAP_R` の処理は、challenge をこの接続で作って送ったかどうかを見ない。
-/

namespace FlexBoot.Iscsi

open Infra FlexBoot FlexBoot.Chap FlexBoot.Md5

/-! ## large binary value -/

/-- `base16_decode` の結果。失敗は `-EINVAL` である。 -/
def decodeResult : Option Bytes → Except Rc Bytes
  | some raw => .ok raw
  | none => .error .einval

/-- `base64_decode` の結果：書いた領域の先頭の `len` byte。失敗は `-EINVAL` である。領域は
`strlen ( value )` byte あり、`base64_decode` はその外に触れない（`base64Decode_large_binary_fits`）
ので、止まる枝は起きない。 -/
def base64Result : Except Fault (Option (Nat × Bytes)) → Except Rc Bytes
  | .ok (some (len, raw)) => .ok (raw.take len)
  | .ok none => .error .einval
  | .error _ => .error .einval

/-- `iscsi_large_binary_decode ( value, buf )`。`buf` は呼び出し側の
`uint8_t buf[ iscsi_large_binary_decoded_max_len ( value ) ]`、つまり `strlen ( value )` byte である。
`base64_decode` が `memset` しない所は読まれないので、中身は 0 と置く。 -/
def iscsiLargeBinaryDecode (encoded : Bytes) : Except Rc Bytes :=
  if encoded.headD 0 ≠ 0x30 then .error .eprotoInvalidLargeBinary
  else
    match encoded.getD 1 0 with
    | 0x78 | 0x58 => decodeResult (base16Decode (encoded.drop 2))
    | 0x62 | 0x42 => base64Result (base64Decode (encoded.drop 2) (List.replicate (cstr encoded).length 0))
    | _ => .error .eprotoInvalidLargeBinary

/-! ## 値の処理

どれも session と状態符号を返す。`value` は `=` の後の C 文字列である。
-/

section Handlers

variable (arch : Arch) (env : Env)

/-- `iscsi_handle_targetaddress_value`。port の既定値は `htons ( ISCSI_PORT )` で、これは
後で `iscsi_open_connection` がもう一度 `htons` する。 -/
def iscsiHandleTargetaddressValue (s : IscsiSession) (value : Bytes) : IscsiSession × Rc :=
  if !env.allocOk then (s, .enomem)
  else
    match strchr 0x3A value with
    | none => ({ s with targetAddress := value, targetPort := htons iscsiPort }, .ok)
    | some (address, port) =>
      ({ s with targetAddress := address, targetPort := (strtoul arch port 0).1 % 2 ^ 32 }, .ok)

/-- `iscsi_handle_authmethod_value`。 -/
def iscsiHandleAuthmethodValue (s : IscsiSession) (value : Bytes) : IscsiSession × Rc :=
  if strcmp value (ascii "CHAP") = 0 then
    ({ s with status := { s.status with stringsChapAlgorithm := true,
                                        authForwardRequired := true } }, .ok)
  else (s, .ok)

/-- `iscsi_handle_chap_a_value`。 -/
def iscsiHandleChapAValue (s : IscsiSession) (value : Bytes) : IscsiSession × Rc :=
  if strcmp value (ascii "5") ≠ 0 then (s, .eprotoInvalidChapAlgorithm) else (s, .ok)

/-- `iscsi_handle_chap_i_value`。 -/
def iscsiHandleChapIValue (s : IscsiSession) (value : Bytes) : IscsiSession × Rc :=
  let (identifier, endp) := strtoul arch value 0
  if endp.headD 0 ≠ 0 then (s, .eprotoInvalidChapIdentifier)
  else
    let s := { s with chap := chapFinish s.chap }
    match chapInit md5Digestsize env.allocOk with
    | none => (s, .enomem)
    | some chap =>
      let chap := chapSetIdentifier chap (identifier % 2 ^ 32)
      let chap := match s.initiatorPassword with
        | some pw => chapUpdate chap (cstr pw)
        | none => chap
      ({ s with chap := chap }, .ok)

/-- `iscsi_handle_chap_c_value`。target の認証も要るなら challenge を作り直す。 -/
def iscsiHandleChapCValue (s : IscsiSession) (value : Bytes) : IscsiSession × Rc :=
  match iscsiLargeBinaryDecode value with
  | .error rc => (s, rc)
  | .ok buf =>
    let chap := chapRespond md5 (chapUpdate s.chap buf)
    let s := { s with chap := chap, status := { s.status with stringsChapResponse := true } }
    if s.targetUsername.isSome then
      ({ s with status := { s.status with stringsChapChallenge := true },
                chapChallenge := (env.random ++ List.replicate chapChallengeLen 0).take
                  chapChallengeLen }, .ok)
    else (s, .ok)

/-- `iscsi_handle_chap_n_value`。 -/
def iscsiHandleChapNValue (s : IscsiSession) (value : Bytes) : IscsiSession × Rc :=
  match s.targetUsername with
  | some name => if strcmp name value ≠ 0 then (s, .eaccesIncorrectTargetUsername) else (s, .ok)
  | none => (s, .ok)

/-- `iscsi_handle_chap_r_value` で、確かめに使う応答を作る部分。identifier と challenge は
session に残っている `chap_challenge` から取る。 -/
def iscsiChapRVerifier (s : IscsiSession) (chap : ChapResponse) : ChapResponse :=
  let chap := chapSetIdentifier chap (s.chapChallenge.getD 0 0).toNat
  let chap := match s.targetPassword with
    | some pw => chapUpdate chap (cstr pw)
    | none => chap
  chapRespond md5 (chapUpdate chap (s.chapChallenge.drop 1))

/-- `iscsi_handle_chap_r_value` で、受け取った応答を `iscsi->chap` と比べる部分。 -/
def iscsiChapRCompare (s : IscsiSession) (value : Bytes) : IscsiSession × Rc :=
  match iscsiLargeBinaryDecode value with
  | .error rc => (s, rc)
  | .ok buf =>
    if buf.length ≠ s.chap.responseLen then (s, .eprotoInvalidChapResponse)
    else if memcmp buf.length buf s.chap.response ≠ 0 then (s, .eaccesIncorrectTargetPassword)
    else ({ s with status := { s.status with authReverseOk := true } }, .ok)

/-- `iscsi_handle_chap_r_value`。 -/
def iscsiHandleChapRValue (s : IscsiSession) (value : Bytes) : IscsiSession × Rc :=
  let s := { s with chap := chapFinish s.chap }
  match chapInit md5Digestsize env.allocOk with
  | none => (s, .enomem)
  | some chap => iscsiChapRCompare { s with chap := iscsiChapRVerifier s chap } value

/-- `struct iscsi_string_type` の entry。 -/
inductive StringType
  | targetAddress
  | authMethod
  | chapA
  | chapI
  | chapC
  | chapN
  | chapR
  deriving DecidableEq, Repr

/-- `iscsi_string_types[]` の順序。 -/
def iscsiStringTypes : List StringType :=
  [.targetAddress, .authMethod, .chapA, .chapI, .chapC, .chapN, .chapR]

/-- entry の `key`。 -/
def StringType.key : StringType → Bytes
  | .targetAddress => ascii "TargetAddress"
  | .authMethod => ascii "AuthMethod"
  | .chapA => ascii "CHAP_A"
  | .chapI => ascii "CHAP_I"
  | .chapC => ascii "CHAP_C"
  | .chapN => ascii "CHAP_N"
  | .chapR => ascii "CHAP_R"

/-- entry の `handle`。 -/
def StringType.handle (t : StringType) : IscsiSession → Bytes → IscsiSession × Rc :=
  match t with
  | .targetAddress => iscsiHandleTargetaddressValue arch env
  | .authMethod => iscsiHandleAuthmethodValue
  | .chapA => iscsiHandleChapAValue
  | .chapI => iscsiHandleChapIValue arch env
  | .chapC => iscsiHandleChapCValue env
  | .chapN => iscsiHandleChapNValue
  | .chapR => iscsiHandleChapRValue env

/-- `iscsi_handle_string`。 -/
def iscsiHandleString (s : IscsiSession) (string : Bytes) : IscsiSession × Rc :=
  match strchr 0x3D string with
  | none => (s, .eprotoInvalidKeyValuePair)
  | some (key, value) =>
    if strcmp value (ascii "Reject") = 0 then (s, .eprotoValueRejected)
    else
      match iscsiStringTypes.find? (fun t => strncmp arch.longBits key.length string t.key = 0) with
      | none => (s, .ok)
      | some t => t.handle arch env s (cstr value)

/-- `iscsi_handle_strings` の loop。一つの文字列は NUL までで、NUL のない残りは読まない。
回るたびに少なくとも一 byte 進むので、`fuel` は buffer の長さで足りる。 -/
def iscsiHandleStringsLoop : Nat → IscsiSession → Bytes → IscsiSession × Rc
  | 0, s, _ => (s, .ok)
  | fuel + 1, s, strings =>
    let stringLen := strnlen strings strings.length + 1
    if stringLen > strings.length then (s, .ok)
    else
      let r := iscsiHandleString arch env s (strings.take stringLen)
      if r.2 = .ok then iscsiHandleStringsLoop fuel r.1 (strings.drop stringLen) else r

/-- `iscsi_handle_strings ( iscsi, strings, len )`。 -/
def iscsiHandleStrings (s : IscsiSession) (strings : Bytes) : IscsiSession × Rc :=
  iscsiHandleStringsLoop arch env strings.length s strings

end Handlers

/-! ## login response -/

/-- `iscsi_status_to_rc`。 -/
def iscsiStatusToRc (statusClass statusDetail : Nat) : Rc :=
  if statusClass = statusInitiatorError then
    match statusDetail with
    | 0x01 => .epermInitiatorAuthentication
    | 0x02 => .epermInitiatorAuthorisation
    | 0x03 | 0x04 => .enodev
    | _ => .enotsupInitiatorStatus
  else if statusClass = statusTargetError then
    match statusDetail with
    | 0x01 => .eioTargetUnavailable
    | 0x02 => .eioTargetNoResources
    | _ => .enotsupTargetStatus
  else .einval

/-- `iscsi_rx_buffered_data`。buffer は初めの呼び出しで `rx_len` byte 確保する。`memcpy` の
範囲は `assert` でしか調べない。 -/
def iscsiRxBufferedData (allocOk : Bool) (s : IscsiSession) (data : Bytes) :
    Except Fault (IscsiSession × Rc) :=
  match s.rxBuffer, allocOk with
  | none, false => .ok (s, .enomem)
  | buf, _ => do
    let buf ← wr (buf.getD (List.replicate s.rxLen 0)) s.rxOffset data
    return ({ s with rxBuffer := some buf }, .ok)

/-- login response の `flags` の T bit による phase の移り。`&= ~( PHASE_MASK | STRINGS_MASK )`
は NSG を調べる前に済んでいる。 -/
def iscsiLoginTransition (s : IscsiSession) (flags : Nat) : IscsiSession × Rc :=
  let s := { s with status := { s.status.clearStrings with phase := 0 } }
  if flags % 4 = loginNsgOperationalNegotiation then
    ({ s with status := { s.status with phase := operationalNegotiationPhase,
                                        stringsOperational := true } }, .ok)
  else if flags % 4 = loginNsgFullFeaturePhase then
    ({ s with status := { s.status with phase := fullFeaturePhase } }, .ok)
  else (s, .eio)

/-- login response を処理し終えた後の、phase の移りと full feature phase の検査。 -/
def iscsiLoginComplete (env : Env) (s : IscsiSession) : IscsiSession × Rc :=
  let statusClass := (s.rxBhs.getD 36 0).toNat
  if statusClass = statusRedirect then iscsiOpenConnection env (iscsiCloseConnection s)
  else if statusClass ≠ 0 then (s, iscsiStatusToRc statusClass (s.rxBhs.getD 37 0).toNat)
  else
    let flags := bhsFlags s.rxBhs
    let r := if flags &&& loginFlagTransition ≠ 0 then iscsiLoginTransition s flags else (s, .ok)
    if r.2 ≠ .ok then r
    else if r.1.status.phase ≠ fullFeaturePhase then (iscsiStartLogin r.1, .ok)
    else if r.1.status.authReverseRequired && !r.1.status.authReverseOk then (r.1, .eproto)
    else ({ r.1 with log := r.1.log ++ [.fullFeature] }, .ok)

/-- `iscsi_rx_login_response`。 -/
def iscsiRxLoginResponse (arch : Arch) (env : Env) (s : IscsiSession) (data : Bytes)
    (remaining : Nat) : Except Fault (IscsiSession × Rc) :=
  match iscsiRxBufferedData env.allocOk s data with
  | .error f => .error f
  | .ok (s, rc) =>
    if rc ≠ .ok then .ok (s, rc)
    else if remaining ≠ 0 then .ok (s, .ok)
    else
      let r := iscsiHandleStrings arch env s (s.rxBuffer.getD [])
      if r.2 ≠ .ok then .ok r
      else .ok (iscsiLoginComplete env { r.1 with rxBuffer := none })

end FlexBoot.Iscsi
