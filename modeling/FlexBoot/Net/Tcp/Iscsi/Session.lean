import FlexBoot.Crypto.Chap
import FlexBoot.Core.Base16
import FlexBoot.Net.Tcp.Iscsi.RootPath

/-!
# iSCSI の session（`net/tcp/iscsi.c`, `include/ipxe/iscsi.h`）

一つの session は一度に一つの TCP 接続を持ち、login が full feature phase に着くまで
login request と login response を交互にやりとりする。target が redirect を返すと接続を
閉じて開き直し、login を始めからやり直す。

## 状態 `iscsi->status`

* `ISCSI_STATUS_PHASE_MASK` の 4 bit — 今の CSG と NSG
* `ISCSI_STATUS_STRINGS_*` — 次の login request で送る文字列の組
* `ISCSI_STATUS_AUTH_*` — CHAP で認証する向きと、target の認証が済んだか

ここではそれぞれを `Status` の field にする。`iscsi_close_connection` は全部を 0 にし、
`iscsi_open_connection` は security negotiation の phase から始める。

## 接続をまたいで残るもの

`iscsi_close_connection` が戻すのは `status`、送受信の状態、CHAP の文脈と受信 buffer だけで
ある。target に送った CHAP の challenge `chap_challenge` は session に残り、次に CHAP_C を
処理するまで作り直されない。

## 観測

外から見えることを `log` に順に残す。TCP 接続を開いたこと（`connect`）、login request の
文字列を送ったこと、full feature phase に入ったこと、SCSI command を終えたこと、
data-out の data を送ったこと、である。
-/

namespace FlexBoot.Iscsi

open Infra FlexBoot FlexBoot.Chap

/-! ## 状態符号 -/

/-- iSCSI の処理が返す状態符号。名前は source の `E*` の名前である。 -/
inductive Rc
  | ok
  | enomem
  /-- `xfer_open_named_socket` の失敗。 -/
  | socketFailed
  | eprotoInvalidKeyValuePair
  | eprotoValueRejected
  | eprotoInvalidChapAlgorithm
  | eprotoInvalidChapIdentifier
  | eprotoInvalidLargeBinary
  | eprotoInvalidChapResponse
  | eaccesIncorrectTargetUsername
  | eaccesIncorrectTargetPassword
  | einval
  | eproto
  | eio
  | enodev
  | epermInitiatorAuthentication
  | epermInitiatorAuthorisation
  | enotsupInitiatorStatus
  | eioTargetUnavailable
  | eioTargetNoResources
  | enotsupTargetStatus
  | enotsupNopIn
  | enotsupOpcode
  | eopnotsupp
  | einvalBadCredentialMix
  | econnreset
  | ecanceled
  deriving DecidableEq, Repr

/-! ## 定数 -/

/-- `ISCSI_OPCODE_*`。 -/
def opcodeLoginRequest : Nat := 0x03
def opcodeLoginResponse : Nat := 0x23
def opcodeScsiCommand : Nat := 0x01
def opcodeScsiResponse : Nat := 0x21
def opcodeDataIn : Nat := 0x25
def opcodeDataOut : Nat := 0x05
def opcodeR2t : Nat := 0x31
def opcodeNopIn : Nat := 0x20

/-- `ISCSI_FLAG_IMMEDIATE` と `ISCSI_FLAG_FINAL`。 -/
def flagImmediate : Nat := 0x40
def flagFinal : Nat := 0x80

/-- `ISCSI_LOGIN_FLAG_TRANSITION` と `ISCSI_LOGIN_NSG_*`。 -/
def loginFlagTransition : Nat := 0x80
def loginNsgOperationalNegotiation : Nat := 0x01
def loginNsgFullFeaturePhase : Nat := 0x03

/-- `ISCSI_STATUS_SECURITY_NEGOTIATION_PHASE` などの phase の値（CSG と NSG の 4 bit）。 -/
def securityNegotiationPhase : Nat := 0x01
def operationalNegotiationPhase : Nat := 0x07
def fullFeaturePhase : Nat := 0x0c

/-- login response の `status_class`。 -/
def statusRedirect : Nat := 0x01
def statusInitiatorError : Nat := 0x02
def statusTargetError : Nat := 0x03

/-- `ISCSI_TAG_MAGIC` と `ISCSI_TAG_RESERVED`。 -/
def tagMagic : Nat := 0x18ae0000
def tagReserved : Nat := 0xffffffff

/-- `ISCSI_DATA_FLAG_*` と `ISCSI_RESPONSE_COMMAND_COMPLETE`。 -/
def dataFlagStatus : Nat := 0x01
def dataFlagUnderflow : Nat := 0x02
def dataFlagOverflow : Nat := 0x04
def responseCommandComplete : Nat := 0x00

/-- `sizeof ( iscsi->rx_bhs )`。 -/
def bhsLen : Nat := 48

/-- `sizeof ( iscsi->chap_challenge )`。 -/
def chapChallengeLen : Nat := 17

/-! ## 受け取った BHS の field

`iscsi->rx_bhs` の 48 byte から読む。多 byte の field は network byte order である。
-/

/-- `opcode & ISCSI_OPCODE_MASK`。 -/
def bhsOpcode (bhs : Bytes) : Nat := (bhs.getD 0 0).toNat % 64

/-- `flags`。 -/
def bhsFlags (bhs : Bytes) : Nat := (bhs.getD 1 0).toNat

/-- `ISCSI_AHS_LEN`。 -/
def bhsAhsLen (bhs : Bytes) : Nat := (bhs.getD 4 0).toNat

/-- `ISCSI_DATA_LEN`。 -/
def bhsDataLen (bhs : Bytes) : Nat := be24 bhs 5

/-- `ISCSI_DATA_PAD_LEN`、`( 0 - data_len[2] ) & 0x03`。 -/
def bhsDataPadLen (bhs : Bytes) : Nat := (4 - (bhs.getD 7 0).toNat % 4) % 4

/-! ## session -/

/-- `iscsi->status`。 -/
structure Status where
  /-- `ISCSI_STATUS_PHASE_MASK` の 4 bit。 -/
  phase : Nat
  stringsSecurity : Bool
  stringsChapAlgorithm : Bool
  stringsChapResponse : Bool
  stringsChapChallenge : Bool
  stringsOperational : Bool
  authForwardRequired : Bool
  authReverseRequired : Bool
  authReverseOk : Bool
  deriving DecidableEq, Repr

/-- `status = 0`。 -/
def Status.zero : Status := ⟨0, false, false, false, false, false, false, false, false⟩

/-- `status &= ~ISCSI_STATUS_STRINGS_MASK`。 -/
def Status.clearStrings (st : Status) : Status :=
  { st with stringsSecurity := false, stringsChapAlgorithm := false, stringsChapResponse := false,
            stringsChapChallenge := false, stringsOperational := false }

/-- `enum iscsi_tx_state`。 -/
inductive TxState
  | idle
  | bhs
  | ahs
  | data
  deriving DecidableEq, Repr

/-- `enum iscsi_rx_state`。 -/
inductive RxState
  | bhs
  | ahs
  | data
  | dataPadding
  deriving DecidableEq, Repr

/-- 送る BHS のうち、送る側の処理が後で読む field。 -/
structure TxBhs where
  opcode : Nat
  flags : Nat
  /-- `ISCSI_DATA_LEN ( lengths )`。 -/
  dataLen : Nat
  /-- data-out の `datasn`（host order）。 -/
  datasn : Nat
  /-- data-out の `offset`（host order）。 -/
  offset : Nat
  deriving DecidableEq, Repr

/-- `memset ( &iscsi->tx_bhs, 0, ... )`。 -/
def TxBhs.zero : TxBhs := ⟨0, 0, 0, 0, 0⟩

/-- `struct scsi_cmd` のうち data の buffer。`data_in_len` と `data_out_len` はその長さで、
buffer のない向きは長さ 0 である。 -/
structure ScsiCmd where
  dataIn : Bytes
  dataOut : Bytes
  deriving DecidableEq, Repr

/-- `struct scsi_rsp`。`sense` は descriptor 形式の先頭 4 byte である。 -/
structure ScsiRsp where
  status : Nat
  overrun : Int
  sense : Bytes
  deriving DecidableEq, Repr

/-- 外から見える出来事。 -/
inductive Log
  /-- TCP 接続を開いた。`port` は `st_port` として送る値である。 -/
  | connect (address : Bytes) (port : Nat)
  /-- login request の data（文字列）を送った。 -/
  | loginSent (strings : Bytes)
  /-- full feature phase に入り、`xfer_window_changed ( &iscsi->control )` を呼んだ。 -/
  | fullFeature
  /-- SCSI command を終えた（`iscsi_scsi_done`）。 -/
  | scsiDone (rc : Rc) (rsp : Option ScsiRsp)
  /-- data-out の data を送った。`offset` は data-out buffer の中の位置である。 -/
  | dataOutSent (offset : Nat) (data : Bytes)
  deriving DecidableEq, Repr

/-- `struct iscsi_session` のうち、この model が読み書きする field と観測。 -/
structure IscsiSession where
  initiatorIqn : Bytes
  targetAddress : Bytes
  targetPort : Nat
  targetIqn : Bytes
  initiatorUsername : Option Bytes
  initiatorPassword : Option Bytes
  targetUsername : Option Bytes
  targetPassword : Option Bytes
  status : Status
  chap : ChapResponse
  chapChallenge : Bytes
  /-- `iscsi_new_itt` の `static uint16_t itt_idx`。 -/
  ittIdx : Nat
  itt : Nat
  cmdsn : Nat
  statsn : Nat
  txState : TxState
  txBhs : TxBhs
  rxState : RxState
  rxBhs : Bytes
  rxOffset : Nat
  rxLen : Nat
  rxBuffer : Option Bytes
  command : Option ScsiCmd
  ttt : Nat
  transferOffset : Nat
  transferLen : Nat
  /-- `iscsi_close` で閉じたなら、その理由。 -/
  shutdown : Option Rc
  log : List Log
  deriving DecidableEq, Repr

/-- 一つの事象の間の下の層と乱数の振る舞い。 -/
structure Env where
  /-- `malloc`、`strdup`、`xfer_alloc_iob` が成功する。 -/
  allocOk : Bool
  /-- `xfer_open_named_socket` が成功する。 -/
  openOk : Bool
  /-- `xfer_window ( &iscsi->socket )` が 0 でない。 -/
  window : Bool
  /-- `random()` が返す値（`uint8_t` に切り詰めたもの）。 -/
  random : Bytes
  deriving DecidableEq, Repr

/-! ## 送信の始まり -/

/-- `iscsi_start_tx`。TX の process を起こし、BHS から送り始める。 -/
def iscsiStartTx (s : IscsiSession) : IscsiSession :=
  { s with txBhs := TxBhs.zero, txState := .bhs }

/-- `iscsi_new_itt`。 -/
def iscsiNewItt (s : IscsiSession) : IscsiSession :=
  let idx := (s.ittIdx + 1) % 2 ^ 16
  { s with ittIdx := idx, itt := tagMagic ||| idx }

/-- `%s` の引数。`NULL` は `"<NULL>"` と書かれる。 -/
def printfString : Option Bytes → Bytes
  | some b => cstr b
  | none => ascii "<NULL>"

/-- 初めの login request の `AuthMethod`。 -/
def authMethod (s : IscsiSession) : Bytes :=
  if s.targetUsername.isSome then ascii "CHAP"
  else if s.initiatorUsername.isSome then ascii "CHAP,None"
  else ascii "None"

/-- `ISCSI_STATUS_STRINGS_OPERATIONAL` の文字列。 -/
def operationalStrings : Bytes :=
  ascii "HeaderDigest=None" ++ [0] ++ ascii "DataDigest=None" ++ [0] ++
    ascii "MaxConnections=1" ++ [0] ++ ascii "InitialR2T=Yes" ++ [0] ++
    ascii "ImmediateData=No" ++ [0] ++ ascii "MaxRecvDataSegmentLength=8192" ++ [0] ++
    ascii "MaxBurstLength=262144" ++ [0] ++ ascii "DefaultTime2Wait=0" ++ [0] ++
    ascii "DefaultTime2Retain=0" ++ [0] ++ ascii "MaxOutstandingR2T=1" ++ [0] ++
    ascii "DataPDUInOrder=Yes" ++ [0] ++ ascii "DataSequenceInOrder=Yes" ++ [0] ++
    ascii "ErrorRecoveryLevel=0" ++ [0]

/-- `iscsi_build_login_request_strings` が `ssnprintf` で一つずつ書く片。 -/
def iscsiLoginRequestPieces (s : IscsiSession) : List Bytes :=
  (if s.status.stringsSecurity then
    [ascii "InitiatorName=" ++ cstr s.initiatorIqn ++ [0] ++ ascii "TargetName=" ++
      cstr s.targetIqn ++ [0] ++ ascii "SessionType=Normal" ++ [0] ++ ascii "AuthMethod=" ++
      authMethod s ++ [0]]
  else []) ++
  (if s.status.stringsChapAlgorithm then [ascii "CHAP_A=5" ++ [0]] else []) ++
  (if s.status.stringsChapResponse then
    [ascii "CHAP_N=" ++ printfString s.initiatorUsername ++ [0] ++ ascii "CHAP_R=0x" ++
      base16Encode (s.chap.response.take s.chap.responseLen) ++ [0]]
  else []) ++
  (if s.status.stringsChapChallenge then
    [ascii "CHAP_I=" ++ decimalDigits (s.chapChallenge.getD 0 0).toNat ++ [0] ++
      ascii "CHAP_C=0x" ++ base16Encode (s.chapChallenge.drop 1) ++ [0]]
  else []) ++
  (if s.status.stringsOperational then [operationalStrings] else [])

/-- `iscsi_build_login_request_strings ( iscsi, NULL, 0 )` の返す長さ。 -/
def iscsiLoginRequestLen (s : IscsiSession) : Nat := (iscsiLoginRequestPieces s).flatten.length

/-- `iscsi_build_login_request_strings ( iscsi, data, len )` が長さ `len` の buffer に書いた中身。
`iob_put` した buffer の中身は決まっていないので、0 から始める。 -/
def iscsiBuildLoginRequestStrings (s : IscsiSession) (len : Nat) : Bytes :=
  ((iscsiLoginRequestPieces s).foldl
    (fun (acc : Bytes × Nat) piece => (ssnprintfAt acc.1 acc.2 piece, acc.2 + piece.length))
    (List.replicate len 0, 0)).1

/-- `iscsi_start_login`。 -/
def iscsiStartLogin (s : IscsiSession) : IscsiSession :=
  let s := iscsiStartTx s
  { s with txBhs := { s.txBhs with opcode := opcodeLoginRequest ||| flagImmediate,
                                   flags := s.status.phase ||| loginFlagTransition,
                                   dataLen := iscsiLoginRequestLen s % 2 ^ 24 } }

/-- `iscsi_login_request_done`。 -/
def iscsiLoginRequestDone (s : IscsiSession) : IscsiSession :=
  { s with status := s.status.clearStrings, chap := chapFinish s.chap }

/-! ## 接続 -/

/-- x86 の `htons`。 -/
def htons (n : Nat) : Nat := n % 256 * 256 + n / 256 % 256

/-- `iscsi_open_connection`。socket を開けなければその状態符号を返す。 -/
def iscsiOpenConnection (env : Env) (s : IscsiSession) : IscsiSession × Rc :=
  if !env.openOk then (s, .socketFailed)
  else
    -- `target.st_port = htons ( iscsi->target_port )`
    let s := { s with
      log := s.log ++ [.connect s.targetAddress (s.targetPort % 2 ^ 16)],
      status := { Status.zero with phase := securityNegotiationPhase, stringsSecurity := true,
                                   authReverseRequired := s.targetUsername.isSome } }
    (iscsiStartLogin (iscsiNewItt s), .ok)

/-- `iscsi_close_connection`。 -/
def iscsiCloseConnection (s : IscsiSession) : IscsiSession :=
  { s with status := Status.zero, txState := .idle, rxState := .bhs, rxOffset := 0,
           chap := chapFinish s.chap, rxBuffer := none }

/-- `iscsi_close`。`rc = 0` は `-ECONNRESET` にする。 -/
def iscsiClose (s : IscsiSession) (rc : Rc) : IscsiSession :=
  { s with shutdown := some (if rc = .ok then .econnreset else rc) }

end FlexBoot.Iscsi
