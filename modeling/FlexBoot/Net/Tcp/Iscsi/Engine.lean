import FlexBoot.Drivers.Block.Scsi
import FlexBoot.Net.Tcp.Iscsi.Login

/-!
# iSCSI の送受信の機械（`net/tcp/iscsi.c`）

## 受信

`iscsi_socket_deliver` は受け取った byte を PDU の四つの部分に順に配る。

* `ISCSI_RX_BHS` — 48 byte を `rx_bhs` に写す
* `ISCSI_RX_AHS` — `4 * ahs_len` byte を捨てる
* `ISCSI_RX_DATA` — data を opcode ごとの処理に渡す。処理は一つの PDU の data を何回かに
  分けて受け取ることがあり、`remaining` がまだ来ていない長さである
* `ISCSI_RX_DATA_PADDING` — 4 byte の境までの詰め物を捨てる

長さは `rx_bhs` から読み、`rx_offset` はその部分の中の位置である。次の状態は処理を呼ぶ前に
決まっている。処理が `iscsi_close_connection` で状態を戻しても、loop はその決めた状態に進む。

data の処理は target の値を `assert` でしか調べない。

* data-in — `copy_to_user ( data_in, offset + rx_offset, data, len )`
* SCSI response — `scsi_parse_sense ( rx_buffer + 2, data_len - 2, ... )`
* R2T — data-out の列を始める。data-out は `copy_from_user ( ..., data_out, offset, len )`

領域の外に触れると `Fault` で止まる。処理が 0 でない状態符号を返すと `iscsi_close` で
session を閉じる。

## 送信

`iscsi_tx_step` は今の PDU を BHS、AHS、data の順に送る。窓が閉じていれば待つ。PDU を
送り終えると `iscsi_tx_done` を呼び、data-out の列が終わっていなければ次の data-out を
始める。`switch` の `ISCSI_OPCODE_DATA_OUT` の枝には `break` がなく、
`iscsi_login_request_done` も呼ばれる。
-/

namespace FlexBoot.Iscsi

open Infra FlexBoot FlexBoot.Chap

section Engine

variable (arch : Arch)

/-! ## SCSI の応答 -/

/-- `iscsi_scsi_done`。 -/
def iscsiScsiDone (s : IscsiSession) (rc : Rc) (rsp : Option ScsiRsp) : IscsiSession :=
  { s with command := none, log := s.log ++ [.scsiDone rc rsp] }

/-- `uint32_t` の値を `ssize_t` に入れた値。 -/
def toSsize (v : Nat) : Int :=
  if v < 2 ^ (arch.longBits - 1) then v else (v : Int) - 2 ^ arch.longBits

/-- `iscsi_rx_scsi_response`。overflow と underflow は data-in の flag
`ISCSI_DATA_FLAG_OVERFLOW` と `ISCSI_DATA_FLAG_UNDERFLOW` で調べる。 -/
def iscsiRxScsiResponse (env : Env) (s : IscsiSession) (data : Bytes) (remaining : Nat) :
    Except Fault (IscsiSession × Rc) :=
  match iscsiRxBufferedData env.allocOk s data with
  | .error f => .error f
  | .ok (s, rc) =>
    if rc ≠ .ok then .ok (s, rc)
    else if remaining ≠ 0 then .ok (s, .ok)
    else do
    let bhs := s.rxBhs
    let residualCount := be32 bhs 44
    let flags := bhsFlags bhs
    -- `-(residual_count)` は `uint32_t` で計算してから `ssize_t` に入れる
    let overrun : Int :=
      if flags &&& dataFlagOverflow ≠ 0 then toSsize arch residualCount
      else if flags &&& dataFlagUnderflow ≠ 0 then toSsize arch ((2 ^ 32 - residualCount) % 2 ^ 32)
      else 0
    let dataLen := bhsDataLen bhs
    let sense ← if dataLen ≠ 0 then
        Scsi.scsiParseSense (s.rxBuffer.getD []) 2
          ((dataLen + 2 ^ arch.longBits - 2) % 2 ^ arch.longBits)
      else pure (List.replicate Scsi.snsDescLen 0)
    let s := { s with rxBuffer := none }
    if (bhs.getD 2 0).toNat ≠ responseCommandComplete then return (s, .eio)
    return (iscsiScsiDone s .ok (some ⟨(bhs.getD 3 0).toNat, overrun, sense⟩), .ok)

/-- `iscsi_rx_data_in`。 -/
def iscsiRxDataIn (s : IscsiSession) (data : Bytes) (remaining : Nat) :
    Except Fault (IscsiSession × Rc) := do
  let offset := (be32 s.rxBhs 40 + s.rxOffset) % 2 ^ arch.longBits
  match s.command with
  | none => throw .nullDereference
  | some cmd =>
    let buf ← wr cmd.dataIn offset data
    let s := { s with command := some { cmd with dataIn := buf } }
    if remaining ≠ 0 then return (s, .ok)
    if bhsFlags s.rxBhs &&& dataFlagStatus ≠ 0 then return (iscsiScsiDone s .ok none, .ok)
    return (s, .ok)

/-! ## data-out -/

/-- `iscsi_start_data_out`。data-out は 512 byte ずつ送る。 -/
def iscsiStartDataOut (s : IscsiSession) (datasn : Nat) : Except Fault IscsiSession :=
  let offset := datasn * 512 % 2 ^ arch.longBits
  let remaining := (s.transferLen + 2 ^ arch.longBits - offset) % 2 ^ arch.longBits
  let len := min remaining 512
  let s := iscsiStartTx s
  match s.command with
  | none => .error .nullDereference
  | some _ =>
    .ok { s with txBhs := { s.txBhs with opcode := opcodeDataOut,
                                         flags := if len = remaining then flagFinal else 0,
                                         dataLen := len, datasn := datasn % 2 ^ 32,
                                         offset := (s.transferOffset + offset) % 2 ^ 32 } }

/-- `iscsi_rx_r2t`。 -/
def iscsiRxR2t (s : IscsiSession) : Except Fault (IscsiSession × Rc) := do
  let s := { s with ttt := be32 s.rxBhs 20, transferOffset := be32 s.rxBhs 40,
                    transferLen := be32 s.rxBhs 44 }
  let s ← iscsiStartDataOut arch s 0
  return (s, .ok)

/-- `iscsi_data_out_done`。 -/
def iscsiDataOutDone (s : IscsiSession) : Except Fault IscsiSession :=
  if s.txBhs.flags &&& flagFinal = 0 then iscsiStartDataOut arch s (s.txBhs.datasn + 1) else .ok s

/-- `iscsi_tx_data_out`。 -/
def iscsiTxDataOut (env : Env) (s : IscsiSession) : Except Fault (IscsiSession × Rc) :=
  if !env.allocOk then .ok (s, .enomem)
  else
    match s.command with
    | none => .error .nullDereference
    | some cmd => do
      let data ← rd cmd.dataOut s.txBhs.offset s.txBhs.dataLen
      return ({ s with log := s.log ++ [.dataOutSent s.txBhs.offset data] }, .ok)

/-- `iscsi_rx_nop_in`。 -/
def iscsiRxNopIn (s : IscsiSession) : IscsiSession × Rc :=
  if be32 s.rxBhs 20 ≠ tagReserved then (s, .enotsupNopIn) else (s, .ok)

/-! ## 受信の機械 -/

/-- `iscsi_rx_data`。 -/
def iscsiRxData (env : Env) (s : IscsiSession) (data : Bytes) (remaining : Nat) :
    Except Fault (IscsiSession × Rc) :=
  let s := { s with cmdsn := be32 s.rxBhs 28, statsn := be32 s.rxBhs 24 }
  let opcode := bhsOpcode s.rxBhs
  if opcode = opcodeLoginResponse then iscsiRxLoginResponse arch env s data remaining
  else if opcode = opcodeScsiResponse then iscsiRxScsiResponse arch env s data remaining
  else if opcode = opcodeDataIn then iscsiRxDataIn arch s data remaining
  else if opcode = opcodeR2t then iscsiRxR2t arch s
  else if opcode = opcodeNopIn then .ok (iscsiRxNopIn s)
  else if remaining ≠ 0 then .ok (s, .ok)
  else .ok (s, .enotsupOpcode)

/-- `iscsi_rx_bhs`。 -/
def iscsiRxBhs (s : IscsiSession) (data : Bytes) : Except Fault (IscsiSession × Rc) := do
  let bhs ← wr s.rxBhs s.rxOffset data
  return ({ s with rxBhs := bhs }, .ok)

/-- 受信の次の状態。 -/
def RxState.next : RxState → RxState
  | .bhs => .ahs
  | .ahs => .data
  | .data => .dataPadding
  | .dataPadding => .bhs

/-- 今の受信の状態で受け取る長さ `rx_len`。 -/
def iscsiRxStateLen (s : IscsiSession) : Nat :=
  match s.rxState with
  | .bhs => bhsLen
  | .ahs => 4 * bhsAhsLen s.rxBhs
  | .data => bhsDataLen s.rxBhs
  | .dataPadding => bhsDataPadLen s.rxBhs

/-- 今の受信の状態の処理。AHS と詰め物は `iscsi_rx_discard` で捨てる。 -/
def iscsiRxFragment (env : Env) (s : IscsiSession) (data : Bytes) (remaining : Nat) :
    Except Fault (IscsiSession × Rc) :=
  match s.rxState with
  | .bhs => iscsiRxBhs s data
  | .ahs | .dataPadding => .ok (s, .ok)
  | .data => iscsiRxData arch env s data remaining

/-- `iscsi_socket_deliver` の loop。長さと位置は `size_t` で計算する。一回ごとに byte を
読み進めるか、長さ 0 の部分を一つ終えるので、`fuel` は byte の数の 8 倍と 8 で足りる。 -/
def iscsiSocketDeliverLoop (env : Env) : Nat → IscsiSession → Bytes → Except Fault (IscsiSession × Rc)
  | 0, s, _ => .ok (s, .ok)
  | fuel + 1, s, iob =>
    let w := arch.longBits
    let next := s.rxState.next
    let s := { s with rxLen := iscsiRxStateLen s }
    let fragLen := min ((s.rxLen + 2 ^ w - s.rxOffset) % 2 ^ w) iob.length
    let remaining := (s.rxLen + 2 * 2 ^ w - s.rxOffset - fragLen) % 2 ^ w
    match iscsiRxFragment arch env s (iob.take fragLen) remaining with
    | .error f => .error f
    | .ok (s, rc) =>
      if rc ≠ .ok then .ok (s, rc)
      else
        let s := { s with rxOffset := (s.rxOffset + fragLen) % 2 ^ w }
        if s.rxOffset ≠ s.rxLen then .ok (s, .ok)
        else iscsiSocketDeliverLoop env fuel { s with rxState := next, rxOffset := 0 } (iob.drop fragLen)

/-- `iscsi_socket_deliver`。状態符号が 0 でなければ `iscsi_close` する。 -/
def iscsiSocketDeliver (env : Env) (s : IscsiSession) (iob : Bytes) : Except Fault IscsiSession :=
  match iscsiSocketDeliverLoop arch env (8 * iob.length + 8) s iob with
  | .error f => .error f
  | .ok (s, rc) => .ok (if rc = .ok then s else iscsiClose s rc)

/-! ## 送信の機械 -/

/-- `iscsi_tx_login_request`。 -/
def iscsiTxLoginRequest (env : Env) (s : IscsiSession) : IscsiSession × Rc :=
  if !env.allocOk then (s, .enomem)
  else ({ s with log := s.log ++ [.loginSent (iscsiBuildLoginRequestStrings s s.txBhs.dataLen)] }, .ok)

/-- `iscsi_tx_data`。 -/
def iscsiTxData (env : Env) (s : IscsiSession) : Except Fault (IscsiSession × Rc) :=
  let opcode := s.txBhs.opcode % 64
  if opcode = opcodeDataOut then iscsiTxDataOut env s
  else if opcode = opcodeLoginRequest then .ok (iscsiTxLoginRequest env s)
  else .ok (s, .ok)

/-- `iscsi_tx_done`。data-out の枝は login request の枝に落ちる。 -/
def iscsiTxDone (s : IscsiSession) : Except Fault IscsiSession :=
  let opcode := s.txBhs.opcode % 64
  if opcode = opcodeDataOut then (iscsiDataOutDone arch s).map iscsiLoginRequestDone
  else if opcode = opcodeLoginRequest then .ok (iscsiLoginRequestDone s)
  else .ok s

/-- 送信の次の状態。 -/
def TxState.next : TxState → TxState
  | .bhs => .ahs
  | .ahs => .data
  | .data => .idle
  | .idle => .idle

/-- 今の送信の状態で送る長さ。 -/
def iscsiTxStateLen (s : IscsiSession) : Nat :=
  match s.txState with
  | .bhs => bhsLen
  | .data => s.txBhs.dataLen
  | .ahs | .idle => 0

/-- 今の送信の状態の処理。BHS の `xfer_deliver_raw` と AHS は session を変えない。 -/
def iscsiTxFragment (env : Env) (s : IscsiSession) : Except Fault (IscsiSession × Rc) :=
  match s.txState with
  | .data => iscsiTxData env s
  | _ => .ok (s, .ok)

/-- `iscsi_tx_step` の loop。一つの PDU は三回で送り終わり、data-out の列は
`transfer_len / 512 + 1` 個の PDU なので、`fuel` はその三倍と少しで足りる。 -/
def iscsiTxStepLoop (env : Env) : Nat → IscsiSession → Except Fault IscsiSession
  | 0, s => .ok s
  | fuel + 1, s =>
    if s.txState = .idle then .ok s
    else if iscsiTxStateLen s ≠ 0 ∧ !env.window then .ok s
    else
      let next := s.txState.next
      match iscsiTxFragment env s with
      | .error f => .error f
      | .ok (s, rc) =>
        if rc ≠ .ok then .ok (iscsiClose s rc)
        else
          let s := { s with txState := next }
          if next = .idle then (iscsiTxDone arch s).bind (iscsiTxStepLoop env fuel)
          else iscsiTxStepLoop env fuel s

/-- `iscsi_tx_step`。 -/
def iscsiTxStep (env : Env) (s : IscsiSession) : Except Fault IscsiSession :=
  iscsiTxStepLoop arch env (3 * (s.transferLen / 512 + 2) + 4) s

end Engine

/-! ## SCSI command の発行 -/

/-- `iscsi_scsi_window`。 -/
def iscsiScsiWindow (s : IscsiSession) : Nat :=
  if s.status.phase = fullFeaturePhase ∧ s.command = none then 1 else 0

/-- `iscsi_start_command`。 -/
def iscsiStartCommand (s : IscsiSession) (cmd : ScsiCmd) : IscsiSession :=
  let s := iscsiStartTx s
  let flags := flagFinal ||| 0x01 ||| (if cmd.dataIn ≠ [] then 0x40 else 0) |||
    (if cmd.dataOut ≠ [] then 0x20 else 0)
  { s with txBhs := { s.txBhs with opcode := opcodeScsiCommand, flags := flags } }

/-- `iscsi_scsi_command`。 -/
def iscsiScsiCommand (env : Env) (s : IscsiSession) (cmd : ScsiCmd) : IscsiSession × Rc :=
  if iscsiScsiWindow s = 0 then (s, .eopnotsupp)
  else if !env.allocOk then (s, .enomem)
  else (iscsiStartCommand (iscsiNewItt { s with command := some cmd }) cmd, .ok)

/-! ## session の始まり -/

/-- 設定から読む名前と資格情報。 -/
structure Credentials where
  initiatorIqn : Bytes
  initiatorUsername : Option Bytes
  initiatorPassword : Option Bytes
  targetUsername : Option Bytes
  targetPassword : Option Bytes
  deriving DecidableEq, Repr

/-- `iscsi_check_auth`。 -/
def iscsiCheckAuth (c : Credentials) : Rc :=
  if (c.initiatorUsername.isSome != c.initiatorPassword.isSome) ||
      (c.targetUsername.isSome != c.targetPassword.isSome) ||
      (c.targetUsername.isSome && c.initiatorUsername.isNone) then .einvalBadCredentialMix
  else .ok

/-- `zalloc` した session に root path と設定を入れたもの。 -/
def IscsiSession.new (t : RootPathTarget) (c : Credentials) : IscsiSession :=
  { initiatorIqn := c.initiatorIqn, targetAddress := t.targetAddress, targetPort := t.targetPort,
    targetIqn := t.targetIqn, initiatorUsername := c.initiatorUsername,
    initiatorPassword := c.initiatorPassword, targetUsername := c.targetUsername,
    targetPassword := c.targetPassword, status := Status.zero, chap := ChapResponse.empty,
    chapChallenge := List.replicate chapChallengeLen 0, ittIdx := 0, itt := 0, cmdsn := 0,
    statsn := 0, txState := .idle, txBhs := TxBhs.zero, rxState := .bhs,
    rxBhs := List.replicate bhsLen 0, rxOffset := 0, rxLen := 0, rxBuffer := none,
    command := none, ttt := 0, transferOffset := 0, transferLen := 0, shutdown := none, log := [] }

/-- `iscsi_open` のうち、資格情報の検査から最初の接続まで。 -/
def iscsiOpen (env : Env) (t : RootPathTarget) (c : Credentials) : Except Rc IscsiSession :=
  if iscsiCheckAuth c ≠ .ok then .error (iscsiCheckAuth c)
  else
    match iscsiOpenConnection env (IscsiSession.new t c) with
    | (s, .ok) => .ok s
    | (_, rc) => .error rc

/-! ## 実行 -/

/-- session に届く事象。 -/
inductive Event
  /-- socket からの data（`iscsi_socket_deliver`）。 -/
  | deliver (iob : Bytes) (env : Env)
  /-- TX の process が走る（`iscsi_tx_step`）。 -/
  | txStep (env : Env)
  /-- SCSI の層からの command（`iscsi_scsi_command`）。 -/
  | scsiCommand (cmd : ScsiCmd) (env : Env)
  /-- socket が閉じた。 -/
  | socketClose (rc : Rc)
  /-- SCSI の層が command の interface を閉じた（`iscsi_command_close`）。 -/
  | commandClose (rc : Rc)
  deriving DecidableEq, Repr

/-- 一つの事象を処理する。`iscsi_close` の後は、どの interface からも呼ばれない。 -/
def step (arch : Arch) : Except Fault IscsiSession → Event → Except Fault IscsiSession
  | .error f, _ => .error f
  | .ok s, e =>
    if s.shutdown.isSome then .ok s
    else
      match e with
      | .deliver iob env => iscsiSocketDeliver arch env s iob
      | .txStep env => iscsiTxStep arch env s
      | .scsiCommand cmd env => .ok (iscsiScsiCommand env s cmd).1
      | .socketClose rc => .ok (iscsiClose s rc)
      | .commandClose rc =>
        .ok (if s.command.isSome then iscsiClose s (if rc = .ok then .ecanceled else rc) else s)

/-- session から事象の列を処理する。 -/
def runIscsi (arch : Arch) (s : IscsiSession) (es : List Event) : Except Fault IscsiSession :=
  run (step arch) (.ok s) es

end FlexBoot.Iscsi
