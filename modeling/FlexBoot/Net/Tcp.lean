import FlexBoot.Infra.Bytes
import FlexBoot.Infra.Run

/-!
# TCP の接続（`net/tcp.c`）

`struct tcp_connection` のうち状態遷移が読み書きする field と、接続に届く事象
（`tcp_xmit`、二つの timer の満了、上位からの `close` と `deliver`、`tcp_rx`、cache の
discard）を書く。

## `tcp_state`

状態は送った flag、相手が ACK した flag、受け取った flag の三つの byte を並べた bit 列で
ある（`include/ipxe/tcp.h`）。名前の付いた状態は `TCP_SYN_SENT` などの macro で、
`tcp_state` の値そのものとして扱う。

## 外から決まること

* 接続は `tcp_open` が成功した後から書く。初めの送信番号 `random()` は引数で与える。
* `tcp_xmit` の中の `alloc_iob`、`tcpip_tx` の成否と上位の窓 `xfer_window` は、事象ごとに
  `XmitEnv` で与える。
* `tcp_rx` には、header の長さと checksum の検査を通り、`tcp_demux` がこの接続を選んだ
  segment だけが届く。option は読み終えた値で与える。
* 接続が `tcp_conns` から外れた後は、どの事象も届かない：timer は止まり、上位の
  interface は閉じ、`tcp_demux` は見つけない。

## 値の幅

`snd_seq`、`snd_sent`、`snd_win`、`rcv_ack`、`rcv_win` は `uint32_t` で、和と差は
`2 ^ 32` で巻き戻る。`tcp_cmp` は差を `int32_t` に変えた値である。
-/

namespace FlexBoot.Tcp

open Infra FlexBoot

/-! ## flag と状態 -/

def tcpFin : Nat := 0x01
def tcpSyn : Nat := 0x02
def tcpRst : Nat := 0x04
def tcpPsh : Nat := 0x08
def tcpAck : Nat := 0x10

def tcpStateSent (flags : Nat) : Nat := flags <<< 0
def tcpFlagsSent (state : Nat) : Nat := (state >>> 0) &&& 0xff
def tcpStateAcked (flags : Nat) : Nat := flags <<< 8
def tcpFlagsAcked (state : Nat) : Nat := (state >>> 8) &&& 0xff
def tcpStateRcvd (flags : Nat) : Nat := flags <<< 16
def tcpFlagsRcvd (state : Nat) : Nat := (state >>> 16) &&& 0xff

/-- `TCP_FLAGS_SENDING`。送った flag のうち、まだ ACK されていないもの。`~` は下の 8 bit
だけが効く。 -/
def tcpFlagsSending (state : Nat) : Nat := tcpFlagsSent state &&& (0xff ^^^ tcpFlagsAcked state)

def tcpClosed : Nat := tcpRst
def tcpListen : Nat := 0
def tcpSynSent : Nat := tcpStateSent tcpSyn
def tcpSynRcvd : Nat := tcpStateSent (tcpSyn ||| tcpAck) ||| tcpStateRcvd tcpSyn
def tcpEstablished : Nat :=
  tcpStateSent (tcpSyn ||| tcpAck) ||| tcpStateAcked tcpSyn ||| tcpStateRcvd tcpSyn
def tcpFinWait1 : Nat :=
  tcpStateSent (tcpSyn ||| tcpAck ||| tcpFin) ||| tcpStateAcked tcpSyn ||| tcpStateRcvd tcpSyn
def tcpFinWait2 : Nat :=
  tcpStateSent (tcpSyn ||| tcpAck ||| tcpFin) ||| tcpStateAcked (tcpSyn ||| tcpFin) |||
    tcpStateRcvd tcpSyn
def tcpClosingOrLastAck : Nat :=
  tcpStateSent (tcpSyn ||| tcpAck ||| tcpFin) ||| tcpStateAcked tcpSyn |||
    tcpStateRcvd (tcpSyn ||| tcpFin)
def tcpTimeWait : Nat :=
  tcpStateSent (tcpSyn ||| tcpAck ||| tcpFin) ||| tcpStateAcked (tcpSyn ||| tcpFin) |||
    tcpStateRcvd (tcpSyn ||| tcpFin)
def tcpCloseWait : Nat :=
  tcpStateSent (tcpSyn ||| tcpAck) ||| tcpStateAcked tcpSyn ||| tcpStateRcvd (tcpSyn ||| tcpFin)

/-- `TCP_CAN_SEND_DATA`：SYN が ACK され、FIN をまだ送っていない。 -/
def tcpCanSendData (state : Nat) : Bool :=
  state &&& (tcpStateAcked tcpSyn ||| tcpStateSent tcpFin) == tcpStateAcked tcpSyn

/-- `TCP_HAS_BEEN_ESTABLISHED`。 -/
def tcpHasBeenEstablished (state : Nat) : Bool :=
  state &&& (tcpStateAcked tcpSyn ||| tcpStateRcvd tcpSyn) ==
    (tcpStateAcked tcpSyn ||| tcpStateRcvd tcpSyn)

/-- `TCP_CLOSED_GRACEFULLY`。 -/
def tcpClosedGracefully (state : Nat) : Bool :=
  state &&& (tcpStateAcked tcpFin ||| tcpStateRcvd tcpFin) ==
    (tcpStateAcked tcpFin ||| tcpStateRcvd tcpFin)

/-- `tcp_state ( state )`。debug message に使う状態の名前。 -/
def tcpStateName (state : Nat) : String :=
  if state = tcpClosed then "CLOSED"
  else if state = tcpListen then "LISTEN"
  else if state = tcpSynSent then "SYN_SENT"
  else if state = tcpSynRcvd then "SYN_RCVD"
  else if state = tcpEstablished then "ESTABLISHED"
  else if state = tcpFinWait1 then "FIN_WAIT_1"
  else if state = tcpFinWait2 then "FIN_WAIT_2"
  else if state = tcpClosingOrLastAck then "CLOSING/LAST_ACK"
  else if state = tcpTimeWait then "TIME_WAIT"
  else if state = tcpCloseWait then "CLOSE_WAIT"
  else "INVALID"

/-- `tcp_expired` の `assert`：再送 timer が満了してよい状態。 -/
def tcpExpiredAsserts (state : Nat) : Bool :=
  state == tcpSynSent || state == tcpSynRcvd || state == tcpEstablished ||
    state == tcpFinWait1 || state == tcpCloseWait || state == tcpClosingOrLastAck

/-- `tcp_xmit` の `assert`：SYN と FIN を同時には送らない。 -/
def tcpXmitAsserts (flags : Nat) : Bool := !(flags &&& tcpSyn != 0 && flags &&& tcpFin != 0)

/-! ## 定数と番号の計算 -/

def tcpMaxWindowSize : Nat := 256 * 1024
def tcpPathMtu : Nat := 1280 - 40 - 20 - 12
def tcpRxWindowScale : Nat := 9

/-- `uint32_t` の差 `a - b`。 -/
def u32Sub (a b : Nat) : Nat := (a + (2 ^ 32 - b % 2 ^ 32)) % 2 ^ 32

/-- `tcp_cmp ( seq1, seq2 )`。差を `int32_t` に変える。 -/
def tcpCmp (seq1 seq2 : Nat) : Int :=
  let d := u32Sub seq1 seq2
  if d < 2 ^ 31 then d else d - 2 ^ 32

/-- `tcp_in_window ( seq, start, len )`。 -/
def tcpInWindow (seq start len : Nat) : Bool := u32Sub seq start < len

/-! ## 接続 -/

/-- 受信 queue の一つ。`struct tcp_rx_queued_header` の `seq` と FIN、それに data。 -/
structure RxQueued where
  seq : Nat
  fin : Bool
  data : Bytes
  deriving DecidableEq, Repr

structure TcpConnection where
  tcpState : Nat
  sndSeq : Nat
  sndSent : Nat
  sndWin : Nat
  rcvAck : Nat
  rcvWin : Nat
  sndWinScale : Nat
  rcvWinScale : Nat
  maxRcvWin : Nat
  /-- `TCP_XFER_CLOSED`。 -/
  xferClosed : Bool
  /-- `TCP_ACK_PENDING`。 -/
  ackPending : Bool
  txQueue : List Bytes
  rxQueue : List RxQueued
  /-- 再送 timer `tcp->timer` が動いている。 -/
  timer : Bool
  /-- TIME_WAIT の timer `tcp->wait` が動いている。 -/
  wait : Bool
  /-- `tcp_conns` に入っている。 -/
  listed : Bool
  /-- `xfer_deliver_iob` で上位に渡した buffer。 -/
  delivered : List Bytes
  deriving DecidableEq, Repr

/-- 受け取った segment。 -/
structure TcpSegment where
  seq : Nat
  ack : Nat
  /-- header の `win`（16 bit）。 -/
  win : Nat
  flags : Nat
  /-- window scale option の `scale`。 -/
  wsopt : Option Nat
  data : Bytes
  deriving DecidableEq, Repr

/-- `tcp_xmit` の外から決まること。 -/
structure XmitEnv where
  /-- `xfer_window ( &tcp->xfer )`。 -/
  appWin : Nat
  allocOk : Bool
  txOk : Bool
  deriving DecidableEq, Repr

/-- `tcp_open` が成功した直後。`start_timer_nodelay` で再送 timer が動き始める。 -/
def tcpOpen (isn : Nat) : TcpConnection where
  tcpState := tcpStateSent tcpSyn
  sndSeq := isn % 2 ^ 32
  sndSent := 0
  sndWin := 0
  rcvAck := 0
  rcvWin := 0
  sndWinScale := 0
  rcvWinScale := 0
  maxRcvWin := tcpMaxWindowSize
  xferClosed := false
  ackPending := false
  txQueue := []
  rxQueue := []
  timer := true
  wait := false
  listed := true
  delivered := []

/-! ## 送信 -/

/-- `tcp_process_tx_queue ( tcp, max_len, NULL, remove )`。扱った長さと、`remove` なら
その分を取り除いた送信 queue。 -/
def tcpProcessTxQueue : List Bytes → Nat → Bool → Nat × List Bytes
  | [], _, _ => (0, [])
  | iobuf :: rest, maxLen, remove =>
    let fragLen := min iobuf.length maxLen
    let (len, rest) := tcpProcessTxQueue rest (maxLen - fragLen) remove
    let kept := if remove then (if iobuf.length - fragLen = 0 then [] else [iobuf.drop fragLen])
      else [iobuf]
    (fragLen + len, kept ++ rest)

/-- `tcp_xmit_win`。 -/
def tcpXmitWin (tcp : TcpConnection) : Nat :=
  if tcpCanSendData tcp.tcpState then min tcp.sndWin tcpPathMtu else 0

/-- `tcp_xmit` が送る番号の長さ `seq_len`。SYN と FIN は番号を一つ使う。 -/
def tcpXmitSeqLen (tcp : TcpConnection) : Nat :=
  let len := if tcpCanSendData tcp.tcpState then
    (tcpProcessTxQueue tcp.txQueue (tcpXmitWin tcp) false).1 else 0
  if tcpFlagsSending tcp.tcpState &&& (tcpSyn ||| tcpFin) ≠ 0 then len + 1 else len

/-- `tcp_xmit` の後半。`alloc_iob` で buffer を取り、受信窓を広げ、`tcpip_tx` で送る。 -/
def tcpXmitSend (env : XmitEnv) (tcp : TcpConnection) : TcpConnection :=
  if env.allocOk = false then tcp
  else
    -- `max_rcv_win &= ~0x03`
    let maxRcvWin := min (min tcp.maxRcvWin env.appWin) (0xffff <<< tcp.rcvWinScale) / 4 * 4
    let tcp := if tcp.rcvWin < maxRcvWin then { tcp with rcvWin := maxRcvWin } else tcp
    if env.txOk = false then tcp else { tcp with ackPending := false }

/-- `tcp_xmit`。segment の中身は書かず、接続の field への効果だけを書く。 -/
def tcpXmit (env : XmitEnv) (tcp : TcpConnection) : TcpConnection :=
  if tcp.timer then tcp
  else
    let seqLen := tcpXmitSeqLen tcp
    let tcp := { tcp with sndSent := seqLen }
    if seqLen = 0 ∧ tcp.ackPending = false then tcp
    else
      -- `alloc_iob` より前に timer を動かす
      tcpXmitSend env (if seqLen ≠ 0 then { tcp with timer := true } else tcp)

/-! ## 受信 -/

/-- `tcp_rx_seq`。`rcv_ack` を進め、窓を狭める。 -/
def tcpRxSeq (tcp : TcpConnection) (seqLen : Nat) : TcpConnection :=
  { tcp with
    rcvAck := (tcp.rcvAck + seqLen) % 2 ^ 32
    rcvWin := if tcp.rcvWin > seqLen then tcp.rcvWin - seqLen else 0
    ackPending := true }

/-- `tcp_rx_ack` で ACK された flag を状態に足す。 -/
def ackState (state : Nat) : Nat :=
  let ackedFlags := tcpFlagsSending state &&& (tcpSyn ||| tcpFin)
  if ackedFlags ≠ 0 then state ||| tcpStateAcked ackedFlags else state

/-- `tcp_rx_ack ( tcp, ack, win )`。`none` は `-EINVAL` で、接続は変わらない。 -/
def tcpRxAck (tcp : TcpConnection) (ack win : Nat) : Option TcpConnection :=
  let ackLen := u32Sub ack tcp.sndSeq
  if ackLen > tcp.sndSent then
    -- 確立した後なら古い重複として無視し、確立する前なら RST を返す
    if tcpHasBeenEstablished tcp.tcpState then some tcp else none
  else
    let tcp := { tcp with sndWin := win }
    if ackLen = 0 then some tcp
    else
      let ackedFlags := tcpFlagsSending tcp.tcpState &&& (tcpSyn ||| tcpFin)
      let len := if ackedFlags ≠ 0 then ackLen - 1 else ackLen
      let tcp := { tcp with
        timer := false
        sndSeq := ack
        sndSent := 0
        txQueue := (tcpProcessTxQueue tcp.txQueue len true).2
        tcpState := ackState tcp.tcpState }
      if tcp.txQueue = [] ∧ tcp.xferClosed ∧ tcp.tcpState &&& tcpStateSent tcpFin = 0 then
        some { tcp with tcpState := tcp.tcpState ||| tcpStateSent tcpFin }
      else some tcp

/-- `tcp_close`。SYN を受け取る前なら接続を消す。受け取った後なら、SYN が ACK されていな
ければ ACK されたことにし、送るものが残っていなければ FIN を送り始める。 -/
def tcpClose (tcp : TcpConnection) : TcpConnection :=
  let tcp := { tcp with xferClosed := true }
  if tcp.tcpState &&& tcpStateRcvd tcpSyn = 0 then
    { tcp with
      tcpState := tcpClosed
      rxQueue := []
      txQueue := []
      timer := false
      wait := false
      listed := false }
  else
    -- `tcp_rx_ack ( tcp, ( tcp->snd_seq + 1 ), 0 )` の返り値は見ない
    let tcp := if tcp.tcpState &&& tcpStateAcked tcpSyn = 0 then
      (tcpRxAck tcp ((tcp.sndSeq + 1) % 2 ^ 32) 0).getD tcp else tcp
    if tcp.txQueue = [] ∧ tcp.tcpState &&& tcpStateSent tcpFin = 0 then
      { tcp with tcpState := tcp.tcpState ||| tcpStateSent tcpFin }
    else tcp

/-- `tcp_rx_syn`。最初の SYN で受信番号を合わせる。 -/
def tcpRxSyn (tcp : TcpConnection) (seq : Nat) (wsopt : Option Nat) : TcpConnection :=
  let tcp := if tcp.tcpState &&& tcpStateRcvd tcpSyn = 0 then
      let tcp := { tcp with rcvAck := seq }
      match wsopt with
      | some scale => { tcp with sndWinScale := scale, rcvWinScale := tcpRxWindowScale }
      | none => tcp
    else tcp
  if seq ≠ tcp.rcvAck then tcp
  else
    let tcp := tcpRxSeq tcp 1
    { tcp with tcpState := tcp.tcpState ||| (tcpStateSent tcpAck ||| tcpStateRcvd tcpSyn) }

/-- `tcp_rx_data`。受け取り済みの先頭を除いて上位に渡す。 -/
def tcpRxData (tcp : TcpConnection) (seq : Nat) (data : Bytes) : TcpConnection :=
  let alreadyRcvd := u32Sub tcp.rcvAck seq
  let len := data.length
  if alreadyRcvd ≥ len then tcp
  else
    let tcp := tcpRxSeq tcp (len - alreadyRcvd)
    { tcp with delivered := tcp.delivered ++ [data.drop alreadyRcvd] }

/-- `tcp_rx_fin`。 -/
def tcpRxFin (tcp : TcpConnection) (seq : Nat) : TcpConnection :=
  if seq ≠ tcp.rcvAck then tcp
  else
    let tcp := tcpRxSeq tcp 1
    tcpClose { tcp with tcpState := tcp.tcpState ||| tcpStateRcvd tcpFin }

/-- `tcp_rx_rst`。二つ目の値は RST を受け入れて接続を閉じたこと（`-ECONNRESET`）。 -/
def tcpRxRst (tcp : TcpConnection) (seq : Nat) : TcpConnection × Bool :=
  -- SYN を受け取る前は窓がないので、SYN が ACK されたかで代える
  let ignore := if tcp.tcpState &&& tcpStateRcvd tcpSyn ≠ 0 then !tcpInWindow seq tcp.rcvAck tcp.rcvWin
    else tcp.tcpState &&& tcpStateAcked tcpSyn = 0
  if ignore then (tcp, false) else (tcpClose { tcp with tcpState := tcpClosed }, true)

/-- 受信 queue に入れる。`tcp_cmp ( seq, tcpqhdr->seq ) < 0` となる最初の項の前。 -/
def rxInsert (entry : RxQueued) : List RxQueued → List RxQueued
  | [] => [entry]
  | queued :: rest =>
    if tcpCmp entry.seq queued.seq < 0 then entry :: queued :: rest
    else queued :: rxInsert entry rest

/-- `tcp_rx_enqueue`。SYN は処理済みで、残る flag は FIN だけである。 -/
def tcpRxEnqueue (tcp : TcpConnection) (seq flags : Nat) (data : Bytes) : TcpConnection :=
  let fin := flags &&& tcpFin != 0
  let seqLen := data.length + (if fin then 1 else 0)
  if tcp.tcpState &&& tcpStateRcvd tcpSyn = 0 ∨
      tcpCmp seq ((tcp.rcvAck + tcp.rcvWin) % 2 ^ 32) ≥ 0 ∨
      tcpCmp ((seq + seqLen) % 2 ^ 32) tcp.rcvAck < 0 ∨ seqLen = 0 then tcp
  else { tcp with rxQueue := rxInsert ⟨seq, fin, data⟩ tcp.rxQueue }

/-- `tcp_process_rx_queue` の loop。一回ごとに queue の先頭を読み直す。先頭を取り除かない
回は loop を出るので、queue の長さだけ回れば足りる。 -/
def tcpProcessRxQueueLoop : Nat → TcpConnection → TcpConnection
  | 0, tcp => tcp
  | fuel + 1, tcp =>
    match tcp.rxQueue with
    | [] => tcp
    | queued :: rest =>
      -- 最初の隙間で止まる
      if tcpCmp queued.seq tcp.rcvAck > 0 then tcp
      else
        let tcp := tcpRxData { tcp with rxQueue := rest } queued.seq queued.data
        let seq := (queued.seq + queued.data.length) % 2 ^ 32
        let tcp := if queued.fin then tcpRxFin tcp seq else tcp
        tcpProcessRxQueueLoop fuel tcp

/-- `tcp_process_rx_queue`。 -/
def tcpProcessRxQueue (tcp : TcpConnection) : TcpConnection :=
  tcpProcessRxQueueLoop tcp.rxQueue.length tcp

/-- `tcp_rx` の後半。受信 queue を処理し、ACK を送る用意をし、最後の segment なら TIME_WAIT の
timer を動かす。 -/
def tcpRxQueue (env : XmitEnv) (tcp : TcpConnection) : TcpConnection :=
  let tcp := tcpProcessRxQueue tcp
  -- queue に隙間が残れば、fast retransmission のためにすぐ送る
  let tcp := if tcp.rxQueue = [] then tcp else tcpXmit env tcp
  if tcpClosedGracefully tcp.tcpState then { tcp with wait := true } else tcp

/-- `tcp_rx` のうち ACK を処理した後。SYN、RST を処理し、segment を受信 queue に入れる。 -/
def tcpRxSegment (env : XmitEnv) (tcp : TcpConnection) (seg : TcpSegment) : TcpConnection :=
  -- 順番の違う segment には、すぐ ACK を返す
  let tcp := if tcp.tcpState &&& tcpStateRcvd tcpSyn ≠ 0 ∧ seg.seq ≠ tcp.rcvAck then
    { tcp with ackPending := true } else tcp
  let tcp := if seg.flags &&& tcpSyn ≠ 0 then tcpRxSyn tcp seg.seq seg.wsopt else tcp
  let seq := if seg.flags &&& tcpSyn ≠ 0 then (seg.seq + 1) % 2 ^ 32 else seg.seq
  -- 受け入れた RST は接続を閉じ、segment を捨てる
  if seg.flags &&& tcpRst ≠ 0 ∧ (tcpRxRst tcp seq).2 = true then (tcpRxRst tcp seq).1
  else tcpRxQueue env (tcpRxEnqueue tcp seq seg.flags seg.data)

/-- `tcp_rx`。 -/
def tcpRx (env : XmitEnv) (tcp : TcpConnection) (seg : TcpSegment) : TcpConnection :=
  let acked := if seg.flags &&& tcpAck ≠ 0 then
      tcpRxAck tcp seg.ack ((seg.win <<< tcp.sndWinScale) % 2 ^ 32)
    else some tcp
  match acked with
  -- `tcp_xmit_reset` で RST を返し、segment を捨てる
  | none => tcp
  | some tcp => tcpRxSegment env tcp seg

/-! ## timer と上位 -/

/-- `tcp_expired ( timer, over )`。`over` なら接続を閉じ、そうでなければ送り直す。 -/
def tcpExpired (env : XmitEnv) (tcp : TcpConnection) (isOver : Bool) : TcpConnection :=
  if isOver then tcpClose { tcp with tcpState := tcpClosed } else tcpXmit env tcp

/-- `tcp_wait_expired`。 -/
def tcpWaitExpired (tcp : TcpConnection) : TcpConnection :=
  tcpClose { tcp with tcpState := tcpClosed }

/-- `tcp_xfer_close`。 -/
def tcpXferClose (env : XmitEnv) (tcp : TcpConnection) : TcpConnection :=
  tcpXmit env (tcpClose tcp)

/-- `tcp_xfer_deliver`。 -/
def tcpXferDeliver (env : XmitEnv) (tcp : TcpConnection) (data : Bytes) : TcpConnection :=
  tcpXmit env { tcp with txQueue := tcp.txQueue ++ [data] }

/-- `tcp_discard`。受信 queue の最後を捨て、それ以上捨てずに済むよう窓の上限を下げる。 -/
def tcpDiscard (tcp : TcpConnection) : TcpConnection :=
  match tcp.rxQueue.getLast? with
  | none => tcp
  | some queued =>
    let maxWin := u32Sub queued.seq tcp.rcvAck
    { tcp with
      maxRcvWin := if maxWin < tcp.maxRcvWin then maxWin else tcp.maxRcvWin
      rxQueue := tcp.rxQueue.dropLast }

/-! ## header の option

`tcp_rx` は header の長さ `hlen` を調べてから、20 byte の後の `hlen - 20` byte を
`tcp_rx_opts` で読む。option は kind と長さの二 byte で始まり、`data += option->length` で
次へ進む。長さの byte は調べない。
-/

/-- `TCP_OPTION_END`、`TCP_OPTION_NOP`、`TCP_OPTION_MSS`、`TCP_OPTION_WS`、`TCP_OPTION_TS`。 -/
def tcpOptionEnd : Nat := 0
def tcpOptionNop : Nat := 1
def tcpOptionMss : Nat := 2
def tcpOptionWs : Nat := 3
def tcpOptionTs : Nat := 8

/-- `sizeof ( struct tcphdr )`。 -/
def tcphdrLen : Nat := 20

/-- `( ( tcphdr->hlen & TCP_MASK_HLEN ) / 16 ) * 4`。 -/
def tcpHeaderLen (pkt : Bytes) : Nat := ((pkt.getD 12 0).toNat &&& 0xf0) / 16 * 4

/-- `tcp_rx` の長さの検査：packet は header より短くなく、`hlen` は 20 以上で packet に収まる。 -/
def tcpRxLengthOk (pkt : Bytes) : Bool :=
  tcphdrLen ≤ pkt.length && tcphdrLen ≤ tcpHeaderLen pkt && tcpHeaderLen pkt ≤ pkt.length

/-- `struct tcp_options` の三つの pointer。option の領域の始めからの位置で持つ。 -/
structure TcpOptions where
  mssopt : Option Nat
  wsopt : Option Nat
  tsopt : Option Nat
  deriving DecidableEq, Repr

/-- `memset ( options, 0, sizeof ( *options ) )`。 -/
def TcpOptions.empty : TcpOptions := ⟨none, none, none⟩

/-- `tcp_rx_opts` の `switch ( kind )`。知らない kind は読み飛ばす。 -/
def TcpOptions.record (options : TcpOptions) (kind pos : Nat) : TcpOptions :=
  if kind = tcpOptionMss then { options with mssopt := some pos }
  else if kind = tcpOptionWs then { options with wsopt := some pos }
  else if kind = tcpOptionTs then { options with tsopt := some pos }
  else options

/-- `tcp_rx_opts` の loop。`opts` は option の領域から packet の終わりまでの byte、`len` は
領域の長さ、`pos` は `data` の位置である。`fuel` が尽きれば `none` とする。 -/
def tcpRxOptsLoop (opts : Bytes) (len : Nat) : Nat → Nat → TcpOptions → Option TcpOptions
  | 0, _, _ => none
  | fuel + 1, pos, options =>
    if len ≤ pos then some options
    else
      let kind := (opts.getD pos 0).toNat
      if kind = tcpOptionEnd then some options
      else if kind = tcpOptionNop then tcpRxOptsLoop opts len fuel (pos + 1) options
      -- `data += option->length`。長さの byte は領域の外にあってもよい
      else tcpRxOptsLoop opts len fuel (pos + (opts.getD (pos + 1) 0).toNat) (options.record kind pos)

/-- `tcp_rx_opts ( tcp, data, len, options )`。一回ごとに一 byte 以上進むか、同じ位置に
留まり続けるので、`len + 1` 回で返らなければ返らない（`Properties/TcpOpts`）。 -/
def tcpRxOpts (opts : Bytes) (len : Nat) : Option TcpOptions :=
  tcpRxOptsLoop opts len (len + 1) 0 TcpOptions.empty

/-! ## 事象 -/

inductive TcpEvent
  /-- 送信 process が `tcp_xmit` を呼ぶ。 -/
  | xmit (env : XmitEnv)
  /-- 再送 timer の満了。`timer_expired` は timer を止めてから `tcp_expired` を呼ぶ。 -/
  | expired (isOver : Bool) (env : XmitEnv)
  | waitExpired
  | xferClose (env : XmitEnv)
  | xferDeliver (data : Bytes) (env : XmitEnv)
  | rx (seg : TcpSegment) (env : XmitEnv)
  | discard

/-- 事象を一つ接続に適用する。止まった timer は満了せず、閉じた上位は呼ばない。 -/
def tcpStep (tcp : TcpConnection) (e : TcpEvent) : TcpConnection :=
  if tcp.listed = false then tcp
  else
    match e with
    | .xmit env => tcpXmit env tcp
    | .expired isOver env => if tcp.timer then tcpExpired env { tcp with timer := false } isOver else tcp
    | .waitExpired => if tcp.wait then tcpWaitExpired { tcp with wait := false } else tcp
    | .xferClose env => if tcp.xferClosed then tcp else tcpXferClose env tcp
    | .xferDeliver data env => if tcp.xferClosed then tcp else tcpXferDeliver env tcp data
    | .rx seg env => tcpRx env tcp seg
    | .discard => tcpDiscard tcp

/-- `tcp_open` から事象の列を適用した接続。 -/
def runTcp (isn : Nat) (es : List TcpEvent) : TcpConnection := run tcpStep (tcpOpen isn) es

end FlexBoot.Tcp
