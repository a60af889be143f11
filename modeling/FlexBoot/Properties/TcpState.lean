import FlexBoot.Net.Tcp

/-!
# TCP の状態の不変条件

`tcp_open` から、どの順に事象が届いても成り立つことを示す。

* `tcp_state` は十二の値のどれかである（`runTcp_state_mem`）。名前の付いた八つの他に、
  `tcp_state ( )` が `"INVALID"` と呼ぶ四つがある
* TIME_WAIT の timer が動いていれば状態は TIME_WAIT で、`tcp_wait_expired` の `assert` は
  いつも成り立つ（`runTcp_wait_asserts`）
* 再送 timer が動いていれば、相手はまだ FIN を ACK していない。`tcp_expired` の `assert` が
  破れるのは、名前のない状態で timer が動いているときだけである（`runTcp_expired_asserts`）
* `TCP_FLAGS_SENDING` が SYN と FIN を両方含むのは、SYN が ACK されないまま FIN を送り始めた
  二つの状態だけである（`runTcp_xmit_asserts`）
* その一つには、最初の SYN を送る前に相手の SYN を受け取って閉じるだけで入る
  （`tcp_close_before_first_syn_sends_syn_and_fin`）。`tcp_close` の偽の ACK は `snd_sent = 0` の
  ために捨てられる

## 不変条件

`TcpInv` は接続の六つの field（状態、`tcp_conns` に入っているか、`TCP_XFER_CLOSED`、受信
queue が空か、二つの timer）だけを読む。関数ごとに、これらをどう変えるかを一度示し、
事象の列については `Infra.Invariant.run` で運ぶ。
-/

namespace FlexBoot.Tcp

open Infra FlexBoot

/-! ## 状態の値 -/

def RcvdSyn (state : Nat) : Prop := state &&& tcpStateRcvd tcpSyn ≠ 0
def AckedFin (state : Nat) : Prop := state &&& tcpStateAcked tcpFin ≠ 0

instance : DecidablePred RcvdSyn := fun _ => inferInstanceAs (Decidable (_ ≠ _))
instance : DecidablePred AckedFin := fun _ => inferInstanceAs (Decidable (_ ≠ _))

/-- 名前の付いた状態のうち、接続が `tcp_conns` にある間に取るもの。 -/
def tcpNamedStates : List Nat :=
  [tcpSynSent, tcpSynRcvd, tcpEstablished, tcpCloseWait, tcpFinWait1, tcpFinWait2,
    tcpClosingOrLastAck, tcpTimeWait]

/-- 名前のない状態。最初は SYN をまだ受け取らないうちに自分の SYN が ACK されたもの、残りの
三つは SYN が ACK されないまま FIN を受け取ったか送り始めたものである。 -/
def tcpUnnamedStates : List Nat :=
  [tcpSynSent ||| tcpStateAcked tcpSyn, tcpSynRcvd ||| tcpStateRcvd tcpFin,
    tcpSynRcvd ||| tcpStateSent tcpFin, tcpSynRcvd ||| tcpStateSent tcpFin ||| tcpStateRcvd tcpFin]

/-- 接続が `tcp_conns` にある間の状態。SYN はいつも送ってあり、ACK を送るのは SYN を受け取った
後、FIN を送り受け取るのも SYN を受け取った後、FIN が ACK されるのは送った FIN で、SYN も
ACK された後である。この条件を満たす値はちょうどこの十二である。 -/
def tcpStates : List Nat := tcpNamedStates ++ tcpUnnamedStates

/-- 再送 timer を動かす送信：data を送れるか、SYN か FIN を送っている。 -/
def XmitStarts (state : Nat) : Prop :=
  tcpCanSendData state = true ∨ tcpFlagsSending state &&& (tcpSyn ||| tcpFin) ≠ 0

instance : DecidablePred XmitStarts := fun _ => inferInstanceAs (Decidable (_ ∨ _))

/-! 状態を変える四つの更新は、どれも十二の値の中に留まる。各々を値の表で確かめる。 -/

theorem ackState_mem : ∀ s ∈ tcpStates, ackState s ∈ tcpStates := by decide

theorem sentFin_mem : ∀ s ∈ tcpStates, RcvdSyn s → s ||| tcpStateSent tcpFin ∈ tcpStates := by
  decide

theorem rxSyn_mem :
    ∀ s ∈ tcpStates, s ||| (tcpStateSent tcpAck ||| tcpStateRcvd tcpSyn) ∈ tcpStates := by decide

theorem rcvdFin_mem : ∀ s ∈ tcpStates, RcvdSyn s → s ||| tcpStateRcvd tcpFin ∈ tcpStates := by
  decide

/-- flag を足しても、受け取った SYN は消えない。 -/
theorem RcvdSyn.lor {s : Nat} (h : RcvdSyn s) (x : Nat) : RcvdSyn (s ||| x) := by
  intro h0
  apply h
  apply Nat.eq_of_testBit_eq
  intro i
  have := congrArg (Nat.testBit · i) h0
  simp only [Nat.testBit_and, Nat.testBit_or, Nat.zero_testBit] at this ⊢
  cases hs : s.testBit i <;> simp_all

theorem RcvdSyn.ackState {s : Nat} (h : RcvdSyn s) : RcvdSyn (ackState s) := by
  unfold FlexBoot.Tcp.ackState
  dsimp only
  split
  · exact h.lor _
  · exact h

/-- TIME_WAIT は、どの更新でも変わらない。 -/
theorem timeWait_fixed :
    ackState tcpTimeWait = tcpTimeWait ∧
      tcpTimeWait ||| tcpStateSent tcpFin = tcpTimeWait ∧
      tcpTimeWait ||| (tcpStateSent tcpAck ||| tcpStateRcvd tcpSyn) = tcpTimeWait ∧
      tcpTimeWait ||| tcpStateRcvd tcpFin = tcpTimeWait := by
  decide

/-- ACK 以外の更新は、相手が FIN を ACK したことを作らない。 -/
theorem ackedFin_update :
    ∀ s ∈ tcpStates,
      (AckedFin (s ||| tcpStateSent tcpFin) → AckedFin s) ∧
      (AckedFin (s ||| (tcpStateSent tcpAck ||| tcpStateRcvd tcpSyn)) → AckedFin s) ∧
      (AckedFin (s ||| tcpStateRcvd tcpFin) → AckedFin s) := by
  decide

/-- 再送 timer を動かす状態では、FIN はまだ ACK されていない。 -/
theorem not_ackedFin_of_xmitStarts : ∀ s ∈ tcpClosed :: tcpStates, XmitStarts s → ¬AckedFin s := by
  decide

theorem closedGracefully_iff : ∀ s ∈ tcpClosed :: tcpStates,
    tcpClosedGracefully s = true → s = tcpTimeWait := by
  decide

theorem not_rcvdSyn_closed : ¬RcvdSyn tcpClosed := by decide

/-! ## 不変条件 -/

/-- 接続のうち、不変条件が読む field。 -/
structure Control where
  tcpState : Nat
  listed : Bool
  xferClosed : Bool
  rxEmpty : Bool
  timer : Bool
  wait : Bool

def TcpConnection.control (tcp : TcpConnection) : Control :=
  ⟨tcp.tcpState, tcp.listed, tcp.xferClosed, tcp.rxQueue.isEmpty, tcp.timer, tcp.wait⟩

structure Control.Inv (c : Control) : Prop where
  state : c.listed = true → c.tcpState ∈ tcpStates
  /-- `tcp_close` が消した接続では、状態は CLOSED で、timer も受信 queue も残らない。 -/
  deleted : c.listed = false →
    c.tcpState = tcpClosed ∧ c.timer = false ∧ c.wait = false ∧ c.rxEmpty = true
  /-- 上位が閉じても消えていない接続は、SYN を受け取っている。 -/
  xferClosed : c.listed = true → c.xferClosed = true → RcvdSyn c.tcpState
  /-- 受信 queue に入るのは SYN を受け取った後である。 -/
  rxQueue : c.rxEmpty = false → RcvdSyn c.tcpState
  timer : c.timer = true → ¬AckedFin c.tcpState
  wait : c.wait = true → c.tcpState = tcpTimeWait

def TcpInv (tcp : TcpConnection) : Prop := tcp.control.Inv

@[simp] theorem TcpConnection.control_tcpState (tcp : TcpConnection) :
    tcp.control.tcpState = tcp.tcpState := rfl
@[simp] theorem TcpConnection.control_listed (tcp : TcpConnection) :
    tcp.control.listed = tcp.listed := rfl
@[simp] theorem TcpConnection.control_timer (tcp : TcpConnection) :
    tcp.control.timer = tcp.timer := rfl

/-- 消えた接続では、状態は CLOSED で再送 timer は止まっている。 -/
theorem TcpInv.deleted {tcp : TcpConnection} (h : TcpInv tcp) (hl : tcp.listed = false) :
    tcp.tcpState = tcpClosed ∧ tcp.timer = false :=
  ⟨(Control.Inv.deleted h hl).1, (Control.Inv.deleted h hl).2.1⟩

theorem TcpInv.congr {tcp tcp' : TcpConnection} (h : TcpInv tcp) (hc : tcp'.control = tcp.control) :
    TcpInv tcp' := by
  unfold TcpInv
  rw [hc]
  exact h

theorem Control.Inv.mem {c : Control} (h : c.Inv) : c.tcpState ∈ tcpClosed :: tcpStates := by
  cases hl : c.listed
  · rw [(h.deleted hl).1]
    exact List.mem_cons_self
  · exact List.mem_cons_of_mem _ (h.state hl)

/-- 消えていない接続の状態と再送 timer を変える。新しい状態が十二の値の一つで、受け取った
SYN を保ち、TIME_WAIT を変えず、timer が動くなら FIN がまだ ACK されていなければよい。
状態を変える関数はどれもこれを通る。 -/
theorem Control.Inv.update {c : Control} (h : c.Inv) (hl : c.listed = true) {s : Nat} {t : Bool}
    (hmem : s ∈ tcpStates) (hrs : RcvdSyn c.tcpState → RcvdSyn s)
    (htw : c.tcpState = tcpTimeWait → s = tcpTimeWait) (haf : t = true → ¬AckedFin s) :
    { c with tcpState := s, timer := t }.Inv where
  state _ := hmem
  deleted h' := by simp [hl] at h'
  xferClosed hl' hx := hrs (h.xferClosed hl' hx)
  rxQueue hr := hrs (h.rxQueue hr)
  timer := haf
  wait hw := htw (h.wait hw)

/-- 再送 timer を変える。動かすのは、消えていない接続で FIN がまだ ACK されていないときに
限る。 -/
theorem Control.Inv.setTimer {c : Control} (h : c.Inv) {t : Bool}
    (ht : t = true → c.listed = true ∧ ¬AckedFin c.tcpState) : { c with timer := t }.Inv where
  state := h.state
  deleted hl := by
    obtain ⟨h1, _, h3, h4⟩ := h.deleted hl
    refine ⟨h1, ?_, h3, h4⟩
    cases t with
    | false => rfl
    | true => simp [(ht rfl).1] at hl
  xferClosed := h.xferClosed
  rxQueue := h.rxQueue
  timer h' := (ht h').2
  wait := h.wait

theorem Control.Inv.stopTimer {c : Control} (h : c.Inv) : { c with timer := false }.Inv :=
  h.setTimer (fun h' => by cases h')

/-- `tcp_close` が消した接続。 -/
theorem Control.Inv.deleted_of {c : Control} (hs : c.tcpState = tcpClosed) (hl : c.listed = false)
    (ht : c.timer = false) (hw : c.wait = false) (hr : c.rxEmpty = true) : c.Inv where
  state h' := by simp [hl] at h'
  deleted _ := ⟨hs, ht, hw, hr⟩
  xferClosed h' := by simp [hl] at h'
  rxQueue h' := by simp [hr] at h'
  timer h' := by simp [ht] at h'
  wait h' := by simp [hw] at h'

/-- 消えていない接続の状態だけを変える。 -/
theorem TcpInv.setState {tcp : TcpConnection} (h : TcpInv tcp) (hl : tcp.listed = true) {s : Nat}
    (hmem : s ∈ tcpStates) (hrs : RcvdSyn tcp.tcpState → RcvdSyn s)
    (htw : tcp.tcpState = tcpTimeWait → s = tcpTimeWait) (haf : AckedFin s → AckedFin tcp.tcpState) :
    TcpInv { tcp with tcpState := s } := by
  have hc : ({ tcp with tcpState := s }).control = { tcp.control with tcpState := s, timer := tcp.timer } :=
    rfl
  unfold TcpInv
  rw [hc]
  exact Control.Inv.update h hl hmem hrs htw (fun ht hs => Control.Inv.timer h ht (haf hs))

/-- FIN を送り始める。SYN を受け取った後に限る。 -/
theorem TcpInv.sentFin {tcp : TcpConnection} (h : TcpInv tcp) (hl : tcp.listed = true)
    (hrs : RcvdSyn tcp.tcpState) : TcpInv { tcp with tcpState := tcp.tcpState ||| tcpStateSent tcpFin } :=
  have hmem : tcp.tcpState ∈ tcpStates := Control.Inv.state h hl
  h.setState hl (sentFin_mem _ hmem hrs) (fun _ => hrs.lor _)
    (fun hs => by rw [hs]; exact timeWait_fixed.2.1) (ackedFin_update _ hmem).1

/-- 受信 queue が空かどうかを変える。SYN を受け取った後に限る。 -/
theorem Control.Inv.setRxEmpty {c : Control} (h : c.Inv) (hl : c.listed = true)
    (hrs : RcvdSyn c.tcpState) (b : Bool) : { c with rxEmpty := b }.Inv where
  state := h.state
  deleted h' := by simp [hl] at h'
  xferClosed := h.xferClosed
  rxQueue _ := hrs
  timer := h.timer
  wait := h.wait

/-- TIME_WAIT の timer を動かす。 -/
theorem Control.Inv.startWait {c : Control} (h : c.Inv) (hs : c.tcpState = tcpTimeWait) :
    { c with wait := true }.Inv where
  state := h.state
  deleted hl := by
    have := (h.deleted hl).1
    rw [hs] at this
    exact absurd this (by decide)
  xferClosed := h.xferClosed
  rxQueue := h.rxQueue
  timer := h.timer
  wait _ := hs

/-! ## 関数ごとの効果 -/

@[simp] theorem tcpRxSeq_control (tcp : TcpConnection) (n : Nat) :
    (tcpRxSeq tcp n).control = tcp.control := rfl

theorem tcpRxData_control (tcp : TcpConnection) (seq : Nat) (data : Bytes) :
    (tcpRxData tcp seq data).control = tcp.control := by
  unfold tcpRxData
  dsimp only
  split <;> rfl


theorem tcpXmitSend_control (env : XmitEnv) (tcp : TcpConnection) :
    (tcpXmitSend env tcp).control = tcp.control := by
  unfold tcpXmitSend
  dsimp only
  split
  · rfl
  · split <;> split <;> rfl

theorem xmitStarts_of_seqLen {tcp : TcpConnection} (h : tcpXmitSeqLen tcp ≠ 0) :
    XmitStarts tcp.tcpState := by
  unfold tcpXmitSeqLen at h
  dsimp only at h
  by_cases hf : tcpFlagsSending tcp.tcpState &&& (tcpSyn ||| tcpFin) ≠ 0
  · exact .inr hf
  · rw [if_neg hf] at h
    by_cases hc : tcpCanSendData tcp.tcpState = true
    · exact .inl hc
    · rw [if_neg hc] at h
      exact absurd rfl h

/-- `tcp_xmit` は再送 timer だけを変え、動かすのは SYN、FIN か data を送るときである。 -/
theorem tcpXmit_control (env : XmitEnv) (tcp : TcpConnection) :
    ∃ t, (tcpXmit env tcp).control = { tcp.control with timer := t } ∧
      (t = true → tcp.timer = true ∨ XmitStarts tcp.tcpState) := by
  unfold tcpXmit
  split
  · exact ⟨tcp.timer, rfl, .inl⟩
  · dsimp only
    split
    · exact ⟨tcp.timer, rfl, .inl⟩
    · rw [tcpXmitSend_control]
      split
      · next hs => exact ⟨true, rfl, fun _ => .inr (xmitStarts_of_seqLen hs)⟩
      · exact ⟨tcp.timer, rfl, .inl⟩

theorem not_xmitStarts_closed : ¬XmitStarts tcpClosed := by decide

theorem TcpInv.xmit {tcp : TcpConnection} (h : TcpInv tcp) (env : XmitEnv) :
    TcpInv (tcpXmit env tcp) := by
  obtain ⟨t, hc, ht⟩ := tcpXmit_control env tcp
  unfold TcpInv
  rw [hc]
  refine Control.Inv.setTimer h fun ht' => ?_
  -- timer が動けば接続は消えていない：消えた接続では timer は止まり、状態は CLOSED である
  have hl : tcp.listed = true := by
    cases hl : tcp.listed
    · obtain ⟨hs, htm⟩ := h.deleted hl
      rcases ht ht' with hr | hx
      · rw [htm] at hr
        cases hr
      · rw [hs] at hx
        exact absurd hx not_xmitStarts_closed
    · rfl
  refine ⟨hl, ?_⟩
  rcases ht ht' with hr | hx
  · exact Control.Inv.timer h hr
  · exact not_ackedFin_of_xmitStarts _ (Control.Inv.mem h) hx

/-- `tcp_rx_ack` は、状態と再送 timer を変えないか、timer を止めて ACK された flag を足す。
上位が閉じていれば、そこで FIN を送り始めることもある。 -/
theorem tcpRxAck_control {tcp tcp' : TcpConnection} {ack win : Nat}
    (h : tcpRxAck tcp ack win = some tcp') :
    tcp'.control = tcp.control ∨
      tcp'.control = { tcp.control with tcpState := ackState tcp.tcpState, timer := false } ∨
      tcp.xferClosed = true ∧ tcp'.control =
        { tcp.control with tcpState := ackState tcp.tcpState ||| tcpStateSent tcpFin, timer := false } := by
  unfold tcpRxAck at h
  dsimp only at h
  split at h
  · -- 送った範囲の外の ACK
    split at h
    · obtain rfl := Option.some.inj h
      exact .inl rfl
    · cases h
  · split at h
    · obtain rfl := Option.some.inj h
      exact .inl rfl
    · -- 番号を進める ACK。`len` の場合分けの後、FIN を送り始めるかで分かれる
      split at h <;> split at h
      all_goals obtain rfl := Option.some.inj h
      · next hc => exact .inr (.inr ⟨hc.2.1, rfl⟩)
      · exact .inr (.inl rfl)
      · next hc => exact .inr (.inr ⟨hc.2.1, rfl⟩)
      · exact .inr (.inl rfl)

theorem TcpInv.rxAck {tcp tcp' : TcpConnection} {ack win : Nat} (h : TcpInv tcp)
    (hl : tcp.listed = true) (hr : tcpRxAck tcp ack win = some tcp') : TcpInv tcp' := by
  have hmem : tcp.tcpState ∈ tcpStates := Control.Inv.state h hl
  have htw : tcp.tcpState = tcpTimeWait → ackState tcp.tcpState = tcpTimeWait := by
    intro hs
    rw [hs, timeWait_fixed.1]
  rcases tcpRxAck_control hr with hc | hc | ⟨hx, hc⟩
  · exact h.congr hc
  · unfold TcpInv
    rw [hc]
    exact Control.Inv.update h hl (ackState_mem _ hmem) RcvdSyn.ackState htw (fun h' => by cases h')
  · -- FIN を送り始めるのは上位が閉じた後で、そのとき SYN は受け取っている
    have hrs : RcvdSyn tcp.tcpState := Control.Inv.xferClosed h hl hx
    unfold TcpInv
    rw [hc]
    refine Control.Inv.update h hl (sentFin_mem _ (ackState_mem _ hmem) hrs.ackState)
      (fun _ => hrs.ackState.lor _) ?_ (fun h' => by cases h')
    intro hs
    rw [htw hs, timeWait_fixed.2.1]

/-! ## `tcp_close` -/

/-- 送るものが残っていなければ FIN を送り始める。`tcp_close` の最後の段である。 -/
theorem TcpInv.startFin {tcp : TcpConnection} (h : TcpInv tcp) (hl : tcp.listed = true)
    (hrs : RcvdSyn tcp.tcpState) :
    TcpInv (if tcp.txQueue = [] ∧ tcp.tcpState &&& tcpStateSent tcpFin = 0 then
        { tcp with tcpState := tcp.tcpState ||| tcpStateSent tcpFin } else tcp) ∧
      (if tcp.txQueue = [] ∧ tcp.tcpState &&& tcpStateSent tcpFin = 0 then
        { tcp with tcpState := tcp.tcpState ||| tcpStateSent tcpFin } else tcp).listed = true := by
  split
  · exact ⟨h.sentFin hl hrs, hl⟩
  · exact ⟨h, hl⟩

/-- SYN を受け取る前の `tcp_close` は接続を消す。 -/
theorem tcpClose_deleted {tcp : TcpConnection} (hs : ¬RcvdSyn tcp.tcpState) :
    TcpInv (tcpClose tcp) ∧ (tcpClose tcp).listed = false := by
  unfold tcpClose
  dsimp only
  rw [if_pos (not_not.mp hs)]
  exact ⟨Control.Inv.deleted_of rfl rfl rfl rfl rfl, rfl⟩

theorem tcpRxAck_listed {tcp tcp' : TcpConnection} {ack win : Nat}
    (h : tcpRxAck tcp ack win = some tcp') :
    tcp'.listed = tcp.listed ∧ tcp'.xferClosed = tcp.xferClosed := by
  rcases tcpRxAck_control h with hc | hc | ⟨-, hc⟩ <;>
    exact ⟨congrArg Control.listed hc, congrArg Control.xferClosed hc⟩

/-- SYN を受け取った後の `tcp_close` は接続を残す。 -/
theorem TcpInv.close {tcp : TcpConnection} (h : TcpInv tcp) (hl : tcp.listed = true) :
    TcpInv (tcpClose tcp) ∧ (RcvdSyn tcp.tcpState → (tcpClose tcp).listed = true) := by
  by_cases hs : RcvdSyn tcp.tcpState
  swap
  · exact ⟨(tcpClose_deleted hs).1, fun h' => absurd h' hs⟩
  refine (fun h' : TcpInv (tcpClose tcp) ∧ (tcpClose tcp).listed = true => ⟨h'.1, fun _ => h'.2⟩) ?_
  unfold tcpClose
  dsimp only
  rw [if_neg hs]
  -- 上位を閉じる
  have h1 : TcpInv { tcp with xferClosed := true } := by
    have hc : ({ tcp with xferClosed := true }).control = { tcp.control with xferClosed := true } := rfl
    unfold TcpInv
    rw [hc]
    exact { h with xferClosed := fun _ _ => hs }
  -- SYN が ACK されていなければ、ACK されたことにする
  have h2 : ∀ tcp' : TcpConnection,
      tcp' = (if tcp.tcpState &&& tcpStateAcked tcpSyn = 0 then
        (tcpRxAck { tcp with xferClosed := true } ((tcp.sndSeq + 1) % 2 ^ 32) 0).getD
          { tcp with xferClosed := true } else { tcp with xferClosed := true }) →
      TcpInv tcp' ∧ tcp'.listed = true ∧ tcp'.xferClosed = true := by
    intro tcp' ht'
    subst ht'
    split
    · cases hr : tcpRxAck { tcp with xferClosed := true } ((tcp.sndSeq + 1) % 2 ^ 32) 0 with
      | none => exact ⟨h1, hl, rfl⟩
      | some tcp' =>
        obtain ⟨hl', hx'⟩ := tcpRxAck_listed hr
        exact ⟨h1.rxAck hl hr, hl'.trans hl, hx'⟩
    · exact ⟨h1, hl, rfl⟩
  obtain ⟨h2, hl2, hx2⟩ := h2 _ rfl
  exact h2.startFin hl2 (Control.Inv.xferClosed h2 hl2 hx2)

/-! ## 受信 -/

/-- `tcp_rx_syn` は、状態を変えないか、ACK を送り SYN を受け取ったことを足すだけである。 -/
theorem tcpRxSyn_control (tcp : TcpConnection) (seq : Nat) (wsopt : Option Nat) :
    (tcpRxSyn tcp seq wsopt).control = tcp.control ∨
      (tcpRxSyn tcp seq wsopt).control =
        { tcp.control with tcpState := tcp.tcpState ||| (tcpStateSent tcpAck ||| tcpStateRcvd tcpSyn) } := by
  unfold tcpRxSyn
  cases wsopt <;> dsimp only <;> split_ifs <;> first | exact .inl rfl | exact .inr rfl

theorem TcpInv.rxSyn {tcp : TcpConnection} (h : TcpInv tcp) (hl : tcp.listed = true) (seq : Nat)
    (wsopt : Option Nat) : TcpInv (tcpRxSyn tcp seq wsopt) ∧ (tcpRxSyn tcp seq wsopt).listed = true := by
  have hmem : tcp.tcpState ∈ tcpStates := Control.Inv.state h hl
  rcases tcpRxSyn_control tcp seq wsopt with hc | hc
  · exact ⟨h.congr hc, (congrArg Control.listed hc).trans hl⟩
  · refine ⟨?_, (congrArg Control.listed hc).trans hl⟩
    have h' := h.setState hl (rxSyn_mem _ hmem) (fun hs => hs.lor _)
      (fun hs => by rw [hs]; exact timeWait_fixed.2.2.1) (ackedFin_update _ hmem).2.1
    exact h'.congr hc

/-- 消えていない接続の受信 queue を置き換える。SYN を受け取った後に限る。 -/
theorem TcpInv.setRxQueue {tcp : TcpConnection} (h : TcpInv tcp) (hl : tcp.listed = true)
    (hrs : RcvdSyn tcp.tcpState) (q : List RxQueued) : TcpInv { tcp with rxQueue := q } := by
  have hc : ({ tcp with rxQueue := q }).control = { tcp.control with rxEmpty := q.isEmpty } := rfl
  unfold TcpInv
  rw [hc]
  exact Control.Inv.setRxEmpty h hl hrs _

theorem TcpInv.rxEnqueue {tcp : TcpConnection} (h : TcpInv tcp) (hl : tcp.listed = true)
    (seq flags : Nat) (data : Bytes) :
    TcpInv (tcpRxEnqueue tcp seq flags data) ∧ (tcpRxEnqueue tcp seq flags data).listed = true := by
  -- 捨てなかった segment だけが queue に入り、そのとき SYN は受け取っている
  have key : ∀ (c : Prop) [Decidable c] (q : List RxQueued), (¬c → RcvdSyn tcp.tcpState) →
      TcpInv (if c then tcp else { tcp with rxQueue := q }) ∧
        (if c then tcp else { tcp with rxQueue := q }).listed = true := by
    intro c _ q hc
    split
    · exact ⟨h, hl⟩
    · next hn => exact ⟨h.setRxQueue hl (hc hn) q, hl⟩
  unfold tcpRxEnqueue
  exact key _ _ (fun hn h0 => hn (.inl h0))

/-- `tcp_rx_fin`。受信 queue から呼ばれるので、SYN は受け取っている。 -/
theorem TcpInv.rxFin {tcp : TcpConnection} (h : TcpInv tcp) (hl : tcp.listed = true)
    (hrs : RcvdSyn tcp.tcpState) (seq : Nat) :
    TcpInv (tcpRxFin tcp seq) ∧ (tcpRxFin tcp seq).listed = true := by
  have hmem : tcp.tcpState ∈ tcpStates := Control.Inv.state h hl
  unfold tcpRxFin
  split
  · exact ⟨h, hl⟩
  · have h1 : TcpInv (tcpRxSeq tcp 1) := h.congr (tcpRxSeq_control tcp 1)
    have h2 := h1.setState hl (rcvdFin_mem _ hmem hrs) (fun hs => hs.lor _)
      (fun hs => by rw [show tcp.tcpState = tcpTimeWait from hs]; exact timeWait_fixed.2.2.2)
      (ackedFin_update _ hmem).2.2
    obtain ⟨h3, hl3⟩ := h2.close hl
    exact ⟨h3, hl3 (hrs.lor _)⟩

/-- 受け入れた RST は接続を消す。 -/
theorem TcpInv.rxRst {tcp : TcpConnection} (h : TcpInv tcp) (seq : Nat) : TcpInv (tcpRxRst tcp seq).1 := by
  have key : ∀ (c : Prop) [Decidable c],
      TcpInv (if c then (tcp, false) else (tcpClose { tcp with tcpState := tcpClosed }, true)).1 := by
    intro c _
    split
    · exact h
    · exact (@tcpClose_deleted { tcp with tcpState := tcpClosed } not_rcvdSyn_closed).1
  unfold tcpRxRst
  exact key _

/-- 受信 queue の loop。取り出すたびに queue が空かどうかが変わるが、SYN は受け取っている。 -/
theorem TcpInv.processRxQueueLoop : ∀ (fuel : Nat) {tcp : TcpConnection}, TcpInv tcp →
    tcp.listed = true →
    TcpInv (tcpProcessRxQueueLoop fuel tcp) ∧ (tcpProcessRxQueueLoop fuel tcp).listed = true
  | 0, _, h, hl => ⟨h, hl⟩
  | fuel + 1, tcp, h, hl => by
    unfold tcpProcessRxQueueLoop
    split
    · exact ⟨h, hl⟩
    · next queued rest hq =>
      split
      · exact ⟨h, hl⟩
      · have hrs : RcvdSyn tcp.tcpState :=
          Control.Inv.rxQueue h (by simp [TcpConnection.control, hq])
        -- 先頭を取り除いて data を上位に渡す。どちらも状態を変えない
        have hd := tcpRxData_control { tcp with rxQueue := rest } queued.seq queued.data
        have h2 := (h.setRxQueue hl hrs rest).congr hd
        have hl2 := (congrArg Control.listed hd).trans hl
        have hs2 : (tcpRxData { tcp with rxQueue := rest } queued.seq queued.data).tcpState =
            tcp.tcpState := congrArg Control.tcpState hd
        have hrs2 : RcvdSyn (tcpRxData { tcp with rxQueue := rest } queued.seq queued.data).tcpState := by
          rw [hs2]
          exact hrs
        dsimp only
        split
        · obtain ⟨h3, hl3⟩ := h2.rxFin hl2 hrs2 _
          exact processRxQueueLoop fuel h3 hl3
        · exact processRxQueueLoop fuel h2 hl2

/-- `tcp_rx` の後半。再送 timer を動かすのは `tcp_xmit` で、TIME_WAIT の timer は閉じ終えた
ときだけ動かす。 -/
theorem TcpInv.rxRest {tcp : TcpConnection} (h : TcpInv tcp) (hl : tcp.listed = true) (env : XmitEnv) :
    TcpInv (tcpRxQueue env tcp) := by
  obtain ⟨h1, -⟩ := TcpInv.processRxQueueLoop tcp.rxQueue.length h hl
  unfold tcpRxQueue
  dsimp only
  generalize ht2 : (if (tcpProcessRxQueue tcp).rxQueue = [] then tcpProcessRxQueue tcp
    else tcpXmit env (tcpProcessRxQueue tcp)) = t2
  have h2 : TcpInv t2 := by
    subst ht2
    split
    · exact h1
    · exact h1.xmit env
  split
  · next hg => exact Control.Inv.startWait h2 (closedGracefully_iff _ (Control.Inv.mem h2) hg)
  · exact h2

theorem TcpInv.rxSegment {tcp : TcpConnection} (h : TcpInv tcp) (hl : tcp.listed = true)
    (env : XmitEnv) (seg : TcpSegment) : TcpInv (tcpRxSegment env tcp seg) := by
  unfold tcpRxSegment
  dsimp only
  generalize ht1 : (if tcp.tcpState &&& tcpStateRcvd tcpSyn ≠ 0 ∧ seg.seq ≠ tcp.rcvAck then
    { tcp with ackPending := true } else tcp) = t1
  -- 順番の違う segment で変わるのは `ackPending` だけ
  have h1 : TcpInv t1 ∧ t1.listed = true := by
    subst ht1
    split
    · exact ⟨h.congr rfl, hl⟩
    · exact ⟨h, hl⟩
  generalize ht2 : (if seg.flags &&& tcpSyn ≠ 0 then tcpRxSyn t1 seg.seq seg.wsopt else t1) = t2
  have h2 : TcpInv t2 ∧ t2.listed = true := by
    subst ht2
    split
    · exact h1.1.rxSyn h1.2 _ _
    · exact h1
  generalize (if seg.flags &&& tcpSyn ≠ 0 then (seg.seq + 1) % 2 ^ 32 else seg.seq) = seq
  split
  · exact h2.1.rxRst _
  · obtain ⟨h3, hl3⟩ := h2.1.rxEnqueue h2.2 _ seg.flags seg.data
    exact h3.rxRest hl3 env

theorem TcpInv.rx {tcp : TcpConnection} (h : TcpInv tcp) (hl : tcp.listed = true) (env : XmitEnv)
    (seg : TcpSegment) : TcpInv (tcpRx env tcp seg) := by
  unfold tcpRx
  dsimp only
  generalize hacc : (if seg.flags &&& tcpAck ≠ 0 then
    tcpRxAck tcp seg.ack ((seg.win <<< tcp.sndWinScale) % 2 ^ 32) else some tcp) = acked
  cases acked with
  | none => exact h
  | some t1 =>
    have h1 : TcpInv t1 ∧ t1.listed = true := by
      split at hacc
      · exact ⟨h.rxAck hl hacc, (tcpRxAck_listed hacc).1.trans hl⟩
      · obtain rfl := Option.some.inj hacc
        exact ⟨h, hl⟩
    exact h1.1.rxSegment h1.2 env seg

/-! ## timer と上位 -/

theorem TcpInv.expired {tcp : TcpConnection} (h : TcpInv tcp) (env : XmitEnv) (isOver : Bool) :
    TcpInv (tcpExpired env { tcp with timer := false } isOver) := by
  have h0 : TcpInv { tcp with timer := false } := Control.Inv.stopTimer h
  unfold tcpExpired
  cases isOver with
  | false => exact h0.xmit env
  | true =>
    refine (tcpClose_deleted ?_).1
    exact not_rcvdSyn_closed

theorem TcpInv.waitExpired (tcp : TcpConnection) : TcpInv (tcpWaitExpired { tcp with wait := false }) := by
  unfold tcpWaitExpired
  refine (tcpClose_deleted ?_).1
  exact not_rcvdSyn_closed

theorem TcpInv.discard {tcp : TcpConnection} (h : TcpInv tcp) : TcpInv (tcpDiscard tcp) := by
  unfold tcpDiscard
  split
  · exact h
  · next queued hq =>
    -- 捨てる項があるので queue は空でなく、接続は残っていて SYN を受け取っている
    have hne : tcp.control.rxEmpty = false := by
      cases hr : tcp.rxQueue with
      | nil => simp [hr] at hq
      | cons _ _ => simp [TcpConnection.control, hr]
    have hl : tcp.listed = true := by
      cases hl : tcp.listed
      · have := (Control.Inv.deleted h hl).2.2.2
        rw [hne] at this
        cases this
      · rfl
    exact (h.setRxQueue hl (Control.Inv.rxQueue h hne) tcp.rxQueue.dropLast).congr rfl

/-! ## 実行 -/

theorem TcpInv.step {tcp : TcpConnection} (h : TcpInv tcp) (e : TcpEvent) : TcpInv (tcpStep tcp e) := by
  unfold tcpStep
  split
  · exact h
  · next hl' =>
    have hl : tcp.listed = true := by simpa using hl'
    cases e with
    | xmit env => exact h.xmit env
    | expired isOver env =>
      dsimp only
      split
      · exact h.expired env isOver
      · exact h
    | waitExpired =>
      dsimp only
      split
      · exact TcpInv.waitExpired tcp
      · exact h
    | xferClose env =>
      dsimp only
      split
      · exact h
      · exact (h.close hl).1.xmit env
    | xferDeliver data env =>
      dsimp only
      split
      · exact h
      · -- 送信 queue は不変条件に現れない
        exact (@TcpInv.congr tcp { tcp with txQueue := tcp.txQueue ++ [data] } h rfl).xmit env
    | rx seg env => exact h.rx hl env seg
    | discard => exact h.discard

theorem tcpStep_rx {tcp : TcpConnection} (hl : tcp.listed = true) (seg : TcpSegment) (env : XmitEnv) :
    tcpStep tcp (.rx seg env) = tcpRx env tcp seg := by
  simp [tcpStep, hl]

theorem tcpStep_xferClose {tcp : TcpConnection} (hl : tcp.listed = true) (hx : tcp.xferClosed = false)
    (env : XmitEnv) : tcpStep tcp (.xferClose env) = tcpXferClose env tcp := by
  simp [tcpStep, hl, hx]

theorem tcpOpen_inv (isn : Nat) : TcpInv (tcpOpen isn) := by
  unfold TcpInv
  exact {
    state := fun _ => show tcpStateSent tcpSyn ∈ tcpStates by decide
    deleted := fun h' => by cases h'
    xferClosed := fun _ h' => by cases h'
    rxQueue := fun h' => by cases h'
    timer := fun _ => show ¬AckedFin (tcpStateSent tcpSyn) by decide
    wait := fun h' => by cases h' }

theorem tcpStep_invariant : Invariant tcpStep TcpInv := fun _ e h => h.step e

/-- **どの実行でも不変条件が成り立つ。** -/
theorem runTcp_inv (isn : Nat) (es : List TcpEvent) : TcpInv (runTcp isn es) :=
  tcpStep_invariant.run (tcpOpen_inv isn) es

/-! ## 主な性質 -/

/-- 接続が残っている間、`tcp_state` は十二の値の一つである。 -/
theorem runTcp_state_mem (isn : Nat) (es : List TcpEvent) (hl : (runTcp isn es).listed = true) :
    (runTcp isn es).tcpState ∈ tcpStates :=
  Control.Inv.state (runTcp_inv isn es) hl

/-- **TIME_WAIT の timer。** 動いていれば状態は TIME_WAIT で、`tcp_wait_expired` の `assert` は
破れない。 -/
theorem runTcp_wait_asserts (isn : Nat) (es : List TcpEvent) (hw : (runTcp isn es).wait = true) :
    (runTcp isn es).tcpState = tcpTimeWait :=
  Control.Inv.wait (runTcp_inv isn es) hw

theorem expiredAsserts_of_not_ackedFin :
    ∀ s ∈ tcpStates, ¬AckedFin s → tcpExpiredAsserts s = true ∨ s ∈ tcpUnnamedStates := by
  decide

/-- **再送 timer。** 動いていれば、`tcp_expired` の `assert` は成り立つか、状態は名前のない四つの
一つである。 -/
theorem runTcp_expired_asserts (isn : Nat) (es : List TcpEvent) (ht : (runTcp isn es).timer = true) :
    tcpExpiredAsserts (runTcp isn es).tcpState = true ∨ (runTcp isn es).tcpState ∈ tcpUnnamedStates := by
  have h := runTcp_inv isn es
  have hl : (runTcp isn es).listed = true := by
    cases hl : (runTcp isn es).listed
    · rw [(h.deleted hl).2] at ht
      cases ht
    · rfl
  exact expiredAsserts_of_not_ackedFin _ (Control.Inv.state h hl) (Control.Inv.timer h ht)

theorem xmitAsserts_iff : ∀ s ∈ tcpStates, tcpXmitAsserts (tcpFlagsSending s) = false ↔
    s = tcpSynRcvd ||| tcpStateSent tcpFin ∨ s = tcpSynRcvd ||| tcpStateSent tcpFin ||| tcpStateRcvd tcpFin := by
  decide

/-- **SYN と FIN。** `TCP_FLAGS_SENDING` が両方を含むのは、SYN が ACK されないまま FIN を送り始めた
二つの状態だけである。 -/
theorem runTcp_xmit_asserts (isn : Nat) (es : List TcpEvent) (hl : (runTcp isn es).listed = true)
    (hx : tcpXmitAsserts (tcpFlagsSending (runTcp isn es).tcpState) = false) :
    (runTcp isn es).tcpState = tcpSynRcvd ||| tcpStateSent tcpFin ∨
      (runTcp isn es).tcpState = tcpSynRcvd ||| tcpStateSent tcpFin ||| tcpStateRcvd tcpFin :=
  (xmitAsserts_iff _ (runTcp_state_mem isn es hl)).mp hx

/-! ## 最初の SYN を送る前に閉じる -/

/-- `tcp_open` の直後、再送 timer が最初の SYN を送るより前に、相手の SYN だけの segment が届く。 -/
theorem tcpRx_open_syn (isn seq ack win : Nat) (wsopt : Option Nat) (env : XmitEnv) :
    let tcp := tcpRx env (tcpOpen isn) ⟨seq, ack, win, tcpSyn, wsopt, []⟩
    tcp.tcpState = tcpSynRcvd ∧ tcp.timer = true ∧ tcp.sndSent = 0 ∧ tcp.txQueue = [] ∧
      tcp.xferClosed = false ∧ tcp.listed = true := by
  cases wsopt <;>
    simp +decide [tcpRx, tcpRxSegment, tcpRxSyn, tcpRxSeq, tcpRxEnqueue, tcpRxQueue, tcpProcessRxQueue,
      tcpProcessRxQueueLoop, tcpOpen, tcpRxRst, tcpSyn, tcpAck, tcpRst, tcpFin, tcpStateSent, tcpStateRcvd,
      tcpSynRcvd, tcpClosedGracefully, tcpStateAcked]

theorem u32Sub_succ_mod (a : Nat) : u32Sub ((a + 1) % 2 ^ 32) a = 1 := by
  unfold u32Sub
  omega

/-- まだ何も送っていない接続では、`snd_seq + 1` への ACK は送った範囲の外である。 -/
theorem tcpRxAck_unsent {tcp : TcpConnection} (hs : tcpHasBeenEstablished tcp.tcpState = false)
    (hsent : tcp.sndSent = 0) : tcpRxAck tcp ((tcp.sndSeq + 1) % 2 ^ 32) 0 = none := by
  unfold tcpRxAck
  dsimp only
  rw [u32Sub_succ_mod, hsent, if_pos (by decide), hs]
  rfl

/-- SYN を受け取り、まだ何も送っていない接続を上位が閉じる。`tcp_close` の偽の ACK は捨てられ、
SYN が ACK されないまま FIN を送り始める。再送 timer は動いたままである。 -/
theorem tcpXferClose_synRcvd_unsent {tcp : TcpConnection} (hs : tcp.tcpState = tcpSynRcvd)
    (ht : tcp.timer = true) (hsent : tcp.sndSent = 0) (htx : tcp.txQueue = []) (env : XmitEnv) :
    (tcpXferClose env tcp).tcpState = tcpSynRcvd ||| tcpStateSent tcpFin ∧
      (tcpXferClose env tcp).timer = true := by
  have hack : tcpRxAck { tcp with xferClosed := true } ((tcp.sndSeq + 1) % 2 ^ 32) 0 = none :=
    tcpRxAck_unsent (show tcpHasBeenEstablished tcp.tcpState = false by rw [hs]; decide) hsent
  have hrs : ¬tcp.tcpState &&& tcpStateRcvd tcpSyn = 0 := by rw [hs]; decide
  have has : tcp.tcpState &&& tcpStateAcked tcpSyn = 0 := by rw [hs]; decide
  have hfin : tcp.tcpState &&& tcpStateSent tcpFin = 0 := by rw [hs]; decide
  unfold tcpXferClose tcpClose
  dsimp only
  rw [if_neg hrs, if_pos has, hack, Option.getD_none, if_pos ⟨htx, hfin⟩]
  -- `tcp_xmit` は timer が動いているので何もしない
  unfold tcpXmit
  rw [if_pos ht]
  exact ⟨by rw [hs], ht⟩

/-- **最初の SYN を送る前に閉じると、SYN と FIN を同時に送る状態に入る。** `tcp_open` の直後、
再送 timer が最初の SYN を送るより前に相手の SYN が届き、上位が接続を閉じる。`tcp_close` は SYN が
ACK されたことにしようとするが、`snd_sent = 0` なので `tcp_rx_ack` はその ACK を捨て、SYN が ACK
されないまま FIN を送り始める。初めの送信番号と相手の segment によらず、この状態は
`tcp_state ( )` では `"INVALID"` で、`TCP_FLAGS_SENDING` は SYN と FIN を両方含み、再送 timer は
動いていて、満了すれば `tcp_expired` の `assert` が破れる。 -/
theorem tcp_close_before_first_syn_sends_syn_and_fin (isn seq ack win : Nat) (wsopt : Option Nat)
    (env env' : XmitEnv) :
    let tcp := runTcp isn [.rx ⟨seq, ack, win, tcpSyn, wsopt, []⟩ env, .xferClose env']
    tcpStateName tcp.tcpState = "INVALID" ∧ tcpXmitAsserts (tcpFlagsSending tcp.tcpState) = false ∧
      tcp.timer = true ∧ tcpExpiredAsserts tcp.tcpState = false := by
  intro tcp
  obtain ⟨hs, ht, hsent, htx, hx, hl⟩ := tcpRx_open_syn isn seq ack win wsopt env
  have hrun : tcp = tcpXferClose env' (tcpRx env (tcpOpen isn) ⟨seq, ack, win, tcpSyn, wsopt, []⟩) := by
    show run tcpStep (tcpOpen isn) _ = _
    rw [run_cons, run_cons, run_nil, tcpStep_rx rfl, tcpStep_xferClose hl hx]
  obtain ⟨hs', ht'⟩ := tcpXferClose_synRcvd_unsent hs ht hsent htx env'
  rw [hrun, hs', ht']
  exact ⟨by decide, by decide, rfl, by decide⟩

end FlexBoot.Tcp
