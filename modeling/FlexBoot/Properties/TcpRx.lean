import FlexBoot.Properties.TcpState
import FlexBoot.Infra.SortedList

/-!
# TCP の受信：相手の byte 列を一度ずつ順に渡す

確立した接続に、相手の byte 列 `B` の一部を運ぶ segment が届く。segment は重なっても、
同じものが二度来ても、順番が入れ替わってもよく、最後の一つには FIN が付く。番号は
32 bit のどこから始まってもよい。どの segment も届いた時の受信窓の中に始まり、cache の
discard がなければ、

* `tcp_rx_data` が `xfer_deliver_iob` に渡した buffer をつなぐと `B` の先頭になり、
* その長さは、それまでに届いた segment が隙間なく覆う `B` の先頭の長さに等しく、
* `rcv_ack` は相手の ISN に 1 と渡した長さを足したもので、FIN を処理した後はさらに 1 を
  足したものである（`tcp_rx_delivers_stream_in_order`）。

## 番号と offset

segment の番号は `2 ^ 32` で巻き戻るが、受信窓は `2 ^ 31` よりずっと狭い。queue にある
segment と `rcv_ack` は、`B` の中の offset で見ていつも `2 ^ 31` より近いので、`tcp_cmp` は
offset の差をそのまま返す（`tcpCmp_seqOf`）。以下では番号の代わりに offset で考える。

## 不変条件

`RxCore` は、接続の受信側の field を `RxView`（渡した長さ、FIN を処理したか、queue にある
segment の offset の列）に結び付ける。queue は offset の順に並び、届いた segment が覆う
byte は、渡したものか queue にあるものである。`tcp_process_rx_queue` の loop は queue の
先頭を一つずつ取り出し、最初の隙間で止まる（`LoopInv.loop`）。
-/

namespace FlexBoot.Tcp

open Infra FlexBoot

/-! ## 番号と offset -/

/-- 相手の byte 列の `off` 番目の byte の番号。`base` は相手の ISN に 1 を足したもの。 -/
def seqOf (base off : Nat) : Nat := (base + off) % 2 ^ 32

theorem seqOf_add (base a k : Nat) : (seqOf base a + k) % 2 ^ 32 = seqOf base (a + k) := by
  unfold seqOf
  omega

theorem u32Sub_seqOf {base a b : Nat} (h : b ≤ a) (h' : a < b + 2 ^ 32) :
    u32Sub (seqOf base a) (seqOf base b) = a - b := by
  unfold u32Sub seqOf
  omega

theorem u32Sub_seqOf_lt {base a b : Nat} (h : a < b) (h' : b ≤ a + 2 ^ 32) :
    u32Sub (seqOf base a) (seqOf base b) = 2 ^ 32 - (b - a) := by
  unfold u32Sub seqOf
  omega

/-- `2 ^ 31` より近い offset の番号は、`tcp_cmp` で offset の差になる。 -/
theorem tcpCmp_seqOf {base a b : Nat} (h : a < b + 2 ^ 31) (h' : b < a + 2 ^ 31) :
    tcpCmp (seqOf base a) (seqOf base b) = (a : Int) - b := by
  unfold tcpCmp
  rcases Nat.lt_or_ge a b with hab | hab
  · rw [u32Sub_seqOf_lt hab (by omega), if_neg (by omega)]
    omega
  · rw [u32Sub_seqOf hab (by omega), if_pos (by omega)]
    omega

theorem seqOf_inj {base a b : Nat} (h : a < b + 2 ^ 32) (h' : b < a + 2 ^ 32) :
    seqOf base a = seqOf base b ↔ a = b := by
  unfold seqOf
  omega

/-! ## 相手の byte 列の一部 -/

/-- segment が運ぶ `B` の一部：`off` byte 目から `len` byte。`fin` は FIN が付くこと。 -/
structure Slice where
  off : Nat
  len : Nat
  fin : Bool
  deriving DecidableEq, Repr

namespace Slice

def data (B : Bytes) (s : Slice) : Bytes := (B.drop s.off).take s.len

/-- 受信 queue に入った形。番号、FIN、data。 -/
def entry (B : Bytes) (base : Nat) (s : Slice) : RxQueued := ⟨seqOf base s.off, s.fin, s.data B⟩

/-- `i` 番目の byte を運ぶ。 -/
def Covers (s : Slice) (i : Nat) : Prop := s.off ≤ i ∧ i < s.off + s.len

/-- `B` の中に収まり、FIN は `B` の終わりに付く。長さは IP header の 16 bit の長さで決まる。 -/
def Valid (B : Bytes) (s : Slice) : Prop :=
  s.off + s.len ≤ B.length ∧ s.len < 2 ^ 16 ∧ (s.fin = true → s.off + s.len = B.length)

instance (s : Slice) (i : Nat) : Decidable (s.Covers i) := inferInstanceAs (Decidable (_ ∧ _))
instance (B : Bytes) (s : Slice) : Decidable (s.Valid B) := inferInstanceAs (Decidable (_ ∧ _))

theorem length_data {B : Bytes} {s : Slice} (h : s.Valid B) : (s.data B).length = s.len := by
  unfold data
  rw [List.length_take, List.length_drop]
  have := h.1
  omega

end Slice

/-- `B` の先頭 `n` byte に、`off` から始まる slice の `n` 番目より後ろを足すと、slice の
終わりまでの先頭になる。`tcp_rx_data` が受け取り済みの部分を `iob_pull` で除く形。 -/
theorem take_append_drop_data {B : Bytes} {s : Slice} {n : Nat} (hn : s.off ≤ n)
    (hn' : n < s.off + s.len) : B.take n ++ (s.data B).drop (n - s.off) = B.take (s.off + s.len) := by
  unfold Slice.data
  rw [List.drop_take, List.drop_drop, show s.off + (n - s.off) = n by omega,
    show s.off + s.len = n + (s.len - (n - s.off)) by omega, List.take_add]


/-! ## 受信側の field -/

/-- 接続のうち、受信側が読み書きする field。 -/
structure Recv where
  rcvAck : Nat
  rcvWin : Nat
  maxRcvWin : Nat
  rxQueue : List RxQueued
  delivered : List Bytes

def TcpConnection.recv (tcp : TcpConnection) : Recv :=
  ⟨tcp.rcvAck, tcp.rcvWin, tcp.maxRcvWin, tcp.rxQueue, tcp.delivered⟩

def RcvdFin (state : Nat) : Prop := state &&& tcpStateRcvd tcpFin ≠ 0

instance : DecidablePred RcvdFin := fun _ => inferInstanceAs (Decidable (_ ≠ _))

/-- 状態のうち受信側が読むもの：確立したか、FIN を受け取ったか。 -/
def recvBits (state : Nat) : Bool × Bool := (tcpHasBeenEstablished state, decide (RcvdFin state))

theorem recvBits_ackState : ∀ s ∈ tcpStates, tcpHasBeenEstablished s = true →
    recvBits (ackState s) = recvBits s := by decide

theorem recvBits_sentFin : ∀ s ∈ tcpStates, recvBits (s ||| tcpStateSent tcpFin) = recvBits s := by
  decide

theorem recvBits_rcvdFin : ∀ s ∈ tcpStates, tcpHasBeenEstablished s = true →
    recvBits (s ||| tcpStateRcvd tcpFin) = (true, true) := by decide

/-- 確立した接続は SYN を受け取り、自分の SYN も ACK されている。 -/
theorem established_acked : ∀ s ∈ tcpStates, tcpHasBeenEstablished s = true →
    RcvdSyn s ∧ s &&& tcpStateAcked tcpSyn ≠ 0 := by decide

/-- 確立した後の `tcp_rx_ack` は segment を捨てさせない。 -/
theorem tcpRxAck_isSome {tcp : TcpConnection} (h : tcpHasBeenEstablished tcp.tcpState = true)
    (ack win : Nat) : ∃ tcp', tcpRxAck tcp ack win = some tcp' := by
  unfold tcpRxAck
  dsimp only
  split_ifs <;> exact ⟨_, rfl⟩

theorem tcpRxAck_recv {tcp tcp' : TcpConnection} {ack win : Nat}
    (h : tcpRxAck tcp ack win = some tcp') : tcp'.recv = tcp.recv := by
  unfold tcpRxAck at h
  dsimp only at h
  split_ifs at h <;> (obtain rfl := Option.some.inj h; rfl)

theorem tcpRxAck_recvBits {tcp tcp' : TcpConnection} {ack win : Nat} (hm : tcp.tcpState ∈ tcpStates)
    (he : tcpHasBeenEstablished tcp.tcpState = true) (h : tcpRxAck tcp ack win = some tcp') :
    recvBits tcp'.tcpState = recvBits tcp.tcpState := by
  rcases tcpRxAck_control h with hc | hc | ⟨-, hc⟩
  · rw [show tcp'.tcpState = tcp.tcpState from congrArg Control.tcpState hc]
  · rw [show tcp'.tcpState = ackState tcp.tcpState from congrArg Control.tcpState hc,
      recvBits_ackState _ hm he]
  · rw [show tcp'.tcpState = ackState tcp.tcpState ||| tcpStateSent tcpFin from
      congrArg Control.tcpState hc, recvBits_sentFin _ (ackState_mem _ hm), recvBits_ackState _ hm he]

/-- `tcp_xmit` が受信側で変えるのは窓だけで、広げるのは `max_rcv_win` までである。 -/
theorem tcpXmitSend_recv (env : XmitEnv) (tcp : TcpConnection) :
    (tcpXmitSend env tcp).recv = { tcp.recv with rcvWin := (tcpXmitSend env tcp).rcvWin } ∧
      tcp.rcvWin ≤ (tcpXmitSend env tcp).rcvWin ∧
      (tcpXmitSend env tcp).rcvWin ≤ max tcp.rcvWin tcp.maxRcvWin := by
  unfold tcpXmitSend
  dsimp only
  split
  · exact ⟨rfl, Nat.le_refl _, Nat.le_max_left _ _⟩
  · -- 広げた窓は `max_rcv_win` を 4 の倍数に切り下げたもの以下
    generalize hw : min (min tcp.maxRcvWin env.appWin) (0xffff <<< tcp.rcvWinScale) / 4 * 4 = w
    have hwle : w ≤ tcp.maxRcvWin := by
      have := Nat.div_mul_le_self (min (min tcp.maxRcvWin env.appWin) (0xffff <<< tcp.rcvWinScale)) 4
      omega
    by_cases hlt : tcp.rcvWin < w
    · rw [if_pos hlt]
      split <;> exact ⟨rfl, Nat.le_of_lt hlt, Nat.le_trans hwle (Nat.le_max_right _ _)⟩
    · rw [if_neg hlt]
      split <;> exact ⟨rfl, Nat.le_refl _, Nat.le_max_left _ _⟩

theorem tcpXmit_recv (env : XmitEnv) (tcp : TcpConnection) :
    (tcpXmit env tcp).recv = { tcp.recv with rcvWin := (tcpXmit env tcp).rcvWin } ∧
      tcp.rcvWin ≤ (tcpXmit env tcp).rcvWin ∧
      (tcpXmit env tcp).rcvWin ≤ max tcp.rcvWin tcp.maxRcvWin := by
  unfold tcpXmit
  split
  · exact ⟨rfl, Nat.le_refl _, Nat.le_max_left _ _⟩
  · dsimp only
    split
    · exact ⟨rfl, Nat.le_refl _, Nat.le_max_left _ _⟩
    · split
      · exact tcpXmitSend_recv env _
      · exact tcpXmitSend_recv env _

/-- 確立した接続の `tcp_close` は、受信側を変えず、FIN を送り始めるだけである。 -/
theorem tcpClose_recv {tcp : TcpConnection} (hrs : RcvdSyn tcp.tcpState)
    (has : tcp.tcpState &&& tcpStateAcked tcpSyn ≠ 0) :
    (tcpClose tcp).recv = tcp.recv ∧ ((tcpClose tcp).tcpState = tcp.tcpState ∨
      (tcpClose tcp).tcpState = tcp.tcpState ||| tcpStateSent tcpFin) := by
  unfold tcpClose
  dsimp only
  rw [if_neg hrs, if_neg has]
  split
  · exact ⟨rfl, .inr rfl⟩
  · exact ⟨rfl, .inl rfl⟩


theorem tcpRxSeq_edge (tcp : TcpConnection) (k a : Nat) :
    a + tcp.rcvWin ≤ a + k + (tcpRxSeq tcp k).rcvWin ∧ (tcpRxSeq tcp k).rcvWin ≤ tcp.rcvWin := by
  unfold tcpRxSeq
  dsimp only
  split <;> omega

/-! ## 受信側の見え方 -/

/-- 受信側を `B` の中の offset で見たもの。 -/
structure RxView where
  /-- 上位に渡した長さ。 -/
  n : Nat
  /-- FIN を処理した。 -/
  fin : Bool
  /-- 受信 queue にある segment。 -/
  queue : List Slice

/-- `rcv_ack` の offset。FIN は番号を一つ使う。 -/
def RxView.ack (v : RxView) : Nat := v.n + if v.fin then 1 else 0

/-- queue の先頭 `q` を処理した後。FIN の後は何も変わらず、その前なら `q` の終わりまで
渡し、`q` に FIN があればそれも処理する。 -/
def RxView.pop (v : RxView) (q : Slice) (rest : List Slice) : RxView :=
  if v.fin then ⟨v.n, true, rest⟩ else ⟨max v.n (q.off + q.len), q.fin, rest⟩

/-- 受信側の field と `RxView` の対応。`segs` はそれまでに届いた segment である。 -/
structure RxCore (B : Bytes) (base : Nat) (segs : List Slice) (v : RxView) (tcp : TcpConnection) :
    Prop where
  inv : TcpInv tcp
  listed : tcp.listed = true
  established : tcpHasBeenEstablished tcp.tcpState = true
  maxRcvWin : tcp.maxRcvWin ≤ tcpMaxWindowSize
  rcvWin : tcp.rcvWin ≤ tcpMaxWindowSize
  delivered : tcp.delivered.flatten = B.take v.n
  n_le : v.n ≤ B.length
  rcvdFin : RcvdFin tcp.tcpState ↔ v.fin = true
  /-- FIN を処理するのは、全部を渡し、FIN の付いた segment が届いた後である。 -/
  fin_end : v.fin = true → v.n = B.length ∧ ∃ s ∈ segs, s.fin = true
  rcvAck : tcp.rcvAck = seqOf base v.ack
  rxQueue : tcp.rxQueue = v.queue.map (Slice.entry B base)
  sorted : v.queue.Pairwise fun a b => a.off ≤ b.off
  valid : ∀ s ∈ segs, s.Valid B
  queued : ∀ q ∈ v.queue, q ∈ segs
  /-- 渡した byte は、どれも届いた segment が運んだものである。 -/
  prefix_covered : ∀ i < v.n, ∃ s ∈ segs, s.Covers i
  /-- 届いた segment が運んだ byte は、渡したか queue にある。 -/
  covered : ∀ s ∈ segs, ∀ i, s.Covers i → i < v.n ∨ ∃ q ∈ v.queue, q.Covers i
  fin_queued : (∃ s ∈ segs, s.fin = true) → v.fin = true ∨ ∃ q ∈ v.queue, q.fin = true

/-- segment を処理し終えた時の不変条件。queue に残るのは `rcv_ack` より後ろで、窓の中に
始まる segment である。 -/
structure RxInv (B : Bytes) (base : Nat) (segs : List Slice) (v : RxView) (tcp : TcpConnection) :
    Prop extends RxCore B base segs v tcp where
  window : ∀ q ∈ v.queue, v.ack < q.off ∧ q.off < v.ack + tcp.rcvWin

/-- `tcp_process_rx_queue` の loop の不変条件。queue の segment は loop に入った時の
`rcv_ack`（offset `m0`）と窓の右端 `R` の間に始まり、右端は後ろに下がらない。 -/
structure LoopInv (B : Bytes) (base : Nat) (segs : List Slice) (m0 R : Nat) (v : RxView)
    (tcp : TcpConnection) : Prop extends RxCore B base segs v tcp where
  bounds : ∀ q ∈ v.queue, m0 ≤ q.off ∧ q.off < R
  ack_ge : m0 ≤ v.ack
  ack_le : v.ack ≤ R + 2 ^ 16
  edge : R ≤ v.ack + tcp.rcvWin
  edge_le : R ≤ m0 + tcpMaxWindowSize

section Invariants

variable {B : Bytes} {base : Nat} {segs : List Slice} {v : RxView} {tcp tcp' : TcpConnection}

/-- 受信側の field と、状態の受信側の bit を変えない関数は、対応を保つ。窓は変わってよい。 -/
theorem RxCore.congr (h : RxCore B base segs v tcp) (hi : TcpInv tcp') (hl : tcp'.listed = true)
    (hr : tcp'.recv = { tcp.recv with rcvWin := tcp'.rcvWin }) (hw : tcp'.rcvWin ≤ tcpMaxWindowSize)
    (hb : recvBits tcp'.tcpState = recvBits tcp.tcpState) : RxCore B base segs v tcp' := by
  have hf : RcvdFin tcp'.tcpState ↔ RcvdFin tcp.tcpState := by
    simpa [recvBits] using congrArg Prod.snd hb
  have hmw : tcp'.maxRcvWin = tcp.maxRcvWin := congrArg Recv.maxRcvWin hr
  have hd : tcp'.delivered = tcp.delivered := congrArg Recv.delivered hr
  exact { h with
    inv := hi
    listed := hl
    established := (congrArg Prod.fst hb).trans h.established
    maxRcvWin := hmw ▸ h.maxRcvWin
    rcvWin := hw
    delivered := hd ▸ h.delivered
    rcvdFin := hf.trans h.rcvdFin
    rcvAck := (congrArg Recv.rcvAck hr).trans h.rcvAck
    rxQueue := (congrArg Recv.rxQueue hr).trans h.rxQueue }

theorem RxInv.congr (h : RxInv B base segs v tcp) (hi : TcpInv tcp') (hl : tcp'.listed = true)
    (hr : tcp'.recv = { tcp.recv with rcvWin := tcp'.rcvWin }) (hw : tcp'.rcvWin ≤ tcpMaxWindowSize)
    (hb : recvBits tcp'.tcpState = recvBits tcp.tcpState) (hge : tcp.rcvWin ≤ tcp'.rcvWin) :
    RxInv B base segs v tcp' :=
  { h.toRxCore.congr hi hl hr hw hb with
    window := fun q hq => ⟨(h.window q hq).1, Nat.lt_of_lt_of_le (h.window q hq).2 (by omega)⟩ }

theorem RxView.pop_of_fin {v : RxView} (hf : v.fin = true) (q : Slice) (rest : List Slice) :
    v.pop q rest = ⟨v.n, true, rest⟩ := if_pos hf

theorem RxView.pop_of_not_fin {v : RxView} (hf : v.fin = false) (q : Slice) (rest : List Slice) :
    v.pop q rest = ⟨max v.n (q.off + q.len), q.fin, rest⟩ := if_neg (by simp [hf])

/-- 受信側の field を一つも変えない関数。 -/
theorem RxInv.congr_recv (h : RxInv B base segs v tcp) (hi : TcpInv tcp') (hl : tcp'.listed = true)
    (hr : tcp'.recv = tcp.recv) (hb : recvBits tcp'.tcpState = recvBits tcp.tcpState) :
    RxInv B base segs v tcp' := by
  have hw : tcp'.rcvWin = tcp.rcvWin := congrArg Recv.rcvWin hr
  refine h.congr hi hl ?_ (hw ▸ h.rcvWin) hb (Nat.le_of_eq hw.symm)
  rw [hw, hr]
  rfl

/-- queue の先頭 `q` を取り除き、渡した長さを `n'` に伸ばした後の対応。覆われた byte と FIN の
勘定はここで一度だけする。 -/
theorem RxCore.pop' {q : Slice} {rest : List Slice} {n' : Nat} {fin' : Bool}
    (h : RxCore B base segs v tcp) (hv : v.queue = q :: rest) (hi : TcpInv tcp')
    (hl : tcp'.listed = true) (he : tcpHasBeenEstablished tcp'.tcpState = true)
    (hmw : tcp'.maxRcvWin = tcp.maxRcvWin) (hw : tcp'.rcvWin ≤ tcp.rcvWin)
    (hd : tcp'.delivered.flatten = B.take n') (hf : RcvdFin tcp'.tcpState ↔ fin' = true)
    (hack : tcp'.rcvAck = seqOf base (RxView.ack ⟨n', fin', rest⟩))
    (hrx : tcp'.rxQueue = rest.map (Slice.entry B base))
    (hn : v.n ≤ n') (hn' : n' ≤ B.length) (hend : q.off + q.len ≤ n')
    (hcov : ∀ i < n', i < v.n ∨ q.Covers i) (hfin : fin' = (v.fin || q.fin))
    (hfe : fin' = true → n' = B.length) : RxCore B base segs ⟨n', fin', rest⟩ tcp' := by
  have hqs : q ∈ segs := h.queued q (hv ▸ List.mem_cons_self)
  have hsorted : (q :: rest).Pairwise fun a b => a.off ≤ b.off := hv ▸ h.sorted
  refine
    { inv := hi, listed := hl, established := he, maxRcvWin := hmw ▸ h.maxRcvWin
      rcvWin := Nat.le_trans hw h.rcvWin, delivered := hd, n_le := hn', rcvdFin := hf
      rcvAck := hack, rxQueue := hrx, sorted := (List.pairwise_cons.mp hsorted).2, valid := h.valid
      queued := fun q' hq' => h.queued q' (hv ▸ List.mem_cons_of_mem q hq')
      fin_end := ?_, prefix_covered := ?_, covered := ?_, fin_queued := ?_ }
  · intro hfin1
    refine ⟨hfe hfin1, ?_⟩
    rw [hfin, Bool.or_eq_true] at hfin1
    rcases hfin1 with h1 | h1
    · exact (h.fin_end h1).2
    · exact ⟨q, hqs, h1⟩
  · intro i hi'
    rcases hcov i hi' with hlt | hc
    · exact h.prefix_covered i hlt
    · exact ⟨q, hqs, hc⟩
  · intro s hs i hc
    rcases h.covered s hs i hc with hlt | ⟨q', hq', hc'⟩
    · exact .inl (Nat.lt_of_lt_of_le hlt hn)
    · rw [hv] at hq'
      rcases List.mem_cons.mp hq' with rfl | hq'
      · exact .inl (Nat.lt_of_lt_of_le hc'.2 hend)
      · exact .inr ⟨q', hq', hc'⟩
  · intro hex
    rcases h.fin_queued hex with hf1 | ⟨q', hq', hf1⟩
    · exact .inl (by rw [hfin, hf1]; rfl)
    · rw [hv] at hq'
      rcases List.mem_cons.mp hq' with rfl | hq'
      · exact .inl (by rw [hfin, hf1, Bool.or_true])
      · exact .inr ⟨q', hq', hf1⟩

/-- `RxView.pop` の形で書いた `RxCore.pop'`。 -/
theorem RxCore.pop {q : Slice} {rest : List Slice} (h : RxCore B base segs v tcp)
    (hv : v.queue = q :: rest) (hle : q.off ≤ v.ack) (hi : TcpInv tcp') (hl : tcp'.listed = true)
    (he : tcpHasBeenEstablished tcp'.tcpState = true) (hmw : tcp'.maxRcvWin = tcp.maxRcvWin)
    (hw : tcp'.rcvWin ≤ tcp.rcvWin) (hd : tcp'.delivered.flatten = B.take (v.pop q rest).n)
    (hf : RcvdFin tcp'.tcpState ↔ (v.pop q rest).fin = true)
    (hack : tcp'.rcvAck = seqOf base (v.pop q rest).ack)
    (hrx : tcp'.rxQueue = rest.map (Slice.entry B base)) : RxCore B base segs (v.pop q rest) tcp' := by
  have hqv : q.Valid B := h.valid q (h.queued q (hv ▸ List.mem_cons_self))
  cases hfv : v.fin
  · -- FIN の前：`q` の終わりまで渡し、`q` の FIN を処理する
    rw [RxView.pop_of_not_fin hfv] at hd hf hack ⊢
    refine h.pop' hv hi hl he hmw hw hd hf hack hrx (Nat.le_max_left _ _) ?_ (Nat.le_max_right _ _)
      ?_ (by rw [hfv]; rfl) ?_
    · exact Nat.max_le.mpr ⟨h.n_le, hqv.1⟩
    · -- 隙間がないので、`n` から `q` の終わりまでは `q` が運ぶ
      have hoff : q.off ≤ v.n := by simpa [RxView.ack, hfv] using hle
      intro i hi'
      by_cases hin : i < v.n
      · exact .inl hin
      · exact .inr ⟨by omega, by omega⟩
    · intro hq
      have := hqv.2.2 hq
      have := h.n_le
      omega
  · -- FIN の後：何も変わらない
    rw [RxView.pop_of_fin hfv] at hd hf hack ⊢
    have hn := (h.fin_end hfv).1
    exact h.pop' hv hi hl he hmw hw hd hf hack hrx (Nat.le_refl _) h.n_le (hn ▸ hqv.1)
      (fun i hi' => .inl hi') (by rw [hfv]; rfl) (fun _ => hn)

@[simp] theorem RxView.pop_queue (v : RxView) (q : Slice) (rest : List Slice) :
    (v.pop q rest).queue = rest := by
  unfold RxView.pop
  split <;> rfl

/-- 先頭を処理すると `rcv_ack` は進み、進んでも `q` の終わりの FIN の先までである。 -/
theorem RxView.pop_ack {v : RxView} {q : Slice} (hq : q.Valid B) (hn : v.n ≤ B.length)
    (rest : List Slice) :
    v.ack ≤ (v.pop q rest).ack ∧ (v.pop q rest).ack ≤ max v.ack (q.off + q.len + 1) := by
  have hfe := hq.2.2
  have hend := hq.1
  unfold RxView.pop RxView.ack
  cases v.fin <;> cases hqf : q.fin <;> simp only [Bool.false_eq_true, if_true, if_false, Nat.max_def]
  all_goals first
    | (have hend' := hfe hqf; split_ifs <;> omega)
    | (split_ifs <;> omega)

/-- `RxCore.pop` に、loop の範囲 `[m0, R)` と右端を足したもの。 -/
theorem LoopInv.pop {m0 R : Nat} {q : Slice} {rest : List Slice} (h : LoopInv B base segs m0 R v tcp)
    (hv : v.queue = q :: rest) (hle : q.off ≤ v.ack) (hi : TcpInv tcp') (hl : tcp'.listed = true)
    (he : tcpHasBeenEstablished tcp'.tcpState = true) (hmw : tcp'.maxRcvWin = tcp.maxRcvWin)
    (hw : tcp'.rcvWin ≤ tcp.rcvWin) (hd : tcp'.delivered.flatten = B.take (v.pop q rest).n)
    (hf : RcvdFin tcp'.tcpState ↔ (v.pop q rest).fin = true)
    (hack : tcp'.rcvAck = seqOf base (v.pop q rest).ack)
    (hrx : tcp'.rxQueue = rest.map (Slice.entry B base))
    (hedge : v.ack + tcp.rcvWin ≤ (v.pop q rest).ack + tcp'.rcvWin) :
    LoopInv B base segs m0 R (v.pop q rest) tcp' := by
  have hqm : q ∈ v.queue := hv ▸ List.mem_cons_self
  have hqv : q.Valid B := h.valid q (h.queued q hqm)
  have hb := h.bounds q hqm
  have hack' := RxView.pop_ack hqv h.n_le rest
  have hlen := hqv.2.1
  have hle' := h.ack_le
  exact
    { toRxCore := h.toRxCore.pop hv hle hi hl he hmw hw hd hf hack hrx
      bounds := fun q' hq' => h.bounds q' (by rw [hv]; exact List.mem_cons_of_mem q (by simpa using hq'))
      ack_ge := Nat.le_trans h.ack_ge hack'.1
      ack_le := by omega
      edge := Nat.le_trans h.edge hedge
      edge_le := h.edge_le }

end Invariants

/-! ## 一つの segment の処理 -/

theorem tcpRxData_slice {B : Bytes} {base : Nat} {t : TcpConnection} {q : Slice} {a : Nat}
    (hq : q.Valid B) (hack : t.rcvAck = seqOf base a) (ha : q.off ≤ a) (ha' : a < q.off + 2 ^ 32) :
    tcpRxData t (seqOf base q.off) (q.data B) =
      if q.off + q.len ≤ a then t else
        { tcpRxSeq t (q.off + q.len - a) with
          delivered := t.delivered ++ [(q.data B).drop (a - q.off)] } := by
  unfold tcpRxData
  dsimp only
  rw [hack, u32Sub_seqOf ha ha', Slice.length_data hq]
  by_cases h : q.off + q.len ≤ a
  · rw [if_pos (by omega), if_pos h]
  · rw [if_neg (by omega), if_neg h, show q.len - (a - q.off) = q.off + q.len - a by omega]
    rfl

/-- FIN を処理する前の `tcp_rx_data`：渡した長さは `q` の終わりまで伸び、`rcv_ack` も
そこまで進む。窓の右端は下がらない。 -/
theorem tcpRxData_slice_recv {B : Bytes} {base : Nat} {t : TcpConnection} {q : Slice} {n : Nat}
    (hq : q.Valid B) (hack : t.rcvAck = seqOf base n) (hd : t.delivered.flatten = B.take n)
    (hoff : q.off ≤ n) (hdist : n < q.off + 2 ^ 32) :
    let t1 := tcpRxData t (seqOf base q.off) (q.data B)
    t1.rxQueue = t.rxQueue ∧ t1.maxRcvWin = t.maxRcvWin ∧
      t1.rcvAck = seqOf base (max n (q.off + q.len)) ∧
      t1.delivered.flatten = B.take (max n (q.off + q.len)) ∧
      t1.rcvWin ≤ t.rcvWin ∧ n + t.rcvWin ≤ max n (q.off + q.len) + t1.rcvWin := by
  intro t1
  have ht1 : t1 = _ := tcpRxData_slice hq hack hoff hdist
  by_cases hc : q.off + q.len ≤ n
  · rw [if_pos hc] at ht1
    rw [ht1, Nat.max_eq_left hc]
    exact ⟨rfl, rfl, hack, hd, Nat.le_refl _, Nat.le_refl _⟩
  · -- 新しい部分を渡す
    rw [if_neg hc] at ht1
    rw [ht1, Nat.max_eq_right (by omega)]
    have hedge := tcpRxSeq_edge t (q.off + q.len - n) n
    refine ⟨rfl, rfl, ?_, ?_, hedge.2, ?_⟩
    · show (t.rcvAck + (q.off + q.len - n)) % 2 ^ 32 = _
      rw [hack, seqOf_add, show n + (q.off + q.len - n) = q.off + q.len by omega]
    · show (t.delivered ++ _).flatten = _
      rw [List.flatten_append, hd, List.flatten_singleton, take_append_drop_data hoff (by omega)]
    · show n + t.rcvWin ≤ q.off + q.len + (tcpRxSeq t (q.off + q.len - n)).rcvWin
      have := hedge.1
      omega

theorem tcpRxFin_of_ne {tcp : TcpConnection} {seq : Nat} (h : seq ≠ tcp.rcvAck) :
    tcpRxFin tcp seq = tcp := if_pos h

/-- 確立した接続で待っていた FIN：番号を一つ使い、FIN を受け取ったことを足して閉じる。
受信側の field は `tcp_rx_seq` の後のままである。 -/
theorem tcpRxFin_accept {tcp : TcpConnection} {seq : Nat} (hi : TcpInv tcp) (hl : tcp.listed = true)
    (he : tcpHasBeenEstablished tcp.tcpState = true) (hseq : seq = tcp.rcvAck) :
    TcpInv (tcpRxFin tcp seq) ∧ (tcpRxFin tcp seq).listed = true ∧
      recvBits (tcpRxFin tcp seq).tcpState = (true, true) ∧
      (tcpRxFin tcp seq).recv = (tcpRxSeq tcp 1).recv := by
  have hmem : tcp.tcpState ∈ tcpStates := Control.Inv.state hi hl
  have hrs : RcvdSyn tcp.tcpState := (established_acked _ hmem he).1
  obtain ⟨hi2, hl2⟩ := hi.rxFin hl hrs seq
  refine ⟨hi2, hl2, ?_⟩
  -- FIN を足した状態も十二の一つで、確立している
  have hmem' := rcvdFin_mem _ hmem hrs
  have hbits := recvBits_rcvdFin _ hmem he
  have hack' := established_acked _ hmem' (congrArg Prod.fst hbits)
  have heq : tcpRxFin tcp seq =
      tcpClose { tcpRxSeq tcp 1 with tcpState := tcp.tcpState ||| tcpStateRcvd tcpFin } :=
    if_neg (not_not.mpr hseq)
  rw [heq]
  obtain ⟨hr, hs⟩ :=
    @tcpClose_recv { tcpRxSeq tcp 1 with tcpState := tcp.tcpState ||| tcpStateRcvd tcpFin } hack'.1 hack'.2
  refine ⟨?_, hr⟩
  rcases hs with hs | hs <;> rw [hs]
  · exact hbits
  · rw [recvBits_sentFin _ hmem']
    exact hbits

/-! ## `tcp_process_rx_queue` -/

section Loop

variable {B : Bytes} {base : Nat} {segs : List Slice} {m0 R : Nat}

/-- queue の先頭を一つ処理する。loop の一回で、FIN の前なら `q` の終わりまで渡し、`q` に
FIN があればそれも処理する。FIN の後は、data も FIN も古いものとして捨てる。 -/
theorem LoopInv.step {v : RxView} {tcp : TcpConnection} {q : Slice} {rest : List Slice}
    (h : LoopInv B base segs m0 R v tcp) (hv : v.queue = q :: rest) (hle : q.off ≤ v.ack) :
    let t1 := tcpRxData { tcp with rxQueue := rest.map (Slice.entry B base) } (seqOf base q.off) (q.data B)
    LoopInv B base segs m0 R (v.pop q rest)
      (if q.fin then tcpRxFin t1 ((seqOf base q.off + (q.data B).length) % 2 ^ 32) else t1) := by
  intro t1
  have hqm : q ∈ v.queue := hv ▸ List.mem_cons_self
  have hqv : q.Valid B := h.valid q (h.queued q hqm)
  have hmem : tcp.tcpState ∈ tcpStates := Control.Inv.state h.inv h.listed
  have hrs : RcvdSyn tcp.tcpState := (established_acked _ hmem h.established).1
  -- 先頭を取り除く。受信側で変わるのは queue だけ
  have hi0 : TcpInv { tcp with rxQueue := rest.map (Slice.entry B base) } :=
    h.inv.setRxQueue h.listed hrs _
  have hdist : v.ack < q.off + 2 ^ 32 := by
    have := h.ack_le
    have := h.edge_le
    have := (h.bounds q hqm).1
    unfold tcpMaxWindowSize at *
    omega
  have hseq : (seqOf base q.off + (q.data B).length) % 2 ^ 32 = seqOf base (q.off + q.len) := by
    rw [Slice.length_data hqv, seqOf_add]
  have hc1 : t1.control = ({ tcp with rxQueue := rest.map (Slice.entry B base) } : TcpConnection).control :=
    tcpRxData_control _ _ _
  have hs1 : t1.tcpState = tcp.tcpState := congrArg Control.tcpState hc1
  have hl1 : t1.listed = true := (congrArg Control.listed hc1).trans h.listed
  have hi1 : TcpInv t1 := hi0.congr hc1
  rw [hseq]
  cases hfv : v.fin
  · -- FIN の前：`rcv_ack` は渡した長さ `n` にある
    have hackn : v.ack = v.n := by simp [RxView.ack, hfv]
    obtain ⟨hq1, hmw1, hack1, hdl1, hw1, hedge1⟩ :=
      tcpRxData_slice_recv (t := { tcp with rxQueue := rest.map (Slice.entry B base) }) hqv
        (by rw [← hackn]; exact h.rcvAck) h.delivered (hackn ▸ hle) (hackn ▸ hdist)
    have hpop := RxView.pop_of_not_fin hfv q rest
    split
    · next hqf =>
      -- FIN も処理する：`q` は `B` の終わりまで運ぶので、待っていた FIN である
      have hend : max v.n (q.off + q.len) = q.off + q.len :=
        Nat.max_eq_right (by have := hqv.2.2 hqf; have := h.n_le; omega)
      rw [hend] at hack1 hdl1 hedge1
      obtain ⟨hi2, hl2, hb2, hr2⟩ := tcpRxFin_accept hi1 hl1 (hs1 ▸ h.established) hack1.symm
      have hedge2 := tcpRxSeq_edge t1 1 (q.off + q.len)
      have hw2 : (tcpRxFin t1 (seqOf base (q.off + q.len))).rcvWin = (tcpRxSeq t1 1).rcvWin :=
        congrArg Recv.rcvWin hr2
      have hack2 : (tcpRxFin t1 (seqOf base (q.off + q.len))).rcvAck = (tcpRxSeq t1 1).rcvAck :=
        congrArg Recv.rcvAck hr2
      have hview : v.pop q rest = ⟨q.off + q.len, true, rest⟩ := by rw [hpop, hend, hqf]
      refine h.pop hv hle hi2 hl2 (congrArg Prod.fst hb2) ((congrArg Recv.maxRcvWin hr2).trans hmw1)
        (hw2 ▸ Nat.le_trans hedge2.2 hw1) ?_ ?_ ?_ ((congrArg Recv.rxQueue hr2).trans hq1) ?_
      · rw [hview]
        exact (congrArg (fun r => r.delivered.flatten) hr2).trans hdl1
      · rw [hview]
        simpa [recvBits] using congrArg Prod.snd hb2
      · rw [hview, hack2]
        show (t1.rcvAck + 1) % 2 ^ 32 = _
        rw [hack1, seqOf_add]
        rfl
      · rw [hview, hw2]
        show v.ack + tcp.rcvWin ≤ q.off + q.len + 1 + _
        have : v.n + tcp.rcvWin ≤ q.off + q.len + t1.rcvWin := hedge1
        have := hedge2.1
        omega
    · next hqf =>
      have hqf' : q.fin = false := by simpa using hqf
      refine h.pop hv hle hi1 hl1 (hs1 ▸ h.established) hmw1 hw1 ?_ ?_ ?_ hq1 ?_
      · rw [hpop]
        exact hdl1
      · rw [hs1, h.rcvdFin, hpop, hfv, hqf']
      · rw [hpop, hack1]
        simp [RxView.ack, hqf']
      · rw [hpop]
        show v.ack + tcp.rcvWin ≤ max v.n (q.off + q.len) + (if q.fin then 1 else 0) + t1.rcvWin
        have : v.n + tcp.rcvWin ≤ max v.n (q.off + q.len) + t1.rcvWin := hedge1
        rw [hqf', hackn]
        simpa using this
  · -- FIN の後：data も FIN も古い
    have hn := (h.fin_end hfv).1
    have hend := hqv.1
    have hackn : v.ack = v.n + 1 := by simp [RxView.ack, hfv]
    have ht1 : t1 = { tcp with rxQueue := rest.map (Slice.entry B base) } := by
      show tcpRxData _ _ _ = _
      rw [tcpRxData_slice (t := { tcp with rxQueue := rest.map (Slice.entry B base) }) hqv h.rcvAck hle
        hdist, if_pos (by omega)]
    have ht2 : (if q.fin then tcpRxFin t1 (seqOf base (q.off + q.len)) else t1) =
        { tcp with rxQueue := rest.map (Slice.entry B base) } := by
      rw [ht1]
      split
      · refine tcpRxFin_of_ne ?_
        show seqOf base (q.off + q.len) ≠ tcp.rcvAck
        rw [h.rcvAck, Ne, seqOf_inj (by omega) (by omega)]
        omega
      · rfl
    have hpop := RxView.pop_of_fin hfv q rest
    rw [ht2]
    refine h.pop hv hle hi0 h.listed h.established rfl (Nat.le_refl _) ?_ ?_ ?_ rfl ?_
    · rw [hpop]
      exact h.delivered
    · rw [hpop]
      exact h.rcvdFin.trans (by rw [hfv])
    · rw [hpop]
      show tcp.rcvAck = _
      rw [h.rcvAck]
      simp [RxView.ack, hfv]
    · rw [hpop]
      show v.ack + tcp.rcvWin ≤ _ + tcp.rcvWin
      simp [RxView.ack, hfv]

theorem tcpProcessRxQueueLoop_nil {fuel : Nat} {tcp : TcpConnection} (h : tcp.rxQueue = []) :
    tcpProcessRxQueueLoop fuel tcp = tcp := by
  cases fuel with
  | zero => rfl
  | succ fuel => simp only [tcpProcessRxQueueLoop, h]

theorem tcpProcessRxQueueLoop_cons {fuel : Nat} {tcp : TcpConnection} {queued : RxQueued}
    {rest : List RxQueued} (h : tcp.rxQueue = queued :: rest) :
    tcpProcessRxQueueLoop (fuel + 1) tcp =
      if tcpCmp queued.seq tcp.rcvAck > 0 then tcp
      else tcpProcessRxQueueLoop fuel
        (if queued.fin then
          tcpRxFin (tcpRxData { tcp with rxQueue := rest } queued.seq queued.data)
            ((queued.seq + queued.data.length) % 2 ^ 32)
        else tcpRxData { tcp with rxQueue := rest } queued.seq queued.data) := by
  simp only [tcpProcessRxQueueLoop, h]

/-- queue の長さだけ回る loop は、最初の隙間か queue の終わりで止まる。止まった時、queue に
残る segment はどれも `rcv_ack` より後ろに始まる。帰納法は fuel についてで、一回ごとに
`LoopInv.step` が不変条件を運ぶ。 -/
theorem LoopInv.loop : ∀ (fuel : Nat) {v : RxView} {tcp : TcpConnection},
    LoopInv B base segs m0 R v tcp → v.queue.length ≤ fuel →
      ∃ v', LoopInv B base segs m0 R v' (tcpProcessRxQueueLoop fuel tcp) ∧
        ∀ q ∈ v'.queue, v'.ack < q.off
  | 0, v, tcp, h, hlen => by
    have hv : v.queue = [] := List.eq_nil_of_length_eq_zero (Nat.le_zero.mp hlen)
    exact ⟨v, h, by simp [hv]⟩
  | fuel + 1, v, tcp, h, hlen => by
    cases hv : v.queue with
    | nil =>
      have hrx : tcp.rxQueue = [] := by rw [h.rxQueue, hv]; rfl
      rw [tcpProcessRxQueueLoop_nil hrx]
      exact ⟨v, h, by simp [hv]⟩
    | cons q rest =>
      have hqm : q ∈ v.queue := hv ▸ List.mem_cons_self
      have hb := h.bounds q hqm
      have hrx : tcp.rxQueue = q.entry B base :: rest.map (Slice.entry B base) := by
        rw [h.rxQueue, hv]
        rfl
      -- 先頭と `rcv_ack` は窓の幅ほどしか離れていない
      have hcmp : tcpCmp (q.entry B base).seq tcp.rcvAck = (q.off : Int) - v.ack := by
        rw [h.rcvAck]
        have := h.ack_le
        have := h.edge_le
        have := h.ack_ge
        unfold tcpMaxWindowSize at *
        exact tcpCmp_seqOf (by omega) (by omega)
      rw [tcpProcessRxQueueLoop_cons hrx, hcmp]
      split
      · next hgt =>
        -- 最初の隙間。queue は offset の順なので、残りもすべて `rcv_ack` より後ろにある
        refine ⟨v, h, fun q' hq' => ?_⟩
        have hsorted : (q :: rest).Pairwise fun a b => a.off ≤ b.off := hv ▸ h.sorted
        rw [hv] at hq'
        rcases List.mem_cons.mp hq' with rfl | hq'
        · omega
        · have := (List.pairwise_cons.mp hsorted).1 q' hq'
          omega
      · next hle =>
        rw [hv, List.length_cons] at hlen
        exact LoopInv.loop fuel (h.step hv (by omega)) (by simpa using hlen)

theorem LoopInv.rxInv {v : RxView} {tcp : TcpConnection} (h : LoopInv B base segs m0 R v tcp)
    (hq : ∀ q ∈ v.queue, v.ack < q.off) : RxInv B base segs v tcp :=
  { h.toRxCore with
    window := fun q hq' => ⟨hq q hq', Nat.lt_of_lt_of_le (h.bounds q hq').2 h.edge⟩ }

theorem RxInv.toLoopInv {v : RxView} {tcp : TcpConnection} (h : RxInv B base segs v tcp) :
    LoopInv B base segs v.ack (v.ack + tcp.rcvWin) v tcp :=
  { h.toRxCore with
    bounds := fun q hq => ⟨Nat.le_of_lt (h.window q hq).1, (h.window q hq).2⟩
    ack_ge := Nat.le_refl _
    ack_le := by omega
    edge := Nat.le_refl _
    edge_le := by have := h.rcvWin; omega }

end Loop

/-! ## 届く segment -/

/-- segment `seg` が slice `s` を運ぶ。SYN も RST もなく、FIN は `s.fin` のときだけ付く。
ACK の番号、窓、その他の flag は何でもよい。 -/
def Carries (B : Bytes) (base : Nat) (s : Slice) (seg : TcpSegment) : Prop :=
  s.Valid B ∧ seg.seq = seqOf base s.off ∧ seg.data = s.data B ∧ seg.flags &&& tcpSyn = 0 ∧
    seg.flags &&& tcpRst = 0 ∧ (seg.flags &&& tcpFin ≠ 0 ↔ s.fin = true)

instance (B : Bytes) (base : Nat) (s : Slice) (seg : TcpSegment) : Decidable (Carries B base s seg) :=
  inferInstanceAs (Decidable (_ ∧ _))

/-- `rcv_ack` の offset：渡した長さに、FIN を処理したなら 1 を足す。 -/
def rcvOffset (tcp : TcpConnection) : Nat :=
  tcp.delivered.flatten.length + if RcvdFin tcp.tcpState then 1 else 0

/-- 届く segment と、それが運ぶ slice。 -/
structure Arrival where
  slice : Slice
  seg : TcpSegment
  env : XmitEnv
  deriving DecidableEq, Repr

def Arrival.event (a : Arrival) : TcpEvent := .rx a.seg a.env

/-- 届いた時の受信窓 `[rcv_ack, rcv_ack + rcv_win)` の中に始まる。 -/
def Arrival.Within (B : Bytes) (base : Nat) (tcp : TcpConnection) (a : Arrival) : Prop :=
  Carries B base a.slice a.seg ∧ rcvOffset tcp ≤ a.slice.off ∧ a.slice.off < rcvOffset tcp + tcp.rcvWin

instance (B : Bytes) (base : Nat) (tcp : TcpConnection) (a : Arrival) :
    Decidable (a.Within B base tcp) := inferInstanceAs (Decidable (_ ∧ _))

theorem rxInsert_eq (entry : RxQueued) :
    ∀ l, rxInsert entry l = insertBefore (fun q => decide (tcpCmp entry.seq q.seq < 0)) entry l
  | [] => rfl
  | q :: l => by simp only [rxInsert, insertBefore, rxInsert_eq entry l, decide_eq_true_eq]

section Enqueue

variable {B : Bytes} {base : Nat} {segs : List Slice} {v : RxView} {tcp : TcpConnection} {s : Slice}

/-- `s` を offset の順に queue へ入れた列。 -/
def RxView.insert (v : RxView) (s : Slice) : RxView :=
  ⟨v.n, v.fin, insertBefore (fun b => decide (s.off < b.off)) s v.queue⟩

theorem RxInv.rcvOffset_eq (h : RxInv B base segs v tcp) : rcvOffset tcp = v.ack := by
  unfold rcvOffset RxView.ack
  rw [h.delivered, List.length_take, Nat.min_eq_left h.n_le]
  cases hf : v.fin
  · rw [if_neg (fun h' => by simpa [hf] using h.rcvdFin.mp h')]
    rfl
  · rw [if_pos (h.rcvdFin.mpr hf)]
    rfl

/-- 窓の中に始まる slice の `tcp_rx_enqueue`：何も運ばなければ捨て、そうでなければ offset の
順に queue へ入れる。窓の幅は `2 ^ 31` よりずっと小さいので、`tcp_cmp` は offset を比べる。 -/
theorem tcpRxEnqueue_slice {seg : TcpSegment} (h : RxInv B base segs v tcp) (hc : Carries B base s seg)
    (hw : v.ack ≤ s.off ∧ s.off < v.ack + tcp.rcvWin) :
    tcpRxEnqueue tcp seg.seq seg.flags seg.data =
      if s.len = 0 ∧ s.fin = false then tcp
      else { tcp with rxQueue := (v.insert s).queue.map (Slice.entry B base) } := by
  obtain ⟨hv, hseq, hdata, -, -, hfin⟩ := hc
  have hrs : RcvdSyn tcp.tcpState :=
    (established_acked _ (Control.Inv.state h.inv h.listed) h.established).1
  have hW := h.rcvWin
  unfold tcpMaxWindowSize at hW
  have hlen := hv.2.1
  have hfinb : (seg.flags &&& tcpFin != 0) = s.fin := by
    cases hsf : s.fin <;> simp only [hsf, Bool.false_eq_true, iff_false, iff_true, not_not] at hfin <;>
      simp [hfin]
  generalize hk : (if s.fin = true then 1 else 0) = k
  have hk1 : k ≤ 1 := by rw [← hk]; split <;> omega
  have hk0 : s.len + k = 0 ↔ s.len = 0 ∧ s.fin = false := by
    rw [← hk]
    cases s.fin <;> simp
  -- 右端の検査と古さの検査は、offset の差で読める
  have hright : tcpCmp (seqOf base s.off) (seqOf base (v.ack + tcp.rcvWin)) = (s.off : Int) - (v.ack + tcp.rcvWin) :=
    tcpCmp_seqOf (by omega) (by omega)
  have hold : tcpCmp (seqOf base (s.off + (s.len + k))) (seqOf base v.ack) = ((s.off + (s.len + k) : Nat) : Int) - v.ack :=
    tcpCmp_seqOf (by omega) (by omega)
  unfold tcpRxEnqueue
  simp only [hfinb, hseq, hdata, Slice.length_data hv, h.rcvAck, seqOf_add, hk, hright, hold]
  by_cases he : s.len = 0 ∧ s.fin = false
  · rw [if_pos (Or.inr (Or.inr (Or.inr (hk0.mpr he)))), if_pos he]
  · rw [if_neg (by rintro (h1 | h2 | h3 | h4) <;> first | exact hrs h1 | omega | exact he (hk0.mp h4)),
      if_neg he]
    -- 入れる位置：`tcp_cmp` の順と offset の順は、queue のどの項とも一致する
    have hcond : ∀ b ∈ v.queue, decide (tcpCmp (s.entry B base).seq (b.entry B base).seq < 0) =
        decide (s.off < b.off) := by
      intro b hb
      have hbw := h.window b hb
      have : tcpCmp (seqOf base s.off) (seqOf base b.off) = (s.off : Int) - b.off :=
        tcpCmp_seqOf (by omega) (by omega)
      simp only [Slice.entry, this, decide_eq_decide]
      omega
    have key : rxInsert (s.entry B base) tcp.rxQueue = (v.insert s).queue.map (Slice.entry B base) := by
      rw [h.rxQueue, rxInsert_eq, RxView.insert,
        map_insertBefore (Slice.entry B base) (p := fun e => decide (tcpCmp (s.entry B base).seq e.seq < 0))
          (q := fun b => decide (s.off < b.off)) s hcond]
    rw [← h.rcvAck]
    exact congrArg (fun q => { tcp with rxQueue := q }) key

theorem mem_insert {v : RxView} {s x : Slice} : x ∈ (v.insert s).queue ↔ x = s ∨ x ∈ v.queue :=
  mem_insertBefore

/-- 何も運ばない segment が届いても、対応は変わらない。 -/
theorem RxInv.extend_empty (h : RxInv B base segs v tcp) (hs : s.Valid B)
    (he : s.len = 0 ∧ s.fin = false) : RxInv B base (segs ++ [s]) v tcp := by
  have hsub : ∀ {x}, x ∈ segs → x ∈ segs ++ [s] := fun hx => List.mem_append_left _ hx
  refine { h with valid := ?_, queued := fun q hq => hsub (h.queued q hq), fin_end := ?_
                  prefix_covered := ?_, covered := ?_, fin_queued := ?_ }
  · intro hf
    obtain ⟨hn, x, hx, hxf⟩ := h.fin_end hf
    exact ⟨hn, x, hsub hx, hxf⟩
  · intro x hx
    rcases List.mem_append.mp hx with hx | hx
    · exact h.valid x hx
    · rw [List.mem_singleton.mp hx]
      exact hs
  · intro i hi
    obtain ⟨x, hx, hc⟩ := h.prefix_covered i hi
    exact ⟨x, hsub hx, hc⟩
  · intro x hx i hc
    rcases List.mem_append.mp hx with hx | hx
    · exact h.covered x hx i hc
    · -- 長さ 0 の slice は何も運ばない
      rw [List.mem_singleton.mp hx] at hc
      unfold Slice.Covers at hc
      rw [he.1] at hc
      omega
  · rintro ⟨x, hx, hxf⟩
    rcases List.mem_append.mp hx with hx | hx
    · exact h.fin_queued ⟨x, hx, hxf⟩
    · rw [List.mem_singleton.mp hx, he.2] at hxf
      cases hxf

/-- 空でない slice を offset の順に queue へ入れる。loop は `rcv_ack` と窓の右端の間で回る。 -/
theorem RxInv.insert (h : RxInv B base segs v tcp) (hs : s.Valid B)
    (hw : v.ack ≤ s.off ∧ s.off < v.ack + tcp.rcvWin) :
    LoopInv B base (segs ++ [s]) v.ack (v.ack + tcp.rcvWin) (v.insert s)
      { tcp with rxQueue := (v.insert s).queue.map (Slice.entry B base) } := by
  have hrs : RcvdSyn tcp.tcpState :=
    (established_acked _ (Control.Inv.state h.inv h.listed) h.established).1
  have hsub : ∀ {x}, x ∈ segs → x ∈ segs ++ [s] := fun hx => List.mem_append_left _ hx
  have hself : s ∈ segs ++ [s] := List.mem_append_right _ (List.mem_singleton_self s)
  have hW := h.rcvWin
  refine
    { inv := h.inv.setRxQueue h.listed hrs _, listed := h.listed, established := h.established
      maxRcvWin := h.maxRcvWin, rcvWin := h.rcvWin, delivered := h.delivered, n_le := h.n_le
      rcvdFin := h.rcvdFin, rcvAck := h.rcvAck, rxQueue := rfl
      sorted := pairwise_insertBefore Slice.off s h.sorted
      fin_end := ?_, valid := ?_, queued := ?_, prefix_covered := ?_, covered := ?_, fin_queued := ?_
      bounds := ?_, ack_ge := Nat.le_refl _
      ack_le := show v.ack ≤ v.ack + tcp.rcvWin + 2 ^ 16 by omega
      edge := Nat.le_refl _
      edge_le := show v.ack + tcp.rcvWin ≤ v.ack + tcpMaxWindowSize by omega }
  · intro hf
    obtain ⟨hn, x, hx, hxf⟩ := h.fin_end hf
    exact ⟨hn, x, hsub hx, hxf⟩
  · intro x hx
    rcases List.mem_append.mp hx with hx | hx
    · exact h.valid x hx
    · rw [List.mem_singleton.mp hx]
      exact hs
  · intro q hq
    rcases mem_insert.mp hq with rfl | hq
    · exact hself
    · exact hsub (h.queued q hq)
  · intro i hi
    obtain ⟨x, hx, hc⟩ := h.prefix_covered i hi
    exact ⟨x, hsub hx, hc⟩
  · -- 新しい slice が運ぶ byte は queue にある
    intro x hx i hc
    rcases List.mem_append.mp hx with hx | hx
    · rcases h.covered x hx i hc with hlt | ⟨q, hq, hqc⟩
      · exact .inl hlt
      · exact .inr ⟨q, mem_insert.mpr (.inr hq), hqc⟩
    · rw [List.mem_singleton.mp hx] at hc
      exact .inr ⟨s, mem_insert.mpr (.inl rfl), hc⟩
  · rintro ⟨x, hx, hxf⟩
    rcases List.mem_append.mp hx with hx | hx
    · rcases h.fin_queued ⟨x, hx, hxf⟩ with hf | ⟨q, hq, hqf⟩
      · exact .inl hf
      · exact .inr ⟨q, mem_insert.mpr (.inr hq), hqf⟩
    · rw [List.mem_singleton.mp hx] at hxf
      exact .inr ⟨s, mem_insert.mpr (.inl rfl), hxf⟩
  · intro q hq
    show v.ack ≤ q.off ∧ q.off < v.ack + tcp.rcvWin
    rcases mem_insert.mp hq with rfl | hq
    · exact hw
    · exact ⟨Nat.le_of_lt (h.window q hq).1, (h.window q hq).2⟩

end Enqueue

/-! ## `tcp_rx` -/

section Rx

variable {B : Bytes} {base : Nat} {segs : List Slice} {v : RxView} {tcp : TcpConnection}

theorem RxInv.xmit (h : RxInv B base segs v tcp) (env : XmitEnv) : RxInv B base segs v (tcpXmit env tcp) := by
  obtain ⟨hr, hge, hle⟩ := tcpXmit_recv env tcp
  obtain ⟨t, hc, -⟩ := tcpXmit_control env tcp
  have hs : (tcpXmit env tcp).tcpState = tcp.tcpState := congrArg Control.tcpState hc
  exact h.congr (h.inv.xmit env) ((congrArg Control.listed hc).trans h.listed) hr
    (Nat.le_trans hle (Nat.max_le.mpr ⟨h.rcvWin, h.maxRcvWin⟩)) (by rw [hs]) hge

/-- 閉じ終えた接続で TIME_WAIT の timer を動かす。 -/
theorem RxInv.startWait (h : RxInv B base segs v tcp) (hg : tcpClosedGracefully tcp.tcpState = true) :
    RxInv B base segs v { tcp with wait := true } :=
  h.congr_recv (Control.Inv.startWait h.inv (closedGracefully_iff _ (Control.Inv.mem h.inv) hg))
    h.listed rfl rfl

/-- `tcp_rx` の後半：queue を処理し、隙間が残れば ACK を送り、閉じ終えれば TIME_WAIT に入る。 -/
theorem LoopInv.rxRest {m0 R : Nat} (h : LoopInv B base segs m0 R v tcp) (env : XmitEnv) :
    ∃ v', RxInv B base segs v' (tcpRxQueue env tcp) := by
  obtain ⟨v', h1, hgap⟩ := LoopInv.loop tcp.rxQueue.length h
    (Nat.le_of_eq (by rw [h.rxQueue, List.length_map]))
  have h2 : RxInv B base segs v' (tcpProcessRxQueue tcp) := h1.rxInv hgap
  refine ⟨v', ?_⟩
  unfold tcpRxQueue
  dsimp only
  generalize ht3 : (if (tcpProcessRxQueue tcp).rxQueue = [] then tcpProcessRxQueue tcp
    else tcpXmit env (tcpProcessRxQueue tcp)) = t3
  have h3 : RxInv B base segs v' t3 := by
    subst ht3
    split
    · exact h2
    · exact h2.xmit env
  split
  · next hg => exact h3.startWait hg
  · exact h3

/-- 窓の中に始まる slice を受信 queue に入れてから処理する。 -/
theorem RxInv.enqueue {s : Slice} {seg : TcpSegment} (h : RxInv B base segs v tcp)
    (hc : Carries B base s seg) (hw : v.ack ≤ s.off ∧ s.off < v.ack + tcp.rcvWin) (env : XmitEnv) :
    ∃ v', RxInv B base (segs ++ [s]) v' (tcpRxQueue env (tcpRxEnqueue tcp seg.seq seg.flags seg.data)) := by
  rw [tcpRxEnqueue_slice h hc hw]
  split
  · next he => exact (h.extend_empty hc.1 he).toLoopInv.rxRest env
  · exact (h.insert hc.1 hw).rxRest env

/-- 確立した接続の `tcp_rx_ack` は segment を通し、受信側を変えない。 -/
theorem RxInv.rxAck (h : RxInv B base segs v tcp) (env : XmitEnv) (seg : TcpSegment) :
    ∃ t1, tcpRx env tcp seg = tcpRxSegment env t1 seg ∧ t1.recv = tcp.recv ∧ RxInv B base segs v t1 := by
  have hmem : tcp.tcpState ∈ tcpStates := Control.Inv.state h.inv h.listed
  obtain ⟨t1, hacc, hr, h1⟩ : ∃ t1, (if seg.flags &&& tcpAck ≠ 0 then
      tcpRxAck tcp seg.ack ((seg.win <<< tcp.sndWinScale) % 2 ^ 32) else some tcp) = some t1 ∧
      t1.recv = tcp.recv ∧ RxInv B base segs v t1 := by
    split
    · obtain ⟨t1, ht1⟩ := tcpRxAck_isSome h.established seg.ack ((seg.win <<< tcp.sndWinScale) % 2 ^ 32)
      have hr := tcpRxAck_recv ht1
      exact ⟨t1, ht1, hr, h.congr_recv (h.inv.rxAck h.listed ht1)
        ((tcpRxAck_listed ht1).1.trans h.listed) hr (tcpRxAck_recvBits hmem h.established ht1)⟩
    · exact ⟨tcp, rfl, rfl, h⟩
  refine ⟨t1, ?_, hr, h1⟩
  unfold tcpRx
  dsimp only
  rw [hacc]

/-- SYN も RST もない segment の `tcp_rx` の後半。 -/
theorem tcpRxSegment_plain {env : XmitEnv} {seg : TcpSegment} (hs : seg.flags &&& tcpSyn = 0)
    (hr : seg.flags &&& tcpRst = 0) :
    tcpRxSegment env tcp seg = tcpRxQueue env (tcpRxEnqueue
      (if tcp.tcpState &&& tcpStateRcvd tcpSyn ≠ 0 ∧ seg.seq ≠ tcp.rcvAck then
        { tcp with ackPending := true } else tcp) seg.seq seg.flags seg.data) := by
  unfold tcpRxSegment
  simp only [hs, hr, ne_eq, not_true_eq_false, if_false, false_and]

/-- 窓の中に始まる slice を運ぶ segment が一つ届く。 -/
theorem RxInv.step (h : RxInv B base segs v tcp) (a : Arrival) (hw : a.Within B base tcp) :
    ∃ v', RxInv B base (segs ++ [a.slice]) v' (tcpStep tcp a.event) := by
  obtain ⟨hc, hw1, hw2⟩ := hw
  rw [h.rcvOffset_eq] at hw1 hw2
  show ∃ v', RxInv B base _ v' (tcpStep tcp (.rx a.seg a.env))
  rw [tcpStep_rx h.listed]
  obtain ⟨t1, heq, hr1, h1⟩ := h.rxAck a.env a.seg
  rw [heq, tcpRxSegment_plain hc.2.2.2.1 hc.2.2.2.2.1]
  -- 順番の違う segment には ACK の印を付ける。受信側は変わらない
  generalize ht2 : (if t1.tcpState &&& tcpStateRcvd tcpSyn ≠ 0 ∧ a.seg.seq ≠ t1.rcvAck then
    { t1 with ackPending := true } else t1) = t2
  have h2 : t2.recv = t1.recv ∧ RxInv B base segs v t2 := by
    subst ht2
    split
    · exact ⟨rfl, h1.congr_recv (h1.inv.congr rfl) h1.listed rfl rfl⟩
    · exact ⟨rfl, h1⟩
  have hw' : t2.rcvWin = tcp.rcvWin := congrArg Recv.rcvWin (h2.1.trans hr1)
  exact h2.2.enqueue hc ⟨hw1, hw' ▸ hw2⟩ a.env

/-- 接続に一つの slice を届ける。 -/
def arrive (tcp : TcpConnection) (a : Arrival) : TcpConnection := tcpStep tcp a.event

/-- 届いた時に窓の中に始まる slice の列を届けた後も、対応は保たれる。 -/
theorem RxInv.run (h : RxInv B base segs v tcp) (arr : List Arrival)
    (hadm : Admits arrive (Arrival.Within B base) tcp arr) :
    ∃ v', RxInv B base (segs ++ arr.map Arrival.slice) v' (run tcpStep tcp (arr.map Arrival.event)) := by
  have hrun : Infra.run tcpStep tcp (arr.map Arrival.event) = Infra.run arrive tcp arr := run_map _ _ _ _
  have key := @run_history_admits TcpConnection Arrival arrive (Arrival.Within B base)
    (fun past t => ∃ v', RxInv B base (segs ++ past.map Arrival.slice) v' t)
    (fun past t a ha ⟨v', hv'⟩ => by
      obtain ⟨v'', hv''⟩ := hv'.step a ha
      refine ⟨v'', ?_⟩
      rw [List.map_append, List.map_singleton, ← List.append_assoc]
      exact hv'')
    arr [] tcp hadm ⟨v, by simpa using h⟩
  rw [hrun]
  simpa using key

end Rx

/-! ## 主な性質 -/

/-- 確立した接続で、まだ何も受け取っていない。`irs` は相手の ISN である。窓の上限
`tcpMaxWindowSize` は `tcp_open` の `max_rcv_win` で、`tcp_xmit` が広げる窓もこれを超えない。 -/
structure Established (irs : Nat) (tcp : TcpConnection) : Prop where
  inv : TcpInv tcp
  listed : tcp.listed = true
  established : tcpHasBeenEstablished tcp.tcpState = true
  notFin : ¬RcvdFin tcp.tcpState
  rcvAck : tcp.rcvAck = (irs + 1) % 2 ^ 32
  delivered : tcp.delivered = []
  rxQueue : tcp.rxQueue = []
  rcvWin : tcp.rcvWin ≤ tcpMaxWindowSize
  maxRcvWin : tcp.maxRcvWin ≤ tcpMaxWindowSize

theorem Established.rxInv {B : Bytes} {irs : Nat} {tcp : TcpConnection} (h : Established irs tcp) :
    RxInv B (irs + 1) [] ⟨0, false, []⟩ tcp where
  inv := h.inv
  listed := h.listed
  established := h.established
  maxRcvWin := h.maxRcvWin
  rcvWin := h.rcvWin
  delivered := by rw [h.delivered]; rfl
  n_le := Nat.zero_le _
  rcvdFin := ⟨fun hf => absurd hf h.notFin, fun hf => by cases hf⟩
  fin_end := fun hf => by cases hf
  rcvAck := by simp [h.rcvAck, seqOf, RxView.ack]
  rxQueue := h.rxQueue
  sorted := List.Pairwise.nil
  valid := fun _ hs => by cases hs
  queued := fun _ hq => by cases hq
  prefix_covered := fun _ hi => absurd hi (Nat.not_lt_zero _)
  covered := fun _ hs => by cases hs
  fin_queued := fun ⟨_, hs, _⟩ => by cases hs
  window := fun _ hq => by cases hq

theorem tcp_rx_delivers_stream_in_order (B : Bytes) (irs : Nat) (tcp : TcpConnection)
    (h0 : Established irs tcp) (arr : List Arrival)
    (hadm : Admits arrive (Arrival.Within B (irs + 1)) tcp arr) :
    let tcp' := Infra.run tcpStep tcp (arr.map Arrival.event)
    let n := tcp'.delivered.flatten.length
    tcp'.delivered.flatten = B.take n ∧
      (∀ i < n, ∃ a ∈ arr, a.slice.Covers i) ∧ (∀ a ∈ arr, ¬a.slice.Covers n) ∧
      tcp'.rcvAck = (irs + 1 + n + if RcvdFin tcp'.tcpState then 1 else 0) % 2 ^ 32 ∧
      (RcvdFin tcp'.tcpState ↔ n = B.length ∧ ∃ a ∈ arr, a.slice.fin = true) := by
  intro tcp' n
  obtain ⟨v, hv⟩ := h0.rxInv.run arr hadm
  simp only [List.nil_append] at hv
  have hn : n = v.n := by
    show tcp'.delivered.flatten.length = v.n
    rw [hv.delivered, List.length_take, Nat.min_eq_left hv.n_le]
  -- queue に残る segment は `rcv_ack` より後ろに始まるので、`n` 番目の byte を運ばない
  have hgap : ∀ q ∈ v.queue, n < q.off := by
    intro q hq
    have := (hv.window q hq).1
    unfold RxView.ack at this
    split at this <;> omega
  refine ⟨hn ▸ hv.delivered, ?_, ?_, ?_, ?_⟩
  · intro i hi
    obtain ⟨x, hx, hc⟩ := hv.prefix_covered i (hn ▸ hi)
    obtain ⟨a, ha, rfl⟩ := List.mem_map.mp hx
    exact ⟨a, ha, hc⟩
  · intro a ha hc
    rcases hv.covered a.slice (List.mem_map.mpr ⟨a, ha, rfl⟩) n hc with hlt | ⟨q, hq, hqc⟩
    · omega
    · have := hgap q hq
      have := hqc.1
      omega
  · rw [hv.rcvAck, hn]
    cases hf : v.fin
    · rw [if_neg (fun h' => by simpa [hf] using hv.rcvdFin.mp h')]
      simp [seqOf, RxView.ack, hf]
    · rw [if_pos (hv.rcvdFin.mpr hf)]
      simp [seqOf, RxView.ack, hf, Nat.add_assoc]
  · constructor
    · intro hf
      obtain ⟨hn', x, hx, hxf⟩ := hv.fin_end (hv.rcvdFin.mp hf)
      obtain ⟨a, ha, rfl⟩ := List.mem_map.mp hx
      exact ⟨hn ▸ hn', a, ha, hxf⟩
    · rintro ⟨hnB, a, ha, haf⟩
      rcases hv.fin_queued ⟨a.slice, List.mem_map.mpr ⟨a, ha, rfl⟩, haf⟩ with hf | ⟨q, hq, hqf⟩
      · exact hv.rcvdFin.mpr hf
      · -- FIN の付いた segment は `B` の終わりまで運ぶので、`rcv_ack` より後ろには残らない
        have hqv := hv.valid q (hv.queued q hq)
        have := hqv.2.2 hqf
        have := hgap q hq
        omega

/-- 番号が `2 ^ 32` をまたぐ接続。相手の ISN は `2 ^ 32 - 3` で、`B` の 2 byte 目から後ろと
FIN が先に届き、先頭の 2 byte が後から届く。 -/
def rxIrs : Nat := 2 ^ 32 - 3

def rxStream : Bytes := [1, 2, 3, 4, 5]

def rxConn : TcpConnection :=
  { tcpOpen 7 with
    tcpState := tcpEstablished, rcvAck := (rxIrs + 1) % 2 ^ 32, rcvWin := 100, timer := false }

def rxArrivals : List Arrival :=
  [⟨⟨2, 3, true⟩, ⟨0, 8, 100, tcpAck ||| tcpFin, none, [3, 4, 5]⟩, ⟨100, true, true⟩⟩,
    ⟨⟨0, 2, false⟩, ⟨2 ^ 32 - 2, 8, 100, tcpAck, none, [1, 2]⟩, ⟨100, true, true⟩⟩]

theorem rxConn_established : Established rxIrs rxConn where
  inv := {
    state := fun _ => show tcpEstablished ∈ tcpStates by decide
    deleted := fun h' => by cases h'
    xferClosed := fun _ h' => by cases h'
    rxQueue := fun h' => by cases h'
    timer := fun h' => by cases h'
    wait := fun h' => by cases h' }
  listed := rfl
  established := by decide
  notFin := by decide
  rcvAck := rfl
  delivered := rfl
  rxQueue := rfl
  rcvWin := by decide
  maxRcvWin := by decide

theorem rx_reordered_across_wrap :
    Admits arrive (Arrival.Within rxStream (rxIrs + 1)) rxConn rxArrivals ∧
      (Infra.run tcpStep rxConn (rxArrivals.map Arrival.event)).delivered.flatten =
        rxStream.take (Infra.run tcpStep rxConn (rxArrivals.map Arrival.event)).delivered.flatten.length :=
  ⟨by decide, (tcp_rx_delivers_stream_in_order rxStream rxIrs rxConn rxConn_established rxArrivals
    (by decide)).1⟩

-- 二つとも渡し終え、FIN も処理して、`rcv_ack` は 0 をまたいで 4 になる
example : (Infra.run tcpStep rxConn (rxArrivals.map Arrival.event)).delivered = [[1, 2], [3, 4, 5]] ∧
    RcvdFin (Infra.run tcpStep rxConn (rxArrivals.map Arrival.event)).tcpState ∧
    (Infra.run tcpStep rxConn (rxArrivals.map Arrival.event)).rcvAck = 4 := by decide

end FlexBoot.Tcp
