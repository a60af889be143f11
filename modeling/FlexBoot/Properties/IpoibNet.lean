import FlexBoot.Properties.Ipoib
import FlexBoot.Drivers.Net.IpoibNet

/-!
# REMAC cache と近所の cache の整合

1. どんな事象の列の後でも、`total_peers` は REMAC cache の entry の数、`total_neighbours` は
   近所の cache の entry の数に等しく、REMAC cache の REMAC は重ならない（`runNet_netInv`）。
2. 近所の cache の entry が、REMAC cache にない REMAC を link-layer address に持つと、その entry へ
   送る packet は `ipoib_transmit` で `-ENXIO` になる（`ipoibTransmit_enxio`）。
3. `ipoib_discard_remac` は REMAC を一つ捨てるとき、それを link-layer address に持つ entry を
   一つしか消さない。同じ相手の二つの IPv4 address の entry は同じ REMAC を持つので、残った entry は
   link-layer address が分かっているのに送れない（`ipoibDiscardRemac_strands_neighbour`）。
-/

namespace FlexBoot.Ipoib

open Infra FlexBoot Net

/-! ## REMAC cache の数と重なり -/

/-- REMAC cache の数え方と重なりの不変条件。 -/
structure PeerInv (dev : IpoibDevice) : Prop where
  counted : dev.totalPeers = dev.peers.length
  nodup : RemacsNodup dev

theorem length_moveToFront {peers : List Peer} {p : Peer} (hp : p ∈ peers) :
    (moveToFront peers p).length = peers.length := by
  have := List.length_pos_of_mem hp
  simp only [moveToFront, List.length_cons, List.length_erase_of_mem hp]
  omega

theorem PeerInv.find {dev : IpoibDevice} (h : PeerInv dev) (remac : Bytes) :
    PeerInv (ipoibFindRemac dev remac).2 := by
  refine ⟨?_, ipoibFindRemac_nodup remac h.nodup⟩
  unfold ipoibFindRemac
  split
  · exact h.counted
  split
  · next p hp => simp only [length_moveToFront (List.mem_of_find?_eq_some hp), h.counted]
  · exact h.counted

theorem PeerInv.map {dev : IpoibDevice} (h : PeerInv dev) (allocOk : Bool) (remac mac : Bytes) :
    PeerInv (ipoibMapRemac allocOk dev remac mac).1 := by
  refine ⟨?_, ipoibMapRemac_nodup allocOk remac mac h.nodup⟩
  unfold ipoibMapRemac
  split
  · next p hp =>
    -- 書き換えた entry を先頭に戻すので、長さは変わらない
    have hmem := List.mem_of_find?_eq_some hp
    have := List.length_pos_of_mem hmem
    simp only [List.length_cons, List.length_erase_of_mem hmem, h.counted]
    omega
  · split
    · simp [ipoibAddPeer, h.counted]
    · exact h.counted

theorem ipoibRemovePeer_of_lt {dev : IpoibDevice} (h : dev.totalPeers = dev.peers.length) {i : Nat}
    (hi : i < dev.peers.length) :
    ipoibRemovePeer dev i = { dev with peers := dev.peers.eraseIdx i, totalPeers := dev.totalPeers - 1 } :=
  if_pos (by omega)

theorem PeerInv.remove {dev : IpoibDevice} (h : PeerInv dev) {i : Nat} (hi : i < dev.peers.length) :
    PeerInv (ipoibRemovePeer dev i) := by
  rw [ipoibRemovePeer_of_lt h.counted hi]
  refine ⟨?_, ((List.eraseIdx_sublist _ _).map Peer.remac).nodup h.nodup⟩
  simp only [List.length_eraseIdx_of_lt hi, h.counted]

/-- 数えた数が長さに等しければ、`ipoib_flush_remac` は REMAC cache を空にする。 -/
theorem ipoibFlushRemacLoop_of_counted : ∀ (l : List Peer) {dev : IpoibDevice},
    dev.totalPeers = dev.peers.length → l.length = dev.peers.length →
    (ipoibFlushRemacLoop l dev).peers = [] ∧ (ipoibFlushRemacLoop l dev).totalPeers = 0
  | [], dev, h, hl => by
    have hp : dev.peers = [] := List.length_eq_zero_iff.mp hl.symm
    rw [hp, List.length_nil] at h
    exact ⟨hp, h⟩
  | _ :: rest, dev, h, hl => by
    have h0 : 0 < dev.peers.length := by simp only [List.length_cons] at hl; omega
    rw [ipoibFlushRemacLoop]
    apply ipoibFlushRemacLoop_of_counted rest
    · simp only [ipoibRemovePeer_of_lt h h0, List.length_eraseIdx_of_lt h0, h]
    · simp only [ipoibRemovePeer_of_lt h h0, List.length_eraseIdx_of_lt h0]
      simp only [List.length_cons] at hl
      omega

theorem PeerInv.flush {dev : IpoibDevice} (h : PeerInv dev) : PeerInv (ipoibFlushRemac dev) := by
  obtain ⟨hp, ht⟩ := ipoibFlushRemacLoop_of_counted dev.peers h.counted rfl
  refine ⟨?_, ?_⟩
  · simp only [ipoibFlushRemac, hp, ht, List.length_nil]
  · simp only [RemacsNodup, ipoibFlushRemac, hp, List.map_nil, List.nodup_nil]

/-- 受信は `ipoib_map_remac`、送信は `ipoib_find_remac` でしか REMAC cache を変えないので、
どちらも不変条件を保つ。 -/
theorem PeerInv.completeRecv {allocOk destBroadcast : Bool} {dev dev' : IpoibDevice} {pkt : Bytes}
    {source : Option Source} {r : RxResult} (h : PeerInv dev)
    (hr : ipoibCompleteRecv allocOk dev pkt source destBroadcast = .ok (dev', r)) : PeerInv dev' :=
  ipoibCompleteRecv_preserves (fun _ remac sha hd => hd.map allocOk remac sha) h hr

theorem PeerInv.transmit {linkOk : Bool} {dev dev' : IpoibDevice} {frame tail : Bytes} {r : TxResult}
    (h : PeerInv dev) (ht : ipoibTransmit linkOk dev frame tail = .ok (dev', r)) : PeerInv dev' :=
  ipoibTransmit_preserves (fun _ key hd => hd.find key) h ht

/-! ## 捨てる -/

/-- REMAC cache が空でなく 3 個以上数えていれば、最後の REMAC を捨て、それを link-layer address に
持つ entry を一つ消す。 -/
theorem ipoibDiscardRemacDev_last {c : NeighbourCache Nat} {dev : IpoibDevice} {p : Peer}
    (hlast : dev.peers.getLast? = some p) (hmin : ipoibMinDropCache ≤ dev.totalPeers) :
    ipoibDiscardRemacDev c dev = (ipoibRemovePeer dev (dev.peers.length - 1),
      (neighbourDiscard (fun _ => ethAlen) c p.remac ethAlen).1, 1) := by
  have hcond : ¬ (dev.peers = [] ∨ dev.totalPeers < ipoibMinDropCache) := by
    rintro (h0 | hlt)
    · simp [h0] at hlast
    · omega
  unfold ipoibDiscardRemacDev
  rw [if_neg hcond, hlast]

theorem ipoibDiscardRemacDev_inv {c : NeighbourCache Nat} {dev : IpoibDevice} (hc : c.Counted)
    (hd : PeerInv dev) :
    PeerInv (ipoibDiscardRemacDev c dev).1 ∧ (ipoibDiscardRemacDev c dev).2.1.Counted := by
  unfold ipoibDiscardRemacDev
  split
  · exact ⟨hd, hc⟩
  split
  · next peer hl =>
    -- 最後の entry があるので、外す位置は list の中にある
    have hpos : 0 < dev.peers.length := List.length_pos_iff.mpr (by rintro h0; simp [h0] at hl)
    exact ⟨hd.remove (by omega), hc.discard _ _ _⟩
  · exact ⟨hd, hc⟩

theorem ipoibDiscardRemac_inv : ∀ (devs : List IpoibDevice) {c : NeighbourCache Nat}, c.Counted →
    (∀ dev ∈ devs, PeerInv dev) →
    (∀ dev ∈ (ipoibDiscardRemac devs c).1, PeerInv dev) ∧ (ipoibDiscardRemac devs c).2.1.Counted
  | [], c, hc, _ => ⟨by simp [ipoibDiscardRemac], hc⟩
  | dev :: devs, c, hc, hd => by
    obtain ⟨hd₁, hc₁⟩ := ipoibDiscardRemacDev_inv hc (hd dev List.mem_cons_self)
    rcases hdev : ipoibDiscardRemacDev c dev with ⟨dev₁, c₁, k⟩
    rw [hdev] at hd₁ hc₁
    obtain ⟨hds, hcs⟩ := ipoibDiscardRemac_inv devs hc₁ fun d hm => hd d (List.mem_cons_of_mem _ hm)
    simp only [ipoibDiscardRemac, hdev]
    refine ⟨?_, hcs⟩
    rintro d (_ | ⟨_, hm⟩)
    · exact hd₁
    · exact hds d hm

/-! ## 受信と送信 -/

/-- `arp_rx` が近所の cache を変えるのは `neighbour_update` だけである。 -/
theorem arpRx_cases {c c' : NeighbourCache Nat} {netdev : Nat} {pkt : Bytes}
    (h : arpRx c netdev pkt = .ok c') :
    c' = c ∨ ∃ pa ha, c' = (neighbourUpdate c netdev pa ha ethAlen).1 := by
  unfold arpRx at h
  obtain ⟨pro, -, h⟩ := bind_eq_ok.mp h
  split at h
  · cases h; exact .inl rfl
  obtain ⟨hrd, -, h⟩ := bind_eq_ok.mp h
  split at h
  · cases h; exact .inl rfl
  obtain ⟨hln, -, h⟩ := bind_eq_ok.mp h
  split at h
  · cases h; exact .inl rfl
  obtain ⟨pln, -, h⟩ := bind_eq_ok.mp h
  split at h
  · cases h; exact .inl rfl
  obtain ⟨pa, -, h⟩ := bind_eq_ok.mp h
  obtain ⟨ha, -, h⟩ := bind_eq_ok.mp h
  cases h
  exact .inr ⟨pa, ha, rfl⟩

/-- 二つの cache の数え方と REMAC の重なりの不変条件。 -/
structure NetInv (s : NetState) : Prop where
  devs : ∀ dev ∈ s.devs, PeerInv dev
  neighbours : s.neighbours.Counted

theorem NetInv.dev {s : NetState} (h : NetInv s) {d : Nat} {dev : IpoibDevice}
    (hd : s.devs[d]? = some dev) : PeerInv dev :=
  h.devs dev (List.mem_of_getElem? hd)

theorem NetInv.init (devs : List IpoibDevice) : NetInv (NetState.init devs) := by
  refine ⟨?_, NeighbourCache.Counted.empty⟩
  intro dev hm
  obtain ⟨dev₀, -, rfl⟩ := List.mem_map.mp hm
  exact ⟨rfl, List.nodup_nil⟩

theorem forall_mem_set {α : Type} {P : α → Prop} {l : List α} (h : ∀ x ∈ l, P x) {y : α} (hy : P y)
    (i : Nat) : ∀ x ∈ l.set i y, P x := by
  intro x hm
  rcases List.mem_or_eq_of_mem_set hm with hm | rfl
  · exact h x hm
  · exact hy

theorem forall_mem_modify {α : Type} {P : α → Prop} {l : List α} (h : ∀ x ∈ l, P x) {f : α → α}
    (hf : ∀ x, P x → P (f x)) (i : Nat) : ∀ x ∈ l.modify i f, P x := by
  rw [List.modify_eq_set_getElem?]
  cases hx : l[i]? with
  | none => exact h
  | some x => exact forall_mem_set h (hf x (h x (List.mem_of_getElem? hx))) i

theorem netRecv_inv {s s' : NetState} {d : Nat} {pkt : Bytes} {source : Option Source}
    {destBroadcast allocOk : Bool} (h : NetInv s)
    (hr : netRecv s d pkt source destBroadcast allocOk = .ok s') : NetInv s' := by
  unfold netRecv at hr
  split at hr
  · cases hr; exact h
  · next dev hdev =>
    obtain ⟨⟨dev', r⟩, hrecv, hr⟩ := bind_eq_ok.mp hr
    have hdevs := forall_mem_set h.devs ((h.dev hdev).completeRecv hrecv) d
    dsimp only at hr
    -- ARP の frame だけが近所の cache に届く
    split at hr
    · split at hr
      · obtain ⟨c', harp, hr⟩ := bind_eq_ok.mp hr
        cases hr
        refine ⟨hdevs, ?_⟩
        rcases arpRx_cases harp with rfl | ⟨pa, ha, rfl⟩
        · exact h.neighbours
        · exact h.neighbours.update _ _ _ _
      · cases hr
        exact ⟨hdevs, h.neighbours⟩
    · cases hr
      exact ⟨hdevs, h.neighbours⟩

theorem netSend_inv {s s' : NetState} {d : Nat} {netDest payload tail : Bytes} {allocOk linkOk : Bool}
    {r : Option TxResult} (h : NetInv s)
    (hs : netSend s d netDest payload tail allocOk linkOk = .ok (s', r)) : NetInv s' := by
  unfold netSend at hs
  split at hs
  · cases hs; exact h
  · next dev hdev =>
    have hc := h.neighbours.tx allocOk d netDest
    split at hs
    · next c llDest htx =>
      rw [htx] at hc
      obtain ⟨⟨dev', r'⟩, htr, hs⟩ := bind_eq_ok.mp hs
      cases hs
      exact ⟨forall_mem_set h.devs ((h.dev hdev).transmit htr) d, hc⟩
    · next c decision _ htx =>
      rw [htx] at hc
      cases hs
      exact ⟨h.devs, hc⟩

theorem netTransmit_inv {s s' : NetState} {d : Nat} {frame tail : Bytes} {linkOk : Bool}
    (h : NetInv s) (ht : netTransmit s d frame tail linkOk = .ok s') : NetInv s' := by
  unfold netTransmit at ht
  split at ht
  · cases ht; exact h
  · next dev hdev =>
    rcases htr : ipoibTransmit linkOk dev frame tail with f | ⟨dev', r⟩
    · rw [htr] at ht; cases ht
    · rw [htr] at ht
      cases ht
      exact ⟨forall_mem_set h.devs ((h.dev hdev).transmit htr) d, h.neighbours⟩

/-- 止まっていない状態は `NetInv` を満たす。 -/
def NetStateInv : Except Fault NetState → Prop
  | .ok s => NetInv s
  | .error _ => True

theorem netStep_inv : Invariant netStep NetStateInv := by
  intro s e hs
  rcases s with f | s
  · trivial
  cases e with
  | recv d pkt source destBroadcast allocOk =>
    show NetStateInv (netRecv s d pkt source destBroadcast allocOk)
    rcases hr : netRecv s d pkt source destBroadcast allocOk with f | s'
    · trivial
    · exact netRecv_inv hs hr
  | send d netDest payload tail allocOk linkOk =>
    show NetStateInv ((netSend s d netDest payload tail allocOk linkOk).map Prod.fst)
    rcases hr : netSend s d netDest payload tail allocOk linkOk with f | ⟨s', r⟩
    · trivial
    · exact netSend_inv hs hr
  | transmit d frame tail linkOk =>
    show NetStateInv (netTransmit s d frame tail linkOk)
    rcases hr : netTransmit s d frame tail linkOk with f | s'
    · trivial
    · exact netTransmit_inv hs hr
  | discardRemac =>
    obtain ⟨hds, hc⟩ := ipoibDiscardRemac_inv s.devs hs.neighbours hs.devs
    exact ⟨hds, hc⟩
  | discardLast => exact ⟨hs.devs, hs.neighbours.discardLast⟩
  | close d =>
    refine ⟨forall_mem_modify hs.devs (fun _ hd => hd.flush) d, ?_⟩
    show (neighbourFlush s.neighbours).Counted
    rw [NeighbourCache.neighbourFlush_of_counted hs.neighbours]
    exact NeighbourCache.Counted.empty

/-- 二つの cache が空の状態から、どんな事象の列の後でも、`total_peers` と `total_neighbours` は
entry の数に等しく、REMAC cache の REMAC は重ならない。 -/
theorem runNet_netInv (devs : List IpoibDevice) (es : List NetEvent) :
    NetStateInv (runNet (NetState.init devs) es) :=
  netStep_inv.run (show NetStateInv (.ok _) from NetInv.init devs) es

/-! ## 送れない entry -/

/-- 宛先の REMAC が broadcast でなく REMAC cache にもなければ、`ipoib_transmit` は `-ENXIO` を返し、
device は変わらない。 -/
theorem ipoibTransmit_enxio {dev : IpoibDevice} {frame tail : Bytes} (hlen : 14 ≤ frame.length)
    (hb : isBroadcastEtherAddr (frame.take 6) = false)
    (hnone : ∀ q ∈ dev.peers, q.remac ≠ frame.take 6) :
    ipoibTransmit true dev frame tail = .ok (dev, .failed .enxio) := by
  have hfind : dev.peers.find? (·.remac = frame.take 6) = none :=
    List.find?_eq_none.mpr fun q hq => by simpa using hnone q hq
  have hnf : ipoibFindRemac dev (frame.take 6) = (none, dev) := by
    simp only [ipoibFindRemac, hb, hfind, Bool.false_eq_true, if_false]
  unfold ipoibTransmit
  rw [if_neg (by omega), if_neg (by simp), hnf]

/-- 重ならない REMAC cache の最後の entry を外すと、その REMAC の entry はなくなる。 -/
theorem remac_not_mem_removeLast {dev : IpoibDevice} (h : PeerInv dev) {p : Peer}
    (hlast : dev.peers.getLast? = some p) :
    ∀ q ∈ (ipoibRemovePeer dev (dev.peers.length - 1)).peers, q.remac ≠ p.remac := by
  obtain ⟨ys, hys⟩ := List.getLast?_eq_some_iff.mp hlast
  have hpos : dev.peers.length - 1 < dev.peers.length := by rw [hys]; simp
  have hnd := h.nodup
  unfold RemacsNodup at hnd
  rw [hys, List.map_append, List.nodup_append] at hnd
  rw [ipoibRemovePeer_of_lt h.counted hpos, List.eraseIdx_length_sub_one, hys, List.dropLast_concat]
  intro q hq
  exact hnd.2.2 _ (List.mem_map_of_mem hq) _ (List.mem_singleton_self _)

/-- 近所の cache の entry で link-layer address が 0 でないものは、その device の REMAC cache に
link-layer address の REMAC を持つ。`neighbour_discard` の回避策が保とうとする性質。 -/
def RemacsCover (s : NetState) : Prop :=
  ∀ n ∈ s.neighbours.neighbours, n.llDest ≠ List.replicate maxLlAddrLen 0 →
    ∀ dev ∈ s.devs[n.netdev]?, ∃ p ∈ dev.peers, p.remac = n.llDest.take ethAlen

instance : DecidablePred RemacsCover := fun s =>
  inferInstanceAs (Decidable (∀ n ∈ s.neighbours.neighbours, n.llDest ≠ List.replicate maxLlAddrLen 0 →
    ∀ dev ∈ s.devs[n.netdev]?, ∃ p ∈ dev.peers, p.remac = n.llDest.take ethAlen))

/-- IPoIB の device が一つで、その REMAC cache の最後の REMAC を link-layer address に持つ entry が
近所の cache に二つあるとき、`ipoib_discard_remac` は前の entry だけを消す。後ろの entry は
link-layer address を持ったまま残るが、その REMAC は REMAC cache になく、そこへ送る IPv4 の packet は
`ipoib_transmit` で `-ENXIO` になる。 -/
theorem ipoibDiscardRemac_strands_neighbour {s : NetState} {dev : IpoibDevice} {p : Peer}
    {n₁ n₂ : Neighbour Nat} {i j : Nat} (hinv : NetInv s) (hdevs : s.devs = [dev])
    (hlast : dev.peers.getLast? = some p) (hmin : ipoibMinDropCache ≤ dev.totalPeers)
    (hremac : p.remac.length = ethAlen ∧ isBroadcastEtherAddr p.remac = false ∧
      p.remac ≠ List.replicate ethAlen 0)
    (hll : ethAlen ≤ dev.llAddr.length)
    (hi : s.neighbours.neighbours[i]? = some n₁) (hj : s.neighbours.neighbours[j]? = some n₂)
    (hij : i < j) (h₁ : n₁.llDest.take ethAlen = p.remac) (h₂ : n₂.llDest.take ethAlen = p.remac)
    (hdev₂ : n₂.netdev = 0) (hres : n₂.timerRunning = false)
    (hkey : ∀ n ∈ s.neighbours.neighbours, n.netdev = 0 → n.netDest = n₂.netDest → n = n₂) :
    ∃ s', netStep (.ok s) .discardRemac = .ok s' ∧ ¬ RemacsCover s' ∧
      ∀ payload tail allocOk,
        (netSend s' 0 n₂.netDest payload tail allocOk true).map Prod.snd = .ok (some (.failed .enxio)) := by
  obtain ⟨hlen, hb, hz⟩ := hremac
  have hd : PeerInv dev := hinv.devs dev (by simp [hdevs])
  have hstep : netStep (.ok s) .discardRemac =
      .ok ⟨[ipoibRemovePeer dev (dev.peers.length - 1)],
        (neighbourDiscard (fun _ => ethAlen) s.neighbours p.remac ethAlen).1⟩ := by
    simp only [netStep, hdevs, ipoibDiscardRemac, ipoibDiscardRemacDev_last hlast hmin]
  -- 消えるのは前の entry で、後ろの entry は残り、REMAC cache からは REMAC がなくなる
  have hp6 : p.remac.take ethAlen = p.remac := List.take_of_length_le (by omega)
  have hmem : n₂ ∈ (neighbourDiscard (fun _ => ethAlen) s.neighbours p.remac ethAlen).1.neighbours :=
    mem_neighbourDiscard_of_lt hinv.neighbours hi ⟨rfl, by rw [h₁, hp6]⟩ hj hij
  have hgone := remac_not_mem_removeLast hd hlast
  refine ⟨_, hstep, ?_, ?_⟩
  · intro hcover
    have hne : n₂.llDest ≠ List.replicate maxLlAddrLen 0 := by
      intro h0
      rw [h0] at h₂
      exact hz (h₂.symm.trans (by decide))
    obtain ⟨q, hq, hqr⟩ := hcover n₂ hmem hne (ipoibRemovePeer dev (dev.peers.length - 1))
      (by simp [hdev₂])
    exact hgone q hq (hqr.trans h₂)
  · intro payload tail allocOk
    -- 近所の cache は `n₂` の link-layer address に送ると決める
    have hkey' : ∀ m ∈ (neighbourDiscard (fun _ => ethAlen) s.neighbours p.remac ethAlen).1.neighbours,
        m.netdev = n₂.netdev → m.netDest = n₂.netDest → m = n₂ := fun m hm hmd hma =>
      hkey m ((neighbourDiscard_sublist hinv.neighbours _ _ _).subset hm) (hmd.trans hdev₂) hma
    have htx := neighbourTx_of_unique hmem hkey' hres allocOk
    rw [hdev₂] at htx
    rcases hx : neighbourTx allocOk (neighbourDiscard (fun _ => ethAlen) s.neighbours p.remac ethAlen).1 0
      n₂.netDest with ⟨c'', dec⟩
    rw [hx] at htx
    cases htx
    -- `ipoib_transmit` は REMAC を引けない
    have hll' : (ipoibRemovePeer dev (dev.peers.length - 1)).llAddr = dev.llAddr := by
      unfold ipoibRemovePeer
      split <;> rfl
    have hlen' : 14 ≤ (p.remac ++ dev.llAddr.take ethAlen ++ toBe16 ethPIp ++ payload).length := by
      simp only [List.length_append, List.length_take, hlen, toBe16, List.length_cons, List.length_nil]
      simp only [ethAlen] at hll ⊢
      omega
    have htake : (p.remac ++ dev.llAddr.take ethAlen ++ toBe16 ethPIp ++ payload).take 6 = p.remac := by
      rw [List.append_assoc, List.append_assoc]
      exact List.take_left' hlen
    have henxio : ipoibTransmit true (ipoibRemovePeer dev (dev.peers.length - 1))
        (p.remac ++ dev.llAddr.take ethAlen ++ toBe16 ethPIp ++ payload) tail =
        .ok (ipoibRemovePeer dev (dev.peers.length - 1), .failed .enxio) :=
      ipoibTransmit_enxio hlen' (by rw [htake]; exact hb) (by rw [htake]; exact hgone)
    simp only [netSend, List.getElem?_cons_zero, hx, hll', h₂, henxio, ok_bind]
    rfl

/-- 10.0.0.1 の device に届く、`spa` からの IPoIB の ARP の返事。送り手の IPoIB MAC は `sha`。 -/
def ipoibArpFrom (spa sha : Bytes) : Bytes :=
  [8, 6, 0, 0] ++ [0, 32, 8, 0, 20, 4, 0, 2] ++ sha ++ spa ++ List.replicate 20 0x11 ++ [10, 0, 0, 1]

/-- 10.0.0.2 と 10.0.0.3 に送ろうとして entry を作り、同じ相手（QPN 0x10、LID 5）から二つの address
の ARP の返事を受け、別の二つの相手からも ARP を受ける。 -/
def sharedRemacEvents : List NetEvent :=
  [.send 0 [10, 0, 0, 2] [] [] true true, .send 0 [10, 0, 0, 3] [] [] true true,
   .recv 0 (ipoibArpFrom [10, 0, 0, 2] (List.replicate 20 0x22)) (some ⟨0x10, 5⟩) false true,
   .recv 0 (ipoibArpFrom [10, 0, 0, 3] (List.replicate 20 0x22)) (some ⟨0x10, 5⟩) false true,
   .recv 0 (ipoibArpFrom [10, 0, 0, 4] (List.replicate 20 0x33)) (some ⟨0x20, 6⟩) false true,
   .recv 0 (ipoibArpFrom [10, 0, 0, 5] (List.replicate 20 0x44)) (some ⟨0x30, 7⟩) false true]

/-- `sharedRemacEvents` の後の状態。二つの entry が REMAC `02:00:00:10:00:05` を持ち、それは
REMAC cache の最後にある。 -/
def sharedRemacState : NetState :=
  ⟨[{ devEmptyCache with
      peers := [⟨[2, 0, 0, 0x30, 0, 7], List.replicate 20 0x44⟩, ⟨[2, 0, 0, 0x20, 0, 6], List.replicate 20 0x33⟩,
        ⟨[2, 0, 0, 0x10, 0, 5], List.replicate 20 0x22⟩],
      totalPeers := 3 }],
    ⟨[⟨0, [10, 0, 0, 3], [2, 0, 0, 0x10, 0, 5] ++ List.replicate 14 0, false⟩,
      ⟨0, [10, 0, 0, 2], [2, 0, 0, 0x10, 0, 5] ++ List.replicate 14 0, false⟩], 2⟩⟩

/-- 空の cache から `sharedRemacEvents` の後では、どの entry にも REMAC がある。そこで
`ipoib_discard_remac` が動くと、10.0.0.2 の entry は REMAC を失い、10.0.0.2 への packet は
`-ENXIO` になる。 -/
theorem ipoibDiscardRemac_shared_remac_enxio :
    runNet (NetState.init [devEmptyCache]) sharedRemacEvents = .ok sharedRemacState ∧
    RemacsCover sharedRemacState ∧
    ∃ s', netStep (.ok sharedRemacState) .discardRemac = .ok s' ∧ ¬ RemacsCover s' ∧
      ∀ payload tail allocOk,
        (netSend s' 0 [10, 0, 0, 2] payload tail allocOk true).map Prod.snd = .ok (some (.failed .enxio)) := by
  have hrun : runNet (NetState.init [devEmptyCache]) sharedRemacEvents = .ok sharedRemacState := by
    decide +kernel
  have hinv : NetInv sharedRemacState := by
    have h := runNet_netInv [devEmptyCache] sharedRemacEvents
    rw [hrun] at h
    exact h
  exact ⟨hrun, by decide, ipoibDiscardRemac_strands_neighbour (i := 0) (j := 1) hinv rfl rfl (by decide)
    (by decide) (by decide) rfl rfl (by decide) rfl rfl rfl rfl (by decide)⟩

end FlexBoot.Ipoib
