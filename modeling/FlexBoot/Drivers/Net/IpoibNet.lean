import FlexBoot.Drivers.Net.Ipoib
import FlexBoot.Net.Neighbour

/-!
# IPoIB の REMAC cache と近所の cache

IPoIB の network device はそれぞれ REMAC cache を持ち、近所の cache は全部の network device に
一つである。二つの cache は次の処理でつながる。

* 受信 — `ipoib_complete_recv` が ARP の送り手の REMAC を REMAC cache に入れ、`arp_rx` が
  その REMAC を送り手の entry の link-layer address にする（`neighbour_update`）
* 送信 — `neighbour_tx` が entry の link-layer address を Ethernet header の宛先にし、
  `ipoib_transmit` がそれを REMAC として REMAC cache を引く
* 捨てる — `ipoib_discard_remac` は REMAC が 3 個以上ある device ごとに最後の REMAC を捨て、
  `neighbour_discard` でその REMAC を link-layer address に持つ最初の entry を消す。
  `neighbour_discard_last` は近所の cache の最後の entry を消す
* 閉じる — `ipoib_close` が REMAC cache を空にし、`neighbour_flush` が近所の cache を空にする

## model

network device は IPoIB の device だけで、list の位置を名前にする（`for_each_ibdev` の順）。
device はどれも開いていて、`ipoib_close` の後はまた開く。link-layer address の長さはどれも
`ETH_ALEN` である。

`arp_rx` が ARP request に返事を送るとき、`ipoib_transmit` は宛先の REMAC を引く。その REMAC は
同じ packet の受信で REMAC cache の先頭に置いたものなので、引いても cache は変わらない。
`neighbour_discovered` が待っていた packet を送るときも同じである。どちらも cache に及ばないので、
ここでは送らない。
-/

namespace FlexBoot.Ipoib

open Infra FlexBoot Net

/-- `IPOIB_MIN_DROP_CACHE`。 -/
def ipoibMinDropCache : Nat := 3

/-- `ARPHRD_ETHER`。 -/
def arphrdEther : Nat := 1

/-- IPv4 の `net_addr_len`。 -/
def ipv4AddrLen : Nat := 4

/-- IPoIB の network device の並びと、近所の cache。 -/
structure NetState where
  devs : List IpoibDevice
  neighbours : NeighbourCache Nat
  deriving DecidableEq, Repr

/-- 二つの cache が空の状態。 -/
def NetState.init (devs : List IpoibDevice) : NetState :=
  ⟨devs.map fun dev => { dev with peers := [], totalPeers := 0 }, .empty⟩

/-! ## 受信 -/

/-- `arp_rx` が近所の cache に及ぼすこと。`pkt` は Ethernet header を外した ARP である。
protocol が IPv4 で、hardware type、hardware address の長さ、protocol address の長さが
device に合えば、送り手の entry の link-layer address を送り手の hardware address にする。 -/
def arpRx (c : NeighbourCache Nat) (netdev : Nat) (pkt : Bytes) :
    Except Fault (NeighbourCache Nat) := do
  let pro ← rd pkt 2 2
  if be16 pro 0 ≠ ethPIp then return c
  let hrd ← rd pkt 0 2
  if be16 hrd 0 ≠ arphrdEther then return c
  let hln ← rd pkt 4 1
  if hln ≠ [UInt8.ofNat ethAlen] then return c
  let pln ← rd pkt 5 1
  if pln ≠ [UInt8.ofNat ipv4AddrLen] then return c
  let senderPa ← rd pkt (arpSenderPa ethAlen) ipv4AddrLen
  let senderHa ← rd pkt arpSenderHa ethAlen
  return (neighbourUpdate c netdev senderPa senderHa ethAlen).1

/-- device `d` の受信 completion。`net_rx` は Ethernet header の protocol が ARP の frame を
`arp_rx` に渡す。 -/
def netRecv (s : NetState) (d : Nat) (pkt : Bytes) (source : Option Source)
    (destBroadcast allocOk : Bool) : Except Fault NetState :=
  match s.devs[d]? with
  | none => .ok s
  | some dev => do
    let (dev, r) ← ipoibCompleteRecv allocOk dev pkt source destBroadcast
    let s := { s with devs := s.devs.set d dev }
    match r with
    | .delivered frame =>
      if be16 frame 12 = ethPArp then
        let neighbours ← arpRx s.neighbours d (frame.drop 14)
        return { s with neighbours }
      else return s
    | .dropped _ => return s

/-! ## 送信 -/

/-- device `d` で IPv4 の packet を `netDest` に送る（`arp_tx` から `neighbour_tx`）。link-layer
address が分かっていれば、`net_tx` が Ethernet header を付けて `ipoib_transmit` に渡す。 -/
def netSend (s : NetState) (d : Nat) (netDest payload tail : Bytes) (allocOk linkOk : Bool) :
    Except Fault (NetState × Option TxResult) :=
  match s.devs[d]? with
  | none => .ok (s, none)
  | some dev =>
    match neighbourTx allocOk s.neighbours d netDest with
    | (c, .transmit llDest) => do
      let frame := llDest.take ethAlen ++ dev.llAddr.take ethAlen ++ toBe16 ethPIp ++ payload
      let (dev, r) ← ipoibTransmit linkOk dev frame tail
      return (⟨s.devs.set d dev, c⟩, some r)
    | (c, _) => .ok ({ s with neighbours := c }, none)

/-- 近所の cache を通さない `ipoib_transmit`（broadcast や ARP の request と返事）。 -/
def netTransmit (s : NetState) (d : Nat) (frame tail : Bytes) (linkOk : Bool) :
    Except Fault NetState :=
  match s.devs[d]? with
  | none => .ok s
  | some dev => (ipoibTransmit linkOk dev frame tail).map fun r => { s with devs := s.devs.set d r.1 }

/-! ## 捨てる・閉じる -/

/-- `ipoib_discard_remac` の一つの device の分。REMAC cache が空でなく 3 個以上数えていれば、
最後の REMAC を外し、`neighbour_discard` でそれを link-layer address に持つ entry を一つ消す。 -/
def ipoibDiscardRemacDev (c : NeighbourCache Nat) (dev : IpoibDevice) :
    IpoibDevice × NeighbourCache Nat × Nat :=
  if dev.peers = [] ∨ dev.totalPeers < ipoibMinDropCache then (dev, c, 0)
  else
    match dev.peers.getLast? with
    | some peer =>
      (ipoibRemovePeer dev (dev.peers.length - 1),
        (neighbourDiscard (fun _ => ethAlen) c peer.remac ethAlen).1, 1)
    | none => (dev, c, 0)

/-- `ipoib_discard_remac`。IPoIB の device を順に回り、捨てた数を返す。 -/
def ipoibDiscardRemac : List IpoibDevice → NeighbourCache Nat →
    List IpoibDevice × NeighbourCache Nat × Nat
  | [], c => ([], c, 0)
  | dev :: devs, c =>
    let (dev, c, k) := ipoibDiscardRemacDev c dev
    let (devs, c, k') := ipoibDiscardRemac devs c
    (dev :: devs, c, k + k')

/-! ## 実行 -/

/-- 二つの cache に届く事象。 -/
inductive NetEvent
  /-- device `d` の受信 completion（`rc = 0`）。 -/
  | recv (d : Nat) (pkt : Bytes) (source : Option Source) (destBroadcast allocOk : Bool)
  /-- device `d` で IPv4 の packet を送る。 -/
  | send (d : Nat) (netDest payload tail : Bytes) (allocOk linkOk : Bool)
  /-- device `d` の `ipoib_transmit` を近所の cache を通さずに呼ぶ。 -/
  | transmit (d : Nat) (frame tail : Bytes) (linkOk : Bool)
  /-- cache discarder の `ipoib_discard_remac`。 -/
  | discardRemac
  /-- cache discarder の `neighbour_discard_last`。 -/
  | discardLast
  /-- device `d` の `ipoib_close` と、それを知らされた `neighbour_flush`。 -/
  | close (d : Nat)

/-- 一つの事象を処理する。 -/
def netStep : Except Fault NetState → NetEvent → Except Fault NetState
  | .error f, _ => .error f
  | .ok s, .recv d pkt source destBroadcast allocOk => netRecv s d pkt source destBroadcast allocOk
  | .ok s, .send d netDest payload tail allocOk linkOk =>
    (netSend s d netDest payload tail allocOk linkOk).map Prod.fst
  | .ok s, .transmit d frame tail linkOk => netTransmit s d frame tail linkOk
  | .ok s, .discardRemac =>
    let (devs, neighbours, _) := ipoibDiscardRemac s.devs s.neighbours
    .ok ⟨devs, neighbours⟩
  | .ok s, .discardLast => .ok { s with neighbours := (neighbourDiscardLast s.neighbours).1 }
  | .ok s, .close d => .ok ⟨s.devs.modify d ipoibFlushRemac, neighbourFlush s.neighbours⟩

/-- 状態から事象の列を処理する。 -/
def runNet (s : NetState) (es : List NetEvent) : Except Fault NetState := run netStep (.ok s) es

end FlexBoot.Ipoib
