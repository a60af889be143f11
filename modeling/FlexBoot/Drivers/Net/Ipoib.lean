import FlexBoot.Core.Misc
import FlexBoot.Infra.Buffer
import FlexBoot.Infra.Run

/-!
# IPoIB の eIPoIB 変換（`drivers/net/ipoib.c`）

上の層には Ethernet に見せ（eIPoIB）、InfiniBand の上では IPoIB として送る。相手の
Ethernet address（REMAC）は相手の QPN と LID から作り、IPoIB MAC（20 byte）との対応を
REMAC cache に覚える。ARP の packet だけは hardware address の長さが違うので作り直す。

* 受信（`ipoib_translate_rx_arp`）— `ar_hln = 20` の ARP を `ar_hln = 6` にし、28 byte 縮める
* 送信（`ipoib_translate_tx_arp`）— `ar_hln = 6` の ARP を `ar_hln = 20` にし、28 byte 広げる

## 読み書きの範囲

どちらにも packet の長さの検査はない。packet の data の外を読み書きすると
`Fault.outOfBounds`、重なる `memcpy` は `Fault.overlappingCopy` として止まる。
`iob_put` で広げた 28 byte の中身は、送信の前から tailroom にあった byte である。

## 値の読み方

`struct arphdr` の field は network byte order のまま置かれている。`ar_op` を定数
`ARPOP_REPLY` と比べるときは、x86 の host order（little-endian）で読む。
-/

namespace FlexBoot.Ipoib

open Infra FlexBoot

/-! ## host order の値 -/

/-- `uint16_t` の field を x86 の host order で読む。 -/
def hostU16 (b : Bytes) : Nat := (b.getD 0 0).toNat + 256 * (b.getD 1 0).toNat

/-! ## 定数 -/

/-- `ETH_ALEN`。 -/
def ethAlen : Nat := 6

/-- `sizeof ( struct ipoib_mac )`。 -/
def ipoibMacLen : Nat := 20

/-- `sizeof ( struct arphdr )`。 -/
def arphdrLen : Nat := 8

/-- 二つの hardware address の長さの差 `2 * ( sizeof ( ipoib->mac ) - ETH_ALEN )`。 -/
def arpDelta : Nat := 2 * (ipoibMacLen - ethAlen)

/-- `ARPOP_REPLY`。 -/
def arpopReply : Nat := 2

/-- `ETH_P_ARP` と `ETH_P_IP`。 -/
def ethPArp : Nat := 0x0806
def ethPIp : Nat := 0x0800

/-- `EIPOIB_QPN_LA`。 -/
def eipoibQpnLa : Nat := 0x02000000

/-! ## REMAC cache -/

/-- `struct ipoib_peer`。 -/
structure Peer where
  remac : Bytes
  mac : Bytes
  deriving DecidableEq, Repr

/-- `struct ipoib_device` のうち変換が使う field。 -/
structure IpoibDevice where
  /-- 自分の IPoIB MAC。 -/
  mac : Bytes
  /-- broadcast の IPoIB MAC。 -/
  broadcast : Bytes
  /-- 自分の Ethernet MAC（`netdev->ll_addr`）。 -/
  llAddr : Bytes
  /-- REMAC cache。先頭が最近使ったもの。 -/
  peers : List Peer
  /-- `total_peers`。FlexBoot が `peers` の横に数える entry の数。 -/
  totalPeers : Nat
  deriving DecidableEq, Repr

/-- 状態符号。 -/
inductive Rc
  | ok
  | einval
  | eio
  | enotty
  | enomem
  | enobufs
  | enxio
  | enotsup
  | enetunreach
  deriving DecidableEq, Repr

/-- `is_broadcast_ether_addr`。6 byte の AND が `0xff`。 -/
def isBroadcastEtherAddr (a : Bytes) : Bool :=
  ((a.take 6).foldl (· &&& ·) 0xff) == 0xff

/-- 見つけた peer を先頭に移す（`list_del` と `list_add`）。 -/
def moveToFront (peers : List Peer) (p : Peer) : List Peer := p :: peers.erase p

/-- `ipoib_find_remac`。 -/
def ipoibFindRemac (dev : IpoibDevice) (remac : Bytes) : Option Bytes × IpoibDevice :=
  if isBroadcastEtherAddr remac then (some dev.broadcast, dev)
  else
    match dev.peers.find? (·.remac = remac) with
    | some p => (some p.mac, { dev with peers := moveToFront dev.peers p })
    | none => (none, dev)

/-- `ipoib_add_peer`。先頭に足して数える。 -/
def ipoibAddPeer (dev : IpoibDevice) (peer : Peer) : IpoibDevice :=
  { dev with peers := peer :: dev.peers, totalPeers := dev.totalPeers + 1 }

/-- `ipoib_remove_peer`。位置 `i` の entry を外す。数が 0 なら何もしない。 -/
def ipoibRemovePeer (dev : IpoibDevice) (i : Nat) : IpoibDevice :=
  if 0 < dev.totalPeers then { dev with peers := dev.peers.eraseIdx i, totalPeers := dev.totalPeers - 1 }
  else dev

/-- `ipoib_map_remac`。あれば MAC を書き換えて先頭へ、なければ `malloc` して先頭に足す。 -/
def ipoibMapRemac (allocOk : Bool) (dev : IpoibDevice) (remac mac : Bytes) : IpoibDevice × Rc :=
  match dev.peers.find? (·.remac = remac) with
  | some p => ({ dev with peers := { p with mac } :: dev.peers.erase p }, .ok)
  | none =>
    if allocOk then (ipoibAddPeer dev { remac, mac }, .ok) else (dev, .enomem)

/-- `ipoib_flush_remac` の loop。元の list の entry を順に外す。前の entry が外れているので、
外す entry はいつも先頭にある。 -/
def ipoibFlushRemacLoop : List Peer → IpoibDevice → IpoibDevice
  | [], dev => dev
  | _ :: rest, dev => ipoibFlushRemacLoop rest (ipoibRemovePeer dev 0)

/-- `ipoib_flush_remac`。 -/
def ipoibFlushRemac (dev : IpoibDevice) : IpoibDevice := ipoibFlushRemacLoop dev.peers dev

/-! ## ARP の位置

`arp_sender_ha` は header の直後、`arp_sender_pa` はその `ar_hln` 後、`arp_target_ha` は
その `ar_pln` 後、`arp_target_pa` はその `ar_hln` 後である。
-/

/-- `arp_sender_ha`。 -/
def arpSenderHa : Nat := arphdrLen

/-- `arp_sender_pa`。 -/
def arpSenderPa (hln : Nat) : Nat := arphdrLen + hln

/-- `arp_target_ha`。 -/
def arpTargetHa (hln pln : Nat) : Nat := arpSenderPa hln + pln

/-- `arp_target_pa`。 -/
def arpTargetPa (hln pln : Nat) : Nat := arpTargetHa hln pln + hln

/-! ## 受信 -/

/-- `ipoib_translate_rx_arp` の packet の作り直し。二つの protocol address を前に詰め、
送り手の hardware address を REMAC に、受け手の hardware address を 0（返事なら自分の
Ethernet MAC）にして、28 byte 縮める。 -/
def rxArpRewrite (llAddr remac pkt : Bytes) : Except Fault Bytes := do
  let pln := ((← rd pkt 5 1).headD 0).toNat
  let senderPa := arpSenderPa ipoibMacLen
  let targetPa := arpTargetPa ipoibMacLen pln
  let pkt ← wr pkt 0 [0, 1]
  let pkt ← wr pkt 4 [UInt8.ofNat ethAlen]
  let pkt ← memcpyIn pkt (arpSenderPa ethAlen) senderPa pln
  let pkt ← memcpyIn pkt (arpTargetPa ethAlen pln) targetPa pln
  let pkt ← wr pkt arpSenderHa (remac.take ethAlen)
  let pkt ← wr pkt (arpTargetHa ethAlen pln) (List.replicate ethAlen 0)
  -- 返事かどうかは host order で比べる
  let op ← rd pkt 6 2
  let pkt ← if hostU16 op = arpopReply then wr pkt (arpTargetHa ethAlen pln) (llAddr.take ethAlen)
    else pure pkt
  -- `iob_unput`
  return pkt.take (pkt.length - arpDelta)

/-- `ipoib_translate_rx_arp`。`ar_hln` が IPoIB MAC の長さなら、送り手の IPoIB MAC を REMAC
cache に入れてから packet を作り直す。 -/
def ipoibTranslateRxArp (allocOk : Bool) (dev : IpoibDevice) (pkt remac : Bytes) :
    Except Fault (IpoibDevice × Bytes × Rc) := do
  let hln ← rd pkt 4 1
  if hln ≠ [UInt8.ofNat ipoibMacLen] then return (dev, pkt, .ok)
  let senderHa ← rd pkt arpSenderHa ipoibMacLen
  match ipoibMapRemac allocOk dev remac senderHa with
  | (dev, .ok) => return (dev, ← rxArpRewrite dev.llAddr remac pkt, .ok)
  | (dev, rc) => return (dev, pkt, rc)

/-- `ipoib_translate_rx`。`net_proto` は network byte order の値どうしで比べる。 -/
def ipoibTranslateRx (allocOk : Bool) (dev : IpoibDevice) (pkt remac : Bytes) (netProto : Nat) :
    Except Fault (IpoibDevice × Bytes × Rc) :=
  if netProto = ethPArp then ipoibTranslateRxArp allocOk dev pkt remac
  else if netProto = ethPIp then .ok (dev, pkt, .ok)
  else .ok (dev, pkt, .enotsup)

/-- 受信した packet の行き先。 -/
inductive RxResult
  /-- `netdev_rx_err`。 -/
  | dropped (rc : Rc)
  /-- `netdev_rx` に渡す eIPoIB の frame。 -/
  | delivered (frame : Bytes)
  deriving DecidableEq, Repr

/-- 受信 completion の送り手の address vector。 -/
structure Source where
  qpn : Nat
  lid : Nat
  deriving DecidableEq, Repr

/-- `ipoib_complete_recv`（`rc = 0` の場合）。`destBroadcast` は宛先の GID が broadcast の GID
であること。 -/
def ipoibCompleteRecv (allocOk : Bool) (dev : IpoibDevice) (pkt : Bytes) (source : Option Source)
    (destBroadcast : Bool) : Except Fault (IpoibDevice × RxResult) :=
  if pkt.length < 4 then .ok (dev, .dropped .eio)
  else
    match source with
    | none => .ok (dev, .dropped .enotty)
    | some src => do
      let netProto := be16 pkt 0
      let remac := toBe16 ((src.qpn ||| eipoibQpnLa) % 2 ^ 32 / 65536) ++
        toBe16 ((src.qpn ||| eipoibQpnLa) % 65536) ++ toBe16 (src.lid % 65536)
      let (dev, pkt, rc) ← ipoibTranslateRx allocOk dev (pkt.drop 4) remac netProto
      match rc with
      | .ok =>
        let dest := if destBroadcast then List.replicate 6 0xff else dev.llAddr.take 6
        return (dev, .delivered (dest ++ remac ++ toBe16 netProto ++ pkt))
      | rc => return (dev, .dropped rc)

/-! ## 送信 -/

/-- `ipoib_translate_tx_arp` の packet の作り直し。`tail` は `iob_put` で packet に入る
tailroom の中身である。 -/
def txArpRewrite (mac : Bytes) (targetHa : Option Bytes) (pkt tail : Bytes) : Except Fault Bytes := do
  let pln := ((← rd pkt 5 1).headD 0).toNat
  let pkt := pkt ++ tail.take arpDelta
  let senderPa := arpSenderPa ethAlen
  let targetPa := arpTargetPa ethAlen pln
  let pkt ← wr pkt 0 [0, 32]
  let pkt ← wr pkt 4 [UInt8.ofNat ipoibMacLen]
  let pkt ← memcpyIn pkt (arpTargetPa ipoibMacLen pln) targetPa pln
  let pkt ← memcpyIn pkt (arpSenderPa ipoibMacLen) senderPa pln
  let pkt ← wr pkt arpSenderHa (mac.take ipoibMacLen)
  let pkt ← wr pkt (arpTargetHa ipoibMacLen pln) (List.replicate ipoibMacLen 0)
  match targetHa with
  | some m => wr pkt (arpTargetHa ipoibMacLen pln) (m.take ipoibMacLen)
  | none => pure pkt

/-- `ipoib_translate_tx_arp`。返事なら、**受け手の protocol address** の位置から 6 byte を
REMAC として cache を引く。 -/
def ipoibTranslateTxArp (dev : IpoibDevice) (pkt tail : Bytes) :
    Except Fault (IpoibDevice × Bytes × Rc) := do
  let hln ← rd pkt 4 1
  if hln ≠ [UInt8.ofNat ethAlen] then return (dev, pkt, .ok)
  if tail.length < arpDelta then return (dev, pkt, .enobufs)
  let pln := ((← rd pkt 5 1).headD 0).toNat
  let op ← rd pkt 6 2
  if hostU16 op = arpopReply then
    let key ← rd pkt (arpTargetPa ethAlen pln) ethAlen
    match ipoibFindRemac dev key with
    | (none, dev) => return (dev, pkt, .enxio)
    | (some m, dev) => return (dev, ← txArpRewrite dev.mac (some m) pkt tail, .ok)
  else return (dev, ← txArpRewrite dev.mac none pkt tail, .ok)

/-- `ipoib_translate_tx`。 -/
def ipoibTranslateTx (dev : IpoibDevice) (pkt tail : Bytes) (netProto : Nat) :
    Except Fault (IpoibDevice × Bytes × Rc) :=
  if netProto = ethPArp then ipoibTranslateTxArp dev pkt tail
  else if netProto = ethPIp then .ok (dev, pkt, .ok)
  else .ok (dev, pkt, .enotsup)

/-- 送信の結果。 -/
inductive TxResult
  /-- 送らずに返した状態符号。 -/
  | failed (rc : Rc)
  /-- IPoIB の header を付けた packet と、宛先の IPoIB MAC。 -/
  | sent (pkt mac : Bytes)
  deriving DecidableEq, Repr

/-- `ipoib_transmit` のうち、宛先を決めて packet を作るまで。経路の解決と `ib_post_send` は
外の処理である。 -/
def ipoibTransmit (linkOk : Bool) (dev : IpoibDevice) (frame tail : Bytes) :
    Except Fault (IpoibDevice × TxResult) :=
  if frame.length < 14 then .ok (dev, .failed .einval)
  else if !linkOk then .ok (dev, .failed .enetunreach)
  else
    let netProto := be16 frame 12
    match ipoibFindRemac dev (frame.take 6) with
    | (none, dev) => .ok (dev, .failed .enxio)
    | (some mac, dev) => do
      let (dev, pkt, rc) ← ipoibTranslateTx dev (frame.drop 14) tail netProto
      match rc with
      | .ok => return (dev, .sent (toBe16 netProto ++ [0, 0] ++ pkt) mac)
      | rc => return (dev, .failed rc)

/-! ## 実行 -/

/-- device に届く事象。 -/
inductive Event
  /-- 受信 completion（`rc = 0`）。`allocOk` は REMAC cache の `malloc` の成否。 -/
  | recv (pkt : Bytes) (source : Option Source) (destBroadcast allocOk : Bool)
  /-- 上の層からの送信。`tail` は tailroom の中身。 -/
  | transmit (frame tail : Bytes) (linkOk : Bool)

/-- 一つの事象を処理し、REMAC cache を更新する。 -/
def step : Except Fault IpoibDevice → Event → Except Fault IpoibDevice
  | .error f, _ => .error f
  | .ok dev, .recv pkt source destBroadcast allocOk =>
    (ipoibCompleteRecv allocOk dev pkt source destBroadcast).map Prod.fst
  | .ok dev, .transmit frame tail linkOk => (ipoibTransmit linkOk dev frame tail).map Prod.fst

/-- device から事象の列を処理する。 -/
def runIpoib (dev : IpoibDevice) (es : List Event) : Except Fault IpoibDevice :=
  run step (.ok dev) es

end FlexBoot.Ipoib
