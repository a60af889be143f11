import FlexBoot.Drivers.Net.Ipoib

/-!
# IPoIB の REMAC cache と ARP の変換

REMAC cache は REMAC ごとに高々一つの entry を持つ。`ipoib_find_remac` は見つけた entry を
先頭に移すだけ、`ipoib_map_remac` は同じ REMAC の entry を書き換えるか、なかったときだけ
足すので、どんな受信と送信の列の後でもこれは保たれる（`runIpoib_remacs_nodup`）。

ARP の変換は `ar_op` を host order で `ARPOP_REPLY` と比べるので、network byte order で
返事（`00 02`）の packet を返事と見ない。また長さを調べないので、短い packet では
packet の外を読む（`ipoib_arp_reply_not_recognised`）。
-/

namespace FlexBoot.Ipoib

open Infra FlexBoot

/-! ## REMAC cache -/

/-- REMAC cache の REMAC が重ならない。 -/
def RemacsNodup (dev : IpoibDevice) : Prop := (dev.peers.map Peer.remac).Nodup

theorem remacsNodup_moveToFront {peers : List Peer} {p : Peer} (hp : p ∈ peers)
    (h : (peers.map Peer.remac).Nodup) : ((moveToFront peers p).map Peer.remac).Nodup :=
  ((List.perm_cons_erase hp).map Peer.remac).nodup_iff.mp h

theorem ipoibFindRemac_nodup {dev : IpoibDevice} (remac : Bytes) (h : RemacsNodup dev) :
    RemacsNodup (ipoibFindRemac dev remac).2 := by
  unfold ipoibFindRemac
  split
  · exact h
  split
  · next p hp => exact remacsNodup_moveToFront (List.mem_of_find?_eq_some hp) h
  · exact h

theorem ipoibMapRemac_nodup {dev : IpoibDevice} (allocOk : Bool) (remac mac : Bytes)
    (h : RemacsNodup dev) : RemacsNodup (ipoibMapRemac allocOk dev remac mac).1 := by
  unfold ipoibMapRemac
  split
  · next p hp =>
    -- 書き換えた entry の REMAC は元と同じ
    have hperm := (List.perm_cons_erase (List.mem_of_find?_eq_some hp)).map Peer.remac
    simpa [RemacsNodup] using hperm.nodup_iff.mp h
  · next hp =>
    split
    · have hnot : remac ∉ dev.peers.map Peer.remac := by
        intro hm
        obtain ⟨q, hq, rfl⟩ := List.mem_map.mp hm
        simpa using List.find?_eq_none.mp hp q hq
      exact List.nodup_cons.mpr ⟨hnot, h⟩
    · exact h

/-- 受信の変換が device に及ぼすのは `ipoib_map_remac` だけである。 -/
theorem ipoibTranslateRxArp_dev {allocOk : Bool} {dev dev' : IpoibDevice} {pkt remac pkt' : Bytes}
    {rc : Rc} (h : ipoibTranslateRxArp allocOk dev pkt remac = .ok (dev', pkt', rc)) :
    dev' = dev ∨ ∃ sha, dev' = (ipoibMapRemac allocOk dev remac sha).1 := by
  unfold ipoibTranslateRxArp at h
  obtain ⟨hln, -, h⟩ := bind_eq_ok.mp h
  split at h
  · cases h; exact .inl rfl
  obtain ⟨sha, -, h⟩ := bind_eq_ok.mp h
  split at h
  · next dev₂ hm =>
    obtain ⟨out, -, h⟩ := bind_eq_ok.mp h
    cases h
    exact .inr ⟨sha, by rw [hm]⟩
  · next dev₂ rc₂ _ hm =>
    cases h
    exact .inr ⟨sha, by rw [hm]⟩

/-- 送信の変換が device に及ぼすのは `ipoib_find_remac` だけである。 -/
theorem ipoibTranslateTxArp_dev {dev dev' : IpoibDevice} {pkt tail pkt' : Bytes} {rc : Rc}
    (h : ipoibTranslateTxArp dev pkt tail = .ok (dev', pkt', rc)) :
    dev' = dev ∨ ∃ key, dev' = (ipoibFindRemac dev key).2 := by
  unfold ipoibTranslateTxArp at h
  obtain ⟨hln, -, h⟩ := bind_eq_ok.mp h
  split at h
  · cases h; exact .inl rfl
  split at h
  · cases h; exact .inl rfl
  obtain ⟨pln, -, h⟩ := bind_eq_ok.mp h
  obtain ⟨op, -, h⟩ := bind_eq_ok.mp h
  split at h
  · obtain ⟨key, -, h⟩ := bind_eq_ok.mp h
    split at h
    · next dev₂ hf =>
      cases h
      exact .inr ⟨key, by rw [hf]⟩
    · next m dev₂ hf =>
      obtain ⟨out, -, h⟩ := bind_eq_ok.mp h
      cases h
      exact .inr ⟨key, by rw [hf]⟩
  · obtain ⟨out, -, h⟩ := bind_eq_ok.mp h
    cases h
    exact .inl rfl

/-! ### 受信と送信が保つ性質

受信が device を変えるのは `ipoib_map_remac` だけ、送信が変えるのは `ipoib_find_remac` だけ
なので、それらが保つ性質は受信と送信でも保たれる。
-/

section Preserve

variable {P : IpoibDevice → Prop}

theorem ipoibTranslateRx_preserves {allocOk : Bool}
    (hmap : ∀ dev remac sha, P dev → P (ipoibMapRemac allocOk dev remac sha).1)
    {dev dev' : IpoibDevice} {pkt remac pkt' : Bytes} {netProto : Nat} {rc : Rc} (hd : P dev)
    (h : ipoibTranslateRx allocOk dev pkt remac netProto = .ok (dev', pkt', rc)) : P dev' := by
  unfold ipoibTranslateRx at h
  split at h
  · rcases ipoibTranslateRxArp_dev h with rfl | ⟨sha, rfl⟩
    · exact hd
    · exact hmap dev remac sha hd
  split at h <;> (cases h; exact hd)

theorem ipoibTranslateTx_preserves (hfind : ∀ dev key, P dev → P (ipoibFindRemac dev key).2)
    {dev dev' : IpoibDevice} {pkt tail pkt' : Bytes} {netProto : Nat} {rc : Rc} (hd : P dev)
    (h : ipoibTranslateTx dev pkt tail netProto = .ok (dev', pkt', rc)) : P dev' := by
  unfold ipoibTranslateTx at h
  split at h
  · rcases ipoibTranslateTxArp_dev h with rfl | ⟨key, rfl⟩
    · exact hd
    · exact hfind dev key hd
  split at h <;> (cases h; exact hd)

theorem ipoibCompleteRecv_preserves {allocOk destBroadcast : Bool}
    (hmap : ∀ dev remac sha, P dev → P (ipoibMapRemac allocOk dev remac sha).1)
    {dev dev' : IpoibDevice} {pkt : Bytes} {source : Option Source} {r : RxResult} (hd : P dev)
    (h : ipoibCompleteRecv allocOk dev pkt source destBroadcast = .ok (dev', r)) : P dev' := by
  unfold ipoibCompleteRecv at h
  split at h
  · cases h; exact hd
  split at h
  · cases h; exact hd
  · obtain ⟨⟨dev₂, pkt₂, rc₂⟩, htr, h⟩ := bind_eq_ok.mp h
    have hd₂ := ipoibTranslateRx_preserves hmap hd htr
    -- 状態符号によらず、返すのは変換の後の device
    cases rc₂ <;> (cases h; exact hd₂)

theorem ipoibTransmit_preserves (hfind : ∀ dev key, P dev → P (ipoibFindRemac dev key).2)
    {linkOk : Bool} {dev dev' : IpoibDevice} {frame tail : Bytes} {r : TxResult} (hd : P dev)
    (h : ipoibTransmit linkOk dev frame tail = .ok (dev', r)) : P dev' := by
  unfold ipoibTransmit at h
  split at h
  · cases h; exact hd
  split at h
  · cases h; exact hd
  -- 宛先を引いた後の cache から変換を始める
  have hd₁ := hfind dev (frame.take 6) hd
  split at h
  · next dev₁ hf =>
    cases h
    rw [hf] at hd₁
    exact hd₁
  · next m dev₁ hf =>
    rw [hf] at hd₁
    obtain ⟨⟨dev₂, pkt₂, rc₂⟩, htr, h⟩ := bind_eq_ok.mp h
    have hd₂ := ipoibTranslateTx_preserves hfind hd₁ htr
    cases rc₂ <;> (cases h; exact hd₂)

end Preserve

/-- 止まっていない状態の REMAC cache は重ならない。 -/
def StateNodup : Except Fault IpoibDevice → Prop
  | .ok dev => RemacsNodup dev
  | .error _ => True

theorem step_nodup : Invariant step StateNodup := by
  intro s e hs
  rcases s with f | dev
  · trivial
  cases e with
  | recv pkt source destBroadcast allocOk =>
    show StateNodup ((ipoibCompleteRecv allocOk dev pkt source destBroadcast).map Prod.fst)
    rcases hr : ipoibCompleteRecv allocOk dev pkt source destBroadcast with f | ⟨dev', r⟩
    · trivial
    · exact ipoibCompleteRecv_preserves (fun _ remac sha h => ipoibMapRemac_nodup allocOk remac sha h)
        hs hr
  | transmit frame tail linkOk =>
    show StateNodup ((ipoibTransmit linkOk dev frame tail).map Prod.fst)
    rcases hr : ipoibTransmit linkOk dev frame tail with f | ⟨dev', r⟩
    · trivial
    · exact ipoibTransmit_preserves (fun _ key h => ipoibFindRemac_nodup key h) hs hr

/-- どんな受信と送信の列の後でも、REMAC cache は REMAC ごとに高々一つの entry を持つ。 -/
theorem runIpoib_remacs_nodup {dev : IpoibDevice} (hd : RemacsNodup dev) (es : List Event) :
    StateNodup (runIpoib dev es) :=
  step_nodup.run (show StateNodup (.ok dev) from hd) es

/-! ## 受信の ARP の作り直し

長さの足りる packet では、作り直しは止まらずに packet を 28 byte 縮め、`ar_op` と二つの
protocol address をそのまま前に詰め、送り手の hardware address を REMAC にする。受け手の
hardware address は、`ar_op` を host order で読んだ値が `ARPOP_REPLY` のときだけ自分の
Ethernet MAC、そうでなければ 0 である。証明は書き込みを一つずつ進め、各段の buffer に名前を
付けて、長さと書いた所と書いていない所だけを覚える。
-/

theorem rxArpRewrite_spec (ll remac pkt : Bytes) (p : Nat) (hpln : (pkt.getD 5 0).toNat = p)
    (hp : p ≤ 14) (hlen : 48 + 2 * p ≤ pkt.length) (hr : remac.length = 6) (hll : 6 ≤ ll.length) :
    ∃ out, rxArpRewrite ll remac pkt = .ok out ∧ out.length + arpDelta = pkt.length ∧
      sliceAt out 6 2 = sliceAt pkt 6 2 ∧
      sliceAt out (arpSenderPa ethAlen) p = sliceAt pkt (arpSenderPa ipoibMacLen) p ∧
      sliceAt out (arpTargetPa ethAlen p) p = sliceAt pkt (arpTargetPa ipoibMacLen p) p ∧
      sliceAt out arpSenderHa ethAlen = some remac ∧
      sliceAt out (arpTargetHa ethAlen p) ethAlen =
        some (if hostU16 ((pkt.drop 6).take 2) = arpopReply then ll.take ethAlen
          else List.replicate ethAlen 0) := by
  unfold rxArpRewrite
  rw [rd_ok (by omega), ok_bind, headD_take_one_drop 0 (by omega), hpln]
  simp only [arpSenderPa, arpTargetPa, arpTargetHa, arphdrLen, ethAlen, ipoibMacLen, arpSenderHa, arpDelta]
  -- 種類の欄
  rw [wr_ok (by simp; omega), ok_bind]
  have l1 : (splice pkt 0 [0, 1]).length = pkt.length := length_splice (by simp; omega)
  have f1 : ∀ j n, 2 ≤ j → sliceAt (splice pkt 0 [0, 1]) j n = sliceAt pkt j n :=
    fun j n hj => sliceAt_splice_of_disjoint (by simp; omega) (.inr (by simp; omega))
  generalize splice pkt 0 [0, 1] = b1 at l1 f1 ⊢
  -- `ar_hln`
  rw [wr_ok (by simp; omega), ok_bind]
  have l2 : (splice b1 4 [UInt8.ofNat 6]).length = pkt.length := by
    rw [length_splice (by simp; omega), l1]
  have f2 : ∀ j n, j + n ≤ 4 ∨ 5 ≤ j → sliceAt (splice b1 4 [UInt8.ofNat 6]) j n = sliceAt b1 j n :=
    fun j n hj => sliceAt_splice_of_disjoint (by simp; omega) (by simpa using hj)
  generalize splice b1 4 [UInt8.ofNat 6] = b2 at l2 f2 ⊢
  -- 送り手の protocol address
  rw [memcpyIn_ok (by simp [overlaps]; omega) (by omega) (by omega), ok_bind]
  have l3 : (splice b2 (8 + 6) ((b2.drop (8 + 20)).take p)).length = pkt.length := by
    rw [length_splice (by simp; omega), l2]
  have s3 : sliceAt (splice b2 (8 + 6) ((b2.drop (8 + 20)).take p)) (8 + 6) p = sliceAt b2 (8 + 20) p :=
    sliceAt_splice_slice (by omega) (by omega)
  have f3 : ∀ j n, j + n ≤ 14 ∨ 14 + p ≤ j →
      sliceAt (splice b2 (8 + 6) ((b2.drop (8 + 20)).take p)) j n = sliceAt b2 j n :=
    fun j n hj => sliceAt_splice_of_disjoint (by simp; omega) (by simp; omega)
  generalize splice b2 (8 + 6) ((b2.drop (8 + 20)).take p) = b3 at l3 s3 f3 ⊢
  -- 受け手の protocol address
  rw [memcpyIn_ok (by simp [overlaps]; omega) (by omega) (by omega), ok_bind]
  have l4 : (splice b3 (8 + 6 + p + 6) ((b3.drop (8 + 20 + p + 20)).take p)).length = pkt.length := by
    rw [length_splice (by simp; omega), l3]
  have s4 : sliceAt (splice b3 (8 + 6 + p + 6) ((b3.drop (8 + 20 + p + 20)).take p)) (8 + 6 + p + 6) p =
      sliceAt b3 (8 + 20 + p + 20) p := sliceAt_splice_slice (by omega) (by omega)
  have f4 : ∀ j n, j + n ≤ 20 + p ∨ 20 + 2 * p ≤ j →
      sliceAt (splice b3 (8 + 6 + p + 6) ((b3.drop (8 + 20 + p + 20)).take p)) j n = sliceAt b3 j n :=
    fun j n hj => sliceAt_splice_of_disjoint (by simp; omega) (by simp; omega)
  generalize splice b3 (8 + 6 + p + 6) ((b3.drop (8 + 20 + p + 20)).take p) = b4 at l4 s4 f4 ⊢
  -- 送り手の hardware address
  rw [List.take_of_length_le (by omega : remac.length ≤ 6), wr_ok (by omega), ok_bind]
  have l5 : (splice b4 8 remac).length = pkt.length := by
    rw [length_splice (by omega), l4]
  have s5 := sliceAt_splice_self (b := b4) (i := 8) (d := remac) (by omega)
  have f5 : ∀ j n, j + n ≤ 8 ∨ 14 ≤ j → sliceAt (splice b4 8 remac) j n = sliceAt b4 j n :=
    fun j n hj => sliceAt_splice_of_disjoint (by omega) (by omega)
  generalize splice b4 8 remac = b5 at l5 s5 f5 ⊢
  -- 受け手の hardware address
  rw [wr_ok (by simp; omega), ok_bind]
  have l6 : (splice b5 (8 + 6 + p) (List.replicate 6 0)).length = pkt.length := by
    rw [length_splice (by simp; omega), l5]
  have s6 := sliceAt_splice_self (b := b5) (i := 8 + 6 + p) (d := List.replicate 6 0) (by simp; omega)
  have f6 : ∀ j n, j + n ≤ 14 + p ∨ 20 + p ≤ j →
      sliceAt (splice b5 (8 + 6 + p) (List.replicate 6 0)) j n = sliceAt b5 j n :=
    fun j n hj => sliceAt_splice_of_disjoint (by simp; omega) (by simp; omega)
  generalize splice b5 (8 + 6 + p) (List.replicate 6 0) = b6 at l6 s6 f6 ⊢
  rw [hr] at s5
  -- `ar_op` は触れられていない
  have hop : (b6.drop 6).take 2 = (pkt.drop 6).take 2 := by
    have h := f6 6 2 (by omega)
    rw [f5 6 2 (by omega), f4 6 2 (by omega), f3 6 2 (by omega), f2 6 2 (by omega),
      f1 6 2 (by omega), sliceAt_eq_some (by omega), sliceAt_eq_some (by omega)] at h
    exact Option.some.inj h
  rw [rd_ok (by omega), ok_bind, hop]
  -- 二つの枝は受け手の hardware address だけが違う
  have key : ∀ ha b7 : Bytes, b7.length = pkt.length →
      (∀ j n, j + n ≤ 14 + p ∨ 20 + p ≤ j → sliceAt b7 j n = sliceAt b6 j n) →
      sliceAt b7 (8 + 6 + p) 6 = some ha →
      let out := b7.take (b7.length - 2 * (20 - 6))
      out.length + 2 * (20 - 6) = pkt.length ∧ sliceAt out 6 2 = sliceAt pkt 6 2 ∧
      sliceAt out (8 + 6) p = sliceAt pkt (8 + 20) p ∧
      sliceAt out (8 + 6 + p + 6) p = sliceAt pkt (8 + 20 + p + 20) p ∧
      sliceAt out 8 6 = some remac ∧ sliceAt out (8 + 6 + p) 6 = some ha := by
    intro ha b7 l7 f7 s7
    refine ⟨by simp; omega, ?_, ?_, ?_, ?_, ?_⟩
    · rw [sliceAt_take (by omega), f7 6 2 (by omega), f6 6 2 (by omega), f5 6 2 (by omega),
        f4 6 2 (by omega), f3 6 2 (by omega), f2 6 2 (by omega), f1 6 2 (by omega)]
    · rw [sliceAt_take (by omega), f7 _ p (by omega), f6 _ p (by omega), f5 _ p (by omega),
        f4 _ p (by omega), s3, f2 _ p (by omega), f1 _ p (by omega)]
    · rw [sliceAt_take (by omega), f7 _ p (by omega), f6 _ p (by omega), f5 _ p (by omega), s4,
        f3 _ p (by omega), f2 _ p (by omega), f1 _ p (by omega)]
    · rw [sliceAt_take (by omega), f7 8 6 (by omega), f6 8 6 (by omega), s5]
    · rw [sliceAt_take (by omega), s7]
  split
  · -- 返事なら自分の Ethernet MAC で上書きする
    rw [wr_ok (by simp; omega), ok_bind]
    have l7 : (splice b6 (8 + 6 + p) (ll.take 6)).length = pkt.length := by
      rw [length_splice (by simp; omega), l6]
    have s7 := sliceAt_splice_self (b := b6) (i := 8 + 6 + p) (d := ll.take 6) (by simp; omega)
    have f7 : ∀ j n, j + n ≤ 14 + p ∨ 20 + p ≤ j →
        sliceAt (splice b6 (8 + 6 + p) (ll.take 6)) j n = sliceAt b6 j n :=
      fun j n hj => sliceAt_splice_of_disjoint (by simp; omega) (by simp; omega)
    rw [List.length_take, Nat.min_eq_left hll] at s7
    exact ⟨_, rfl, key _ _ l7 f7 s7⟩
  · rw [List.length_replicate] at s6
    exact ⟨_, rfl, key _ b6 l6 (fun _ _ _ => rfl) s6⟩

/-! ## 返事の見分けと長さ -/

/-- 自分の IPoIB MAC と Ethernet MAC を持ち、cache が空の device。 -/
def devEmptyCache : IpoibDevice :=
  { mac := List.replicate 20 0x11, broadcast := List.replicate 20 0xff,
    llAddr := [2, 0, 0, 0, 0, 1], peers := [], totalPeers := 0 }

/-- 10.0.0.2 から 10.0.0.1 への IPoIB の ARP の返事。`ar_op` は network byte order の `00 02`。 -/
def ipoibArpReply : Bytes :=
  [0, 32, 8, 0, 20, 4, 0, 2] ++ List.replicate 20 0x22 ++ [10, 0, 0, 2] ++
    List.replicate 20 0x11 ++ [10, 0, 0, 1]

/-- 本当の ARP の返事を受けても、受け手の hardware address は自分の Ethernet MAC ではなく 0 に
なる。IPoIB の header しかない packet では、`ar_hln` を packet の外から読む。 -/
theorem ipoib_arp_reply_not_recognised :
    (ipoibCompleteRecv true devEmptyCache ([8, 6, 0, 0] ++ ipoibArpReply) (some ⟨0x10, 5⟩)
        false).map Prod.snd =
      .ok (.delivered ([2, 0, 0, 0, 0, 1] ++ [2, 0, 0, 0x10, 0, 5] ++ [8, 6] ++
        [0, 1, 8, 0, 6, 4, 0, 2] ++ [2, 0, 0, 0x10, 0, 5] ++ [10, 0, 0, 2] ++
        [0, 0, 0, 0, 0, 0] ++ [10, 0, 0, 1])) ∧
    (ipoibCompleteRecv true devEmptyCache [8, 6, 0, 0] (some ⟨0x10, 5⟩) false).map Prod.snd =
      .error (.outOfBounds 5 0) := by
  refine ⟨by decide +kernel, by decide +kernel⟩

end FlexBoot.Ipoib
