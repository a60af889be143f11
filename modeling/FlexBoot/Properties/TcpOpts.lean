import FlexBoot.Net.Tcp
import Mathlib.Data.List.GetD

/-!
# `tcp_rx_opts` の停止と範囲

`tcp_rx_opts` は option の長さの byte だけ進む。長さが 0 の option では同じ位置に留まり、
loop は返らない。長さが 1 以上なら一回ごとに一 byte 以上進むので、`len + 1` 回で必ず返る。

1. `tcpRxOptsLoop` は `fuel` について単調で（`tcpRxOptsLoop_succ_of_some`）、`len + 1` 回で
   返らなければ何回でも返らない（`tcpRxOptsLoop_none_of_fuel`）。したがって model の
   `tcpRxOpts` が `none` であることは、loop が返らないことである（`tcpRxOpts_eq_none_iff`）。
2. 長さ 0 の option に着けば loop は返らない（`tcpRxOptsLoop_stuck`）。`tcp_rx` の長さの検査は
   option の中身を見ないので、検査を通る header で起きる（`tcp_rx_opts_zero_length_never_returns`）。
3. 記録した option は領域の中で始まるが、領域の中に収まるとは限らない。最後の byte の
   timestamp option は 10 byte の構造の 9 byte が領域の外にある（`tcpRxOpts_timestamp_at_end`）。
-/

namespace FlexBoot.Tcp

open Infra FlexBoot

section Loop

variable {opts : Bytes} {len : Nat}

-- loop の一回分の式。以下の証明は `tcpRxOptsLoop` を開かず、これで一回進める
theorem tcpRxOptsLoop_succ (fuel pos : Nat) (options : TcpOptions) :
    tcpRxOptsLoop opts len (fuel + 1) pos options =
      if len ≤ pos then some options
      else if (opts.getD pos 0).toNat = tcpOptionEnd then some options
      else if (opts.getD pos 0).toNat = tcpOptionNop then tcpRxOptsLoop opts len fuel (pos + 1) options
      else tcpRxOptsLoop opts len fuel (pos + (opts.getD (pos + 1) 0).toNat)
        (options.record (opts.getD pos 0).toNat pos) :=
  rfl

/-- 長さ 0 の option（END でも NOP でもない kind）に着けば、何回回っても返らない。 -/
theorem tcpRxOptsLoop_stuck {pos : Nat} (hpos : pos < len)
    (hkind : (opts.getD pos 0).toNat ≠ tcpOptionEnd ∧ (opts.getD pos 0).toNat ≠ tcpOptionNop)
    (hzero : (opts.getD (pos + 1) 0).toNat = 0) :
    ∀ (fuel : Nat) (options : TcpOptions), tcpRxOptsLoop opts len fuel pos options = none
  | 0, _ => rfl
  | fuel + 1, options => by
    rw [tcpRxOptsLoop_succ, if_neg (by omega), if_neg hkind.1, if_neg hkind.2, hzero, Nat.add_zero]
    exact tcpRxOptsLoop_stuck hpos hkind hzero fuel _

/-- 返った loop は、もう一回多く回れても同じ値を返す。 -/
theorem tcpRxOptsLoop_succ_of_some :
    ∀ {fuel pos : Nat} {options r : TcpOptions}, tcpRxOptsLoop opts len fuel pos options = some r →
      tcpRxOptsLoop opts len (fuel + 1) pos options = some r
  | 0, _, _, _, h => by cases h
  | fuel + 1, pos, options, r, h => by
    rw [tcpRxOptsLoop_succ] at h ⊢
    -- 分かれ方は `fuel` に依らないので、再帰の枝だけ帰納法の仮定を使う
    split_ifs at h ⊢ <;> first | exact h | exact tcpRxOptsLoop_succ_of_some h

/-- 返る値は回れる数に依らない。 -/
theorem tcpRxOptsLoop_add_of_some {fuel pos : Nat} {options r : TcpOptions}
    (h : tcpRxOptsLoop opts len fuel pos options = some r) :
    ∀ k, tcpRxOptsLoop opts len (fuel + k) pos options = some r
  | 0 => h
  | k + 1 => tcpRxOptsLoop_succ_of_some (tcpRxOptsLoop_add_of_some h k)

/-- 残りの長さより多く回れて返らなければ、何回回っても返らない。一回ごとに一 byte 以上進むか、
長さ 0 の option に留まり続けるからである。 -/
theorem tcpRxOptsLoop_none_of_fuel :
    ∀ {fuel pos : Nat} {options : TcpOptions}, len - pos < fuel →
      tcpRxOptsLoop opts len fuel pos options = none →
      ∀ fuel', tcpRxOptsLoop opts len fuel' pos options = none
  | 0, _, _, hf, _ => by omega
  | fuel + 1, pos, options, hf, h => by
    intro fuel'
    cases fuel' with
    | zero => rfl
    | succ fuel' =>
      rw [tcpRxOptsLoop_succ] at h ⊢
      by_cases hend : len ≤ pos
      · rw [if_pos hend] at h
        cases h
      rw [if_neg hend] at h ⊢
      by_cases hk0 : (opts.getD pos 0).toNat = tcpOptionEnd
      · rw [if_pos hk0] at h
        cases h
      rw [if_neg hk0] at h ⊢
      by_cases hk1 : (opts.getD pos 0).toNat = tcpOptionNop
      · rw [if_pos hk1] at h ⊢
        exact tcpRxOptsLoop_none_of_fuel (show len - (pos + 1) < fuel by omega) h fuel'
      rw [if_neg hk1] at h ⊢
      -- 長さが 0 なら留まり続け、1 以上なら残りの長さが減る
      by_cases hl : (opts.getD (pos + 1) 0).toNat = 0
      · rw [hl, Nat.add_zero]
        exact tcpRxOptsLoop_stuck (show pos < len by omega) ⟨hk0, hk1⟩ hl fuel' _
      · exact tcpRxOptsLoop_none_of_fuel
          (show len - (pos + (opts.getD (pos + 1) 0).toNat) < fuel by omega) h fuel'

end Loop

/-- model の `tcpRxOpts` が `none` であることは、`tcp_rx_opts` の loop が返らないことである。 -/
theorem tcpRxOpts_eq_none_iff (opts : Bytes) (len : Nat) :
    tcpRxOpts opts len = none ↔ ∀ fuel, tcpRxOptsLoop opts len fuel 0 TcpOptions.empty = none := by
  constructor
  · intro h
    exact tcpRxOptsLoop_none_of_fuel (by omega) h
  · intro h
    exact h (len + 1)

/-! ## `tcp_rx` が読む header -/

/-- 長さの検査を通る header の option の領域が、END でも NOP でもない kind と長さ 0 で始まれば、
`tcp_rx_opts` は返らない。 -/
theorem tcp_rx_opts_zero_length_never_returns (pkt : Bytes) (hok : tcpRxLengthOk pkt = true)
    (hlen : tcphdrLen + 2 ≤ tcpHeaderLen pkt)
    (hkind : (pkt.getD 20 0).toNat ≠ tcpOptionEnd ∧ (pkt.getD 20 0).toNat ≠ tcpOptionNop)
    (hzero : pkt.getD 21 0 = 0) :
    ∀ fuel, tcpRxOptsLoop (pkt.drop tcphdrLen) (tcpHeaderLen pkt - tcphdrLen) fuel 0 TcpOptions.empty = none := by
  have hget : ∀ i, (pkt.drop tcphdrLen).getD i 0 = pkt.getD (tcphdrLen + i) 0 := by
    intro i
    simp only [List.getD_eq_getElem?_getD, List.getElem?_drop]
  have hpkt : 22 ≤ pkt.length := by
    simp only [tcpRxLengthOk, Bool.and_eq_true, decide_eq_true_eq] at hok
    unfold tcphdrLen at hlen hok
    omega
  intro fuel
  refine tcpRxOptsLoop_stuck (by unfold tcphdrLen at hlen ⊢; omega) ?_ ?_ fuel _
  · rw [hget]
    exact hkind
  · rw [hget, show tcphdrLen + (0 + 1) = 21 from rfl, hzero]
    rfl

/-- MSS option の長さが 0 の 24 byte の header。 -/
theorem tcp_rx_opts_zero_length_mss :
    let pkt : Bytes := List.replicate 12 0 ++ [0x60] ++ List.replicate 7 0 ++ [2, 0, 0, 0]
    tcpRxLengthOk pkt = true ∧ tcphdrLen + 2 ≤ tcpHeaderLen pkt ∧
      ((pkt.getD 20 0).toNat ≠ tcpOptionEnd ∧ (pkt.getD 20 0).toNat ≠ tcpOptionNop) ∧ pkt.getD 21 0 = 0 ∧
      ∀ fuel, tcpRxOptsLoop (pkt.drop tcphdrLen) (tcpHeaderLen pkt - tcphdrLen) fuel 0 TcpOptions.empty = none :=
  ⟨by decide, by decide, by decide, by decide,
    tcp_rx_opts_zero_length_never_returns _ (by decide) (by decide) (by decide) (by decide)⟩

/-! ## 領域の外に出る option -/

/-- NOP の並びは一 byte ずつ読み飛ばす。 -/
theorem tcpRxOptsLoop_nops {opts : Bytes} {len : Nat} :
    ∀ (n fuel pos : Nat) (options : TcpOptions), pos + n ≤ len →
      (∀ i < n, (opts.getD (pos + i) 0).toNat = tcpOptionNop) →
      tcpRxOptsLoop opts len (fuel + n) pos options = tcpRxOptsLoop opts len fuel (pos + n) options
  | 0, _, _, _, _, _ => rfl
  | n + 1, fuel, pos, options, hlen, hnop => by
    have h0 := hnop 0 (by omega)
    rw [Nat.add_zero] at h0
    rw [show fuel + (n + 1) = fuel + n + 1 by omega, tcpRxOptsLoop, if_neg (by omega),
      if_neg (by rw [h0]; decide), if_pos h0,
      tcpRxOptsLoop_nops n fuel (pos + 1) options (by omega)
        (fun i hi => by rw [Nat.add_assoc, Nat.add_comm 1 i]; exact hnop (i + 1) (by omega)),
      Nat.add_assoc, Nat.add_comm 1 n]

/-- 領域の最後の byte の timestamp option も記録される。`tcp_rx` はそこから 2 byte 先の
`tsval` を読むが、10 byte の構造の 9 byte は領域の外にある。 -/
theorem tcpRxOpts_timestamp_at_end (n : Nat) (rest : Bytes) (hl : 1 ≤ (rest.headD 0).toNat) :
    tcpRxOpts (List.replicate n 1 ++ 8 :: rest) (n + 1) = some ⟨none, none, some n⟩ := by
  have hnops := @tcpRxOptsLoop_nops (List.replicate n 1 ++ 8 :: rest) (n + 1) n 2 0
    TcpOptions.empty (by omega) (fun i hi => by
      rw [Nat.zero_add, List.getD_append _ _ _ _ (by simpa using hi)]
      simp [List.getD_eq_getElem?_getD, hi, tcpOptionNop])
  have hts : (List.replicate n 1 ++ 8 :: rest : Bytes).getD n 0 = 8 := by
    rw [List.getD_append_right _ _ _ _ (by simp)]
    simp
  have hlen : (List.replicate n 1 ++ 8 :: rest : Bytes).getD (n + 1) 0 = rest.headD 0 := by
    rw [List.getD_append_right _ _ _ _ (by simp)]
    cases rest <;> simp
  rw [tcpRxOpts, show n + 1 + 1 = 2 + n by omega, hnops, Nat.zero_add, tcpRxOptsLoop, if_neg (by omega),
    hts, if_neg (by decide), if_neg (by decide), hlen]
  -- 長さの byte は領域の外の最初の byte で、1 以上なら領域の外へ進んで返る
  obtain ⟨l, hfuel⟩ : ∃ l, (rest.headD 0).toNat = l + 1 := ⟨(rest.headD 0).toNat - 1, by omega⟩
  rw [hfuel, tcpRxOptsLoop, if_pos (by omega)]
  rfl

end FlexBoot.Tcp
