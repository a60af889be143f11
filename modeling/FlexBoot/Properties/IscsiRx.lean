import FlexBoot.Properties.IscsiData

/-!
# 受信の機械と接続の閉じ直し

`iscsi_socket_deliver` は処理を呼ぶ前に次の状態を決め、処理の後で `rx_offset += frag_len` と
`rx_offset` と `rx_len` の比較をする。login response の処理は redirect で
`iscsi_close_connection` と `iscsi_open_connection` を呼び、`rx_state` と `rx_offset` を
新しい接続の初めに戻す。loop はその戻した値に、古い接続の断片の長さを足す。

1. 文字列の処理は BHS と `rx_len` を変えない（`RxKeep`、`iscsiHandleStrings_rxKeep`）。
2. redirect の login response は、data の最後の断片で接続を閉じ直し、`rx_state` を BHS、
   `rx_offset` を 0 にして返る（`iscsiRxLoginResponse_redirect`）。
3. data の状態の一回の turn は、処理の返した session の `rx_offset` に断片の長さを足す
   （`iscsiSocketDeliverLoop_data_step`）。
4. したがって data が前の iob から続いていれば、閉じ直した後の `rx_offset` は断片の長さで、
   新しい接続の BHS はその位置から書かれる（`iscsiSocketDeliver_reset_mid_segment`）。
   data が一つの iob に収まっていれば、新しい接続は詰め物の状態から始まる
   （`iscsiSocketDeliverLoop_reset_whole_segment`）。
-/

namespace FlexBoot.Iscsi

open Infra FlexBoot FlexBoot.Chap

/-! ## 文字列の処理の枠 -/

/-- 受信の機械が読む BHS と `rx_len` が変わらないこと。 -/
structure RxKeep (s t : IscsiSession) : Prop where
  bhs : t.rxBhs = s.rxBhs
  len : t.rxLen = s.rxLen

theorem RxKeep.refl (s : IscsiSession) : RxKeep s s := ⟨rfl, rfl⟩

theorem RxKeep.trans {s t u : IscsiSession} (h₁ : RxKeep s t) (h₂ : RxKeep t u) : RxKeep s u :=
  ⟨h₂.bhs.trans h₁.bhs, h₂.len.trans h₁.len⟩

section Strings

variable (arch : Arch) (env : Env)

/-- 値の処理はどれも session の認証と接続先の field だけを書き換える。 -/
theorem StringType.handle_rxKeep (t : StringType) (s : IscsiSession) (value : Bytes) :
    RxKeep s (t.handle arch env s value).1 := by
  -- どの枝も `{ s with .. }` で、受信の field には触れない
  cases t <;> simp only [StringType.handle, iscsiHandleTargetaddressValue, iscsiHandleAuthmethodValue,
    iscsiHandleChapAValue, iscsiHandleChapIValue, iscsiHandleChapCValue, iscsiHandleChapNValue,
    iscsiHandleChapRValue, iscsiChapRCompare] <;> (repeat' split) <;> exact ⟨rfl, rfl⟩

theorem iscsiHandleString_rxKeep (s : IscsiSession) (string : Bytes) :
    RxKeep s (iscsiHandleString arch env s string).1 := by
  unfold iscsiHandleString
  split
  · exact RxKeep.refl s
  · split
    · exact RxKeep.refl s
    · split
      · exact RxKeep.refl s
      · next t _ => exact StringType.handle_rxKeep arch env t s _

/-- 文字列の列の処理。loop の回数で帰納法を使う。 -/
theorem iscsiHandleStringsLoop_rxKeep :
    ∀ (fuel : Nat) (s : IscsiSession) (strings : Bytes),
      RxKeep s (iscsiHandleStringsLoop arch env fuel s strings).1
  | 0, s, _ => RxKeep.refl s
  | fuel + 1, s, strings => by
    unfold iscsiHandleStringsLoop
    dsimp only
    split
    · exact RxKeep.refl s
    · have h1 := iscsiHandleString_rxKeep arch env s (strings.take (strnlen strings strings.length + 1))
      split
      · exact h1.trans (iscsiHandleStringsLoop_rxKeep fuel _ _)
      · exact h1

theorem iscsiHandleStrings_rxKeep (s : IscsiSession) (strings : Bytes) :
    RxKeep s (iscsiHandleStrings arch env s strings).1 :=
  iscsiHandleStringsLoop_rxKeep arch env _ s strings

/-! ## redirect -/

theorem iscsiRxBufferedData_rxKeep {allocOk : Bool} {s t : IscsiSession} {data : Bytes} {rc : Rc}
    (h : iscsiRxBufferedData allocOk s data = .ok (t, rc)) : RxKeep s t := by
  unfold iscsiRxBufferedData at h
  split at h
  · cases h
    exact RxKeep.refl s
  · -- 書き込みが成功すれば `rx_buffer` だけが変わる
    cases hw : wr (s.rxBuffer.getD (List.replicate s.rxLen 0)) s.rxOffset data with
    | error f =>
      rw [hw] at h
      cases h
    | ok buf =>
      rw [hw] at h
      cases h
      exact ⟨rfl, rfl⟩

/-- redirect では、接続を閉じて開き直した session が、BHS から、位置 0 で受け取り始める。 -/
theorem iscsiLoginComplete_redirect (s : IscsiSession) (hredirect : (s.rxBhs.getD 36 0).toNat = statusRedirect)
    (hopen : env.openOk = true) :
    let r := iscsiLoginComplete env s
    r.1.rxState = .bhs ∧ r.1.rxOffset = 0 ∧ r.1.rxLen = s.rxLen ∧ r.2 = .ok := by
  simp only [iscsiLoginComplete, hredirect, if_true, iscsiOpenConnection, hopen, Bool.not_true,
    Bool.false_eq_true, if_false, iscsiCloseConnection, iscsiStartLogin, iscsiStartTx, iscsiNewItt, and_self]

/-- data の最後の断片の redirect の login response は、文字列を受け入れれば接続を閉じ直し、
受信の機械を BHS の位置 0 に戻して成功する。 -/
theorem iscsiRxLoginResponse_redirect {s u : IscsiSession} {data : Bytes}
    (hbuf : iscsiRxBufferedData env.allocOk s data = .ok (u, .ok))
    (hstr : (iscsiHandleStrings arch env u (u.rxBuffer.getD [])).2 = .ok)
    (hredirect : (s.rxBhs.getD 36 0).toNat = statusRedirect) (hopen : env.openOk = true) :
    (iscsiRxLoginResponse arch env s data 0).map (fun r => (r.1.rxState, r.1.rxOffset, r.1.rxLen, r.2)) =
      .ok (.bhs, 0, s.rxLen, .ok) := by
  have hkeep := (iscsiRxBufferedData_rxKeep hbuf).trans (iscsiHandleStrings_rxKeep arch env u (u.rxBuffer.getD []))
  set r := iscsiHandleStrings arch env u (u.rxBuffer.getD []) with hr
  -- 文字列の処理の後でも BHS は redirect のままである
  obtain ⟨hstate, hoffset, hlen, hrc⟩ := iscsiLoginComplete_redirect env { r.1 with rxBuffer := none }
    (by rw [hkeep.bhs]; exact hredirect) hopen
  dsimp only at hstate hoffset hlen hrc
  unfold iscsiRxLoginResponse
  rw [hbuf]
  simp only [ne_eq, not_true_eq_false, if_false, ← hr, hstr]
  simp only [Except.map]
  rw [hstate, hoffset, hlen, hrc, hkeep.len]

end Strings

/-! ## data の状態の一回の turn -/

section Loop

variable (arch : Arch) (env : Env)

theorem iscsiRxFragment_data {s : IscsiSession} (hst : s.rxState = .data) (data : Bytes) (remaining : Nat) :
    iscsiRxFragment arch env s data remaining = iscsiRxData arch env s data remaining := by
  rw [iscsiRxFragment, hst]

/-- data の状態の一回の turn。`n` は BHS の data の長さ、`k` はこの iob から取る断片の長さで、
処理の返した session の `rx_offset` に `k` を足して `rx_len` と比べる。 -/
theorem iscsiSocketDeliverLoop_data_step {fuel : Nat} {s t : IscsiSession} {iob : Bytes} {n k : Nat}
    (hst : s.rxState = .data) (hn : bhsDataLen s.rxBhs = n) (hoff : s.rxOffset ≤ n)
    (hw : n < 2 ^ arch.longBits) (hk : min (n - s.rxOffset) iob.length = k)
    (hrx : iscsiRxData arch env { s with rxLen := n } (iob.take k) (n - s.rxOffset - k) = .ok (t, .ok)) :
    iscsiSocketDeliverLoop arch env (fuel + 1) s iob =
      if (t.rxOffset + k) % 2 ^ arch.longBits ≠ t.rxLen then
        .ok ({ t with rxOffset := (t.rxOffset + k) % 2 ^ arch.longBits }, .ok)
      else iscsiSocketDeliverLoop arch env fuel { t with rxState := .dataPadding, rxOffset := 0 } (iob.drop k) := by
  have hlen : iscsiRxStateLen s = n := by
    rw [iscsiRxStateLen, hst, hn]
  -- `size_t` の引き算は、`rx_offset ≤ rx_len < 2 ^ w` なので巻き戻らない
  have hfrag : min ((n + 2 ^ arch.longBits - s.rxOffset) % 2 ^ arch.longBits) iob.length = k := by
    rw [show n + 2 ^ arch.longBits - s.rxOffset = n - s.rxOffset + 2 ^ arch.longBits by omega,
      Nat.add_mod_right, Nat.mod_eq_of_lt (by omega), hk]
  have hrem : (n + 2 * 2 ^ arch.longBits - s.rxOffset - k) % 2 ^ arch.longBits = n - s.rxOffset - k := by
    have : k ≤ n - s.rxOffset := hk ▸ Nat.min_le_left _ _
    rw [show n + 2 * 2 ^ arch.longBits - s.rxOffset - k = n - s.rxOffset - k + 2 * 2 ^ arch.longBits by omega,
      Nat.add_mul_mod_self_right, Nat.mod_eq_of_lt (by omega)]
  have hfragment : iscsiRxFragment arch env { s with rxLen := n } (iob.take k) (n - s.rxOffset - k) =
      .ok (t, .ok) := by
    rw [iscsiRxFragment_data arch env (s := { s with rxLen := n }) hst]
    exact hrx
  rw [iscsiSocketDeliverLoop]
  simp only [hlen, hfrag, hrem, hfragment, ne_eq, not_true_eq_false, if_false]
  -- 次の状態は処理を呼ぶ前の `rx_state` から決まっている
  rw [hst]
  rfl

/-- data が前の iob から続いていて（`0 < rx_offset`）この iob で終わり、その処理が接続を閉じ直せば、
`iscsi_socket_deliver` は BHS の状態で、`rx_offset` を断片の長さ（0 でない）にして返る。
新しい接続の最初の BHS は `rx_bhs` のその位置から書かれる。 -/
theorem iscsiSocketDeliver_reset_mid_segment (s : IscsiSession) (iob : Bytes) (hst : s.rxState = .data)
    (hoff : 0 < s.rxOffset ∧ s.rxOffset < bhsDataLen s.rxBhs) (hw : bhsDataLen s.rxBhs < 2 ^ arch.longBits)
    (hrest : bhsDataLen s.rxBhs - s.rxOffset ≤ iob.length)
    (hreset : (iscsiRxData arch env { s with rxLen := bhsDataLen s.rxBhs }
        (iob.take (bhsDataLen s.rxBhs - s.rxOffset)) 0).map
          (fun r => (r.1.rxState, r.1.rxOffset, r.1.rxLen, r.2)) =
        .ok (.bhs, 0, bhsDataLen s.rxBhs, .ok)) :
    (iscsiSocketDeliver arch env s iob).map (fun t => (t.rxState, t.rxOffset)) =
      .ok (.bhs, bhsDataLen s.rxBhs - s.rxOffset) := by
  set n := bhsDataLen s.rxBhs with hn
  have hk : min (n - s.rxOffset) iob.length = n - s.rxOffset := Nat.min_eq_left hrest
  -- 処理の結果を取り出す
  cases hrx : iscsiRxData arch env { s with rxLen := n } (iob.take (n - s.rxOffset)) 0 with
  | error f =>
    rw [hrx] at hreset
    cases hreset
  | ok p =>
    obtain ⟨t, rc⟩ := p
    rw [hrx] at hreset
    simp only [Except.map, Except.ok.injEq, Prod.mk.injEq] at hreset
    obtain ⟨hstate, hoffset, hlen, rfl⟩ := hreset
    have hrx' : iscsiRxData arch env { s with rxLen := n } (iob.take (n - s.rxOffset))
        (n - s.rxOffset - (n - s.rxOffset)) = .ok (t, .ok) := by
      rw [Nat.sub_self]
      exact hrx
    have hstep : iscsiSocketDeliverLoop arch env (8 * iob.length + 7 + 1) s iob = _ :=
      iscsiSocketDeliverLoop_data_step arch env hst hn.symm hoff.2.le hw hk hrx'
    rw [hoffset, hlen, Nat.zero_add, Nat.mod_eq_of_lt (by omega), if_pos (by omega)] at hstep
    rw [iscsiSocketDeliver, show 8 * iob.length + 8 = 8 * iob.length + 7 + 1 from rfl, hstep]
    simp only [if_true, Except.map, hstate]

/-- data が一つの iob に収まり、その処理が接続を閉じ直せば、loop は古い接続の次の状態、詰め物の
状態に進む。新しい接続の最初の byte は、古い PDU の詰め物の長さだけ捨てられる。 -/
theorem iscsiSocketDeliverLoop_reset_whole_segment {fuel : Nat} {s t : IscsiSession} {iob : Bytes}
    (hst : s.rxState = .data) (hoff : s.rxOffset = 0) (hw : bhsDataLen s.rxBhs < 2 ^ arch.longBits)
    (hrest : bhsDataLen s.rxBhs ≤ iob.length)
    (hrx : iscsiRxData arch env { s with rxLen := bhsDataLen s.rxBhs } (iob.take (bhsDataLen s.rxBhs)) 0 =
      .ok (t, .ok))
    (hreset : t.rxState = .bhs ∧ t.rxOffset = 0 ∧ t.rxLen = bhsDataLen s.rxBhs) :
    iscsiSocketDeliverLoop arch env (fuel + 1) s iob =
      iscsiSocketDeliverLoop arch env fuel { t with rxState := .dataPadding, rxOffset := 0 }
        (iob.drop (bhsDataLen s.rxBhs)) := by
  have hk : min (bhsDataLen s.rxBhs - s.rxOffset) iob.length = bhsDataLen s.rxBhs := by
    rw [hoff, Nat.sub_zero]
    exact Nat.min_eq_left hrest
  have hrx' : iscsiRxData arch env { s with rxLen := bhsDataLen s.rxBhs } (iob.take (bhsDataLen s.rxBhs))
      (bhsDataLen s.rxBhs - s.rxOffset - bhsDataLen s.rxBhs) = .ok (t, .ok) := by
    rw [show bhsDataLen s.rxBhs - s.rxOffset - bhsDataLen s.rxBhs = 0 by omega]
    exact hrx
  rw [iscsiSocketDeliverLoop_data_step arch env hst rfl (by omega) hw hk hrx', hreset.2.1, hreset.2.2,
    Nat.zero_add, Nat.mod_eq_of_lt hw]
  simp

end Loop

/-- BHS と data の最初の 10 byte を受け取った後の、100 byte の redirect の途中。 -/
def redirectMidData : IscsiSession :=
  { IscsiSession.new exampleTarget noAuthCreds with
      rxState := .data, rxBhs := splitRedirectPdu.take 48, rxOffset := 10, rxLen := 100,
      rxBuffer := some ((splitRedirectPdu.drop 48).take 10 ++ List.replicate 90 0) }

/-- 残りの 90 byte を受け取ると、redirect の後の新しい接続は BHS の 90 byte 目から受け取る。 -/
theorem iscsiSocketDeliver_split_redirect :
    (iscsiSocketDeliver .x86_64 okEnv redirectMidData (splitRedirectPdu.drop 58)).map
        (fun t => (t.rxState, t.rxOffset)) = .ok (.bhs, 90) :=
  iscsiSocketDeliver_reset_mid_segment .x86_64 okEnv redirectMidData _ rfl (by decide) (by decide)
    (by decide) (by decide +kernel)

end FlexBoot.Iscsi
