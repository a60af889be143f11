import FlexBoot.Net.Udp.Tftp

/-!
# TFTP の受信側で何が起きうるか

`tftp_rx` から下の各処理について、次の二つを一度ずつ言う。

* bitmap に起きる変化は `BitmapStep`（resize / set / 空にする）の繰り返しである
* `blksize` を書き換えるのは OACK の `blksize` option だけで、値は `strtoul` の結果を
  `unsigned int` に入れたもの

そこから実行全体について

* `runTftp_sized` — 確保した語数はいつも `length` から計算した語数に等しい
* `runTftp_ne_divideByZero` — OACK の `blksize` がどれも 0 でなければ、0 での割り算は起きない

を示す。仮定を外すと反例がある（`tftp_blksize_zero_divides_by_zero`）。
`num_blocks` が `unsigned int` で巻き戻ると、語数の不変条件は保たれたまま bitmap が `length` を
覆わなくなり、`bitmap_set` が配列の外に書く（`tftp_num_blocks_wrap_writes_outside`）。
-/

namespace FlexBoot.Tftp

open Infra FlexBoot

variable {arch : Arch} {env : Env} {t t' : TftpRequest} {rc : Rc}

/-! ## `tftp_presize` -/

theorem tftpPresize_error {n : Nat} {f : Fault} (h : tftpPresize arch env t n = .error f) :
    f = .divideByZero ∧ t.blksize = 0 := by
  unfold tftpPresize at h
  split at h
  · cases h
  · dsimp only at h
    split at h
    · cases h; exact ⟨rfl, ‹_›⟩
    · split at h <;> cases h

theorem tftpPresize_ok {n : Nat} (h : tftpPresize arch env t n = .ok (t', rc)) :
    t'.blksize = t.blksize ∧ BitmapSteps arch t.bitmap t'.bitmap := by
  unfold tftpPresize at h
  split at h
  · cases h; exact ⟨rfl, .refl⟩
  · dsimp only at h
    split at h
    · cases h
    · split at h
      · cases h; exact ⟨rfl, .refl⟩
      · cases h; exact ⟨rfl, .single (.resize ‹_›)⟩

/-! ## option

option の処理は bitmap に触れない。`blksize` を書き換えるのは名前が `blksize` に
`strcasecmp` で一致する option だけである。
-/

/-- option の並びのうち、`blksize` として `tftp->blksize` に入る値。 -/
def blksizeValues (arch : Arch) (opts : List (Bytes × Bytes)) : List Nat :=
  (opts.filter fun o => strcasecmp o.1 (ascii "blksize") == 0).map
    fun o => (strtoul arch o.2 10).1 % 2 ^ 32

/-- 一つの option を処理した後の状態について言えること。 -/
def OptionFrame (arch : Arch) (t t' : TftpRequest) (opts : List (Bytes × Bytes)) : Prop :=
  t'.bitmap = t.bitmap ∧ (t'.blksize = t.blksize ∨ t'.blksize ∈ blksizeValues arch opts)

theorem OptionFrame.trans {opts opts' : List (Bytes × Bytes)} {t₁ t₂ t₃ : TftpRequest}
    (h₁ : OptionFrame arch t₁ t₂ opts) (h₂ : OptionFrame arch t₂ t₃ opts')
    (hsub : ∀ v ∈ blksizeValues arch opts', v ∈ blksizeValues arch opts) :
    OptionFrame arch t₁ t₃ opts := by
  obtain ⟨hb₁, hk₁⟩ := h₁
  obtain ⟨hb₂, hk₂⟩ := h₂
  refine ⟨hb₂.trans hb₁, ?_⟩
  rcases hk₂ with hk₂ | hk₂
  · rw [hk₂]; exact hk₁
  · exact .inr (hsub _ hk₂)

theorem tftpProcessMulticast_frame (value : Bytes) :
    (tftpProcessMulticast arch env t value).1.bitmap = t.bitmap ∧
      (tftpProcessMulticast arch env t value).1.blksize = t.blksize := by
  unfold tftpProcessMulticast
  repeat' split
  all_goals simp

theorem tftpProcessOption_frame (name value : Bytes) :
    OptionFrame arch t (tftpProcessOption arch env t name value).1 [(name, value)] := by
  unfold tftpProcessOption
  split
  · next hname =>
    refine ⟨by simp [tftpProcessBlksize]; split <;> rfl, .inr ?_⟩
    simp only [tftpProcessBlksize, blksizeValues, hname, beq_self_eq_true, List.filter_cons_of_pos,
      List.filter_nil, List.map_cons, List.map_nil, List.mem_singleton]
    split <;> rfl
  · split
    · exact ⟨by simp [tftpProcessTsize]; split <;> rfl,
        .inl (by simp [tftpProcessTsize]; split <;> rfl)⟩
    · split
      · have h := @tftpProcessMulticast_frame arch env t value
        exact ⟨h.1, .inl h.2⟩
      · exact ⟨rfl, .inl rfl⟩

theorem blksizeValues_cons (o : Bytes × Bytes) (opts : List (Bytes × Bytes)) :
    ∀ v, v ∈ blksizeValues arch (o :: opts) ↔
      v ∈ blksizeValues arch [o] ∨ v ∈ blksizeValues arch opts := by
  intro v
  simp only [blksizeValues, List.filter_cons, List.filter_nil]
  split <;> simp

theorem tftpProcessOptions_frame :
    ∀ (t : TftpRequest) (opts : List (Bytes × Bytes)),
      OptionFrame arch t (tftpProcessOptions arch env t opts).1 opts
  | t, [] => ⟨rfl, .inl rfl⟩
  | t, (name, value) :: rest => by
    have h₁ := @tftpProcessOption_frame arch env t name value
    have hsub₁ : ∀ v ∈ blksizeValues arch [(name, value)],
        v ∈ blksizeValues arch ((name, value) :: rest) :=
      fun v hv => ((blksizeValues_cons _ _ v).mpr (.inl hv))
    have hsub₂ : ∀ v ∈ blksizeValues arch rest, v ∈ blksizeValues arch ((name, value) :: rest) :=
      fun v hv => ((blksizeValues_cons _ _ v).mpr (.inr hv))
    have h₁' : OptionFrame arch t (tftpProcessOption arch env t name value).1
        ((name, value) :: rest) := by
      obtain ⟨hb, hk⟩ := h₁
      exact ⟨hb, hk.imp_right (hsub₁ _)⟩
    unfold tftpProcessOptions
    rcases hres : tftpProcessOption arch env t name value with ⟨t₂, rc₂⟩
    rw [hres] at h₁'
    -- 成功なら残りの option に進み、失敗ならそこで止まる
    cases rc₂ with
    | ok => exact h₁'.trans (tftpProcessOptions_frame t₂ rest) hsub₂
    | _ => exact h₁'

/-! ## OACK -/

theorem tftpRxOack_ok {pkt : Bytes} (h : tftpRxOack arch env t pkt = .ok (t', rc)) :
    BitmapSteps arch t.bitmap t'.bitmap ∧
      (t'.blksize = t.blksize ∨ t'.blksize ∈ blksizeValues arch (oackOptions (pkt.drop 2))) := by
  unfold tftpRxOack at h
  split at h
  · cases h; exact ⟨.refl, .inl rfl⟩
  · have hfr := @tftpProcessOptions_frame arch env t (oackOptions (pkt.drop 2))
    rcases hres : tftpProcessOptions arch env t (oackOptions (pkt.drop 2)) with ⟨t₂, rc₂⟩
    rw [hres] at h hfr
    obtain ⟨hb₂, hk₂⟩ := hfr
    cases rc₂ with
    | ok =>
      dsimp only at h
      -- `tsize` が 0 でなければ `tftp_presize` を通る
      have hpre : ∀ t₃ rc₃, (if t₂.tsize ≠ 0 then tftpPresize arch env t₂ t₂.tsize
          else .ok (t₂, .ok)) = .ok (t₃, rc₃) →
          t₃.blksize = t₂.blksize ∧ BitmapSteps arch t₂.bitmap t₃.bitmap := by
        intro t₃ rc₃ hp
        split at hp
        · exact tftpPresize_ok hp
        · cases hp; exact ⟨rfl, .refl⟩
      split at h
      · cases h
      · next t₃ hp =>
        obtain ⟨hk₃, hb₃⟩ := hpre t₃ .ok hp
        split at h <;> cases h <;>
          exact ⟨hb₂ ▸ hb₃, by simpa [hk₃] using hk₂⟩
      · next t₃ rc₃ _ hp =>
        obtain ⟨hk₃, hb₃⟩ := hpre t₃ rc₃ hp
        cases h
        exact ⟨hb₂ ▸ hb₃, by simpa [hk₃] using hk₂⟩
    | _ => cases h; exact ⟨hb₂ ▸ .refl, by simpa using hk₂⟩

theorem tftpRxOack_error {pkt : Bytes} {f : Fault} (h : tftpRxOack arch env t pkt = .error f) :
    f = .divideByZero ∧ (t.blksize = 0 ∨ 0 ∈ blksizeValues arch (oackOptions (pkt.drop 2))) := by
  unfold tftpRxOack at h
  split at h
  · cases h
  · have hfr := @tftpProcessOptions_frame arch env t (oackOptions (pkt.drop 2))
    rcases hres : tftpProcessOptions arch env t (oackOptions (pkt.drop 2)) with ⟨t₂, rc₂⟩
    rw [hres] at h hfr
    obtain ⟨-, hk₂⟩ := hfr
    cases rc₂ with
    | ok =>
      dsimp only at h
      split at h
      · next f' hp =>
        cases h
        split at hp
        · -- 割り算で止まるのは、option を処理した後の `blksize` が 0 のときだけ
          obtain ⟨rfl, hz⟩ := tftpPresize_error hp
          rw [hz] at hk₂
          exact ⟨rfl, hk₂.imp Eq.symm id⟩
        · cases hp
      · split at h <;> cases h
      · cases h
    | _ => cases h

/-! ## DATA -/

theorem tftpRxData_ok {pkt : Bytes} (h : tftpRxData arch env t pkt = .ok (t', rc)) :
    BitmapSteps arch t.bitmap t'.bitmap ∧ t'.blksize = t.blksize := by
  unfold tftpRxData at h
  split at h
  · cases h; exact ⟨.refl, rfl⟩
  split at h
  · cases h; exact ⟨.refl, rfl⟩
  split at h
  · cases h; exact ⟨.refl, rfl⟩
  -- ここから先の `if` と `match` は `split` では重すぎるので、条件を名前で分ける
  by_cases hlen : t.blksize < pkt.length - 4
  · rw [if_pos hlen] at h; cases h; exact ⟨.refl, rfl⟩
  rw [if_neg hlen] at h
  by_cases hdel : (!env.deliverOk) = true
  · rw [if_pos hdel] at h; cases h; exact ⟨.refl, rfl⟩
  rw [if_neg hdel] at h
  rcases hp : tftpPresize arch env t
      ((dataBlock t pkt * t.blksize % 2 ^ 32 + (pkt.length - 4)) % 2 ^ arch.longBits)
    with f | ⟨t₂, rc₂⟩
  · rw [hp] at h; cases h
  obtain ⟨hk, hb⟩ := tftpPresize_ok hp
  rw [hp] at h
  cases rc₂ with
  | ok =>
    -- presize の resize の後に `bitmap_set` が続く
    rcases hs : bitmapSet arch t₂.bitmap (dataBlock t pkt) with f | b
    · simp only [hs] at h; cases h
    · simp only [hs] at h
      split at h <;> cases h <;> exact ⟨hb.tail (.set hs), hk⟩
  | _ => cases h; exact ⟨hb, hk⟩

theorem tftpRxData_error {pkt : Bytes} {f : Fault} (h : tftpRxData arch env t pkt = .error f) :
    (f = .divideByZero ∧ t.blksize = 0) ∨ ∃ i w, f = .outOfBounds i w := by
  unfold tftpRxData at h
  split at h
  · cases h
  split at h
  · cases h
  split at h
  · cases h
  by_cases hlen : t.blksize < pkt.length - 4
  · rw [if_pos hlen] at h; cases h
  rw [if_neg hlen] at h
  by_cases hdel : (!env.deliverOk) = true
  · rw [if_pos hdel] at h; cases h
  rw [if_neg hdel] at h
  rcases hp : tftpPresize arch env t
      ((dataBlock t pkt * t.blksize % 2 ^ 32 + (pkt.length - 4)) % 2 ^ arch.longBits)
    with f' | ⟨t₂, rc₂⟩
  · rw [hp] at h; cases h; exact .inl (tftpPresize_error hp)
  rw [hp] at h
  cases rc₂ with
  | ok =>
    rcases hs : bitmapSet arch t₂.bitmap (dataBlock t pkt) with f' | b
    · simp only [hs] at h
      cases h
      -- `bitmap_set` が止まるのは配列の外に書くときだけ
      unfold bitmapSet at hs
      split at hs
      · cases hs; exact .inr ⟨_, _, rfl⟩
      · unfold advanceGap at hs
        exact .inr (advanceGapLoop_error hs)
    · simp only [hs] at h
      split at h <;> cases h
  | _ => cases h

/-! ## ERROR と振り分け

一つの packet の処理で言えることを `PacketFrame` と `PacketFault` にまとめる。
-/

/-- packet を一つ処理した後の状態について言えること。 -/
def PacketFrame (arch : Arch) (t t' : TftpRequest) (pkt : Bytes) : Prop :=
  BitmapSteps arch t.bitmap t'.bitmap ∧
    (t'.blksize = t.blksize ∨ t'.blksize ∈ blksizeValues arch (oackOptions (pkt.drop 2)))

/-- packet の処理が未定義動作で止まるときに言えること。 -/
def PacketFault (arch : Arch) (t : TftpRequest) (pkt : Bytes) (f : Fault) : Prop :=
  (f = .divideByZero ∧ (t.blksize = 0 ∨ 0 ∈ blksizeValues arch (oackOptions (pkt.drop 2)))) ∨
    ∃ i w, f = .outOfBounds i w

theorem tftpRxError_ok {pkt : Bytes} (h : tftpRxError t pkt = .ok (t', rc)) :
    t'.bitmap = t.bitmap ∧ t'.blksize = t.blksize := by
  unfold tftpRxError at h
  split at h <;> cases h <;> exact ⟨rfl, rfl⟩

theorem tftpDispatch_ok {pkt : Bytes} (h : tftpDispatch arch env t pkt = .ok (t', rc)) :
    PacketFrame arch t t' pkt := by
  unfold tftpDispatch at h
  split at h
  · exact tftpRxOack_ok h
  · obtain ⟨hb, hk⟩ := tftpRxData_ok h
    exact ⟨hb, .inl hk⟩
  · obtain ⟨hb, hk⟩ := tftpRxError_ok h
    exact ⟨by rw [hb], .inl hk⟩
  · cases h; exact ⟨.refl, .inl rfl⟩

theorem tftpDispatch_error {pkt : Bytes} {f : Fault}
    (h : tftpDispatch arch env t pkt = .error f) : PacketFault arch t pkt f := by
  unfold tftpDispatch at h
  split at h
  · obtain ⟨rfl, hz⟩ := tftpRxOack_error h
    exact .inl ⟨rfl, hz⟩
  · rcases tftpRxData_error h with ⟨rfl, hz⟩ | hw
    · exact .inl ⟨rfl, .inl hz⟩
    · exact .inr hw
  · unfold tftpRxError at h
    split at h <;> cases h
  · cases h

/-- 相手の記録は bitmap にも `blksize` にも触れないので、`tftp_rx` は振り分けと同じことを言う。 -/
theorem tftpRx_ok {src : Option Nat} {pkt : Bytes} (h : tftpRx arch env t src pkt = .ok (t', rc)) :
    PacketFrame arch t t' pkt := by
  unfold tftpRx at h
  split at h
  · cases h; exact ⟨.refl, .inl rfl⟩
  split at h
  · cases h; exact ⟨.refl, .inl rfl⟩
  · have h' := tftpDispatch_ok h
    exact h'
  · split at h
    · exact tftpDispatch_ok h
    · cases h; exact ⟨.refl, .inl rfl⟩

theorem tftpRx_error {src : Option Nat} {pkt : Bytes} {f : Fault}
    (h : tftpRx arch env t src pkt = .error f) : PacketFault arch t pkt f := by
  unfold tftpRx at h
  split at h
  · cases h
  split at h
  · cases h
  · -- 相手を記録した状態は、bitmap と `blksize` が元と同じ
    have h' := tftpDispatch_error h
    exact h'
  · split at h
    · exact tftpDispatch_error h
    · cases h

/-- unicast socket で ACK を送るようにしても、bitmap と `blksize` には触れない。 -/
theorem tftpSocketDeliver_ok {src : Option Nat} {pkt : Bytes}
    (h : tftpSocketDeliver arch env t src pkt = .ok (t', rc)) : PacketFrame arch t t' pkt := by
  unfold tftpSocketDeliver at h
  have h' := tftpRx_ok h
  exact h'

theorem tftpSocketDeliver_error {src : Option Nat} {pkt : Bytes} {f : Fault}
    (h : tftpSocketDeliver arch env t src pkt = .error f) : PacketFault arch t pkt f := by
  unfold tftpSocketDeliver at h
  have h' := tftpRx_error h
  exact h'

/-! ## 再送 timer -/

theorem tftpReopenOrDone_frame :
    (tftpReopenOrDone env t).bitmap = t.bitmap ∧ (tftpReopenOrDone env t).blksize = t.blksize := by
  unfold tftpReopenOrDone tftpReopen
  cases env.openOk <;> exact ⟨rfl, rfl⟩

/-- timer の満了は `blksize` に触れず、bitmap は元のままか空に戻る。 -/
theorem tftpTimerExpired_frame (fail : Bool) :
    BitmapSteps arch t.bitmap (tftpTimerExpired env t fail).bitmap ∧
      (tftpTimerExpired env t fail).blksize = t.blksize := by
  unfold tftpTimerExpired
  split
  · split
    · obtain ⟨hb, hk⟩ := @tftpReopenOrDone_frame env t
      exact ⟨by rw [hb], hk⟩
    · dsimp only
      split
      · -- MTFTP から TFTP に戻るときだけ bitmap を捨てる
        obtain ⟨hb, hk⟩ := @tftpReopenOrDone_frame env
          { t with mtftpTimeouts := (t.mtftpTimeouts + 1) % 2 ^ 32,
                   flags := { sendAck := false, rrqSizes := true, rrqMulticast := false,
                              mtftpRecovery := false, sizeOnly := false },
                   bitmap := Bitmap.empty }
        exact ⟨by rw [hb]; exact .single .reset, hk⟩
      · exact ⟨.refl, rfl⟩
  · split <;> exact ⟨.refl, rfl⟩

/-! ## 一つの事象 -/

/-- 事象が運んでくる OACK の `blksize` の値。timer は何も運ばない。 -/
def eventBlksizes (arch : Arch) : Event → List Nat
  | .socket _ pkt _ => blksizeValues arch (oackOptions (pkt.drop 2))
  | .mcSocket _ pkt _ => blksizeValues arch (oackOptions (pkt.drop 2))
  | .timer _ _ => []

theorem step_ok {e : Event} (h : step arch (.ok t) e = .ok t') :
    BitmapSteps arch t.bitmap t'.bitmap ∧
      (t'.blksize = t.blksize ∨ t'.blksize ∈ eventBlksizes arch e) := by
  dsimp only [step] at h
  split at h
  · cases h; exact ⟨.refl, .inl rfl⟩
  -- packet は `tftp_rx` の枠、timer は満了の枠に従う
  cases e with
  | socket src pkt env =>
    dsimp only at h
    rcases hrx : tftpSocketDeliver arch env t src pkt with f | ⟨t₂, rc₂⟩
    all_goals rw [hrx] at h; cases h
    exact tftpSocketDeliver_ok hrx
  | mcSocket src pkt env =>
    dsimp only at h
    rcases hrx : tftpRx arch env t src pkt with f | ⟨t₂, rc₂⟩
    all_goals rw [hrx] at h; cases h
    exact tftpRx_ok hrx
  | timer fail env =>
    cases h
    obtain ⟨hb, hk⟩ := @tftpTimerExpired_frame arch env t fail
    exact ⟨hb, .inl hk⟩

theorem step_error {e : Event} {f : Fault} (h : step arch (.ok t) e = .error f) :
    (f = .divideByZero ∧ (t.blksize = 0 ∨ 0 ∈ eventBlksizes arch e)) ∨
      ∃ i w, f = .outOfBounds i w := by
  dsimp only [step] at h
  split at h
  · cases h
  cases e with
  | socket src pkt env =>
    dsimp only at h
    rcases hrx : tftpSocketDeliver arch env t src pkt with f' | ⟨t₂, rc₂⟩
    all_goals rw [hrx] at h; cases h
    exact tftpSocketDeliver_error hrx
  | mcSocket src pkt env =>
    dsimp only at h
    rcases hrx : tftpRx arch env t src pkt with f' | ⟨t₂, rc₂⟩
    all_goals rw [hrx] at h; cases h
    exact tftpRx_error hrx
  | timer fail env => cases h

/-! ## 実行全体 -/

/-- 未定義動作で止まっていない状態では、bitmap の語数が `length` から計算した語数に等しい。 -/
def StateSized (arch : Arch) : Except Fault TftpRequest → Prop
  | .ok t => t.bitmap.Sized arch
  | .error _ => True

theorem step_sized : Invariant (step arch) (StateSized arch) := by
  intro s e hs
  rcases s with f | t
  · trivial
  rcases hstep : step arch (.ok t) e with f | t'
  · trivial
  · exact (step_ok hstep).1.sized hs

/-- `bitmap_resize` が確保する語数は、いつも新しい `length` から計算した語数である。 -/
theorem runTftp_sized (flags : Flags) (es : List Event) :
    StateSized arch (runTftp arch flags es) :=
  step_sized.run (show StateSized arch (.ok (TftpRequest.init flags)) from
    Bitmap.sized_empty arch) es

/-- `realloc`、`xfer_deliver`、socket を開き直す処理がどれも成功する環境。 -/
def envAllOk : Env := { allocOk := true, deliverOk := true, openOk := true }

/-- `blksize` を 1、`tsize` を 4294967294 とする OACK。 -/
def oackNumBlocksWrap : Bytes :=
  [0, 6] ++ ascii "blksize" ++ [0] ++ ascii "1" ++ [0] ++ ascii "tsize" ++ [0] ++
    ascii "4294967294" ++ [0]

/-- block 1 の DATA（1 byte）。 -/
def dataFirstBlock : Bytes := [0, 3, 0, 1, 0x41]

/-- 語数の不変条件だけでは足りない。`num_blocks = tsize / blksize + 1` が `unsigned int` で
0 に巻き戻ると、`length` が 2³² - 1 で語が一つもない bitmap ができ、次の DATA の
`bitmap_set` は配列の外に書く。 -/
theorem tftp_num_blocks_wrap_writes_outside (arch : Arch) :
    (runTftp arch tftpOpen [.socket (some 1) oackNumBlocksWrap envAllOk]).map
        (fun t => (t.bitmap.length, t.bitmap.blocks.length)) = .ok (2 ^ 32 - 1, 0) ∧
      runTftp arch tftpOpen [.socket (some 1) oackNumBlocksWrap envAllOk,
        .socket (some 1) dataFirstBlock envAllOk] = .error (.outOfBounds 0 0) := by
  cases arch <;> decide

/-- 0 で割っていない状態。止まっていなければ `blksize` は 0 でない。 -/
def NoDivideByZero : Except Fault TftpRequest → Prop
  | .ok t => t.blksize ≠ 0
  | .error f => f ≠ .divideByZero

theorem step_noDivideByZero {s : Except Fault TftpRequest} {e : Event}
    (he : 0 ∉ eventBlksizes arch e) (hs : NoDivideByZero s) : NoDivideByZero (step arch s e) := by
  rcases s with f | t
  · exact hs
  rcases hstep : step arch (.ok t) e with f | t'
  · rcases step_error hstep with ⟨rfl, hz | hz⟩ | ⟨i, w, rfl⟩
    · exact absurd hz hs
    · exact absurd hz he
    · simp [NoDivideByZero]
  · -- `blksize` は元の値か、事象が運んできた 0 でない値
    rcases (step_ok hstep).2 with hk | hk
    · show t'.blksize ≠ 0
      rw [hk]
      exact hs
    · intro h0
      exact he (h0 ▸ hk)

/-- OACK の `blksize` がどれも 0 でなければ、`tftp_presize` は 0 で割らない。 -/
theorem runTftp_ne_divideByZero (flags : Flags) (es : List Event)
    (hes : ∀ e ∈ es, 0 ∉ eventBlksizes arch e) :
    runTftp arch flags es ≠ .error .divideByZero := by
  have h := @run_of_step _ _ (step arch) NoDivideByZero (fun e => 0 ∉ eventBlksizes arch e)
    (fun _ _ he hs => step_noDivideByZero he hs) (.ok (TftpRequest.init flags))
    (show (512 : Nat) ≠ 0 by decide) es hes
  intro hrun
  unfold runTftp at hrun
  rw [hrun] at h
  exact h rfl

/-- `blksize` を 0、`tsize` を 1 とする OACK。 -/
def oackBlksizeZero : Bytes :=
  [0, 6] ++ ascii "blksize" ++ [0] ++ ascii "0" ++ [0] ++ ascii "tsize" ++ [0] ++ ascii "1" ++ [0]

theorem tftp_blksize_zero_divides_by_zero (arch : Arch) :
    runTftp arch tftpOpen [.socket (some 1) oackBlksizeZero envAllOk] = .error .divideByZero := by
  cases arch <;> decide

end FlexBoot.Tftp
