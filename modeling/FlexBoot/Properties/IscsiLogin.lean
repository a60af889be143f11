import FlexBoot.Net.Tcp.Iscsi.Engine
import FlexBoot.Properties.Base64

/-!
# iSCSI の target の認証

target の認証（reverse CHAP）が要る session は、`ISCSI_STATUS_AUTH_REVERSE_OK` が立って
いなければ full feature phase に入らない。どんな事象の列の後でもこれは保たれる
（`runIscsi_full_feature_authenticated`）。

ところが `ISCSI_STATUS_AUTH_REVERSE_OK` を立てる `CHAP_R` の検査は、session に残っている
`chap_challenge` だけを見る（`iscsiHandleChapRValue_ok_iff`）。challenge は接続を閉じても
残るので、redirect の後の新しい接続では、initiator が何も送らないうちに、前の接続の
応答を繰り返すだけで full feature phase に入れる（`iscsi_reverse_chap_replayed_after_redirect`）。
-/

namespace FlexBoot.Iscsi

open Infra FlexBoot FlexBoot.Chap FlexBoot.Md5

/-! ## 接続をまたいで残るもの -/

@[simp] theorem iscsiCloseConnection_chapChallenge (s : IscsiSession) :
    (iscsiCloseConnection s).chapChallenge = s.chapChallenge := rfl

@[simp] theorem iscsiCloseConnection_targetPassword (s : IscsiSession) :
    (iscsiCloseConnection s).targetPassword = s.targetPassword := rfl

@[simp] theorem iscsiCloseConnection_targetUsername (s : IscsiSession) :
    (iscsiCloseConnection s).targetUsername = s.targetUsername := rfl

@[simp] theorem iscsiOpenConnection_chapChallenge (env : Env) (s : IscsiSession) :
    (iscsiOpenConnection env s).1.chapChallenge = s.chapChallenge := by
  unfold iscsiOpenConnection
  split <;> rfl

@[simp] theorem iscsiOpenConnection_targetPassword (env : Env) (s : IscsiSession) :
    (iscsiOpenConnection env s).1.targetPassword = s.targetPassword := by
  unfold iscsiOpenConnection
  split <;> rfl

/-! ## `CHAP_R` の検査 -/

/-- `iscsi_handle_chap_r_value` が digest に通す列。identifier、target の password、
challenge の残りの 16 byte である。 -/
def chapRInput (s : IscsiSession) : Bytes :=
  UInt8.ofNat (s.chapChallenge.getD 0 0).toNat :: (s.targetPassword.map cstr).getD [] ++
    s.chapChallenge.drop 1

theorem iscsiLargeBinaryDecode_error_ne_ok {value : Bytes} {rc : Rc}
    (h : iscsiLargeBinaryDecode value = .error rc) : rc ≠ .ok := by
  have hdecoded : ∀ r, decodeResult r = .error rc → rc ≠ .ok := by
    intro r hr
    cases r with
    | some raw => cases hr
    | none => cases hr; decide
  have hbase64 : ∀ r, base64Result r = .error rc → rc ≠ .ok := by
    intro r hr
    match r, hr with
    | .ok (some (_, _)), hr => cases hr
    | .ok none, hr => cases hr; decide
    | .error _, hr => cases hr; decide
  unfold iscsiLargeBinaryDecode at h
  split at h
  · cases h; decide
  · split at h
    all_goals first
      | exact hdecoded _ h
      | exact hbase64 _ h
      | (cases h; decide)

/-- `iscsi_large_binary_decode` の `buf` は `strlen ( value )` byte あり、`0b` の後の base64 の文字列は
その中にしか書かない。`base64Result` の止まる枝は起きない。 -/
theorem base64Decode_large_binary_fits {encoded : Bytes} (h0 : encoded.headD 0 ≠ 0) (h1 : encoded.getD 1 0 ≠ 0) :
    ∃ r, base64Decode (encoded.drop 2) (List.replicate (cstr encoded).length 0) = .ok r := by
  apply base64Decode_ok_of_length
  rw [List.length_replicate]
  match encoded, h0, h1 with
  | [], h0, _ => exact absurd rfl h0
  | [_], _, h1 => exact absurd rfl h1
  | c0 :: c1 :: rest, h0, h1 =>
    -- `0` と `b` は NUL でないので、`strlen ( value )` は base64 の文字列の `strlen` より 2 長い
    rw [List.headD_cons] at h0
    rw [List.getD_cons_succ, List.getD_cons_zero] at h1
    rw [List.drop_succ_cons, List.drop_succ_cons, List.drop_zero, cstr_cons, if_neg h0, cstr_cons, if_neg h1,
      List.length_cons, List.length_cons]

/-- 確かめに使う応答は、session に残っている challenge から作った列の digest である。 -/
theorem iscsiChapRVerifier_eq (s : IscsiSession) {n : Nat} {chap : ChapResponse}
    (h : chapInit n true = some chap) :
    iscsiChapRVerifier s chap = ⟨some (chapRInput s), md5 (chapRInput s), n⟩ := by
  simp only [chapInit, if_true, Option.some.injEq] at h
  subst h
  unfold iscsiChapRVerifier chapRInput
  cases s.targetPassword <;> rfl

/-- 比べる部分は、復号した値が `iscsi->chap` の応答と一致するときだけ受け付ける。 -/
theorem iscsiChapRCompare_ok_iff (s : IscsiSession) (value : Bytes)
    (hlen : s.chap.response.length = s.chap.responseLen) :
    (iscsiChapRCompare s value).2 = .ok ↔ iscsiLargeBinaryDecode value = .ok s.chap.response := by
  unfold iscsiChapRCompare
  rcases hd : iscsiLargeBinaryDecode value with rc | buf
  · simp only [reduceCtorEq, iff_false]
    exact iscsiLargeBinaryDecode_error_ne_ok hd
  · simp only [Except.ok.injEq]
    by_cases hb : buf.length = s.chap.responseLen
    · rw [if_neg (not_not.mpr hb)]
      have hcmp := memcmp_eq_zero_iff (n := buf.length) rfl (hlen.trans hb.symm)
      by_cases he : buf = s.chap.response
      · rw [if_neg (not_not.mpr (hcmp.mpr he))]
        simp [he]
      · rw [if_pos (fun h0 => he (hcmp.mp h0))]
        simp [he]
    · rw [if_pos hb]
      simp only [reduceCtorEq, false_iff]
      rintro rfl
      exact hb hlen

/-- **`CHAP_R` は、session に残っている challenge への応答と一致するときだけ受け付ける。**
その challenge をこの接続で作って送ったかどうかは見ない。 -/
theorem iscsiHandleChapRValue_ok_iff (env : Env) (s : IscsiSession) (value : Bytes)
    (h : env.allocOk = true) :
    (iscsiHandleChapRValue env s value).2 = .ok ↔
      iscsiLargeBinaryDecode value = .ok (md5 (chapRInput s)) := by
  unfold iscsiHandleChapRValue
  rw [h]
  have hinit : chapInit md5Digestsize true =
      some ⟨some [], List.replicate md5Digestsize 0, md5Digestsize⟩ := rfl
  rw [hinit]
  dsimp only
  rw [iscsiChapRCompare_ok_iff _ _ (by rw [iscsiChapRVerifier_eq _ hinit]; exact length_md5 _),
    iscsiChapRVerifier_eq _ hinit]
  rfl

/-! ## full feature phase の門

`AuthMono s t` は、`s` から `t` へ phase、target の認証が要ること、target の名前が変わらず、
`AUTH_REVERSE_OK` が下りないこと。login の文字列の処理はどれもこの形である。
-/

/-- 認証に関わる状態が変わらないか、`AUTH_REVERSE_OK` が立つだけであること。 -/
structure AuthMono (s t : IscsiSession) : Prop where
  phase : t.status.phase = s.status.phase
  required : t.status.authReverseRequired = s.status.authReverseRequired
  username : t.targetUsername = s.targetUsername
  ok : s.status.authReverseOk = true → t.status.authReverseOk = true

theorem AuthMono.refl (s : IscsiSession) : AuthMono s s := ⟨rfl, rfl, rfl, id⟩

theorem AuthMono.trans {s t u : IscsiSession} (h₁ : AuthMono s t) (h₂ : AuthMono t u) :
    AuthMono s u :=
  ⟨h₂.phase.trans h₁.phase, h₂.required.trans h₁.required, h₂.username.trans h₁.username,
    fun h => h₂.ok (h₁.ok h)⟩

/-- status と target の名前を変えない処理。 -/
theorem AuthMono.of_eq {s t : IscsiSession} (hs : t.status = s.status)
    (hu : t.targetUsername = s.targetUsername) : AuthMono s t :=
  ⟨by rw [hs], by rw [hs], hu, fun h => by rw [hs]; exact h⟩

/-- 認証の門。target の名前は設定した `u` のままで、target の認証が要るかはそれで決まり、
要るなら full feature phase では `AUTH_REVERSE_OK` が立っている。 -/
structure AuthCore (u : Option Bytes) (s : IscsiSession) : Prop where
  username : s.targetUsername = u
  required : s.status.authReverseRequired = u.isSome
  gate : s.status.phase = fullFeaturePhase → s.status.authReverseRequired = true →
    s.status.authReverseOk = true

theorem AuthCore.mono {u : Option Bytes} {s t : IscsiSession} (h : AuthCore u s)
    (hm : AuthMono s t) : AuthCore u t :=
  ⟨hm.username.trans h.username, hm.required.trans h.required,
    fun hp hr => hm.ok (h.gate (hm.phase ▸ hp) (hm.required ▸ hr))⟩

section Login

variable (arch : Arch) (env : Env)

theorem iscsiHandleTargetaddressValue_mono (s : IscsiSession) (value : Bytes) :
    AuthMono s (iscsiHandleTargetaddressValue arch env s value).1 := by
  unfold iscsiHandleTargetaddressValue
  split
  · exact AuthMono.refl s
  · split <;> exact AuthMono.of_eq rfl rfl

theorem iscsiHandleChapIValue_mono (s : IscsiSession) (value : Bytes) :
    AuthMono s (iscsiHandleChapIValue arch env s value).1 := by
  unfold iscsiHandleChapIValue
  dsimp only
  split
  · exact AuthMono.refl s
  · split <;> exact AuthMono.of_eq rfl rfl

theorem iscsiHandleChapCValue_mono (s : IscsiSession) (value : Bytes) :
    AuthMono s (iscsiHandleChapCValue env s value).1 := by
  unfold iscsiHandleChapCValue
  split
  · exact AuthMono.refl s
  · dsimp only
    split
    · exact ⟨rfl, rfl, rfl, id⟩
    · exact ⟨rfl, rfl, rfl, id⟩

theorem iscsiChapRCompare_mono (s : IscsiSession) (value : Bytes) :
    AuthMono s (iscsiChapRCompare s value).1 := by
  unfold iscsiChapRCompare
  split
  · exact AuthMono.refl s
  · split
    · exact AuthMono.refl s
    · split
      · exact AuthMono.refl s
      · exact ⟨rfl, rfl, rfl, fun _ => rfl⟩

theorem iscsiHandleChapRValue_mono (s : IscsiSession) (value : Bytes) :
    AuthMono s (iscsiHandleChapRValue env s value).1 := by
  unfold iscsiHandleChapRValue
  split
  · exact AuthMono.of_eq rfl rfl
  · dsimp only
    apply AuthMono.trans _ (iscsiChapRCompare_mono _ value)
    exact AuthMono.of_eq rfl rfl

theorem iscsiHandleAuthmethodValue_mono (s : IscsiSession) (value : Bytes) :
    AuthMono s (iscsiHandleAuthmethodValue s value).1 := by
  unfold iscsiHandleAuthmethodValue
  split
  · exact ⟨rfl, rfl, rfl, id⟩
  · exact AuthMono.refl s

theorem iscsiHandleChapAValue_mono (s : IscsiSession) (value : Bytes) :
    AuthMono s (iscsiHandleChapAValue s value).1 := by
  unfold iscsiHandleChapAValue
  split <;> exact AuthMono.refl s

theorem iscsiHandleChapNValue_mono (s : IscsiSession) (value : Bytes) :
    AuthMono s (iscsiHandleChapNValue s value).1 := by
  unfold iscsiHandleChapNValue
  split
  · split <;> exact AuthMono.refl s
  · exact AuthMono.refl s

/-- 表のどの entry の処理も `AuthMono` である。 -/
theorem StringType.handle_mono (t : StringType) (s : IscsiSession) (value : Bytes) :
    AuthMono s (t.handle arch env s value).1 := by
  cases t with
  | targetAddress => exact iscsiHandleTargetaddressValue_mono arch env s value
  | authMethod => exact iscsiHandleAuthmethodValue_mono s value
  | chapA => exact iscsiHandleChapAValue_mono s value
  | chapI => exact iscsiHandleChapIValue_mono arch env s value
  | chapC => exact iscsiHandleChapCValue_mono env s value
  | chapN => exact iscsiHandleChapNValue_mono s value
  | chapR => exact iscsiHandleChapRValue_mono env s value

theorem iscsiHandleString_mono (s : IscsiSession) (string : Bytes) :
    AuthMono s (iscsiHandleString arch env s string).1 := by
  unfold iscsiHandleString
  split
  · exact AuthMono.refl s
  · split
    · exact AuthMono.refl s
    · split
      · exact AuthMono.refl s
      · next t _ => exact StringType.handle_mono arch env t s _

/-- 文字列の列の処理。loop の回数で帰納法を使う。 -/
theorem iscsiHandleStringsLoop_mono :
    ∀ (fuel : Nat) (s : IscsiSession) (strings : Bytes),
      AuthMono s (iscsiHandleStringsLoop arch env fuel s strings).1
  | 0, s, _ => AuthMono.refl s
  | fuel + 1, s, strings => by
    unfold iscsiHandleStringsLoop
    dsimp only
    split
    · exact AuthMono.refl s
    · have h1 := iscsiHandleString_mono arch env s
        (strings.take (strnlen strings strings.length + 1))
      split
      · exact h1.trans (iscsiHandleStringsLoop_mono fuel _ _)
      · exact h1

end Login

/-! ## login response の後の門 -/

theorem iscsiRxBufferedData_mono {allocOk : Bool} {s t : IscsiSession} {data : Bytes} {rc : Rc}
    (h : iscsiRxBufferedData allocOk s data = .ok (t, rc)) : AuthMono s t := by
  unfold iscsiRxBufferedData at h
  split at h
  · cases h
    exact AuthMono.refl s
  · obtain ⟨buf, -, h⟩ := bind_eq_ok.mp h
    cases h
    exact AuthMono.of_eq rfl rfl

theorem iscsiStatusToRc_ne_ok (statusClass statusDetail : Nat) :
    iscsiStatusToRc statusClass statusDetail ≠ .ok := by
  unfold iscsiStatusToRc
  split_ifs
  · split <;> decide
  · split <;> decide
  · decide

/-- 接続を開くと、target の認証が要るかは target の名前から決め直され、phase は security
negotiation に戻る。 -/
theorem iscsiOpenConnection_core {env : Env} {s t : IscsiSession}
    (h : iscsiOpenConnection env s = (t, .ok)) : AuthCore s.targetUsername t := by
  unfold iscsiOpenConnection at h
  split at h
  · cases h
  · cases h
    exact ⟨rfl, rfl, fun hp => absurd (show securityNegotiationPhase = fullFeaturePhase from hp)
      (by decide)⟩

/-- T bit による phase の移りは、target の認証に関わる値を変えない。 -/
theorem iscsiLoginTransition_keeps (s : IscsiSession) (flags : Nat) :
    (iscsiLoginTransition s flags).1.status.authReverseRequired = s.status.authReverseRequired ∧
    (iscsiLoginTransition s flags).1.status.authReverseOk = s.status.authReverseOk ∧
    (iscsiLoginTransition s flags).1.targetUsername = s.targetUsername := by
  unfold iscsiLoginTransition
  split_ifs <;> exact ⟨rfl, rfl, rfl⟩

/-- login response を処理し終えたとき、full feature phase に入るのは target の認証が
済んでいるときだけである。redirect は接続を開き直す。 -/
theorem iscsiLoginComplete_core {env : Env} {u : Option Bytes} {s t : IscsiSession}
    (hs : AuthCore u s) (h : iscsiLoginComplete env s = (t, .ok)) : AuthCore u t := by
  unfold iscsiLoginComplete at h
  dsimp only at h
  by_cases hredirect : (s.rxBhs.getD 36 0).toNat = statusRedirect
  · rw [if_pos hredirect] at h
    have ht := iscsiOpenConnection_core h
    rw [iscsiCloseConnection_targetUsername, hs.username] at ht
    exact ht
  rw [if_neg hredirect] at h
  by_cases hclass : (s.rxBhs.getD 36 0).toNat ≠ 0
  · rw [if_pos hclass] at h
    exact absurd (congrArg Prod.snd h) (iscsiStatusToRc_ne_ok _ _)
  rw [if_neg hclass] at h
  -- T bit の有無で移った後の状態 `r` に名前を付ける
  generalize hr : (if bhsFlags s.rxBhs &&& loginFlagTransition ≠ 0 then
    iscsiLoginTransition s (bhsFlags s.rxBhs) else (s, Rc.ok)) = r at h
  have hkeep : r.1.status.authReverseRequired = s.status.authReverseRequired ∧
      r.1.targetUsername = s.targetUsername := by
    subst hr
    split
    · exact ⟨(iscsiLoginTransition_keeps s _).1, (iscsiLoginTransition_keeps s _).2.2⟩
    · exact ⟨rfl, rfl⟩
  have hu : r.1.targetUsername = u := hkeep.2.trans hs.username
  have hreq : r.1.status.authReverseRequired = u.isSome := hkeep.1.trans hs.required
  by_cases hrc : r.2 ≠ .ok
  · rw [if_pos hrc] at h
    exact absurd (congrArg Prod.snd h) hrc
  rw [if_neg hrc] at h
  by_cases hphase : r.1.status.phase ≠ fullFeaturePhase
  · rw [if_pos hphase] at h
    cases h
    exact ⟨hu, hreq, fun hp => absurd hp hphase⟩
  rw [if_neg hphase] at h
  by_cases hgate : (r.1.status.authReverseRequired && !r.1.status.authReverseOk) = true
  · rw [if_pos hgate] at h
    cases h
  · rw [if_neg hgate] at h
    obtain ⟨rfl, -⟩ := Prod.mk.inj h
    have hok : r.1.status.authReverseRequired = true → r.1.status.authReverseOk = true := by
      simpa using hgate
    exact ⟨hu, hreq, fun _ hrq => hok hrq⟩

theorem iscsiRxLoginResponse_core {arch : Arch} {env : Env} {u : Option Bytes}
    {s t : IscsiSession} {data : Bytes} {remaining : Nat} (hs : AuthCore u s)
    (h : iscsiRxLoginResponse arch env s data remaining = .ok (t, .ok)) : AuthCore u t := by
  unfold iscsiRxLoginResponse at h
  rcases hbuf : iscsiRxBufferedData env.allocOk s data with f | ⟨s₁, rc⟩
  · rw [hbuf] at h; cases h
  rw [hbuf] at h
  have hs₁ := hs.mono (iscsiRxBufferedData_mono hbuf)
  dsimp only at h
  by_cases hrc : rc ≠ .ok
  · rw [if_pos hrc] at h
    cases h
    exact absurd rfl hrc
  rw [if_neg hrc] at h
  by_cases hrem : remaining ≠ 0
  · rw [if_pos hrem] at h
    cases h
    exact hs₁
  rw [if_neg hrem] at h
  -- 文字列の処理の後の状態
  generalize hr : iscsiHandleStrings arch env s₁ (s₁.rxBuffer.getD []) = r at h
  have hs₂ : AuthCore u r.1 := by
    subst hr
    exact hs₁.mono (iscsiHandleStringsLoop_mono arch env _ s₁ _)
  by_cases hstr : r.2 ≠ .ok
  · rw [if_pos hstr] at h
    cases h
    exact absurd rfl hstr
  rw [if_neg hstr] at h
  exact iscsiLoginComplete_core (by exact hs₂.mono (AuthMono.of_eq rfl rfl)) (Except.ok.inj h)

/-! ## 受信の機械

login response 以外の処理は status と target の名前を変えない。一回の `iscsi_socket_deliver` は
部分ごとの処理の繰り返しで、状態符号 0 で終わった処理の後では門が保たれている。
-/

section Engine

variable {arch : Arch} {env : Env} {u : Option Bytes}

theorem iscsiRxScsiResponse_mono {s t : IscsiSession} {data : Bytes} {remaining : Nat} {rc : Rc}
    (h : iscsiRxScsiResponse arch env s data remaining = .ok (t, rc)) : AuthMono s t := by
  unfold iscsiRxScsiResponse at h
  rcases hbuf : iscsiRxBufferedData env.allocOk s data with f | ⟨s₁, rc₁⟩
  · rw [hbuf] at h; cases h
  rw [hbuf] at h
  have m := iscsiRxBufferedData_mono hbuf
  dsimp only at h
  by_cases hrc : rc₁ ≠ .ok
  · rw [if_pos hrc] at h
    cases h
    exact m
  rw [if_neg hrc] at h
  by_cases hrem : remaining ≠ 0
  · rw [if_pos hrem] at h
    cases h
    exact m
  rw [if_neg hrem] at h
  -- sense data を読むかどうかで分かれ、その後は buffer を放して応答を返すだけである
  split at h
  · obtain ⟨sense, -, h⟩ := bind_eq_ok.mp h
    split at h <;> cases h <;> exact m.trans (AuthMono.of_eq rfl rfl)
  · split at h <;> cases h <;> exact m.trans (AuthMono.of_eq rfl rfl)

theorem iscsiRxDataIn_mono {s t : IscsiSession} {data : Bytes} {remaining : Nat} {rc : Rc}
    (h : iscsiRxDataIn arch s data remaining = .ok (t, rc)) : AuthMono s t := by
  unfold iscsiRxDataIn at h
  split at h
  · cases h
  · obtain ⟨buf, -, h⟩ := bind_eq_ok.mp h
    dsimp only at h
    split_ifs at h <;> cases h <;> exact AuthMono.of_eq rfl rfl

theorem iscsiStartDataOut_mono {s t : IscsiSession} {datasn : Nat}
    (h : iscsiStartDataOut arch s datasn = .ok t) : AuthMono s t := by
  unfold iscsiStartDataOut at h
  dsimp only at h
  split at h
  · cases h
  · cases h
    exact AuthMono.of_eq rfl rfl

theorem iscsiRxR2t_mono {s t : IscsiSession} {rc : Rc} (h : iscsiRxR2t arch s = .ok (t, rc)) :
    AuthMono s t := by
  unfold iscsiRxR2t at h
  obtain ⟨s₁, h₁, h⟩ := bind_eq_ok.mp h
  cases h
  refine AuthMono.trans ?_ (iscsiStartDataOut_mono h₁)
  exact AuthMono.of_eq rfl rfl

theorem iscsiRxNopIn_fst (s : IscsiSession) : (iscsiRxNopIn s).1 = s := by
  unfold iscsiRxNopIn
  split <;> rfl

theorem iscsiRxBhs_mono {s t : IscsiSession} {data : Bytes} {rc : Rc}
    (h : iscsiRxBhs s data = .ok (t, rc)) : AuthMono s t := by
  unfold iscsiRxBhs at h
  obtain ⟨bhs, -, h⟩ := bind_eq_ok.mp h
  cases h
  exact AuthMono.of_eq rfl rfl

/-- data の処理の後の門。opcode で分かれ、login response だけが phase を動かす。 -/
theorem iscsiRxData_core {s t : IscsiSession} {data : Bytes} {remaining : Nat} (hs : AuthCore u s)
    (h : iscsiRxData arch env s data remaining = .ok (t, .ok)) : AuthCore u t := by
  unfold iscsiRxData at h
  dsimp only at h
  split_ifs at h
  · exact iscsiRxLoginResponse_core (by exact hs.mono (AuthMono.of_eq rfl rfl)) h
  · refine hs.mono (AuthMono.trans ?_ (iscsiRxScsiResponse_mono h))
    exact AuthMono.of_eq rfl rfl
  · refine hs.mono (AuthMono.trans ?_ (iscsiRxDataIn_mono h))
    exact AuthMono.of_eq rfl rfl
  · refine hs.mono (AuthMono.trans ?_ (iscsiRxR2t_mono h))
    exact AuthMono.of_eq rfl rfl
  · have ht := congrArg Prod.fst (Except.ok.inj h)
    rw [iscsiRxNopIn_fst] at ht
    subst ht
    exact hs.mono (AuthMono.of_eq rfl rfl)
  · cases h
    exact hs.mono (AuthMono.of_eq rfl rfl)
  · cases h

theorem iscsiRxFragment_core {s t : IscsiSession} {data : Bytes} {remaining : Nat}
    (hs : AuthCore u s) (h : iscsiRxFragment arch env s data remaining = .ok (t, .ok)) :
    AuthCore u t := by
  unfold iscsiRxFragment at h
  split at h
  · exact hs.mono (iscsiRxBhs_mono h)
  · cases h; exact hs
  · cases h; exact hs
  · exact iscsiRxData_core hs h

/-- 受信の loop。loop の回数で帰納法を使い、部分を一つ処理するごとに門を引き継ぐ。 -/
theorem iscsiSocketDeliverLoop_core :
    ∀ (fuel : Nat) (s t : IscsiSession) (iob : Bytes), AuthCore u s →
      iscsiSocketDeliverLoop arch env fuel s iob = .ok (t, .ok) → AuthCore u t
  | 0, s, t, _, hs, h => by
    cases h
    exact hs
  | fuel + 1, s, t, iob, hs, h => by
    unfold iscsiSocketDeliverLoop at h
    dsimp only at h
    split at h
    · cases h
    · rename_i s₁ rc hfrag
      split_ifs at h with hrc hoff
      · cases h
        exact absurd rfl hrc
      · obtain rfl : rc = .ok := not_not.mp hrc
        have hs₁ := iscsiRxFragment_core (by exact hs.mono (AuthMono.of_eq rfl rfl)) hfrag
        cases h
        exact hs₁.mono (AuthMono.of_eq rfl rfl)
      · obtain rfl : rc = .ok := not_not.mp hrc
        have hs₁ := iscsiRxFragment_core (by exact hs.mono (AuthMono.of_eq rfl rfl)) hfrag
        refine iscsiSocketDeliverLoop_core fuel _ t _ ?_ h
        exact hs₁.mono (AuthMono.of_eq rfl rfl)

theorem iscsiSocketDeliver_core {s t : IscsiSession} {iob : Bytes} (hs : AuthCore u s)
    (h : iscsiSocketDeliver arch env s iob = .ok t) (hlive : t.shutdown = none) : AuthCore u t := by
  unfold iscsiSocketDeliver at h
  split at h
  · cases h
  · rename_i s₁ rc hloop
    by_cases hrc : rc = .ok
    · subst hrc
      cases h
      exact iscsiSocketDeliverLoop_core _ s _ iob hs hloop
    · rw [if_neg hrc] at h
      cases h
      cases hlive

/-! ## 送信の機械

送信の処理は status を変えないか、login request を送り終えて文字列の flag を下ろすだけである。
処理が 0 でない状態符号を返せば `iscsi_close` で閉じる。
-/

theorem iscsiTxDataOut_mono {s t : IscsiSession} {rc : Rc}
    (h : iscsiTxDataOut env s = .ok (t, rc)) : AuthMono s t := by
  unfold iscsiTxDataOut at h
  split at h
  · cases h
    exact AuthMono.refl s
  · split at h
    · cases h
    · obtain ⟨data, -, h⟩ := bind_eq_ok.mp h
      cases h
      exact AuthMono.of_eq rfl rfl

theorem iscsiTxLoginRequest_mono (s : IscsiSession) :
    AuthMono s (iscsiTxLoginRequest env s).1 := by
  unfold iscsiTxLoginRequest
  split
  · exact AuthMono.refl s
  · exact AuthMono.of_eq rfl rfl

theorem iscsiTxFragment_mono {s t : IscsiSession} {rc : Rc}
    (h : iscsiTxFragment env s = .ok (t, rc)) : AuthMono s t := by
  unfold iscsiTxFragment iscsiTxData at h
  split at h
  · dsimp only at h
    split_ifs at h
    · exact iscsiTxDataOut_mono h
    · have ht := congrArg Prod.fst (Except.ok.inj h)
      subst ht
      exact iscsiTxLoginRequest_mono s
    · cases h
      exact AuthMono.refl s
  · cases h
    exact AuthMono.refl s

/-- `iscsi_login_request_done` は文字列の flag を下ろし、CHAP の応答を捨てる。 -/
theorem iscsiLoginRequestDone_mono (s : IscsiSession) : AuthMono s (iscsiLoginRequestDone s) :=
  ⟨rfl, rfl, rfl, id⟩

theorem iscsiTxDone_mono {s t : IscsiSession} (h : iscsiTxDone arch s = .ok t) :
    AuthMono s t := by
  unfold iscsiTxDone at h
  dsimp only at h
  split_ifs at h
  · rcases hd : iscsiDataOutDone arch s with f | s₁
    · rw [hd] at h; cases h
    rw [hd] at h
    cases h
    have m : AuthMono s s₁ := by
      unfold iscsiDataOutDone at hd
      split at hd
      · exact iscsiStartDataOut_mono hd
      · cases hd
        exact AuthMono.refl s
    exact m.trans (iscsiLoginRequestDone_mono s₁)
  · cases h
    exact iscsiLoginRequestDone_mono s
  · cases h
    exact AuthMono.refl s

/-- 送信の loop。loop の回数で帰納法を使う。閉じずに終われば門が保たれている。 -/
theorem iscsiTxStepLoop_core :
    ∀ (fuel : Nat) (s t : IscsiSession), AuthCore u s →
      iscsiTxStepLoop arch env fuel s = .ok t → t.shutdown = none → AuthCore u t
  | 0, s, t, hs, h, _ => by
    cases h
    exact hs
  | fuel + 1, s, t, hs, h, hlive => by
    unfold iscsiTxStepLoop at h
    dsimp only at h
    by_cases hidle : s.txState = .idle
    · rw [if_pos hidle] at h
      cases h; exact hs
    rw [if_neg hidle] at h
    by_cases hwin : iscsiTxStateLen s ≠ 0 ∧ !env.window
    · rw [if_pos hwin] at h
      cases h; exact hs
    rw [if_neg hwin] at h
    split at h
    · cases h
    · rename_i s₁ rc hfrag
      have hs₁ := hs.mono (iscsiTxFragment_mono hfrag)
      split_ifs at h
      · cases h
        cases hlive
      · obtain ⟨s₂, hdone, h⟩ := bind_eq_ok.mp h
        refine iscsiTxStepLoop_core fuel s₂ t ?_ h hlive
        refine hs₁.mono (AuthMono.trans ?_ (iscsiTxDone_mono hdone))
        exact AuthMono.of_eq rfl rfl
      · refine iscsiTxStepLoop_core fuel _ t ?_ h hlive
        exact hs₁.mono (AuthMono.of_eq rfl rfl)

end Engine

/-! ## 実行全体 -/

theorem iscsiScsiCommand_mono (env : Env) (s : IscsiSession) (cmd : ScsiCmd) :
    AuthMono s (iscsiScsiCommand env s cmd).1 := by
  unfold iscsiScsiCommand
  split_ifs
  · exact AuthMono.refl s
  · exact AuthMono.refl s
  · exact AuthMono.of_eq rfl rfl

/-- 閉じていない session の門。 -/
def StateAuth (u : Option Bytes) : Except Fault IscsiSession → Prop
  | .ok s => s.shutdown = none → AuthCore u s
  | .error _ => True

/-- 一つの事象は門を保つ。 -/
theorem step_auth (arch : Arch) (u : Option Bytes) : Invariant (step arch) (StateAuth u) := by
  intro r e hr
  cases r with
  | error f => trivial
  | ok s =>
    dsimp only [step]
    by_cases hclosed : s.shutdown.isSome
    · rw [if_pos hclosed]
      exact hr
    rw [if_neg hclosed]
    have hs : AuthCore u s := hr (Option.not_isSome_iff_eq_none.mp hclosed)
    cases e with
    | deliver iob env =>
      dsimp only
      rcases hd : iscsiSocketDeliver arch env s iob with f | t
      · trivial
      · exact iscsiSocketDeliver_core hs hd
    | txStep env =>
      dsimp only
      rcases hd : iscsiTxStep arch env s with f | t
      · trivial
      · exact iscsiTxStepLoop_core _ s t hs hd
    | scsiCommand cmd env => exact fun _ => hs.mono (iscsiScsiCommand_mono env s cmd)
    | socketClose rc => exact fun hlive => by cases hlive
    | commandClose rc =>
      dsimp only
      split
      · exact fun hlive => by cases hlive
      · exact hr

/-- `iscsi_open` が返す session は門を満たす。 -/
theorem iscsiOpen_core {env : Env} {target : RootPathTarget} {creds : Credentials}
    {s : IscsiSession} (h : iscsiOpen env target creds = .ok s) :
    AuthCore creds.targetUsername s := by
  unfold iscsiOpen at h
  split_ifs at h
  split at h
  · cases h
    exact iscsiOpenConnection_core (by assumption)
  · cases h

/-- **target の認証が要る session は、認証が済まないうちは full feature phase に入らない。**
どの事象の列の後でも、閉じていない session が full feature phase にあれば
`ISCSI_STATUS_AUTH_REVERSE_OK` が立っている。 -/
theorem runIscsi_full_feature_authenticated (arch : Arch) (env : Env) (target : RootPathTarget)
    (creds : Credentials) (es : List Event) {s t : IscsiSession}
    (hopen : iscsiOpen env target creds = .ok s) (hrun : runIscsi arch s es = .ok t)
    (hlive : t.shutdown = none) (huser : creds.targetUsername.isSome = true)
    (hffp : t.status.phase = fullFeaturePhase) : t.status.authReverseOk = true := by
  have hinit : StateAuth creds.targetUsername (.ok s) := fun _ => iscsiOpen_core hopen
  have hrun' := (step_auth arch creds.targetUsername).run hinit es
  unfold runIscsi at hrun
  rw [hrun] at hrun'
  have ht : AuthCore creds.targetUsername t := hrun' hlive
  exact ht.gate hffp (ht.required.trans huser)

/-! ## redirect の後の応答の繰り返し

一つ目の接続で target が正しく答えた `CHAP_R` を、redirect の先がそのまま送り返す。二つ目の
接続では initiator は何も送らず、challenge も作り直されないが、session は full feature phase に
入る。
-/

/-- target からの PDU。BHS には opcode、flags、data の長さと、`fields` の位置に置く値だけを
入れ、data の後を 4 byte の境まで 0 で詰める。 -/
def targetPdu (opcode flags : Nat) (fields : List (Nat × Bytes)) (data : Bytes) : Bytes :=
  let bhs := [UInt8.ofNat opcode, UInt8.ofNat flags, 0, 0, 0] ++ (toBe32 data.length).drop 1 ++
    List.replicate 40 0
  fields.foldl (fun b field => splice b field.1 field.2) bhs ++ data ++
    List.replicate ((4 - data.length % 4) % 4) 0

/-- login response。status class は BHS の 36 byte 目にある。 -/
def loginResponsePdu (flags statusClass : Nat) (data : Bytes) : Bytes :=
  targetPdu opcodeLoginResponse flags [(36, [UInt8.ofNat statusClass])] data

/-- NUL で終わる文字列を並べた data。 -/
def textData (strings : List Bytes) : Bytes := (strings.map (· ++ [0])).flatten

/-- 一つ目の接続の initiator と target。target の認証も設定してある。 -/
def replayCreds : Credentials :=
  { initiatorIqn := ascii "iqn.i", initiatorUsername := some (ascii "iu"),
    initiatorPassword := some (ascii "ipw"), targetUsername := some (ascii "tu"),
    targetPassword := some (ascii "tpw") }

/-- `10.0.0.1` の target。 -/
def exampleTarget : RootPathTarget :=
  { targetAddress := ascii "10.0.0.1", targetPort := iscsiPort, lun := [0, 0, 0, 0],
    targetIqn := ascii "iqn.t" }

/-- 下の層がどれも成功し、`random()` は 0, 1, ..., 16 を返す。 -/
def okEnv : Env :=
  { allocOk := true, openOk := true, window := true, random := (List.range 17).map UInt8.ofNat }

/-- 一つ目の接続で initiator が送る challenge と、target の正しい応答。 -/
def replayResponse : Bytes :=
  let challenge := (List.range 17).map UInt8.ofNat
  md5 (challenge.headD 0 :: ascii "tpw" ++ challenge.drop 1)

/-- target の `CHAP_N` と `CHAP_R`。 -/
def replayChapR : Bytes := textData [ascii "CHAP_N=tu", ascii "CHAP_R=0x" ++ base16Encode replayResponse]

/-- 一つ目の接続の security negotiation を target が正しく進め、`CHAP_R` を返して operational
negotiation に移る。そこで `10.0.0.66` への redirect が来る。二つ目の接続では、initiator が
login request を送る前に、一つ目と同じ `CHAP_R` と full feature phase への移りが来る。 -/
def replayEvents : List Event :=
  [.txStep okEnv,
   .deliver (loginResponsePdu 0 0 (textData [ascii "AuthMethod=CHAP"])) okEnv,
   .txStep okEnv,
   .deliver (loginResponsePdu 0 0 (textData [ascii "CHAP_A=5", ascii "CHAP_I=1",
      ascii "CHAP_C=0x0102030405060708"])) okEnv,
   .txStep okEnv,
   .deliver (loginResponsePdu (loginFlagTransition ||| loginNsgOperationalNegotiation) 0
      replayChapR) okEnv,
   .txStep okEnv,
   .deliver (loginResponsePdu 0 statusRedirect
      (textData [ascii "TargetAddress=10.0.0.66:3260"])) okEnv,
   .deliver (loginResponsePdu (loginFlagTransition ||| loginNsgFullFeaturePhase) 0
      replayChapR) okEnv]

/-- 二つ目の接続を開いた直後の記録が full feature phase への移りであり、その間に initiator は
何も送っていない。`AUTH_REVERSE_OK` は繰り返された `CHAP_R` で立っている。 -/
theorem iscsi_reverse_chap_replayed_after_redirect :
    ∃ s, iscsiOpen okEnv exampleTarget replayCreds = .ok s ∧
      (runIscsi .x86_64 s replayEvents).map
          (fun t => (t.log.reverse.take 2, t.status.phase, t.status.authReverseOk, t.shutdown)) =
        .ok ([.fullFeature, .connect (ascii "10.0.0.66") iscsiPort], fullFeaturePhase, true, none) :=
  ⟨_, rfl, by decide +kernel⟩

end FlexBoot.Iscsi
