import FlexBoot.Properties.IscsiLogin

/-!
# target の PDU が指す範囲

data の処理が書く先と読む先は target の PDU の値で決まり、`assert` でしか調べられない。

* data-in は `offset + rx_offset` から command の data-in の buffer に書く。止まらないのは
  command があり、書く範囲がその buffer に収まるときだけである（`iscsiRxDataIn_ok_iff`）。
* data-out は R2T の offset と 512 byte ごとの位置から data-out の buffer を読む
  （`iscsiTxDataOut_ok_iff`）。
* SCSI response の sense は、data の長さが 2 以上なら受け取った byte の中で読む
  （`iscsiSenseLen_ok`）。長さ 1 では `data_len - 2` が巻き戻り、buffer の外を読む
  （`iscsiSenseLen_one`）。

どの処理も、範囲を外れる PDU と command のないときの PDU を断らない
（`iscsi_target_pdus_escape_buffers`）。
-/

namespace FlexBoot.Iscsi

open Infra FlexBoot

section Bounds

variable (arch : Arch)

/-! ## data-in と data-out -/

/-- data-in が止まらないのは、command があって、書く範囲がその data-in の buffer に収まる
ときだけである。範囲は PDU の buffer offset と、その PDU の中で受け取った長さで決まる。 -/
theorem iscsiRxDataIn_ok_iff (s : IscsiSession) (data : Bytes) (remaining : Nat) :
    (∃ r, iscsiRxDataIn arch s data remaining = .ok r) ↔
      ∃ cmd, s.command = some cmd ∧
        (data = [] ∨
          (be32 s.rxBhs 40 + s.rxOffset) % 2 ^ arch.longBits + data.length ≤ cmd.dataIn.length) := by
  unfold iscsiRxDataIn
  cases hc : s.command with
  | none =>
    constructor
    · rintro ⟨r, hr⟩
      cases hr
    · rintro ⟨cmd, h, -⟩
      cases h
  | some cmd =>
    simp only [Option.some.injEq, exists_eq_left']
    constructor
    · rintro ⟨r, hr⟩
      obtain ⟨buf, hbuf, -⟩ := bind_eq_ok.mp hr
      exact wr_isOk_iff.mp ⟨buf, hbuf⟩
    · intro h
      obtain ⟨buf, hbuf⟩ := wr_isOk_iff.mpr h
      -- 書いた後は、残りと status の flag で返す値が分かれるだけである
      rw [hbuf, ok_bind]
      split_ifs <;> exact ⟨_, rfl⟩

/-- data-out が止まらないのは、iob を確保できないか、command があって読む範囲がその
data-out の buffer に収まるときだけである。 -/
theorem iscsiTxDataOut_ok_iff (env : Env) (s : IscsiSession) :
    (∃ r, iscsiTxDataOut env s = .ok r) ↔
      env.allocOk = false ∨
        ∃ cmd, s.command = some cmd ∧
          (s.txBhs.dataLen = 0 ∨ s.txBhs.offset + s.txBhs.dataLen ≤ cmd.dataOut.length) := by
  unfold iscsiTxDataOut
  cases ha : env.allocOk with
  | false => simp
  | true =>
    simp only [Bool.not_true, Bool.false_eq_true, if_false, Bool.true_eq_false, false_or]
    cases hc : s.command with
    | none =>
      constructor
      · rintro ⟨r, hr⟩
        cases hr
      · rintro ⟨cmd, h, -⟩
        cases h
    | some cmd =>
      simp only [Option.some.injEq, exists_eq_left']
      constructor
      · rintro ⟨r, hr⟩
        obtain ⟨data, hdata, -⟩ := bind_eq_ok.mp hr
        exact rd_isOk_iff.mp ⟨data, hdata⟩
      · intro h
        obtain ⟨data, hdata⟩ := rd_isOk_iff.mpr h
        rw [hdata, ok_bind]
        exact ⟨_, rfl⟩

/-! ## SCSI response の sense -/

/-- data の長さが 2 以上なら、`scsi_parse_sense ( rx_buffer + 2, data_len - 2 )` は受け取った
`data_len` byte の中だけを読む。 -/
theorem iscsiSenseLen_ok (buf : Bytes) (h2 : 2 ≤ buf.length) (h24 : buf.length < 2 ^ 24) :
    ∃ sense, Scsi.scsiParseSense buf 2
      ((buf.length + 2 ^ arch.longBits - 2) % 2 ^ arch.longBits) = .ok sense := by
  have hw : 2 ^ 24 ≤ 2 ^ arch.longBits :=
    Nat.pow_le_pow_right (by decide) (Nat.le_trans (by decide) (Arch.longBits_ge arch))
  have hlen : (buf.length + 2 ^ arch.longBits - 2) % 2 ^ arch.longBits = buf.length - 2 := by
    rw [show buf.length + 2 ^ arch.longBits - 2 = buf.length - 2 + 2 ^ arch.longBits by omega,
      Nat.add_mod_right, Nat.mod_eq_of_lt (by omega)]
  rw [hlen]
  exact Scsi.scsiParseSense_ok (by omega)

/-- data の長さが 1 なら `data_len - 2` は `size_t` で巻き戻り、sense の 4 byte を受け取った
1 byte の buffer の外から読む。 -/
theorem iscsiSenseLen_one (buf : Bytes) (h1 : buf.length = 1) :
    Scsi.scsiParseSense buf 2 ((1 + 2 ^ arch.longBits - 2) % 2 ^ arch.longBits) =
      .error (.outOfBounds 6 1) := by
  have hw : 32 ≤ arch.longBits := Arch.longBits_ge arch
  have hpow : 2 ^ 32 ≤ 2 ^ arch.longBits := Nat.pow_le_pow_right (by decide) hw
  have hlen : (1 + 2 ^ arch.longBits - 2) % 2 ^ arch.longBits = 2 ^ arch.longBits - 1 := by
    rw [Nat.mod_eq_of_lt (show 1 + 2 ^ arch.longBits - 2 < 2 ^ arch.longBits by omega)]
    omega
  have hread : Scsi.scsiParseSense buf 2 (2 ^ arch.longBits - 1) =
      .error (.outOfBounds (2 + Scsi.snsDescLen) buf.length) :=
    Scsi.scsiParseSense_overread (by unfold Scsi.snsDescLen; omega)
      (by unfold Scsi.snsDescLen; omega)
  rw [hlen, hread, h1]
  rfl

end Bounds

/-! ## target の PDU が buffer の外に触れる例

認証のない session で full feature phase に入り、そこから一つずつ PDU を送る。
-/

/-- 認証を設定しない initiator。 -/
def noAuthCreds : Credentials :=
  { initiatorIqn := ascii "iqn.i", initiatorUsername := none, initiatorPassword := none,
    targetUsername := none, targetPassword := none }

/-- 初めの login request に、target が full feature phase への移りで答える。 -/
def fullFeatureLogin : List Event :=
  [.txStep okEnv,
   .deliver (loginResponsePdu (loginFlagTransition ||| loginNsgFullFeaturePhase) 0 []) okEnv]

/-- command を出し、その PDU を送る。 -/
def issueCommand (cmd : ScsiCmd) : List Event := [.scsiCommand cmd okEnv, .txStep okEnv]

/-- 512 byte を読む command と、512 byte を書く command。 -/
def readCmd : ScsiCmd := { dataIn := List.replicate 512 0, dataOut := [] }
def writeCmd : ScsiCmd := { dataIn := [], dataOut := List.replicate 512 0x55 }

/-- buffer offset が `offset` の、status 付きの最後の data-in。 -/
def dataInPdu (offset : Nat) (data : Bytes) : Bytes :=
  targetPdu opcodeDataIn (flagFinal ||| dataFlagStatus) [(40, toBe32 offset)] data

/-- command が終わったことを伝える SCSI response。 -/
def scsiResponsePdu (data : Bytes) : Bytes := targetPdu opcodeScsiResponse flagFinal [] data

/-- buffer offset が `offset` で、desired data transfer length が `len` の R2T。 -/
def r2tPdu (offset len : Nat) : Bytes :=
  targetPdu opcodeR2t flagFinal [(40, toBe32 offset), (44, toBe32 len)] []

/-- 100 byte の data を持つ redirect。data の最初の 10 byte が BHS と同じ iob で届く。 -/
def splitRedirectPdu : Bytes :=
  loginResponsePdu 0 statusRedirect
    (textData [ascii "TargetAddress=10.0.0.66:3260", ascii "Y=" ++ List.replicate 68 0x41])

/-- redirect の data の残り 90 byte を処理すると、接続を閉じて `rx_offset` を 0 に戻した後で
loop が 90 を足す。状態は BHS で `rx_offset` は 90 になり、次の PDU の BHS は `rx_bhs` の
90 byte 目から書かれる。 -/
def splitRedirect : List Event :=
  [.txStep okEnv, .deliver (splitRedirectPdu.take 58) okEnv,
   .deliver (splitRedirectPdu.drop 58) okEnv, .deliver (List.replicate 48 0) okEnv]

/-- data-in の buffer offset が data-in の buffer の終わりを指す、command のないときに data-in
や R2T が来る、SCSI response の data segment が 1 byte、R2T の buffer offset が data-out の
buffer の終わりを指す、redirect の data が分かれて届く。どれも PDU を断らずに、buffer の外に
触れるか `NULL` を参照する。 -/
theorem iscsi_target_pdus_escape_buffers :
    ∃ s, iscsiOpen okEnv exampleTarget noAuthCreds = .ok s ∧
      runIscsi .x86_64 s (fullFeatureLogin ++ issueCommand readCmd ++
        [.deliver (dataInPdu 512 (List.replicate 512 0xAA)) okEnv]) =
          .error (.outOfBounds 1024 512) ∧
      runIscsi .x86_64 s (fullFeatureLogin ++
        [.deliver (dataInPdu 0 (List.replicate 4 0xAA)) okEnv]) = .error .nullDereference ∧
      runIscsi .x86_64 s (fullFeatureLogin ++ issueCommand readCmd ++
        [.deliver (scsiResponsePdu [0x70]) okEnv]) = .error (.outOfBounds 6 1) ∧
      runIscsi .x86_64 s (fullFeatureLogin ++ issueCommand writeCmd ++
        [.deliver (r2tPdu 512 512) okEnv, .txStep okEnv]) = .error (.outOfBounds 1024 512) ∧
      runIscsi .x86_64 s (fullFeatureLogin ++ [.deliver (r2tPdu 0 512) okEnv]) =
        .error .nullDereference ∧
      runIscsi .x86_64 s splitRedirect = .error (.outOfBounds 138 48) :=
  ⟨_, rfl, by decide +kernel, by decide +kernel, by decide +kernel, by decide +kernel,
    by decide +kernel, by decide +kernel⟩

end FlexBoot.Iscsi
