import FlexBoot.Core.DriverSettings
import FlexBoot.Net.Tcp.Iscsi.RootPath

/-!
# NV 設定から作る root path と、それを読む `iscsi_parse_root_path`

`root_path_store` は boot LUN を `format_int_setting` の `%ld`、つまり十進で書く。
`iscsi_parse_root_path` はその欄を `scsi_parse_lun` に渡し、`scsi_parse_lun` は
`strtoul ( p, &p, 16 )` で**十六進**として読む。LUN が 10 以上なら読んだ値は設定と違う
（`root_path_lun_read_as_hex`）。

`iscsi_parse_root_path` そのものは、RFC 4173 の欄を次のように読む。

1. 最初の四つの `:` で五つの欄に分け（`splitRootPath_fields`）、`:` が四つない root path は
   読めない（`iscsiParseRootPath_too_short`）。
2. 欄の値は、port を `strtoul` の十進で `unsigned int` に入れた値（0 なら 3260）、LUN を
   `scsi_parse_lun` の値として決まる（`iscsiParseRootPath_fields`）。
3. port の範囲は調べないので、65535 より大きい port も受け付けて、そのまま
   `target_port` にする（`iscsiParseRootPath_port_above_65535`）。
-/

namespace FlexBoot.Iscsi

open Infra FlexBoot DriverSettings

/-- `connect` が有効で、IP と iSCSI の値を DHCP から取らない port。 -/
def connectStatic : PortSettings := { connect := true, dhcpIp := false, dhcpIscsi := false }

/-- 10.0.0.1:3260、boot LUN 10 の起動先。 -/
def lunTenTarget : TargetSettings :=
  { targetIp := [10, 0, 0, 1], tcpPort := [0, 0, 0x0C, 0xBC], bootLun := [0, 0, 0, 10],
    iscsiTargetName := ascii "iqn.2001-04.com.example:disk" }

/-- 三つの検査を通る LUN 10 が、root path では `"10"` と書かれ、`0x10` として読まれる。 -/
theorem root_path_lun_read_as_hex (arch : Arch) :
    targetTcpPortStore lunTenTarget.tcpPort = true ∧
      targetBootLunStore lunTenTarget.bootLun = true ∧
      targetIscsiNameStore lunTenTarget.iscsiTargetName = true ∧
      rootPathStore connectStatic lunTenTarget =
        some (ascii "iscsi:10.0.0.1::3260:10:iqn.2001-04.com.example:disk") ∧
      iscsiParseRootPath arch true (ascii "10.0.0.1::3260:10:iqn.2001-04.com.example:disk") =
        some { targetAddress := ascii "10.0.0.1", targetPort := 3260, lun := [16, 0, 0, 0],
               targetIqn := ascii "iqn.2001-04.com.example:disk" } := by
  cases arch <;> decide +kernel

/-! ## 欄への分割 -/

/-- `splitRootPath n` が成功すれば、区切りの `:` は `n` 個以上ある。 -/
theorem splitRootPath_count : ∀ {n : Nat} {rp : Bytes} {comps : List Bytes},
    splitRootPath n rp = some comps → n ≤ rp.count 0x3A
  | 0, _, _, _ => Nat.zero_le _
  | n + 1, rp, comps, h => by
    rw [splitRootPath] at h
    cases hs : strchr 0x3A rp with
    | none => simp [hs] at h
    | some p =>
      obtain ⟨comp, rest⟩ := p
      simp only [hs] at h
      cases hr : splitRootPath n rest with
      | none => simp [hr] at h
      | some cs =>
        -- 一つ目の `:` の後ろに、残りの `n` 個がある
        have hn := splitRootPath_count hr
        rw [strchr_eq_some hs, List.count_append, List.count_cons_self]
        omega

/-- 四つの `:` がない root path は `-EINVAL_ROOT_PATH_TOO_SHORT` で読めない。 -/
theorem iscsiParseRootPath_too_short (arch : Arch) (allocOk : Bool) (rootPath : Bytes)
    (h : rootPath.count 0x3A < 4) : iscsiParseRootPath arch allocOk rootPath = none := by
  unfold iscsiParseRootPath
  cases hs : splitRootPath 4 (cstr rootPath) with
  | none => rfl
  | some comps =>
    have h4 := splitRootPath_count hs
    have hle := count_cstr_le 0x3A rootPath
    omega

-- `:` も NUL もない欄の後の `:` で一つ分ける
theorem splitRootPath_cons_field {n : Nat} (comp rest : Bytes) (h : ∀ x ∈ comp, x ≠ 0x3A ∧ x ≠ 0) :
    splitRootPath (n + 1) (comp ++ 0x3A :: rest) = (splitRootPath n rest).map (comp :: ·) := by
  rw [splitRootPath, strchr_append 0x3A comp rest h]

section Fields

variable (server protocol port lun target : Bytes)

/-- `servername:protocol:port:LUN:targetname`。 -/
def rootPathOf : Bytes := server ++ 0x3A :: (protocol ++ 0x3A :: (port ++ 0x3A :: (lun ++ 0x3A :: target)))

variable {server protocol port lun target}

/-- 最初の四つの欄は `:` までで、最後の欄は `:` を含んでもそのまま残る。 -/
theorem splitRootPath_fields (hs : ∀ x ∈ server, x ≠ 0x3A ∧ x ≠ 0) (hp : ∀ x ∈ protocol, x ≠ 0x3A ∧ x ≠ 0)
    (hport : ∀ x ∈ port, x ≠ 0x3A ∧ x ≠ 0) (hl : ∀ x ∈ lun, x ≠ 0x3A ∧ x ≠ 0) :
    splitRootPath 4 (rootPathOf server protocol port lun target) = some [server, protocol, port, lun, target] := by
  rw [rootPathOf, splitRootPath_cons_field _ _ hs, splitRootPath_cons_field _ _ hp,
    splitRootPath_cons_field _ _ hport, splitRootPath_cons_field _ _ hl, splitRootPath]
  rfl

/-- 五つの欄の root path を読んだ値。LUN が読めなければ失敗し、port は `strtoul` の十進の値を
`unsigned int` に入れたもので、0 なら `ISCSI_PORT` である。 -/
theorem iscsiParseRootPath_fields (arch : Arch) (hs : ∀ x ∈ server, x ≠ 0x3A ∧ x ≠ 0)
    (hp : ∀ x ∈ protocol, x ≠ 0x3A ∧ x ≠ 0) (hport : ∀ x ∈ port, x ≠ 0x3A ∧ x ≠ 0)
    (hl : ∀ x ∈ lun, x ≠ 0x3A ∧ x ≠ 0) (ht : 0 ∉ target) :
    iscsiParseRootPath arch true (rootPathOf server protocol port lun target) =
      (Scsi.scsiParseLun arch lun).map fun l =>
        let p := (strtoul arch port 10).1 % 2 ^ 32
        { targetAddress := server, targetPort := if p = 0 then iscsiPort else p, lun := l, targetIqn := target } := by
  have hnul : 0 ∉ rootPathOf server protocol port lun target := by
    simp only [rootPathOf, List.mem_append, List.mem_cons, not_or]
    exact ⟨fun h => (hs 0 h).2 rfl, by decide, fun h => (hp 0 h).2 rfl, by decide,
      fun h => (hport 0 h).2 rfl, by decide, fun h => (hl 0 h).2 rfl, by decide, ht⟩
  have hserver : cstr server = server := cstr_eq_self fun h => (hs 0 h).2 rfl
  rw [iscsiParseRootPath, cstr_eq_self hnul, splitRootPath_fields hs hp hport hl]
  dsimp only
  cases Scsi.scsiParseLun arch lun with
  | none => rfl
  | some l => simp [hserver, cstr_eq_self ht]

end Fields

/-- 十進の数字は `:` でも NUL でもない。 -/
theorem decimalDigits_field (n : Nat) : ∀ x ∈ decimalDigits n, x ≠ 0x3A ∧ x ≠ 0 := by
  intro x hx
  obtain ⟨d, hd, rfl⟩ := mem_decimalDigits hx
  have hall : ∀ d ∈ List.range 10, UInt8.ofNat (48 + d) ≠ 0x3A ∧ UInt8.ofNat (48 + d) ≠ 0 := by decide
  exact hall d (List.mem_range.mpr hd)

/-- port が 65535 より大きくても `unsigned int` に入れば受け付けられ、`target_port` はその値になる。 -/
theorem iscsiParseRootPath_port_above_65535 (arch : Arch) {server protocol lun target : Bytes}
    (hs : ∀ x ∈ server, x ≠ 0x3A ∧ x ≠ 0) (hp : ∀ x ∈ protocol, x ≠ 0x3A ∧ x ≠ 0)
    (hl : ∀ x ∈ lun, x ≠ 0x3A ∧ x ≠ 0) (ht : 0 ∉ target) {l : List Nat} (hlun : Scsi.scsiParseLun arch lun = some l)
    (port : Nat) (hport : 65535 < port ∧ port < 2 ^ 32) :
    iscsiParseRootPath arch true (rootPathOf server protocol (decimalDigits port) lun target) =
      some { targetAddress := server, targetPort := port, lun := l, targetIqn := target } := by
  have hwide : 2 ^ 32 ≤ 2 ^ arch.longBits := Nat.pow_le_pow_right (by decide) arch.longBits_ge
  have hread : (strtoul arch (decimalDigits port) 10).1 % 2 ^ 32 = port := by
    rw [← List.append_nil (decimalDigits port), strtoul_decimalDigits arch port (.inl rfl)]
    show port % 2 ^ arch.longBits % 2 ^ 32 = port
    rw [Nat.mod_eq_of_lt (show port < 2 ^ arch.longBits by omega), Nat.mod_eq_of_lt hport.2]
  rw [iscsiParseRootPath_fields arch hs hp (decimalDigits_field port) hl ht, hlun]
  simp only [Option.map_some, hread, if_neg (show port ≠ 0 by omega)]

/-- `10.0.0.1::65536::iqn.2001-04.com.example:disk` は port 65536 として読まれる。 -/
theorem iscsiParseRootPath_port_65536 :
    rootPathOf (ascii "10.0.0.1") [] (decimalDigits 65536) [] (ascii "iqn.2001-04.com.example:disk") =
        ascii "10.0.0.1::65536::iqn.2001-04.com.example:disk" ∧
      iscsiParseRootPath .x86_64 true
          (rootPathOf (ascii "10.0.0.1") [] (decimalDigits 65536) [] (ascii "iqn.2001-04.com.example:disk")) =
        some { targetAddress := ascii "10.0.0.1", targetPort := 65536, lun := [0, 0, 0, 0],
               targetIqn := ascii "iqn.2001-04.com.example:disk" } :=
  ⟨by decide +kernel,
    iscsiParseRootPath_port_above_65535 .x86_64 (by decide +kernel) (by simp) (by simp) (by decide +kernel)
      (by decide +kernel) 65536 (by decide)⟩

end FlexBoot.Iscsi
