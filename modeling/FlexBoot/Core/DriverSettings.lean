import FlexBoot.Core.Misc

/-!
# iSCSI の起動先の NV 設定と root path（`core/driver_settings.c`, `drivers/infiniband/hermon_settings.c`）

起動先は四つの設定で決まる。

* `target_ip` — `setting_type_ipv4`。書き出しは `inet_ntoa` の `%d.%d.%d.%d`
* `tcp_port`、`boot_lun` — `setting_type_int32`。書き出しは `format_int_setting` の `%ld`
* `iscsi_target_name` — `setting_type_string`。書き出しはそのまま

設定を書くたびに `root_path_store` が `"iscsi:%s:%s:%s:%s:%s"` を
`MAX_ROOT_PATH_LEN = 253` byte の buffer に `snprintf` で書き、system の `root-path` にする。
-/

namespace FlexBoot.DriverSettings

open Infra FlexBoot

/-! ## 値の書き出し -/

/-- `inet_ntoa`。`raw` は network byte order の 4 byte である。 -/
def inetNtoa (raw : Bytes) : Bytes :=
  decimalDigits (raw.getD 0 0).toNat ++ ascii "." ++ decimalDigits (raw.getD 1 0).toNat ++
    ascii "." ++ decimalDigits (raw.getD 2 0).toNat ++ ascii "." ++ decimalDigits (raw.getD 3 0).toNat

/-- `format_ipv4_setting`。4 byte に足りなければ `-EINVAL` で、buffer は空のまま残る。 -/
def formatIpv4Setting (raw : Bytes) : Bytes := if raw.length < 4 then [] else inetNtoa raw

/-- `setting_type_int32` の生の値（big-endian の 4 byte）を符号付きで読む。 -/
def int32Value (raw : Bytes) : Int :=
  let u := be32 raw 0
  if u < 2 ^ 31 then u else (u : Int) - 2 ^ 32

/-- `format_int_setting`。 -/
def formatIntSetting (raw : Bytes) : Bytes := formatDecimal (int32Value raw)

/-- `format_string_setting`。`buf` が `raw` より長ければ NUL で終わる。 -/
def formatStringSetting (raw : Bytes) : Bytes := cstr raw

/-! ## 設定の検査 -/

/-- `MAX_ISCSI_NAME`。 -/
def maxIscsiName : Nat := 223

/-- `MIN_TCP_PORT` と `MAX_TCP_PORT`。 -/
def minTcpPort : Int := 1
def maxTcpPort : Int := 65535

/-- `MIN_BOOT_LUN` と `MAX_BOOT_LUN`。 -/
def minBootLun : Int := 0
def maxBootLun : Int := 255

/-- `target_tcp_port_store` と `target_boot_lun_store` の検査。`ntohl` した値が範囲の外なら
`INVALID_INPUT`。 -/
def int32InRange (lo hi : Int) (raw : Bytes) : Bool :=
  !(int32Value raw > hi || int32Value raw < lo)

/-- `target_tcp_port_store` が受け付ける値。 -/
def targetTcpPortStore (raw : Bytes) : Bool := int32InRange minTcpPort maxTcpPort raw

/-- `target_boot_lun_store` が受け付ける値。 -/
def targetBootLunStore (raw : Bytes) : Bool := int32InRange minBootLun maxBootLun raw

/-- `target_iscsi_name_store` が受け付ける値。 -/
def targetIscsiNameStore (raw : Bytes) : Bool := !(raw.length > maxIscsiName)

/-! ## `root_path_store` -/

/-- port の範囲の設定。`connect`、`dhcp_ip`、`dhcp_iscsi` の最初の文字が `'E'`（Enabled）か。 -/
structure PortSettings where
  connect : Bool
  dhcpIp : Bool
  dhcpIscsi : Bool
  deriving DecidableEq, Repr

/-- iSCSI の起動先の設定の生の値。 -/
structure TargetSettings where
  targetIp : Bytes
  tcpPort : Bytes
  bootLun : Bytes
  iscsiTargetName : Bytes
  deriving DecidableEq, Repr

/-- `MAX_ROOT_PATH_LEN`。 -/
def maxRootPathLen : Nat := 0xfd

/-- `snprintf ( buf, len, ... )`。書けるのは `len - 1` 文字までで、その後に NUL が付く。 -/
def snprintf (len : Nat) (out : Bytes) : Bytes := out.take (len - 1)

/-- `root_path_store`。`connect` が無効か、IP と iSCSI の値を DHCP から取るなら `root-path` を
消す（`none`）。そうでなければ四つの設定を書き出して並べる。protocol の欄は空である。 -/
def rootPathStore (port : PortSettings) (t : TargetSettings) : Option Bytes :=
  if (port.dhcpIp && port.dhcpIscsi) || !port.connect then none
  else
    some <| snprintf maxRootPathLen <|
      ascii "iscsi:" ++ formatIpv4Setting t.targetIp ++ ascii ":" ++ ascii ":" ++
        formatIntSetting t.tcpPort ++ ascii ":" ++ formatIntSetting t.bootLun ++ ascii ":" ++
        formatStringSetting t.iscsiTargetName

end FlexBoot.DriverSettings
