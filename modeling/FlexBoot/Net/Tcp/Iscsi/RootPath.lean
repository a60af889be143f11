import FlexBoot.Drivers.Block.Scsi

/-!
# iSCSI の root path（`net/tcp/iscsi.c`）

RFC 4173 の root path は `servername:protocol:port:LUN:targetname` である。
`iscsi_parse_root_path` は最初の四つの `:` で区切り、最後の欄はそのまま残す（IQN は `:` を
含んでよい）。port は十進で読み、0 なら `ISCSI_PORT`。LUN は `scsi_parse_lun` が読む。
-/

namespace FlexBoot.Iscsi

open Infra FlexBoot

/-- `ISCSI_PORT`。 -/
def iscsiPort : Nat := 3260

/-- `iscsi_parse_root_path` が設定する session の値。 -/
structure RootPathTarget where
  targetAddress : Bytes
  targetPort : Nat
  lun : List Nat
  targetIqn : Bytes
  deriving DecidableEq, Repr

/-- root path を `:` で区切る loop。`n` は残りの欄の数で、最後の欄は区切らない。
途中で NUL に着けば `-EINVAL_ROOT_PATH_TOO_SHORT`（`none`）。 -/
def splitRootPath : Nat → Bytes → Option (List Bytes)
  | 0, rp => some [rp]
  | n + 1, rp =>
    match strchr 0x3A rp with
    | none => none
    | some (comp, rest) => (splitRootPath n rest).map (comp :: ·)

/-- `iscsi_parse_root_path`。`strdup` が失敗すれば `-ENOMEM` で、ここでは `allocOk` で与える。 -/
def iscsiParseRootPath (arch : Arch) (allocOk : Bool) (rootPath : Bytes) : Option RootPathTarget :=
  match splitRootPath 4 (cstr rootPath) with
  | some [server, _, port, lun, target] =>
    if !allocOk then none
    else
      let p := (strtoul arch port 10).1 % 2 ^ 32
      match Scsi.scsiParseLun arch lun with
      | none => none
      | some l =>
        some { targetAddress := cstr server, targetPort := if p = 0 then iscsiPort else p,
               lun := l, targetIqn := cstr target }
  | _ => none

end FlexBoot.Iscsi
