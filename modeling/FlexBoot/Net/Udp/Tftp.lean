import FlexBoot.Core.Bitmap
import FlexBoot.Infra.Run

/-!
# TFTP の受信側（`net/udp/tftp.c`）

`struct tftp_request` のうち受信処理が読み書きする field と、`tftp_rx` から下の
OACK / DATA / ERROR の処理、それに再送 timer の満了を書く。

## 外から決まること

* 相手の address は `Nat` で表す。`st_family = 0`（まだ相手がいない）は `none`。
* `realloc`、`xfer_deliver`、socket を開き直す処理の成否は、事象ごとに `Env` で与える。
  これらの中身（heap、上位の受け手、UDP）はこの file の外にある。

## 未定義動作

`tftp_presize` の `filesize / tftp->blksize` と `bitmap_set` の配列への書き込みには
検査がない。前者は `Fault.divideByZero`、後者は `Fault.outOfBounds` として止まる。

## 値の幅

`blksize`、`block`、`num_blocks` は `unsigned int`（32 bit）、`tsize` は `unsigned long`、
`filesize` は `size_t` である。`offset = block * tftp->blksize` は `unsigned int` どうしの積で、
`off_t` に入れる前に 32 bit で巻き戻る。
-/

namespace FlexBoot.Tftp

open Infra FlexBoot

/-! ## 状態 -/

/-- `TFTP_FL_*`。 -/
structure Flags where
  sendAck : Bool
  rrqSizes : Bool
  rrqMulticast : Bool
  mtftpRecovery : Bool
  sizeOnly : Bool
  deriving DecidableEq, Repr

/-- `tftp_done` に渡される状態符号。`ok` は 0 である。 -/
inductive Rc
  | ok
  | einval
  | einvalBlksize
  | einvalTsize
  | einvalMcNoPort
  | einvalMcNoMc
  | einvalMcInvalidMc
  | einvalMcInvalidIp
  | einvalMcInvalidPort
  | enotsup
  | enomem
  | enoent
  | eacces
  | enotty
  | etimedout
  /-- 下の層（`xfer_deliver`、socket）が返した失敗。 -/
  | lower
  deriving DecidableEq, Repr

/-- `struct tftp_request` のうち受信側が使う field。 -/
structure TftpRequest where
  blksize : Nat
  tsize : Nat
  flags : Flags
  peer : Option Nat
  mtftpTimeouts : Nat
  bitmap : Bitmap
  filesize : Nat
  /-- `tftp_done` が呼ばれたときの状態符号。呼ばれた後は interface が閉じている。 -/
  closed : Option Rc
  deriving DecidableEq, Repr

/-- 事象ごとに外の世界が決めること。 -/
structure Env where
  /-- `realloc` が成功する。 -/
  allocOk : Bool
  /-- 上位への `xfer_deliver` が 0 を返す。 -/
  deliverOk : Bool
  /-- `xfer_open_socket` / `xfer_open_named_socket` が 0 を返す。 -/
  openOk : Bool
  deriving DecidableEq, Repr

/-- `tftp_core_open` が作る状態。 -/
def TftpRequest.init (flags : Flags) : TftpRequest :=
  { blksize := 512, tsize := 0, flags, peer := none, mtftpTimeouts := 0,
    bitmap := Bitmap.empty, filesize := 0, closed := none }

/-- `tftp_open`、`tftpsize_open`、`tftm_open`、`mtftp_open` が `tftp_core_open` に渡す flag。 -/
def openFlags (sizeOnly rrqMulticast mtftp : Bool) : Flags :=
  { sendAck := false, rrqSizes := !mtftp, rrqMulticast, mtftpRecovery := mtftp, sizeOnly }

/-- `tftp_open`。 -/
def tftpOpen : Flags := openFlags false false false

/-- `tftpsize_open`。 -/
def tftpsizeOpen : Flags := openFlags true false false

/-- `tftm_open`。 -/
def tftmOpen : Flags := openFlags false true false

/-- `mtftp_open`。 -/
def mtftpOpen : Flags := openFlags false false true

/-- `tftp_done`。 -/
def tftpDone (t : TftpRequest) (rc : Rc) : TftpRequest := { t with closed := some rc }

@[simp] theorem tftpDone_bitmap (t : TftpRequest) (rc : Rc) : (tftpDone t rc).bitmap = t.bitmap :=
  rfl

@[simp] theorem tftpDone_blksize (t : TftpRequest) (rc : Rc) :
    (tftpDone t rc).blksize = t.blksize := rfl

@[simp] theorem tftpDone_filesize (t : TftpRequest) (rc : Rc) :
    (tftpDone t rc).filesize = t.filesize := rfl

/-- 呼び出しの結果。未定義動作で止まるか、新しい状態と戻り値 `rc` を返す。 -/
abbrev Outcome := Except Fault (TftpRequest × Rc)

/-! ## `tftp_presize` -/

/-- `tftp_presize`。`filesize` が記録より大きいときだけ、記録を更新して bitmap を広げる。 -/
def tftpPresize (arch : Arch) (env : Env) (t : TftpRequest) (filesize : Nat) : Outcome :=
  if filesize ≤ t.filesize then .ok (t, .ok)
  else
    let t := { t with filesize }
    if t.blksize = 0 then .error .divideByZero
    else
      -- `num_blocks = ( ( filesize / tftp->blksize ) + 1 )` を `unsigned int` に入れる
      match bitmapResize arch env.allocOk t.bitmap ((filesize / t.blksize + 1) % 2 ^ 32) with
      | none => .ok (t, .enomem)
      | some b => .ok ({ t with bitmap := b }, .ok)

/-! ## OACK -/

/-- OACK の option を読んでいる途中の位置。名前の途中か、名前を読み終えて値の途中か。 -/
inductive OackScan
  | name (acc : Bytes)
  | value (name acc : Bytes)

/--
OACK の option の並びを一 byte ずつ読む。`name\0value\0` の組を、形が崩れたところまで返す。

C の loop は `strnlen` で名前と値の終わりを探し、形の崩れを致命的とせずに抜ける
（末尾にごみを付ける server があるため）。崩れ方は三つある。

* 名前に NUL がない（`value > end`）
* 名前の NUL で終わっている（`value == end`）
* 値に NUL がない（`next > end`）
-/
def oackScan : OackScan → Bytes → List (Bytes × Bytes)
  | .name _, [] => []
  | .name acc, c :: rest =>
    if c = 0 then (if rest = [] then [] else oackScan (.value acc.reverse []) rest)
    else oackScan (.name (c :: acc)) rest
  | .value _ _, [] => []
  | .value n acc, c :: rest =>
    if c = 0 then (n, acc.reverse) :: oackScan (.name []) rest
    else oackScan (.value n (c :: acc)) rest

/-- OACK の本体（opcode の後ろ）に並ぶ option。 -/
def oackOptions (data : Bytes) : List (Bytes × Bytes) := oackScan (.name []) data

/-! ## option の処理 -/

/-- `tftp_process_blksize`。値は `unsigned int` に入れてから終わりを調べるので、
形が崩れていても `blksize` は書き換わっている。 -/
def tftpProcessBlksize (arch : Arch) (t : TftpRequest) (value : Bytes) : TftpRequest × Rc :=
  let (v, endp) := strtoul arch value 10
  let t := { t with blksize := v % 2 ^ 32 }
  if endp = [] then (t, .ok) else (t, .einvalBlksize)

/-- `tftp_process_tsize`。 -/
def tftpProcessTsize (arch : Arch) (t : TftpRequest) (value : Bytes) : TftpRequest × Rc :=
  let (v, endp) := strtoul arch value 10
  let t := { t with tsize := v }
  if endp = [] then (t, .ok) else (t, .einvalTsize)

/-- `tftp_process_multicast`。値は `addr,port,mc` である。`mc` が 0 なら master client では
ないので ACK を送らない。`addr` と `port` があれば multicast socket を開き直す。 -/
def tftpProcessMulticast (arch : Arch) (env : Env) (t : TftpRequest) (value : Bytes) :
    TftpRequest × Rc :=
  match strchr 0x2C value with
  | none => (t, .einvalMcNoPort)
  | some (addr, rest) =>
    match strchr 0x2C rest with
    | none => (t, .einvalMcNoMc)
    | some (port, mc) =>
      let (mcv, mcEnd) := strtoul arch mc 0
      let t := if mcv = 0 then { t with flags := { t.flags with sendAck := false } } else t
      if mcEnd ≠ [] then (t, .einvalMcInvalidMc)
      else if addr ≠ [] ∧ port ≠ [] then
        match inetAton arch addr with
        | none => (t, .einvalMcInvalidIp)
        | some _ =>
          if (strtoul arch port 0).2 ≠ [] then (t, .einvalMcInvalidPort)
          else if env.openOk then (t, .ok) else (t, .lower)
      else (t, .ok)

/-- `tftp_process_option`。表 `tftp_options` を上から `strcasecmp` で引く。
知らない option は黙って無視する。 -/
def tftpProcessOption (arch : Arch) (env : Env) (t : TftpRequest) (name value : Bytes) :
    TftpRequest × Rc :=
  if strcasecmp name (ascii "blksize") = 0 then tftpProcessBlksize arch t value
  else if strcasecmp name (ascii "tsize") = 0 then tftpProcessTsize arch t value
  else if strcasecmp name (ascii "multicast") = 0 then tftpProcessMulticast arch env t value
  else (t, .ok)

/-- option を順に処理し、最初の失敗で止まる。 -/
def tftpProcessOptions (arch : Arch) (env : Env) :
    TftpRequest → List (Bytes × Bytes) → TftpRequest × Rc
  | t, [] => (t, .ok)
  | t, (name, value) :: rest =>
    match tftpProcessOption arch env t name value with
    | (t, .ok) => tftpProcessOptions arch env t rest
    | (t, rc) => (t, rc)

/-- `tftp_rx_oack`。`pkt` は opcode を含む packet 全体である。

option を処理した後、`tsize` が 0 でなければ `tftp_presize` を呼ぶ。
失敗は `tftp_done` で request を閉じる。 -/
def tftpRxOack (arch : Arch) (env : Env) (t : TftpRequest) (pkt : Bytes) : Outcome :=
  if pkt.length < 2 then .ok (tftpDone t .einval, .einval)
  else
    match tftpProcessOptions arch env t (oackOptions (pkt.drop 2)) with
    | (t, .ok) =>
      let presized := if t.tsize ≠ 0 then tftpPresize arch env t t.tsize else .ok (t, .ok)
      match presized with
      | .error f => .error f
      | .ok (t, .ok) =>
        -- 大きさだけを知りたい request は、ここで "TFTP Aborted" を送って終える
        if t.flags.sizeOnly then .ok (tftpDone t .ok, .ok) else .ok (t, .ok)
      | .ok (t, rc) => .ok (tftpDone t rc, rc)
    | (t, rc) => .ok (tftpDone t rc, rc)

/-! ## DATA -/

/-- DATA の block 番号から、全体での block の位置を求める。16 bit の番号は巻き戻るので、
`first_gap + 1` の上位 16 bit を足す。`ntohs ( data->block ) - 1` は `int` の計算で、
`unsigned int` に足すと巻き戻る。 -/
def dataBlock (t : TftpRequest) (pkt : Bytes) : Nat :=
  (((t.bitmap.firstGap + 1) % 2 ^ 32) / 65536 * 65536 + be16 pkt 2 + 2 ^ 32 - 1) % 2 ^ 32

/-- `tftp_rx_data`。 -/
def tftpRxData (arch : Arch) (env : Env) (t : TftpRequest) (pkt : Bytes) : Outcome :=
  if t.flags.sizeOnly then .ok (tftpDone t .enotsup, .enotsup)
  else if pkt.length < 4 then .ok (tftpDone t .einval, .einval)
  else if be16 pkt 2 = 0 ∧ ((t.bitmap.firstGap + 1) % 2 ^ 32) / 65536 = 0 then
    .ok (tftpDone t .einval, .einval)
  else
    let block := dataBlock t pkt
    let offset := block * t.blksize % 2 ^ 32
    let dataLen := pkt.length - 4
    if t.blksize < dataLen then .ok (tftpDone t .einval, .einval)
    else if !env.deliverOk then .ok (tftpDone t .lower, .lower)
    else
      -- `offset + data_len` は `size_t` の引数に入る
      match tftpPresize arch env t ((offset + dataLen) % 2 ^ arch.longBits) with
      | .error f => .error f
      | .ok (t, .ok) =>
        match bitmapSet arch t.bitmap block with
        | .error f => .error f
        | .ok b =>
          let t := { t with bitmap := b }
          if bitmapFull b then .ok (tftpDone t .ok, .ok) else .ok (t, .ok)
      | .ok (t, rc) => .ok (tftpDone t rc, rc)

/-! ## ERROR と振り分け -/

/-- `tftp_errcode_to_rc`。 -/
def tftpErrcodeToRc : Nat → Rc
  | 1 => .enoent
  | 2 => .eacces
  | 4 => .enotty
  | _ => .enotsup

/-- `tftp_rx_error`。短すぎる ERROR は request を閉じずに捨てる。 -/
def tftpRxError (t : TftpRequest) (pkt : Bytes) : Outcome :=
  if pkt.length < 4 then .ok (t, .einval)
  else .ok (tftpDone t (tftpErrcodeToRc (be16 pkt 2)), .ok)

/-- `tftp_rx` の opcode による振り分け。 -/
def tftpDispatch (arch : Arch) (env : Env) (t : TftpRequest) (pkt : Bytes) : Outcome :=
  match be16 pkt 0 with
  | 6 => tftpRxOack arch env t pkt
  | 3 => tftpRxData arch env t pkt
  | 5 => tftpRxError t pkt
  | _ => .ok (t, .einval)

/-- `tftp_rx`。最初に応えた相手を記録し、それ以外からの packet は捨てる。 -/
def tftpRx (arch : Arch) (env : Env) (t : TftpRequest) (src : Option Nat) (pkt : Bytes) :
    Outcome :=
  if pkt.length < 2 then .ok (t, .einval)
  else
    match src, t.peer with
    | none, _ => .ok (t, .einval)
    | some a, none => tftpDispatch arch env { t with peer := some a } pkt
    | some a, some p => if a = p then tftpDispatch arch env t pkt else .ok (t, .einval)

/-- `tftp_socket_deliver`。unicast の packet を受けたら ACK を送るようにしてから `tftp_rx`。 -/
def tftpSocketDeliver (arch : Arch) (env : Env) (t : TftpRequest) (src : Option Nat)
    (pkt : Bytes) : Outcome :=
  tftpRx arch env { t with flags := { t.flags with sendAck := true } } src pkt

/-! ## 再送 timer -/

/-- `tftp_reopen`。ACK を止め、相手を忘れて socket を開き直す。 -/
def tftpReopen (env : Env) (t : TftpRequest) : TftpRequest × Rc :=
  let t := { t with flags := { t.flags with sendAck := false }, peer := none }
  if env.openOk then (t, .ok) else (t, .lower)

/-- `tftp_reopen` を呼び、失敗すれば `err:` で `tftp_done` を呼ぶ。 -/
def tftpReopenOrDone (env : Env) (t : TftpRequest) : TftpRequest :=
  match tftpReopen env t with
  | (t, .ok) => t
  | (t, rc) => tftpDone t rc

/-- `tftp_timer_expired`。MTFTP の回復では、何度か待っても相手が現れなければ普通の TFTP に
戻り、block の bitmap を捨てる（block の大きさが変わるかもしれないため）。
`filesize` はそのまま残る。 -/
def tftpTimerExpired (env : Env) (t : TftpRequest) (fail : Bool) : TftpRequest :=
  if t.flags.mtftpRecovery then
    match t.peer with
    | some _ => tftpReopenOrDone env t
    | none =>
      let t := { t with mtftpTimeouts := (t.mtftpTimeouts + 1) % 2 ^ 32 }
      if 3 < t.mtftpTimeouts then
        let t := { t with
          flags := { sendAck := false, rrqSizes := true, rrqMulticast := false,
                     mtftpRecovery := false, sizeOnly := false },
          bitmap := Bitmap.empty }
        tftpReopenOrDone env t
      else t
  else if fail then tftpDone t .etimedout else t

/-! ## 実行 -/

/-- request に届く事象。 -/
inductive Event
  /-- unicast socket への packet（`tftp_socket_deliver`）。 -/
  | socket (src : Option Nat) (pkt : Bytes) (env : Env)
  /-- multicast socket への packet（`tftp_rx` を直接呼ぶ）。 -/
  | mcSocket (src : Option Nat) (pkt : Bytes) (env : Env)
  /-- 再送 timer の満了。 -/
  | timer (fail : Bool) (env : Env)

/-- 一つの事象を処理する。`tftp_done` の後は interface も timer も止まっているので、
何も起きない。未定義動作の後も何も起きない。 -/
def step (arch : Arch) : Except Fault TftpRequest → Event → Except Fault TftpRequest
  | .error f, _ => .error f
  | .ok t, e =>
    if t.closed.isSome then .ok t
    else
      match e with
      | .socket src pkt env => (tftpSocketDeliver arch env t src pkt).map Prod.fst
      | .mcSocket src pkt env => (tftpRx arch env t src pkt).map Prod.fst
      | .timer fail env => .ok (tftpTimerExpired env t fail)

/-- 事象の列を処理する。 -/
def runTftp (arch : Arch) (flags : Flags) (es : List Event) : Except Fault TftpRequest :=
  run (step arch) (.ok (TftpRequest.init flags)) es

end FlexBoot.Tftp
