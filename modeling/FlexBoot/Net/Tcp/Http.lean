import FlexBoot.Core.Misc
import FlexBoot.Infra.Run

/-!
# HTTP の受信側と部分読み出し（`net/tcp/httpcore.c`, `core/linebuf.c`）

block device としての HTTP（`http_block_read`）は、一つの接続の上で
`Range:` 付きの要求を一つずつ送り、応答の本体を呼び出し側の buffer に
`copy_to_user` で書き込む。ここでは `struct http_request` の受信に関わる field と、

* `http_partial_read` / `http_block_read` — 要求の準備
* `http_step` — 要求の送信（この開発では `Range:` の行だけを記録する）
* `http_socket_deliver` — 受信状態ごとの処理と、行の組み立て（`line_buffer`）
* `http_socket_close`、`http_retry`

を書く。

## 値の幅

`partial_start`、`partial_len`、`rx_len`、`remaining`、`chunk_remaining` は `size_t`、
`code` は `unsigned int` である。`http_block_read` の `count * HTTP_BLKSIZE` は
`unsigned int` の積である。

## 外から決まること

`realloc`、`xfer_redirect`、`xfer_deliver`、socket の窓と開き直しの成否は事象ごとに
`Env` で与える。`copy_to_user` は書いた位置と内容を `copies` に記録する。
-/

namespace FlexBoot.Http

open Infra FlexBoot

/-! ## 状態 -/

/-- `enum http_rx_state`。 -/
inductive RxState
  | response
  | header
  | chunkLen
  | data
  | trailer
  | idle
  | dead
  deriving DecidableEq, Repr

/-- enum の値。`http_done` は `HTTP_RX_DATA` より前かどうかを比べる。 -/
def RxState.toNat : RxState → Nat
  | .response => 0
  | .header => 1
  | .chunkLen => 2
  | .data => 3
  | .trailer => 4
  | .idle => 5
  | .dead => 6

/-- `enum http_flags`。 -/
structure Flags where
  txPending : Bool
  headOnly : Bool
  clientKeepalive : Bool
  serverKeepalive : Bool
  tryAgain : Bool
  basicAuth : Bool
  digestAuth : Bool
  reopenSocket : Bool
  deriving DecidableEq, Repr

/-- 立っている flag がない値。 -/
def Flags.none : Flags :=
  { txPending := false, headOnly := false, clientKeepalive := false, serverKeepalive := false,
    tryAgain := false, basicAuth := false, digestAuth := false, reopenSocket := false }

/-- 状態符号。`ok` は 0 である。 -/
inductive Rc
  | ok
  | ebusy
  | enomem
  | econnreset
  | eioContentLength
  | eioOther
  | einvalResponse
  | einvalHeader
  | einvalContentLength
  | einvalChunkLength
  | enoent404
  | eperm403
  | eacces401
  | eprotoUnsolicited
  /-- 下の層（socket、`xfer_redirect`、`xfer_deliver`）が返した失敗。 -/
  | lower
  deriving DecidableEq, Repr

/-- `struct line_buffer`。 -/
structure Linebuf where
  data : Bytes
  ready : Bool
  deriving DecidableEq, Repr

/-- 空の line buffer（`empty_line_buffer` の後）。 -/
def Linebuf.empty : Linebuf := { data := [], ready := false }

/-- partial transfer interface。`http_partial_read` でつながり、最初の
`intf_restart` / `intf_shutdown` の状態符号で閉じる。閉じた後の通知は届かない。 -/
inductive PartialIntf
  | unplugged
  | plugged
  | closed (rc : Rc)
  deriving DecidableEq, Repr

/-- つながっていれば `rc` で閉じる。 -/
def PartialIntf.close : PartialIntf → Rc → PartialIntf
  | .plugged, rc => .closed rc
  | p, _ => p

/-- `struct http_request` のうち受信側が使う field。 -/
structure HttpRequest where
  flags : Flags
  partialStart : Nat
  partialLen : Nat
  rxState : RxState
  code : Nat
  rxLen : Nat
  remaining : Nat
  chunked : Bool
  chunkRemaining : Nat
  linebuf : Linebuf
  /-- `rx_buffer != UNULL`。 -/
  rxBuffer : Bool
  /-- `uri->user != NULL`。 -/
  hasUser : Bool
  partialIntf : PartialIntf
  /-- process が動いている（`process_add` の後、`process_del` の前）。 -/
  processActive : Bool
  /-- 再送 timer が動いている。 -/
  timerRunning : Bool
  /-- `copy_to_user ( rx_buffer, offset, data, len )` の記録。 -/
  copies : List (Nat × Bytes)
  /-- 送った要求の `Range:` 行。なければ `none`。 -/
  sent : List (Option Bytes)
  deriving DecidableEq, Repr

/-- 事象ごとに外の世界が決めること。 -/
structure Env where
  /-- `realloc` / `asprintf` が成功する。 -/
  allocOk : Bool
  /-- socket と上位への `xfer_deliver`、`xfer_redirect`、socket を開く処理が 0 を返す。 -/
  lowerOk : Bool
  /-- `xfer_window ( &http->socket )` が 0 でない。 -/
  socketWindow : Bool
  /-- `xfer_window ( &http->xfer )` が 0 でない。 -/
  xferWindow : Bool
  deriving DecidableEq, Repr

/-! ## `line_buffer` -/

/-- `line_buffer`。新しい line buffer と、取り込んだ byte 数を返す。`realloc` が失敗すれば
数は `none`（`-ENOMEM`）で、前の行はもう捨ててある。

行の終わりでは NL を落とし、**その前の byte が CR なら**それも落とす。NL だけの行では
`linebuf->data[linebuf->len - 1]` が確保した領域の手前を読む。 -/
def lineBuffer (allocOk : Bool) (lb : Linebuf) (data : Bytes) :
    Except Fault (Linebuf × Option Nat) :=
  let lb := if lb.ready then Linebuf.empty else lb
  if !allocOk then .ok (lb, none)
  else
    match data.idxOf? 0x0A with
    | none => .ok ({ data := lb.data ++ data, ready := false }, some data.length)
    | some i =>
      -- NL を落とした行
      let line := lb.data ++ data.take i
      if line = [] then .error .bufferUnderrun
      else
        let line := if line.getLast? = some 0x0D then line.dropLast else line
        .ok ({ data := line, ready := true }, some (i + 1))

/-! ## 要求の準備と送信 -/

/-- `%zd`。`size_t` の値を `signed long` として十進で書く。最小の負の値では
`format_decimal` の `num = -num` があふれる。 -/
def formatZd (arch : Arch) (v : Nat) : Except Fault Bytes :=
  let w := arch.longBits
  if v < 2 ^ (w - 1) then .ok (decimalDigits v)
  else if v = 2 ^ (w - 1) then .error .signedOverflow
  else .ok (ascii "-" ++ decimalDigits (2 ^ w - v))

/-- `"Range: bytes=%zd-%zd\r\n"`。終わりは `size_t` で計算する。 -/
def rangeHeader (arch : Arch) (start len : Nat) : Except Fault Bytes := do
  let a ← formatZd arch start
  let e ← formatZd arch ((start + len + 2 ^ arch.longBits - 1) % 2 ^ arch.longBits)
  return ascii "Range: bytes=" ++ a ++ ascii "-" ++ e ++ ascii "\r\n"

/-- `http_close`。 -/
def httpClose (h : HttpRequest) (rc : Rc) : HttpRequest :=
  { h with rxState := .dead, flags := { h.flags with clientKeepalive := false },
           processActive := false, partialIntf := h.partialIntf.close rc }

/-- `http_xfer_window`。新しい block の命令は待機中にだけ受け付ける。 -/
def httpXferWindow (h : HttpRequest) : Bool := h.rxState == .idle

/-- `http_partial_read`。`buffer` は `buffer != UNULL` である。 -/
def httpPartialRead (h : HttpRequest) (offset : Nat) (buffer : Bool) (len : Nat) :
    HttpRequest × Rc :=
  if !httpXferWindow h then (h, .ebusy)
  else
    ({ h with rxBuffer := buffer, partialStart := offset, partialLen := len,
              rxState := .response,
              flags := { Flags.none with txPending := true, clientKeepalive := true,
                                         headOnly := len == 0 },
              processActive := true, partialIntf := .plugged, copies := [] }, .ok)

/-- `HTTP_BLKSIZE`。 -/
def httpBlksize : Nat := 512

/-- `http_block_read`。`lba * HTTP_BLKSIZE` は 64 bit で計算して `size_t` に入れ、
`count * HTTP_BLKSIZE` は `unsigned int` で計算する。 -/
def httpBlockRead (arch : Arch) (h : HttpRequest) (lba count : Nat) : HttpRequest × Rc :=
  httpPartialRead h (lba * httpBlksize % 2 ^ 64 % 2 ^ arch.longBits) true
    (count * httpBlksize % 2 ^ 32)

/-- `http_step`。要求を送るときは `Range:` の行を `sent` に記録する。 -/
def httpStep (arch : Arch) (env : Env) (h : HttpRequest) : Except Fault HttpRequest :=
  if !h.flags.txPending then .ok h
  else if !env.socketWindow then .ok h
  else
    -- 受け取り先がなければ HEAD にする
    let h := if !env.xferWindow && !h.rxBuffer then
        { h with flags := { h.flags with headOnly := true, clientKeepalive := true } }
      else h
    if !env.allocOk then .ok (httpClose h .enomem)
    else do
      let range ← if h.partialLen ≠ 0 then some <$> rangeHeader arch h.partialStart h.partialLen
        else pure none
      let h := { h with flags := { h.flags with txPending := false } }
      return if env.lowerOk then { h with sent := h.sent ++ [range] } else httpClose h .lower

/-! ## 応答の完了 -/

/-- `http_done`。データの段階より前か、chunk の途中なら `-ECONNRESET`、長さが足りなければ
`-EIO_CONTENT_LENGTH` で閉じる。そうでなければ待機に戻り、partial interface を 0 で閉じる。 -/
def httpDone (h : HttpRequest) : HttpRequest :=
  if h.rxState.toNat < RxState.data.toNat ∨ h.chunked then httpClose h .econnreset
  else if h.remaining ≠ 0 then httpClose h .eioContentLength
  else
    let h := { h with rxState := .idle, rxLen := 0 }
    let h := if !h.flags.tryAgain then { h with partialIntf := h.partialIntf.close .ok } else h
    if !(h.flags.clientKeepalive || h.flags.tryAgain) then httpClose h .ok
    else
      let h := if !h.flags.serverKeepalive then
          { h with flags := { h.flags with serverKeepalive := false, reopenSocket := true } }
        else h
      { h with timerRunning := true }

/-- `http_response_to_rc`。 -/
def httpResponseToRc : Nat → Rc
  | 200 | 206 | 301 | 302 | 303 => .ok
  | 404 => .enoent404
  | 403 => .eperm403
  | 401 => .eacces401
  | _ => .eioOther

/-! ## 行ごとの処理 -/

/-- `http_rx_response`。`strtoul` は空白から読み始める。 -/
def httpRxResponse (arch : Arch) (h : HttpRequest) (response : Bytes) : HttpRequest × Rc :=
  if strncmp arch.longBits 5 response (ascii "HTTP/") ≠ 0 then (h, .einvalResponse)
  else
    match strchr 0x20 response with
    | none => (h, .einvalResponse)
    | some (_, rest) =>
      ({ h with code := (strtoul arch (0x20 :: rest) 10).1 % 2 ^ 32,
                rxState := if h.flags.headOnly then .trailer else .header }, .ok)

/-- `http_rx_location`。 -/
def httpRxLocation (env : Env) (h : HttpRequest) : HttpRequest × Rc :=
  if env.lowerOk then (h, .ok) else (h, .lower)

/-- `http_rx_content_length`。`remaining` がすでにあれば同じ値でなければならない。 -/
def httpRxContentLength (arch : Arch) (h : HttpRequest) (value : Bytes) : HttpRequest × Rc :=
  let (contentLen, endp) := strtoul arch value 10
  if !(endp.headD 0 == 0 || isspace (endp.headD 0)) then (h, .einvalContentLength)
  else if h.remaining ≠ 0 ∧ h.remaining ≠ contentLen then (h, .eioContentLength)
  else if !h.flags.headOnly then ({ h with remaining := contentLen }, .ok)
  else (h, .ok)

/-- `http_rx_transfer_encoding`。 -/
def httpRxTransferEncoding (h : HttpRequest) (value : Bytes) : HttpRequest × Rc :=
  if strcasecmp value (ascii "chunked") = 0 then ({ h with chunked := true }, .ok) else (h, .ok)

/-- `http_rx_connection`。 -/
def httpRxConnection (h : HttpRequest) (value : Bytes) : HttpRequest × Rc :=
  if strcasecmp value (ascii "keep-alive") = 0 then
    ({ h with flags := { h.flags with serverKeepalive := true } }, .ok)
  else (h, .ok)

/-- `http_rx_basic_auth`。 -/
def httpRxBasicAuth (h : HttpRequest) : HttpRequest × Rc :=
  if h.code = 401 ∧ !h.flags.basicAuth ∧ h.hasUser then
    ({ h with flags := { h.flags with tryAgain := true, basicAuth := true } }, .ok)
  else (h, .ok)

/-- `http_digest_param`。`name` の後ろから次の `"` までの値。 -/
def httpDigestParam (params name : Bytes) : Option Bytes :=
  match strstr params name with
  | none => none
  | some (_, key) => (strchr 0x22 (key.drop name.length)).map Prod.fst

/-- `http_rx_digest_auth`。`realm` と `nonce` がなければ `-EINVAL_HEADER`。 -/
def httpRxDigestAuth (h : HttpRequest) (params : Bytes) : HttpRequest × Rc :=
  if h.code = 401 ∧ !h.flags.digestAuth ∧ h.hasUser then
    if (httpDigestParam params (ascii "realm=\"")).isNone then (h, .einvalHeader)
    else if (httpDigestParam params (ascii "nonce=\"")).isNone then (h, .einvalHeader)
    else ({ h with flags := { h.flags with tryAgain := true, digestAuth := true } }, .ok)
  else (h, .ok)

/-- `http_rx_www_authenticate`。表 `http_auth_header_handlers` を `strcasecmp` で引く。 -/
def httpRxWwwAuthenticate (h : HttpRequest) (value : Bytes) : HttpRequest × Rc :=
  match strchr 0x20 value with
  | none => (h, .einvalHeader)
  | some (scheme, params) =>
    if strcasecmp scheme (ascii "Basic") = 0 then httpRxBasicAuth h
    else if strcasecmp scheme (ascii "Digest") = 0 then httpRxDigestAuth h params
    else (h, .ok)

/-- `http_rx_retry_after`。待つ秒数は timer にだけ効くので記録しない。 -/
def httpRxRetryAfter (h : HttpRequest) : HttpRequest × Rc :=
  if h.code = 503 then ({ h with flags := { h.flags with tryAgain := true } }, .ok) else (h, .ok)

/-- `http_rx_header`。空行は header（または trailer）の終わりで、応答の状態符号を調べてから
データの段階に進むか `http_done` を呼ぶ。部分読み出しでは `remaining` を `partial_len` にする。
それ以外の行は `": "` で分けて表 `http_header_handlers` を `strcasecmp` で引く。 -/
def httpRxHeader (arch : Arch) (env : Env) (h : HttpRequest) (header : Bytes) :
    HttpRequest × Rc :=
  if header = [] then
    let h := { h with linebuf := Linebuf.empty }
    if !h.flags.tryAgain ∧ httpResponseToRc h.code ≠ .ok then (h, httpResponseToRc h.code)
    else if h.rxState = .header then
      let h := { h with rxState := if h.chunked then .chunkLen else .data }
      if h.partialLen ≠ 0 ∧ !h.flags.tryAgain then ({ h with remaining := h.partialLen }, .ok)
      else (h, .ok)
    else (httpDone h, .ok)
  else
    match strstr header (ascii ": ") with
    | none => (h, .einvalHeader)
    | some (name, sep) =>
      let value := sep.drop 2
      if strcasecmp name (ascii "Location") = 0 then httpRxLocation env h
      else if strcasecmp name (ascii "Content-Length") = 0 then httpRxContentLength arch h value
      else if strcasecmp name (ascii "Transfer-Encoding") = 0 then httpRxTransferEncoding h value
      else if strcasecmp name (ascii "Connection") = 0 then httpRxConnection h value
      else if strcasecmp name (ascii "WWW-Authenticate") = 0 then httpRxWwwAuthenticate h value
      else if strcasecmp name (ascii "Retry-After") = 0 then httpRxRetryAfter h
      else (h, .ok)

/-- `http_rx_chunk_len`。空行は飛ばす。長さ 0 の chunk で chunk 符号化が終わる。 -/
def httpRxChunkLen (arch : Arch) (h : HttpRequest) (length : Bytes) : HttpRequest × Rc :=
  if length = [] then (h, .ok)
  else
    let (n, endp) := strtoul arch length 16
    let h := { h with chunkRemaining := n }
    if endp ≠ [] then (h, .einvalChunkLength)
    else if n = 0 then ({ h with chunked := false, rxState := .trailer }, .ok)
    else ({ h with rxState := .data }, .ok)

/-- 表 `http_line_handlers`。行は C 文字列として渡る。 -/
def httpLineHandler (arch : Arch) (env : Env) (h : HttpRequest) (line : Bytes) :
    HttpRequest × Rc :=
  match h.rxState with
  | .response => httpRxResponse arch h line
  | .header => httpRxHeader arch env h line
  | .chunkLen => httpRxChunkLen arch h line
  | _ => httpRxHeader arch env h line

/-! ## `http_socket_deliver` -/

/-- loop 一回の結果。続けるなら残りの byte 列、`goto done` なら `rc`。 -/
inductive Next
  | more (rest : Bytes)
  | done (rc : Rc)
  deriving DecidableEq, Repr

/-- `HTTP_RX_DATA` で一回に渡す長さ。`chunk_remaining` と `remaining` は、0 でなければ
長さを切り詰める。 -/
def dataLen (h : HttpRequest) (iob : Bytes) : Nat :=
  let n := if h.chunkRemaining ≠ 0 ∧ h.chunkRemaining < iob.length then h.chunkRemaining
    else iob.length
  if h.remaining ≠ 0 ∧ h.remaining < n then h.remaining else n

/-- 受け取った `n` byte の行き先。再送を待つなら捨て、buffer があれば `copy_to_user`、
なければ上位に渡す。残りの byte 列を返し、上位が失敗すれば `none`。 -/
def dataDeliver (env : Env) (h : HttpRequest) (iob : Bytes) (n : Nat) :
    Option (HttpRequest × Bytes) :=
  if h.flags.tryAgain then some (h, iob.drop n)
  else if h.rxBuffer then some ({ h with copies := h.copies ++ [(h.rxLen, iob.take n)] }, iob.drop n)
  else if env.lowerOk then some (h, if n < iob.length then iob.drop n else [])
  else none

/-- 渡した `n` byte の勘定。`remaining` が 0 になったときに `http_done` を呼ぶのは、
状態がまだ `HTTP_RX_DATA` のときだけである。 -/
def dataAccount (arch : Arch) (h : HttpRequest) (n : Nat) : HttpRequest :=
  let h := { h with rxLen := (h.rxLen + n) % 2 ^ arch.longBits }
  let h : HttpRequest := if h.chunkRemaining ≠ 0 then
      let h : HttpRequest := { h with chunkRemaining := h.chunkRemaining - n }
      if h.chunkRemaining = 0 then { h with rxState := .chunkLen } else h
    else h
  if h.remaining ≠ 0 then
    let h : HttpRequest := { h with remaining := h.remaining - n }
    if h.remaining = 0 ∧ h.rxState = .data then httpDone h else h
  else h

/-- `HTTP_RX_DATA` での一回。 -/
def rxData (arch : Arch) (env : Env) (h : HttpRequest) (iob : Bytes) : HttpRequest × Next :=
  match dataDeliver env h iob (dataLen h iob) with
  | none => (h, .done .lower)
  | some (h', rest) => (dataAccount arch h' (dataLen h iob), .more rest)

/-- 行を読む状態での一回。行がそろえば状態ごとの処理に渡す。 -/
def rxLine (arch : Arch) (env : Env) (h : HttpRequest) (iob : Bytes) :
    Except Fault (HttpRequest × Next) := do
  let (lb, consumed) ← lineBuffer env.allocOk h.linebuf iob
  let h := { h with linebuf := lb }
  match consumed with
  | none => return (h, .done .enomem)
  | some n =>
    if lb.ready then
      let (h, rc) := httpLineHandler arch env h (cstr lb.data)
      if rc ≠ .ok then return (h, .done rc) else return (h, .more (iob.drop n))
    else return (h, .more (iob.drop n))

/-- `while` の一回。 -/
def deliverOnce (arch : Arch) (env : Env) (h : HttpRequest) (iob : Bytes) :
    Except Fault (HttpRequest × Next) :=
  match h.rxState with
  | .idle => .ok (h, .done .eprotoUnsolicited)
  | .dead => .ok (h, .done .ok)
  | .data => .ok (rxData arch env h iob)
  | _ => rxLine arch env h iob

/-- `while ( iobuf && iob_len ( iobuf ) )`。一回ごとに少なくとも一 byte を消費するので、
`fuel` には buffer の長さを与える。 -/
def deliverLoop (arch : Arch) (env : Env) : Nat → HttpRequest → Bytes →
    Except Fault (HttpRequest × Rc)
  | 0, h, _ => .ok (h, .ok)
  | fuel + 1, h, iob =>
    if iob = [] then .ok (h, .ok)
    else do
      let (h, next) ← deliverOnce arch env h iob
      match next with
      | .done rc => return (h, rc)
      | .more rest => deliverLoop arch env fuel h rest

/-- `http_socket_deliver`。`goto done` の `rc` が 0 でなければ `http_close`。 -/
def httpSocketDeliver (arch : Arch) (env : Env) (h : HttpRequest) (iob : Bytes) :
    Except Fault HttpRequest := do
  let (h, rc) ← deliverLoop arch env iob.length h iob
  return if rc ≠ .ok then httpClose h rc else h

/-! ## socket の終わりと再送 -/

/-- `http_socket_close`。 -/
def httpSocketClose (h : HttpRequest) (rc : Rc) : HttpRequest :=
  if rc ≠ .ok then httpClose h rc else httpDone h

/-- `http_retry`。必要なら socket を開き直し、`HTTP_TRY_AGAIN` なら要求を送り直す。 -/
def httpRetry (env : Env) (h : HttpRequest) : HttpRequest :=
  let h := { h with timerRunning := false }
  let reopened := if h.flags.reopenSocket then
      let h := { h with flags := { h.flags with reopenSocket := false } }
      if env.lowerOk then some h else none
    else some h
  match reopened with
  | none => httpClose { h with flags := { h.flags with reopenSocket := false } } .lower
  | some h =>
    if h.flags.tryAgain then
      { h with flags := { h.flags with tryAgain := false, txPending := true },
               rxState := .response, processActive := true }
    else h

/-! ## 実行 -/

/-- HTTP 接続に届く事象。 -/
inductive Event
  /-- block device からの `block_read`。`lba` と `count` は呼び出し側の値。 -/
  | blockRead (lba count : Nat)
  /-- `partial_read`（`buffer != UNULL` かどうかと長さ）。 -/
  | partialRead (offset : Nat) (buffer : Bool) (len : Nat)
  /-- process による `http_step`。 -/
  | tx (env : Env)
  /-- socket からの I/O buffer。 -/
  | deliver (iob : Bytes) (env : Env)
  /-- socket が閉じた。 -/
  | socketClose (rc : Rc)
  /-- 再送 timer の満了。 -/
  | retry (env : Env)

/-- 一つの事象を処理する。process と timer は動いているときだけ走る。 -/
def step (arch : Arch) : Except Fault HttpRequest → Event → Except Fault HttpRequest
  | .error f, _ => .error f
  | .ok h, .blockRead lba count => .ok (httpBlockRead arch h lba count).1
  | .ok h, .partialRead offset buffer len => .ok (httpPartialRead h offset buffer len).1
  | .ok h, .tx env => if h.processActive then httpStep arch env h else .ok h
  | .ok h, .deliver iob env => httpSocketDeliver arch env h iob
  | .ok h, .socketClose rc => .ok (httpSocketClose h rc)
  | .ok h, .retry env => .ok (if h.timerRunning then httpRetry env h else h)

/-- 前の読み出しを `http_done` で終えて待機している接続。 -/
def HttpRequest.idle (hasUser : Bool) : HttpRequest :=
  { flags := { Flags.none with clientKeepalive := true, serverKeepalive := true },
    partialStart := 0, partialLen := 0, rxState := .idle, code := 200, rxLen := 0,
    remaining := 0, chunked := false, chunkRemaining := 0, linebuf := Linebuf.empty,
    rxBuffer := false, hasUser, partialIntf := .unplugged, processActive := false,
    timerRunning := false, copies := [], sent := [] }

/-- `http_open_filter` が作る要求。`zalloc` の後で `flags = HTTP_TX_PENDING` とし、process を
動かす。受け取り先は上位の `xfer` で、partial interface はつながっていない。 -/
def HttpRequest.opened (hasUser : Bool) : HttpRequest :=
  { flags := { Flags.none with txPending := true }, partialStart := 0, partialLen := 0,
    rxState := .response, code := 0, rxLen := 0, remaining := 0, chunked := false,
    chunkRemaining := 0, linebuf := Linebuf.empty, rxBuffer := false, hasUser,
    partialIntf := .unplugged, processActive := true, timerRunning := false, copies := [], sent := [] }

/-- 待機中の接続から事象の列を処理する。 -/
def runHttp (arch : Arch) (hasUser : Bool) (es : List Event) : Except Fault HttpRequest :=
  run (step arch) (.ok (HttpRequest.idle hasUser)) es

end FlexBoot.Http
