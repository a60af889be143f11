import FlexBoot.Net.Tcp.Http

/-!
# HTTP の部分読み出しが buffer に書くもの

呼び出し側の buffer に書くのは `HTTP_RX_DATA` での `copy_to_user` だけで、書く位置は
いつも `rx_len`、長さは `remaining` と `chunk_remaining` のうち 0 でないもので切り詰めた値である。
ここではまずそれを一回分の処理について言う（`rxData_copies`）。

切り詰めは「0 でなければ」なので、chunk の境目で `remaining` がちょうど 0 になると、
次の chunk は `chunk_remaining` でしか切り詰められず、buffer の外に書く
（`http_chunked_read_writes_past_len`）。また `200` の応答も受け付けるので、資源の先頭が
buffer に入る（`http_block_read_accepts_whole_resource`）。
-/

namespace FlexBoot.Http

open Infra FlexBoot

variable {arch : Arch} {env : Env} {h : HttpRequest}

/-! ## 閉じる処理は buffer に触れない -/

@[simp] theorem httpClose_copies (h : HttpRequest) (rc : Rc) : (httpClose h rc).copies = h.copies :=
  rfl

@[simp] theorem httpClose_rxLen (h : HttpRequest) (rc : Rc) : (httpClose h rc).rxLen = h.rxLen :=
  rfl

theorem httpDone_copies (h : HttpRequest) : (httpDone h).copies = h.copies := by
  unfold httpDone
  dsimp only
  split_ifs <;> rfl

/-! ## `HTTP_RX_DATA` の一回 -/

theorem dataAccount_copies (h : HttpRequest) (n : Nat) :
    (dataAccount arch h n).copies = h.copies := by
  unfold dataAccount
  dsimp only
  -- `http_done` を呼ぶ枝だけが `httpDone_copies` を要る
  split_ifs
  all_goals first
    | rfl
    | exact httpDone_copies _

theorem dataDeliver_copies {iob rest : Bytes} {n : Nat} {h' : HttpRequest}
    (hd : dataDeliver env h iob n = some (h', rest)) :
    h'.copies = h.copies ∨ h'.copies = h.copies ++ [(h.rxLen, iob.take n)] := by
  unfold dataDeliver at hd
  split at hd
  · cases hd; exact .inl rfl
  split at hd
  · cases hd; exact .inr rfl
  split at hd
  · cases hd; exact .inl rfl
  · cases hd

/-- `HTTP_RX_DATA` の一回で buffer に書くのは、高々一つ、位置 `rx_len` に切り詰めた長さの
byte 列である。 -/
theorem rxData_copies (h : HttpRequest) (iob : Bytes) :
    (rxData arch env h iob).1.copies = h.copies ∨
      (rxData arch env h iob).1.copies = h.copies ++ [(h.rxLen, iob.take (dataLen h iob))] := by
  unfold rxData
  split
  · exact .inl rfl
  · next h' rest hd =>
    rw [dataAccount_copies]
    exact dataDeliver_copies hd

/-! ## 切り詰めが効かなくなる応答 -/

/-- `realloc`、下の層、窓がどれも成功する環境。 -/
def envAllOk : Env := { allocOk := true, lowerOk := true, socketWindow := true, xferWindow := true }

/-- 二つの 1 byte の chunk `A` と `B` からなる chunk 符号化の応答。 -/
def chunkedTwoBytes : Bytes :=
  ascii "HTTP/1.1 200 OK\r\nTransfer-Encoding: chunked\r\n\r\n1\r\nA\r\n1\r\nB\r\n0\r\n\r\n"

/-- 長さ 1 の読み出しで、一つ目の chunk の終わりに `remaining` が 0 になる。状態は
`HTTP_RX_CHUNK_LEN` に移っているので `http_done` は呼ばれず、二つ目の chunk は位置 1 に
書かれる。最後の chunk の後の空行で `http_done` が成功し、2 byte 書いた読み出しが 0 で終わる。 -/
theorem http_chunked_read_writes_past_len (arch : Arch) :
    (runHttp arch false [.partialRead 0 true 1, .tx envAllOk, .deliver chunkedTwoBytes envAllOk]).map
        (fun h => (h.copies, h.partialIntf)) =
      .ok ([(0, ascii "A"), (1, ascii "B")], .closed .ok) := by
  cases arch <;> decide +kernel

/-! ## `200` の応答と `size_t` の切り詰め -/

/-- 資源全体を返す `200` の応答の header。 -/
def okWholeResource : Bytes := ascii "HTTP/1.1 200 OK\r\nContent-Length: 1024\r\n\r\n"

/-- 二つの block からなる資源。block 0 は `A`、block 1 は `B` で埋まっている。 -/
def twoBlocks : Bytes := List.replicate 512 0x41 ++ List.replicate 512 0x42

/-- block 1 の読み出しに、server が RFC 7233 の許すとおり `200` で資源全体を返すと、
`http_response_to_rc` はそれを受け付け、buffer には block 0 が入って読み出しは 0 で終わる。
i386 では `lba * HTTP_BLKSIZE` が 32 bit の `size_t` に切り詰められ、block 2²³ の読み出しは
`Range: bytes=0-511`、つまり block 0 の要求になる。 -/
theorem http_block_read_accepts_whole_resource :
    ((runHttp .x86_64 false [.blockRead 1 1, .tx envAllOk, .deliver okWholeResource envAllOk,
        .deliver twoBlocks envAllOk]).map fun h => (h.sent, h.copies, h.partialIntf)) =
      .ok ([some (ascii "Range: bytes=512-1023\r\n")], [(0, twoBlocks.take 512)], .closed .ok) ∧
    twoBlocks.take 512 ≠ (twoBlocks.drop 512).take 512 ∧
    ((runHttp .i386 false [.blockRead (2 ^ 23) 1, .tx envAllOk]).map fun h => h.sent) =
      .ok [some (ascii "Range: bytes=0-511\r\n")] := by
  refine ⟨by decide +kernel, by decide +kernel, by decide +kernel⟩

end FlexBoot.Http
