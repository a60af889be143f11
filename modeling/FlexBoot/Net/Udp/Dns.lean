import FlexBoot.Infra.Buffer
import FlexBoot.Infra.Bytes

/-!
# DNS の名前（`net/udp/dns.c` の `dns_encode` から `dns_skip` まで）

RFC 1035 の名前は label の列で、label は長さの一 byte と中身、最後に長さ 0 の root が来る。
長さの byte の上の二 bit が立っていれば（`DNS_IS_COMPRESSED`）、それと次の byte は前にある
名前を指す圧縮の pointer である。

* `dns_encode` は `.` で区切った文字列を一文字ずつ読み、一つ先の位置に写してから、label の
  頭の長さの byte を書き直す。`dns_name` の `len` を越える所には書かない。
* `dns_label` は pointer を辿って次の label を探す。pointer は前を指すものしか認めない。
* `dns_decode`、`dns_compare`、`dns_copy`、`dns_skip` は `dns_label` で label を一つずつ読む
  loop で、`recursion_limit = name->len` 回で打ち切る。

## model

`struct dns_name` の `data` と `len` は一つの byte 列で表す（`len` はその長さ）。書き込みは
その列の上の `List.set` と `splice` である。`dns_decode` の出力 buffer も、長さ `len` の
byte 列として与える。C の `int` の戻り値はその値の `Nat` で表す。`dst - start` が `int` を
越えるのは 2 GiB を越える名前だけで、それは扱わない。
-/

namespace FlexBoot.Dns

open Infra

/-- 失敗の理由。 -/
inductive Rc
  | einval
  | enoent
  deriving DecidableEq, Repr

/-- `struct dns_name`。`len` は `data` の長さである。 -/
structure DnsName where
  data : Bytes
  offset : Nat
  deriving DecidableEq, Repr

/-- `name->len`。 -/
def DnsName.len (name : DnsName) : Nat := name.data.length

/-- `'.'`。 -/
def dot : UInt8 := 46

/-- `DNS_MAX_LABEL_LEN`。 -/
def dnsMaxLabelLen : Nat := 0x3f

/-! ## `dns_encode` -/

/-- `dns_encode` の loop の一文字分の判定。`c` は今の文字、`next` はその次の文字
（`*string`）。新しい `len` を返す。`none` は末尾の `.` で loop を抜けること。 -/
def dnsEncodeLength (start : Nat) (c next : UInt8) (dst len : Nat) : Except Rc (Option Nat) :=
  if c = dot then
    -- 続く `.` は認めない
    if len = 0 ∧ dst ≠ start then .error .einval
    else if next = 0 then .ok none
    -- 先頭の `.` は、それだけで終わる名前でなければ認めない
    else if len = 0 then .error .einval
    else .ok (some 0)
  else if dnsMaxLabelLen < len + 1 then .error .einval
  else .ok (some (len + 1))

/-- `dns_encode` の loop。`dst` と `len` と書いている buffer を持つ。`stop` は `end`。
返すのは buffer と、抜けたときの `dst` と `len`。 -/
def dnsEncodeLoop (start stop : Nat) : Bytes → Nat → Nat → Bytes → Bytes × Except Rc (Nat × Nat)
  | [], dst, len, buf => (buf, .ok (dst, len))
  | c :: string, dst, len, buf =>
    if c = 0 then (buf, .ok (dst, len))
    else
      match dnsEncodeLength start c (string.headD 0) dst len with
      | .error rc => (buf, .error rc)
      | .ok none => (buf, .ok (dst, len))
      | .ok (some len) =>
        -- 一つ先に写し、`dst[-len]` に label の長さを書く（`.` では `len = 0` なので 0）
        let dst := dst + 1
        let buf := if dst < stop then (buf.set dst c).set (dst - len) (UInt8.ofNat len) else buf
        dnsEncodeLoop start stop string dst len buf

/-- `dns_encode ( string, name )`。書いた後の `name->data` と、名前の長さ。 -/
def dnsEncode (string : Bytes) (name : DnsName) : Bytes × Except Rc Nat :=
  match dnsEncodeLoop name.offset name.len string name.offset 0 name.data with
  | (buf, .error rc) => (buf, .error rc)
  | (buf, .ok (dst, len)) =>
    -- 最後の label の後ろに root の 0 を置く
    let dst := if len ≠ 0 then dst + 1 else dst
    let buf := if dst < name.len then buf.set dst 0 else buf
    (buf, .ok (dst + 1 - name.offset))

/-! ## `dns_label` -/

/-- `offset` の byte を長さとして読む。 -/
def labelLen (name : DnsName) (offset : Nat) : Nat := (name.data.getD offset 0).toNat

/-- `offset` の label の中身。 -/
def labelAt (name : DnsName) (offset : Nat) : Bytes :=
  (name.data.drop (offset + 1)).take (labelLen name offset)

/-- `DNS_IS_COMPRESSED ( byte )`。 -/
def isCompressed (byte : UInt8) : Bool := byte &&& 0xc0 != 0

/-- `dns_label ( name, offset )`。pointer は前へしか辿らないので `offset` で止まる。 -/
@[semireducible] def dnsLabel (name : DnsName) (offset : Nat) : Except Rc Nat :=
  if name.len < offset + 1 then .error .einval
  else if isCompressed (name.data.getD offset 0) then
    if name.len < offset + 2 then .error .einval
    else
      -- `DNS_COMPRESSED_OFFSET ( ntohs ( *word ) )`：下の 14 bit
      let ptr := be16 name.data offset % 0x4000
      if _h : offset ≤ ptr then .error .einval
      else dnsLabel name ptr
  else if name.len < offset + 1 + labelLen name offset then .error .einval
  else .ok offset
termination_by offset

/-! ## `dns_decode` -/

/-- `dns_decode` の loop。`limit` は残りの `recursion_limit`、`ptr` は出力の `data` の位置。
`len` は出力 buffer の長さ。 -/
def dnsDecodeLoop (name : DnsName) (len : Nat) :
    Nat → Nat → Nat → Nat → Bytes → Bytes × Except Rc Nat
  | 0, _, _, _, data => (data, .error .einval)
  | limit + 1, offset, decodedLen, ptr, data =>
    match dnsLabel name offset with
    | .error rc => (data, .error rc)
    | .ok offset =>
      let labelLen := labelLen name offset
      if labelLen = 0 then ((if decodedLen < len then data.set ptr 0 else data), .ok decodedLen)
      else
        -- `decoded_len && ( decoded_len++ < len )`：0 でなければ数え、入るなら `.` を書く
        let (decodedLen, ptr, data) :=
          if decodedLen = 0 then (decodedLen, ptr, data)
          else if decodedLen < len then (decodedLen + 1, ptr + 1, data.set ptr dot)
          else (decodedLen + 1, ptr, data)
        -- `len - decoded_len` は入らないとき 0（`Nat` の引き算がそれに当たる）
        let copyLen := min (len - decodedLen) labelLen
        let data := splice data ptr ((labelAt name offset).take copyLen)
        dnsDecodeLoop name len limit (offset + 1 + labelLen) (decodedLen + labelLen) (ptr + copyLen) data

/-- `dns_decode ( name, data, len )`。出力 buffer の後の中身と、文字列の長さ。 -/
def dnsDecode (name : DnsName) (data : Bytes) : Bytes × Except Rc Nat :=
  dnsDecodeLoop name data.length name.len name.offset 0 0 data

/-! ## `dns_compare` -/

/-- `tolower`（`ctype.h`）。`c -= 'A' - 'a'` は `unsigned char` で 32 を足すことである。 -/
def tolower (c : UInt8) : UInt8 := if 65 ≤ c ∧ c ≤ 90 then c + 32 else c

/-- `dns_compare` の loop。二つの名前を同じ回数だけ進める。 -/
def dnsCompareLoop (first second : DnsName) : Nat → Nat → Nat → Except Rc Unit
  | 0, _, _ => .error .einval
  | limit + 1, firstOffset, secondOffset =>
    match dnsLabel first firstOffset with
    | .error rc => .error rc
    | .ok firstOffset =>
      match dnsLabel second secondOffset with
      | .error rc => .error rc
      | .ok secondOffset =>
        let len := labelLen first firstOffset
        if len ≠ labelLen second secondOffset then .error .enoent
        else if len = 0 then .ok ()
        -- 中身は大文字と小文字を区別せずに比べる
        else if (labelAt first firstOffset).map tolower ≠ (labelAt second secondOffset).map tolower then
          .error .enoent
        else dnsCompareLoop first second limit (firstOffset + 1 + len) (secondOffset + 1 + len)

/-- `dns_compare ( first, second )`。`recursion_limit` は `first->len` である。 -/
def dnsCompare (first second : DnsName) : Except Rc Unit :=
  dnsCompareLoop first second first.len first.offset second.offset

/-! ## `dns_copy` -/

/-- `dns_copy` の loop。label を長さの byte ごと、圧縮しない形で `dst` に写す。`dstLen` は
`dst->len`、`dstStart` は `dst->offset`。 -/
def dnsCopyLoop (src : DnsName) (dstStart dstLen : Nat) : Nat → Nat → Nat → Bytes → Bytes × Except Rc Nat
  | 0, _, _, data => (data, .error .einval)
  | limit + 1, srcOffset, dstOffset, data =>
    match dnsLabel src srcOffset with
    | .error rc => (data, .error rc)
    | .ok srcOffset =>
      let labelLen := labelLen src srcOffset
      let len := 1 + labelLen
      let copyLen := min (dstLen - dstOffset) len
      let data := splice data dstOffset ((src.data.drop srcOffset).take copyLen)
      if labelLen = 0 then (data, .ok (dstOffset + len - dstStart))
      else dnsCopyLoop src dstStart dstLen limit (srcOffset + len) (dstOffset + len) data

/-- `dns_copy ( src, dst )`。書いた後の `dst->data` と、写した名前の長さ。 -/
def dnsCopy (src dst : DnsName) : Bytes × Except Rc Nat :=
  dnsCopyLoop src dst.offset dst.len src.len src.offset dst.offset dst.data

/-! ## `dns_skip` -/

/-- `dns_skip` の loop。pointer に出会えば、その二 byte の後ろで止まる。 -/
def dnsSkipLoop (name : DnsName) : Nat → Nat → Except Rc Nat
  | 0, _ => .error .einval
  | limit + 1, prevOffset =>
    match dnsLabel name prevOffset with
    | .error rc => .error rc
    | .ok offset =>
      if offset ≠ prevOffset then .ok (prevOffset + 2)
      else
        let labelLen := labelLen name offset
        if labelLen = 0 then .ok (offset + 1 + labelLen)
        else dnsSkipLoop name limit (offset + 1 + labelLen)

/-- `dns_skip ( name )`。名前の次の位置。 -/
def dnsSkip (name : DnsName) : Except Rc Nat := dnsSkipLoop name name.len name.offset

end FlexBoot.Dns
