import FlexBoot.Core.Misc

/-!
# DHCP の option の塊（`net/dhcpopts.c`）

option の塊は byte 列で、option は `tag`、`len`、`len` byte の data の順に並ぶ。`DHCP_PAD` と
`DHCP_END` だけは `tag` の一 byte である。`tag` が `DHCP_ENCAP_OPT ( encapsulator, encapsulated )`
の option は、`encapsulator` の option の data の中に入れ子の option として置かれる。

* `find_dhcp_option_with_encap` — 使った長さ `used_len` の中を option ごとに進んで `tag` を探す。
  入れ子の `tag` なら、`encapsulator` の option に着いたところで残りの長さをその option の長さに
  置き直し、header の後から入れ子の `tag` を探す
* `resize_dhcp_option` — option の長さを変え、後ろの option を動かし、必要なら確保をやり直す
* `set_dhcp_option` — option を書き、なければ作る。入れ子の option には先に空の `encapsulator` を
  作り、書いた後で空になった `encapsulator` を消す
* `dhcpopt_store`、`dhcpopt_fetch` — setting として書き、読む

## model

確保した領域は byte 列 `data` で、その長さが `alloc_len` である。memory は `data.getD i 0` で読み、
確保の外の byte は 0 と読む。`options->realloc` は確保の長さと求める長さから新しい確保の長さか
誤りを返す関数で、成功すれば求めた長さ以上を確保する（`DhcpRealloc`）。確保が伸びた所は
`resize_dhcp_option` が 0 で埋める。

`set_dhcp_option` は `encapsulator` の `tag` で自分を呼ぶ。`tag >> 8` は `tag` より小さいので、
この再帰は止まる。`encap_offset` が 0 以上になるのは入れ子の `tag` のときだけなので、最後の
`encapsulator` の削除も入れ子の枝に置く。

`resize_dhcp_option` の `memmove` の長さ `new_used_len - offset - new_len` は `size_t` で、動かす
option が `used_len` の外まであると巻き戻り、確保の外まで写す。そこでは `DhcpRc.fault` で止まる。
`new_used_len = used_len + delta` の方は、`set_dhcp_option` の渡す `old_len` が `used_len` を超えない
（`oldLen_le_usedLen`）ので巻き戻らず、自然数の引き算で書く。
-/

namespace FlexBoot.Dhcp

open Infra

/-! ## 定数 -/

/-- `DHCP_PAD`。 -/
def dhcpPad : Nat := 0

/-- `DHCP_END`。 -/
def dhcpEnd : Nat := 255

/-- `DHCP_OPTION_HEADER_LEN`：`tag` と `len` の二 byte。 -/
def dhcpOptionHeaderLen : Nat := 2

/-- `DHCP_MAX_LEN`。 -/
def dhcpMaxLen : Nat := 0xff

/-- `DHCP_ENCAP_OPT ( encapsulator, encapsulated )`。 -/
def dhcpEncapOpt (encapsulator encapsulated : Nat) : Nat := (encapsulator <<< 8) ||| encapsulated

/-- `DHCP_ENCAPSULATOR ( encap_opt )`。0 でなければ入れ子の `tag` である（`DHCP_IS_ENCAP_OPT`）。 -/
def dhcpEncapsulator (tag : Nat) : Nat := tag >>> 8

/-- `DHCP_ENCAPSULATED ( encap_opt )`。 -/
def dhcpEncapsulated (tag : Nat) : Nat := tag &&& 0xff

theorem dhcpEncapsulator_lt {tag : Nat} (h : ¬dhcpEncapsulator tag = 0) : dhcpEncapsulator tag < tag := by
  unfold dhcpEncapsulator at *
  rw [Nat.shiftRight_eq_div_pow] at *
  omega

theorem dhcpEncapsulator_encapsulated (tag : Nat) : dhcpEncapsulator (dhcpEncapsulated tag) = 0 := by
  have h : tag &&& 0xff < 256 := Nat.lt_of_le_of_lt Nat.and_le_right (by decide)
  simp only [dhcpEncapsulator, dhcpEncapsulated, Nat.shiftRight_eq_div_pow]
  omega

/-! ## 塊と確保 -/

/-- 失敗の理由。`options->realloc` はどれを返してもよい。 -/
inductive DhcpRc
  | enoent
  | enospc
  | enotty
  | enomem
  /-- 確保した長さの外に触れた（C の未定義動作）。 -/
  | fault (f : Fault)
  deriving DecidableEq, Repr

/-- `struct dhcp_options`。`alloc_len` は `data` の長さである。 -/
structure DhcpOptions where
  data : Bytes
  usedLen : Nat
  deriving DecidableEq, Repr

/-- `options->realloc ( options, len )`。確保の長さと求める長さから、新しい確保の長さを返す。 -/
structure DhcpRealloc where
  realloc : Nat → Nat → Except DhcpRc Nat
  le_of_ok : ∀ {allocLen len a}, realloc allocLen len = .ok a → len ≤ a

/-- `dhcpopt_no_realloc`：確保の中に収まるときだけ成功し、確保は変えない。 -/
def dhcpoptNoRealloc : DhcpRealloc where
  realloc allocLen len := if len ≤ allocLen then .ok allocLen else .error .enospc
  le_of_ok {allocLen len a} h := by
    split at h
    · cases h
      assumption
    · cases h

/-- 確保の長さを `a` にした領域。伸びた所は 0 である。 -/
def reallocData (data : Bytes) (a : Nat) : Bytes := data.take a ++ List.replicate (a - data.length) 0

/-! ## option -/

/-- `dhcp_option ( options, offset )->tag`。 -/
def optTag (data : Bytes) (offset : Nat) : Nat := (data.getD offset 0).toNat

/-- `dhcp_option ( options, offset )->len`。 -/
def optLenField (data : Bytes) (offset : Nat) : Nat := (data.getD (offset + 1) 0).toNat

/-- `dhcp_option_len`：`DHCP_PAD` と `DHCP_END` は一 byte、ほかは header と data の長さ。 -/
def dhcpOptionLen (data : Bytes) (offset : Nat) : Nat :=
  if optTag data offset = dhcpEnd ∨ optTag data offset = dhcpPad then 1
  else optLenField data offset + dhcpOptionHeaderLen

theorem dhcpOptionLen_pos (data : Bytes) (offset : Nat) : 0 < dhcpOptionLen data offset := by
  unfold dhcpOptionLen dhcpOptionHeaderLen
  split <;> omega

theorem dhcpOptionLen_le (data : Bytes) (offset : Nat) : dhcpOptionLen data offset ≤ 257 := by
  have := (data.getD (offset + 1) 0).toNat_lt
  unfold dhcpOptionLen optLenField dhcpOptionHeaderLen
  split <;> omega

/-- `data` の位置 `pos` からの `n` byte。確保の外は 0 と読む。 -/
def bytesAt (data : Bytes) (pos n : Nat) : Bytes := (List.range n).map fun i => data.getD (pos + i) 0

/-! ## 探す -/

/-- `find_dhcp_option_with_encap` の loop。返すのは見つけた offset と、`*encap_offset` に書いた値。
`remaining` は `ssize_t` で、option の長さを引いて負になれば止まる。 -/
@[semireducible] def findLoop (data : Bytes) (tag offset remaining : Nat) (encapOffset : Option Nat) :
    Option Nat × Option Nat :=
  if remaining = 0 then (none, encapOffset)
  else if remaining < dhcpOptionLen data offset then (none, encapOffset)
  else if optTag data offset = dhcpEnd then
    (if tag = dhcpEnd then some offset else none, encapOffset)
  else if optTag data offset = tag then (some offset, encapOffset)
  else if _h : dhcpEncapsulator tag ≠ 0 ∧ optTag data offset = dhcpEncapsulator tag then
    -- `remaining` は `encapsulator` の option の長さ（header を含む）に置き直す
    findLoop data (dhcpEncapsulated tag) (offset + dhcpOptionHeaderLen) (dhcpOptionLen data offset)
      (some offset)
  else findLoop data tag (offset + dhcpOptionLen data offset) (remaining - dhcpOptionLen data offset)
    encapOffset
termination_by dhcpEncapsulator tag * 512 + remaining
decreasing_by
  · have := dhcpOptionLen_le data offset
    rw [dhcpEncapsulator_encapsulated]
    omega
  · have := dhcpOptionLen_pos data offset
    omega

/-- `find_dhcp_option_with_encap ( options, tag, encap_offset )`。 -/
def findDhcpOptionWithEncap (o : DhcpOptions) (tag : Nat) : Option Nat × Option Nat :=
  if tag = dhcpPad then (none, none) else findLoop o.data tag 0 o.usedLen none

/-- `dhcpopt_fetch ( options, tag, data, len )`：option の data の長さと、buffer に写す先頭の
`len` byte。 -/
def dhcpoptFetch (o : DhcpOptions) (tag len : Nat) : Except DhcpRc (Nat × Bytes) :=
  match (findDhcpOptionWithEncap o tag).1 with
  | none => .error .enoent
  | some offset => .ok (optLenField o.data offset, bytesAt o.data (offset + 2) (min len (optLenField o.data offset)))

/-! ## 長さを変える -/

/-- `resize_dhcp_option` の「Expand options block, if necessary」。 -/
def expandOptions (R : DhcpRealloc) (o : DhcpOptions) (newUsedLen : Nat) : Except DhcpRc DhcpOptions :=
  if o.data.length < newUsedLen then
    match R.realloc o.data.length newUsedLen with
    | .error rc => .error rc
    | .ok a => .ok { o with data := reallocData o.data a }
  else .ok o

/-- `resize_dhcp_option` の「Update encapsulator, if applicable」。`new_encapsulator_len` は
`size_t` なので、負になれば巻き戻って `DHCP_MAX_LEN` を超える。 -/
def updateEncapsulator (data : Bytes) (encapOffset : Option Nat) (delta : Int) : Option Bytes :=
  match encapOffset with
  | none => some data
  | some e =>
    let newEncapsulatorLen : Int := optLenField data e + delta
    if newEncapsulatorLen < 0 ∨ (dhcpMaxLen : Int) < newEncapsulatorLen then none
    else some (data.set (e + 1) (UInt8.ofNat newEncapsulatorLen.toNat))

/-- `memmove ( data + dest, data + src, len )`。 -/
def memmove (data : Bytes) (dest src len : Nat) : Bytes := splice data dest ((data.drop src).take len)

/-- `resize_dhcp_option ( options, offset, encap_offset, old_len, new_len )`。 -/
def resizeDhcpOption (R : DhcpRealloc) (o : DhcpOptions) (offset : Nat) (encapOffset : Option Nat)
    (oldLen newLen : Nat) : DhcpOptions × Except DhcpRc Unit :=
  if dhcpMaxLen < newLen then (o, .error .enospc)
  else
    let newUsedLen := o.usedLen + newLen - oldLen
    match expandOptions R o newUsedLen with
    | .error rc => (o, .error rc)
    | .ok o =>
      match updateEncapsulator o.data encapOffset ((newLen : Int) - oldLen) with
      | none => (o, .error .enospc)
      | some data =>
        -- `new_used_len - offset - new_len` が負なら、`size_t` で巻き戻った長さを写して確保の外に出る
        if newUsedLen < offset + newLen then
          (⟨data, newUsedLen⟩, .error (.fault (.outOfBounds data.length data.length)))
        else
          let data := memmove data (offset + newLen) (offset + oldLen) (newUsedLen - offset - newLen)
          -- 「Shrink options block, if applicable」は `used_len` を書き換えた後にある
          if newUsedLen < data.length then
            match R.realloc data.length newUsedLen with
            | .error rc => (⟨data, newUsedLen⟩, .error rc)
            | .ok a => (⟨reallocData data a, newUsedLen⟩, .ok ())
          else (⟨data, newUsedLen⟩, .ok ())

/-- option を `offset` に置く：長さを変え、data があれば `tag`、`len`、data を書く。 -/
def placeOption (R : DhcpRealloc) (o : DhcpOptions) (tag : Nat) (value : Bytes) (offset : Nat)
    (encapOffset : Option Nat) (oldLen newLen : Nat) : DhcpOptions × Except DhcpRc Nat :=
  match resizeDhcpOption R o offset encapOffset oldLen newLen with
  | (o, .error rc) => (o, .error rc)
  | (o, .ok ()) =>
    if value.length = 0 then (o, .ok offset)
    else ({ o with data := splice o.data offset (UInt8.ofNat tag :: UInt8.ofNat value.length :: value) },
      .ok offset)

/-- `set_dhcp_option ( options, tag, data, len )`。`value` が空なら option を消す。 -/
@[semireducible] def setDhcpOption (R : DhcpRealloc) (o : DhcpOptions) (tag : Nat) (value : Bytes) :
    DhcpOptions × Except DhcpRc Nat :=
  if tag = dhcpPad then (o, .error .enotty)
  else
    let newLen := if value.length = 0 then 0 else value.length + dhcpOptionHeaderLen
    let creationOffset := (findDhcpOptionWithEncap o dhcpEnd).1.getD o.usedLen
    let found := findDhcpOptionWithEncap o tag
    let oldLen := match found.1 with
      | some offset => dhcpOptionLen o.data offset
      | none => 0
    if _h : dhcpEncapsulator tag = 0 then placeOption R o tag value (found.1.getD creationOffset) none oldLen newLen
    else
      -- `encapsulator` がなければ空のもの（`DHCP_END` だけ）を作る
      let ensured : DhcpOptions × Except DhcpRc Nat :=
        match found.2 with
        | some e => (o, .ok e)
        | none => setDhcpOption R o (dhcpEncapsulator tag) [0xff]
      match ensured with
      | (o, .error rc) => (o, .error rc)
      | (o, .ok e) =>
        match placeOption R o tag value (found.1.getD (e + dhcpOptionHeaderLen)) (some e) oldLen newLen with
        | (o, .error rc) => (o, .error rc)
        | (o, .ok offset) =>
          -- 中身が `DHCP_END` 一つ以下になった `encapsulator` を消す
          if optLenField o.data e ≤ 1 then ((setDhcpOption R o (dhcpEncapsulator tag) []).1, .ok offset)
          else (o, .ok offset)
termination_by tag
decreasing_by all_goals exact dhcpEncapsulator_lt _h

/-- `dhcpopt_store ( options, tag, data, len )`。 -/
def dhcpoptStore (R : DhcpRealloc) (o : DhcpOptions) (tag : Nat) (value : Bytes) :
    DhcpOptions × Except DhcpRc Unit :=
  match setDhcpOption R o tag value with
  | (o, .error rc) => (o, .error rc)
  | (o, .ok _) => (o, .ok ())

/-! ## 初めの `used_len` -/

/-- `dhcpopt_update_used_len` の loop：`DHCP_PAD` でない最後の option の終わりを覚える。 -/
@[semireducible] def updateUsedLenLoop (data : Bytes) (offset remaining usedLen : Nat) : Nat :=
  if remaining = 0 then usedLen
  else if remaining < dhcpOptionLen data offset then usedLen
  else updateUsedLenLoop data (offset + dhcpOptionLen data offset) (remaining - dhcpOptionLen data offset)
    (if optTag data offset = dhcpPad then usedLen else offset + dhcpOptionLen data offset)
termination_by remaining
decreasing_by
  have := dhcpOptionLen_pos data offset
  omega

/-- `dhcpopt_init ( options, data, alloc_len, realloc )`。 -/
def dhcpoptInit (data : Bytes) : DhcpOptions := ⟨data, updateUsedLenLoop data 0 data.length 0⟩

end FlexBoot.Dhcp
