import FlexBoot.Infra.Buffer
import FlexBoot.Infra.Bytes

/-!
# PXE の boot menu を読む（`usr/pxemenu.c` の `pxe_menu_parse`）

DHCP の PXE boot menu の option は item の列で、item は 16 bit の type、8 bit の `desc_len`、
`desc_len` byte の説明である。boot menu prompt の option は timeout の一 byte と prompt の文字列。

`pxe_menu_parse` は menu の option を 256 byte の buffer に読み、途中で切れない item を数え、
一つの領域 `zalloc ( sizeof ( **menu ) + num_items * sizeof ( item ) + raw_menu_len + 1 +
raw_prompt_len + 1 )` を取る。item の表の後ろ（ここでは文字列の領域と呼ぶ）に option をそのまま
写し、item ごとに type を読んでから、その item の type の二 byte を 0 にする。それが一つ前の
item の説明の終わりの NUL になる。最後の item の説明は、その後ろの byte で終わるとしている。
prompt は最後の item の一 byte 後ろに読む。

## model

二つの setting の値は、`fetch_raw_setting` が見つけた byte 列として与える（見つからなければ
`none`）。説明と prompt は文字列の領域の中の offset で表し、C の文字列として読むのは
`Infra.cstr` である。`zalloc` が成功するかどうかは `allocOk` で与える。
-/

namespace FlexBoot.Pxemenu

open Infra

/-- 失敗の理由。 -/
inductive Rc
  | enoent
  | enospc
  | enomem
  deriving DecidableEq, Repr

/-- `struct pxe_menu_item`。`desc` は文字列の領域の中の offset である。 -/
structure PxeMenuItem where
  type : Nat
  desc : Nat
  deriving DecidableEq, Repr

/-- `struct pxe_menu` と、その後ろの文字列の領域。`prompt` が `none` なら `NULL` である。 -/
structure PxeMenu where
  prompt : Option Nat
  timeout : Int
  items : List PxeMenuItem
  strings : Bytes
  deriving DecidableEq, Repr

/-- `sizeof ( struct dhcp_pxe_boot_menu )`：type と `desc_len` の三 byte。 -/
def menuItemHeaderLen : Nat := 3

/-- item の数を数える loop。item の header か説明が `raw_menu_len` を越えれば止まる。 -/
@[semireducible] def countMenuItems (raw : Bytes) (len offset count : Nat) : Nat :=
  if len < offset + menuItemHeaderLen then count
  else if len < offset + menuItemHeaderLen + (raw.getD (offset + 2) 0).toNat then count
  else countMenuItems raw len (offset + menuItemHeaderLen + (raw.getD (offset + 2) 0).toNat) (count + 1)
termination_by len - offset
decreasing_by
  simp only [menuItemHeaderLen] at *
  omega

/-- 表を埋める loop：type を little-endian で読み、説明の位置を覚え、type の二 byte を 0 にして
次へ進む。返すのは item、書き換えた文字列の領域、最後の item の後ろの offset。 -/
def fillMenuItems : Nat → Bytes → Nat → List PxeMenuItem × Bytes × Nat
  | 0, strings, offset => ([], strings, offset)
  | n + 1, strings, offset =>
    let item : PxeMenuItem :=
      ⟨(strings.getD offset 0).toNat + 256 * (strings.getD (offset + 1) 0).toNat, offset + menuItemHeaderLen⟩
    let cleared := (strings.set offset 0).set (offset + 1) 0
    let rest := fillMenuItems n cleared (offset + menuItemHeaderLen + (cleared.getD (offset + 2) 0).toNat)
    (item :: rest.1, rest.2)

/-- `pxe_menu_parse`。 -/
def pxeMenuParse (allocOk : Bool) (rawMenuSetting rawPromptSetting : Option Bytes) : Except Rc PxeMenu :=
  match rawMenuSetting with
  | none => .error .enoent
  | some menu =>
    if 256 ≤ menu.length then .error .enospc
    else
      let rawMenu := menu ++ List.replicate (256 - menu.length) 0
      let rawPromptLen := (rawPromptSetting.getD []).length
      let numMenuItems := countMenuItems rawMenu menu.length 0 0
      if !allocOk then .error .enomem
      else
        -- 文字列の領域は `raw_menu_len + 1 + raw_prompt_len + 1` byte で、頭に option を写す
        let strings := menu ++ List.replicate (1 + rawPromptLen + 1) 0
        let filled := fillMenuItems numMenuItems strings 0
        if rawPromptLen ≠ 0 then
          let strings := splice filled.2.1 (filled.2.2 + 1) (rawPromptSetting.getD [])
          let timeout := (strings.getD (filled.2.2 + 1) 0).toNat
          .ok ⟨some (filled.2.2 + 2), if timeout = 0xff then -1 else timeout, filled.1, strings⟩
        else .ok ⟨none, -1, filled.1, filled.2.1⟩

/-- 文字列の領域の offset `i` から読む C の文字列。 -/
def cstrAt (strings : Bytes) (i : Nat) : Bytes := cstr (strings.drop i)

end FlexBoot.Pxemenu
