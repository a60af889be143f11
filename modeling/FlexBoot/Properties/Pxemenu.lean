import FlexBoot.Usr.Pxemenu

/-!
# `pxe_menu_parse` の読んだ menu

1. どの入力でも、返す説明と prompt は文字列の領域の中の NUL で終わる
   （`pxeMenuParse_nulTerminated`）。item の表を埋める loop は数えた item の中にしか書かず、
   prompt は領域の最後の byte の手前で終わるので、`zalloc` の 0 の最後の byte が残る。
2. menu の option が途中で切れない item だけでできていれば、item の type と説明（最初の NUL か
   `desc_len` byte まで）、timeout と prompt は option のとおりである（`pxeMenuParse_encodeItems`）。
3. option の後ろに切れた item の byte が残ると、最後の item の説明はその byte まで続く
   （`pxeMenuParse_last_description_overruns`）。最後の説明の終わりの NUL は、最後の item の
   後ろの byte にあるとしているが、そこには option の残りが写されている。
-/

namespace FlexBoot.Pxemenu

open Infra

/-! ## 列の位置 -/

theorem getD_append_length (pre l : Bytes) (i : Nat) : (pre ++ l).getD (pre.length + i) 0 = l.getD i 0 := by
  simp only [List.getD_eq_getElem?_getD, List.getElem?_append_right (Nat.le_add_right _ _),
    Nat.add_sub_cancel_left]

theorem set_append_length (pre l : Bytes) (i : Nat) (x : UInt8) :
    (pre ++ l).set (pre.length + i) x = pre ++ l.set i x := by
  rw [List.set_append_right _ _ (Nat.le_add_right _ _), Nat.add_sub_cancel_left]

theorem getD_set_ne {l : Bytes} {i j : Nat} (x : UInt8) (h : i ≠ j) : (l.set i x).getD j 0 = l.getD j 0 := by
  simp only [List.getD_eq_getElem?_getD, List.getElem?_set_ne h]

/-- 0 を後ろに足しても、`getD _ 0` で読むものは変わらない。 -/
theorem getD_append_replicate_zero (l : Bytes) (k j : Nat) : (l ++ List.replicate k 0).getD j 0 = l.getD j 0 := by
  simp only [List.getD_eq_getElem?_getD]
  by_cases hj : j < l.length
  · rw [List.getElem?_append_left hj]
  · rw [List.getElem?_append_right (by omega), List.getElem?_replicate, List.getElem?_eq_none (l := l) (by omega)]
    split <;> rfl

theorem getD_splice_of_le {b d : Bytes} {i j : Nat} (hb : i + d.length ≤ b.length) (hj : i + d.length ≤ j) :
    (splice b i d).getD j 0 = b.getD j 0 := by
  have htake : (b.take i ++ d).length = i + d.length := by
    simp only [List.length_append, List.length_take]
    omega
  rw [splice, List.getD_eq_getElem?_getD, List.getElem?_append_right (htake ▸ hj), List.getElem?_drop, htake,
    Nat.add_sub_cancel' hj, List.getD_eq_getElem?_getD]

/-! ## 文字列の終わり -/

/-- 文字列の領域の offset `i` から読む C の文字列が、領域の中の NUL で終わる。 -/
def NulTerminated (strings : Bytes) (i : Nat) : Prop :=
  ∃ j, i ≤ j ∧ j < strings.length ∧ strings.getD j 0 = 0

theorem countMenuItems_ge (raw : Bytes) (len offset count : Nat) : count ≤ countMenuItems raw len offset count := by
  fun_induction countMenuItems raw len offset count <;> omega

/-- 数えた数だけ回る表を埋める loop は、最後の item の後ろで止まり、option の長さより後ろには
書かず、説明の位置はどれも option の中にある。 -/
theorem fillMenuItems_count (raw : Bytes) (len offset count : Nat) :
    ∀ s : Bytes, offset ≤ len → (∀ j, offset ≤ j → s.getD j 0 = raw.getD j 0) →
      (fillMenuItems (countMenuItems raw len offset count - count) s offset).2.2 ≤ len ∧
      (fillMenuItems (countMenuItems raw len offset count - count) s offset).2.1.length = s.length ∧
      (∀ j, len ≤ j → (fillMenuItems (countMenuItems raw len offset count - count) s offset).2.1.getD j 0 =
        s.getD j 0) ∧
      ∀ slot ∈ (fillMenuItems (countMenuItems raw len offset count - count) s offset).1, slot.desc ≤ len := by
  fun_induction countMenuItems raw len offset count with
  | case1 offset count hshort =>
    intro s hoff _
    rw [Nat.sub_self, fillMenuItems]
    exact ⟨hoff, rfl, fun _ _ => rfl, fun _ h => absurd h List.not_mem_nil⟩
  | case2 offset count hhead hdesc =>
    intro s hoff _
    rw [Nat.sub_self, fillMenuItems]
    exact ⟨hoff, rfl, fun _ _ => rfl, fun _ h => absurd h List.not_mem_nil⟩
  | case3 offset count hhead hdesc ih =>
    intro s hoff hs
    have hge := countMenuItems_ge raw len
      (offset + menuItemHeaderLen + (raw.getD (offset + 2) 0).toNat) (count + 1)
    simp only [menuItemHeaderLen] at hhead hdesc hge ih ⊢
    -- 一つ目の item を埋めてから、残りの item を数えた数だけ回る
    have hsucc : countMenuItems raw len (offset + 3 + (raw.getD (offset + 2) 0).toNat) (count + 1) - count =
        (countMenuItems raw len (offset + 3 + (raw.getD (offset + 2) 0).toNat) (count + 1) - (count + 1)) + 1 := by
      omega
    have hread : ((s.set offset 0).set (offset + 1) 0).getD (offset + 2) 0 = raw.getD (offset + 2) 0 := by
      rw [getD_set_ne _ (by omega), getD_set_ne _ (by omega), hs _ (by omega)]
    have hkeep : ∀ j, offset + 2 ≤ j → ((s.set offset 0).set (offset + 1) 0).getD j 0 = s.getD j 0 := by
      intro j hj
      rw [getD_set_ne _ (by omega), getD_set_ne _ (by omega)]
    obtain ⟨hend, hlength, hafter, hslots⟩ := ih ((s.set offset 0).set (offset + 1) 0) (by omega)
      (fun j hj => (hkeep j (by omega)).trans (hs j (by omega)))
    rw [hsucc, fillMenuItems]
    simp only [menuItemHeaderLen, hread]
    refine ⟨hend, by simpa using hlength, fun j hj => (hafter j hj).trans (hkeep j (by omega)), ?_⟩
    rintro slot (_ | ⟨_, hmem⟩)
    · dsimp only
      omega
    · exact hslots slot hmem

theorem pxeMenuParse_nulTerminated {allocOk : Bool} {menuSetting promptSetting : Option Bytes} {menu : PxeMenu}
    (h : pxeMenuParse allocOk menuSetting promptSetting = .ok menu) :
    (∀ slot ∈ menu.items, NulTerminated menu.strings slot.desc) ∧
      ∀ i, menu.prompt = some i → NulTerminated menu.strings i := by
  unfold pxeMenuParse at h
  rcases menuSetting with _ | m
  · cases h
  dsimp only at h
  split at h
  · cases h
  split at h
  · cases h
  -- 表を埋めた後も、option の長さより後ろの 0 は残る
  generalize hP : (promptSetting.getD []).length = plen at h
  obtain ⟨hend, hlength, hafter, hslots⟩ := fillMenuItems_count (m ++ List.replicate (256 - m.length) 0)
    m.length 0 0 (m ++ List.replicate (1 + plen + 1) 0) (Nat.zero_le _)
    (fun j _ => by rw [getD_append_replicate_zero, getD_append_replicate_zero])
  rw [Nat.sub_zero] at hend hlength hafter hslots
  generalize hF : fillMenuItems (countMenuItems (m ++ List.replicate (256 - m.length) 0) m.length 0 0)
    (m ++ List.replicate (1 + plen + 1) 0) 0 = F at h hend hlength hafter hslots
  have hlen : F.2.1.length = m.length + plen + 2 := by
    rw [hlength]
    simp only [List.length_append, List.length_replicate]
    omega
  have hlast : F.2.1.getD (m.length + plen + 1) 0 = 0 := by
    rw [hafter _ (by omega), show m.length + plen + 1 = m.length + (plen + 1) by omega,
      getD_append_length m _ (plen + 1)]
    simp [List.getD_eq_getElem?_getD]
  split at h
  · -- prompt は最後の item の後ろに写り、最後の byte の手前で終わる
    next hplen =>
    cases h
    dsimp only
    have hfits : F.2.2 + 1 + (promptSetting.getD []).length ≤ F.2.1.length := by omega
    have hslen : (splice F.2.1 (F.2.2 + 1) (promptSetting.getD [])).length = m.length + plen + 2 := by
      rw [length_splice hfits, hlen]
    have hslast : (splice F.2.1 (F.2.2 + 1) (promptSetting.getD [])).getD (m.length + plen + 1) 0 = 0 := by
      rw [getD_splice_of_le hfits (by omega), hlast]
    refine ⟨fun slot hslot => ⟨m.length + plen + 1, ?_, ?_, hslast⟩, ?_⟩
    · have := hslots slot hslot
      omega
    · omega
    · rintro i ⟨⟩
      exact ⟨m.length + plen + 1, by omega, by omega, hslast⟩
  · cases h
    dsimp only
    refine ⟨fun slot hslot => ⟨m.length + plen + 1, ?_, by omega, hlast⟩, fun i hi => absurd hi (by simp)⟩
    have := hslots slot hslot
    omega

/-! ## 途中で切れない item -/

/-- boot menu の item：type と説明。 -/
structure BootMenuItem where
  type : Nat
  desc : Bytes
  type_lt : type < 65536
  desc_lt : desc.length < 256

/-- option の中の item：type を little-endian で二 byte、説明の長さ、説明。 -/
def BootMenuItem.encode (it : BootMenuItem) : Bytes :=
  UInt8.ofNat it.type :: UInt8.ofNat (it.type / 256) :: UInt8.ofNat it.desc.length :: it.desc

/-- type の二 byte を 0 にした item。 -/
def BootMenuItem.cleared (it : BootMenuItem) : Bytes := 0 :: 0 :: UInt8.ofNat it.desc.length :: it.desc

/-- item を並べた menu の option。 -/
def encodeItems (items : List BootMenuItem) : Bytes := (items.map BootMenuItem.encode).flatten

/-- type を 0 にした item の並び。 -/
def clearedItems (items : List BootMenuItem) : Bytes := (items.map BootMenuItem.cleared).flatten

/-- offset `off` から並ぶ item の表の行：type と説明の位置。 -/
def itemSlots : Nat → List BootMenuItem → List PxeMenuItem
  | _, [] => []
  | off, it :: rest => ⟨it.type, off + menuItemHeaderLen⟩ :: itemSlots (off + menuItemHeaderLen + it.desc.length) rest

theorem BootMenuItem.length_encode (it : BootMenuItem) : it.encode.length = menuItemHeaderLen + it.desc.length := by
  simp only [BootMenuItem.encode, List.length_cons, menuItemHeaderLen]
  omega

theorem length_clearedItems (items : List BootMenuItem) :
    (clearedItems items).length = (encodeItems items).length := by
  induction items with
  | nil => rfl
  | cons it rest ih =>
    simp only [clearedItems, encodeItems, List.map_cons, List.flatten_cons, List.length_append] at ih ⊢
    rw [ih]
    simp only [BootMenuItem.cleared, BootMenuItem.encode, List.length_cons]

theorem BootMenuItem.toNat_length (it : BootMenuItem) : (UInt8.ofNat it.desc.length).toNat = it.desc.length :=
  UInt8.toNat_ofNat_of_lt' it.desc_lt

theorem BootMenuItem.type_decode (it : BootMenuItem) :
    (UInt8.ofNat it.type).toNat + 256 * (UInt8.ofNat (it.type / 256)).toNat = it.type := by
  have := it.type_lt
  simp only [UInt8.toNat_ofNat']
  omega

/-- item だけの option では、数える loop は item の数を数える。 -/
theorem countMenuItems_encodeItems (items : List BootMenuItem) (pre z : Bytes) (c : Nat) :
    countMenuItems (pre ++ encodeItems items ++ z) (pre.length + (encodeItems items).length) pre.length c =
      c + items.length := by
  induction items generalizing pre c with
  | nil =>
    rw [countMenuItems, if_pos (by simp [encodeItems, menuItemHeaderLen])]
    rfl
  | cons it rest ih =>
    have henc : encodeItems (it :: rest) = it.encode ++ encodeItems rest := rfl
    have hd : ((pre ++ encodeItems (it :: rest) ++ z).getD (pre.length + 2) 0).toNat = it.desc.length := by
      rw [henc, List.append_assoc, getD_append_length, List.append_assoc]
      exact it.toNat_length
    have hlen := it.length_encode
    rw [countMenuItems, if_neg (by rw [henc, List.length_append]; omega), hd,
      if_neg (by rw [henc, List.length_append]; omega)]
    -- 次の item は、この item を前に足した列の同じ位置から始まる
    have h := ih (pre ++ it.encode) (c + 1)
    simp only [henc, List.append_assoc, List.length_append, hlen, Nat.add_assoc] at h ⊢
    rw [h, List.length_cons]
    omega

/-- item だけの option では、表を埋める loop は item の type と説明の位置を並べ、type の二 byte を
0 にし、option の終わりで止まる。 -/
theorem fillMenuItems_encodeItems (items : List BootMenuItem) (pre tail : Bytes) :
    fillMenuItems items.length (pre ++ encodeItems items ++ tail) pre.length =
      (itemSlots pre.length items, pre ++ clearedItems items ++ tail, pre.length + (encodeItems items).length) := by
  induction items generalizing pre with
  | nil => simp [fillMenuItems, itemSlots, encodeItems, clearedItems]
  | cons it rest ih =>
    have henc : pre ++ encodeItems (it :: rest) ++ tail =
        pre ++ (UInt8.ofNat it.type :: UInt8.ofNat (it.type / 256) :: UInt8.ofNat it.desc.length ::
          (it.desc ++ encodeItems rest ++ tail)) := by
      simp [encodeItems, BootMenuItem.encode]
    have hcleared : ((pre ++ encodeItems (it :: rest) ++ tail).set pre.length 0).set (pre.length + 1) 0 =
        (pre ++ it.cleared) ++ encodeItems rest ++ tail := by
      rw [henc, ← Nat.add_zero pre.length, set_append_length, Nat.add_zero, set_append_length]
      simp [BootMenuItem.cleared]
    have hnext : pre.length + menuItemHeaderLen + it.desc.length = (pre ++ it.cleared).length := by
      simp [BootMenuItem.cleared, menuItemHeaderLen]
      omega
    have hread : ((pre ++ it.cleared ++ encodeItems rest ++ tail).getD (pre.length + 2) 0).toNat =
        it.desc.length := by
      rw [List.append_assoc, List.append_assoc, getD_append_length]
      exact it.toNat_length
    have htype : ((pre ++ encodeItems (it :: rest) ++ tail).getD pre.length 0).toNat +
        256 * ((pre ++ encodeItems (it :: rest) ++ tail).getD (pre.length + 1) 0).toNat = it.type := by
      rw [henc, ← Nat.add_zero pre.length, getD_append_length, Nat.add_zero, getD_append_length]
      exact it.type_decode
    have hslots : itemSlots pre.length (it :: rest) =
        ⟨it.type, pre.length + menuItemHeaderLen⟩ :: itemSlots (pre ++ it.cleared).length rest := by
      rw [itemSlots, hnext]
    have hstrings : pre ++ clearedItems (it :: rest) ++ tail = pre ++ it.cleared ++ clearedItems rest ++ tail := by
      simp [clearedItems]
    have hend : pre.length + (encodeItems (it :: rest)).length =
        (pre ++ it.cleared).length + (encodeItems rest).length := by
      rw [← hnext]
      simp only [encodeItems, List.map_cons, List.flatten_cons, List.length_append, it.length_encode]
      omega
    rw [List.length_cons, fillMenuItems, htype, hcleared, hread, hnext, ih, hslots, hstrings, hend]

/-- type を 0 にした並びで、説明の位置から読む C の文字列は説明の最初の NUL まで（なければ全部）
である。最後の説明は、後ろの列が NUL で始まるか空なら同じである。 -/
theorem cstrAt_itemSlots (items : List BootMenuItem) (pre tail : Bytes) (htail : cstr tail = []) :
    (itemSlots pre.length items).map (fun slot => cstrAt (pre ++ clearedItems items ++ tail) slot.desc) =
      items.map fun it => cstr it.desc := by
  induction items generalizing pre with
  | nil => rfl
  | cons it rest ih =>
    have hlayout : pre ++ clearedItems (it :: rest) ++ tail =
        (pre ++ it.cleared) ++ clearedItems rest ++ tail := by
      simp [clearedItems]
    have hnext : pre.length + menuItemHeaderLen + it.desc.length = (pre ++ it.cleared).length := by
      simp [BootMenuItem.cleared, menuItemHeaderLen]
      omega
    -- 説明の後ろは次の item の 0 にした type か、後ろの列である
    have hafter : cstr (clearedItems rest ++ tail) = [] := by
      cases rest with
      | nil => simpa [clearedItems] using htail
      | cons it' rest' => simp [clearedItems, BootMenuItem.cleared, cstr]
    have hdesc : cstrAt (pre ++ clearedItems (it :: rest) ++ tail) (pre.length + menuItemHeaderLen) =
        cstr it.desc := by
      rw [hlayout, cstrAt, List.append_assoc, List.append_assoc, List.drop_length_add_append]
      simp only [BootMenuItem.cleared, menuItemHeaderLen, List.drop_succ_cons, List.drop_zero, List.cons_append]
      exact cstr_append_of_cstr_eq_nil it.desc hafter
    rw [itemSlots, List.map_cons, List.map_cons, hdesc, hnext, hlayout, ih (pre ++ it.cleared)]

/-! ## menu の option が item だけのとき -/

theorem itemSlots_type (items : List BootMenuItem) (off : Nat) :
    (itemSlots off items).map PxeMenuItem.type = items.map BootMenuItem.type := by
  induction items generalizing off with
  | nil => rfl
  | cons it rest ih => rw [itemSlots, List.map_cons, List.map_cons, ih]

/-- prompt は、文字列の領域の option と NUL の後ろに写り、その後ろに最後の NUL が残る。 -/
theorem splice_prompt (c prompt : Bytes) :
    splice (c ++ List.replicate (1 + prompt.length + 1) 0) (c.length + 1) prompt = c ++ 0 :: prompt ++ [0] := by
  have htake : (c ++ List.replicate (1 + prompt.length + 1) 0).take (c.length + 1) = c ++ [0] := by
    rw [List.take_length_add_append, show 1 + prompt.length + 1 = 1 + (prompt.length + 1) by omega,
      ← List.replicate_append_replicate, List.take_left' (by simp)]
    rfl
  have hdrop : (c ++ List.replicate (1 + prompt.length + 1) 0).drop (c.length + 1 + prompt.length) = [0] := by
    rw [Nat.add_assoc, List.drop_length_add_append, List.drop_replicate]
    simp
  rw [splice, htake, hdrop]
  simp

theorem pxeMenuParse_encodeItems (items : List BootMenuItem) (prompt : Option Bytes)
    (hlen : (encodeItems items).length < 256) :
    ∃ menu, pxeMenuParse true (some (encodeItems items)) prompt = .ok menu ∧
      menu.items.map PxeMenuItem.type = items.map BootMenuItem.type ∧
      menu.items.map (fun slot => cstrAt menu.strings slot.desc) = items.map (fun it => cstr it.desc) ∧
      match prompt with
      | some (timeout :: text) =>
        menu.timeout = (if timeout.toNat = 0xff then -1 else (timeout.toNat : Int)) ∧
          menu.prompt.map (cstrAt menu.strings) = some (cstr text)
      | _ => menu.timeout = -1 ∧ menu.prompt = none := by
  have hcount : countMenuItems (encodeItems items ++ List.replicate (256 - (encodeItems items).length) 0)
      (encodeItems items).length 0 0 = items.length := by
    simpa using countMenuItems_encodeItems items [] (List.replicate (256 - (encodeItems items).length) 0) 0
  have hfill : ∀ tail, fillMenuItems items.length (encodeItems items ++ tail) 0 =
      (itemSlots 0 items, clearedItems items ++ tail, (encodeItems items).length) := by
    intro tail
    simpa using fillMenuItems_encodeItems items [] tail
  have hdescs : ∀ tail, cstr tail = [] →
      (itemSlots 0 items).map (fun slot => cstrAt (clearedItems items ++ tail) slot.desc) =
        items.map fun it => cstr it.desc := by
    intro tail htail
    simpa using cstrAt_itemSlots items [] tail htail
  unfold pxeMenuParse
  simp only [if_neg (Nat.not_le_of_lt hlen), hcount, hfill, Bool.not_true]
  rcases prompt with _ | _ | ⟨timeout, text⟩
  · exact ⟨_, rfl, itemSlots_type items 0, hdescs _ rfl, rfl, rfl⟩
  · exact ⟨_, rfl, itemSlots_type items 0, hdescs _ rfl, rfl, rfl⟩
  · -- prompt のある menu：prompt は option の終わりの NUL の後ろに写る
    have hne : (timeout :: text).length ≠ 0 := Nat.succ_ne_zero _
    have hstrings := splice_prompt (clearedItems items) (timeout :: text)
    rw [length_clearedItems] at hstrings
    simp only [Bool.false_eq_true, if_false, Option.getD_some, if_pos hne, hstrings]
    have htimeout : (clearedItems items ++ 0 :: timeout :: text ++ [0]).getD ((encodeItems items).length + 1) 0 =
        timeout := by
      rw [← length_clearedItems, List.append_assoc, getD_append_length]
      rfl
    have hprompt : cstrAt (clearedItems items ++ 0 :: timeout :: text ++ [0]) ((encodeItems items).length + 2) =
        cstr text := by
      rw [← length_clearedItems, cstrAt, List.append_assoc, List.drop_length_add_append]
      exact cstr_append_of_cstr_eq_nil text rfl
    refine ⟨_, rfl, itemSlots_type items 0, ?_, ?_⟩
    · rw [List.append_assoc]
      exact hdescs _ rfl
    · rw [htimeout]
      exact ⟨rfl, congrArg some hprompt⟩

/-! ## 切れた item が後ろに残るとき -/

theorem pxeMenuParse_last_description_overruns :
    let desc : Bytes := [0x41]
    ∃ menu, pxeMenuParse true (some ([1, 0, UInt8.ofNat desc.length] ++ desc ++ [0x42])) none = .ok menu ∧
      menu.items.map PxeMenuItem.type = [1] ∧
      menu.items.map (fun slot => cstrAt menu.strings slot.desc) = [[0x41, 0x42]] ∧
      cstr desc = [0x41] := by
  intro desc
  exact ⟨_, rfl, by decide, by decide, by decide⟩

end FlexBoot.Pxemenu
