import FlexBoot.Net.Dhcpopts

/-!
# DHCP の option の塊の探し方と書き方

1. `find_dhcp_option_with_encap` の返す option は、入れ子でない `tag` なら `used_len` の中にある
   （`findDhcpOptionWithEncap_plain`）。入れ子の `tag` なら、`used_len` の中の `encapsulator` の
   option の header の後から、その option の終わりの二 byte 先までの中にある
   （`findDhcpOptionWithEncap_encap`）。残りの長さを header を含む長さに置き直すので、二 byte の
   はみ出しは実際に起きる：空の `encapsulator` の後ろの byte や `used_len` の外の byte を、入れ子の
   option として返す（`findDhcpOptionWithEncap_overruns_encapsulator`）。
2. 見つけた option の長さは `used_len` を超えないので、`resize_dhcp_option` の `used_len + delta` は
   巻き戻らない（`oldLen_le_usedLen`）。しかし入れ子の option が `used_len` の外にはみ出していれば、
   `memmove` の長さ `new_used_len - offset - new_len` は巻き戻り、確保の外まで写す。
3. 入れ子でない `tag` か、`encapsulator` がもうある入れ子の `tag` なら、`-errno` で失敗した
   `dhcpopt_store` は `used_len` も `dhcpopt_fetch` の結果も変えない（`dhcpoptStore_error_keeps`）。
   ただし確保を縮めるときの `realloc` は失敗しないとする（`ShrinkOk`、`dhcpopt_no_realloc` はそうである）。
   `encapsulator` がなければ、先に作った空の `encapsulator` が失敗の後にも残る
   （`dhcpoptStore_failure_leaves_encapsulator`）。
-/

namespace FlexBoot.Dhcp

open Infra

/-! ## 探した option の位置 -/

/-- `o` の option が `[lo, hi)` の中にある。 -/
def OptionWithin (data : Bytes) (o lo hi : Nat) : Prop := lo ≤ o ∧ o + dhcpOptionLen data o ≤ hi

theorem OptionWithin.mono {data : Bytes} {o lo hi lo' hi' : Nat} (h : OptionWithin data o lo hi)
    (hlo : lo' ≤ lo) (hhi : hi ≤ hi') : OptionWithin data o lo' hi' :=
  ⟨Nat.le_trans hlo h.1, Nat.le_trans h.2 hhi⟩

theorem dhcpEncapsulator_eq_zero_of_lt {tag : Nat} (h : tag < 256) : dhcpEncapsulator tag = 0 := by
  simp only [dhcpEncapsulator, Nat.shiftRight_eq_div_pow]
  omega

theorem optTag_lt (data : Bytes) (offset : Nat) : optTag data offset < 256 :=
  (data.getD offset 0).toNat_lt

/-- 入れ子でない `tag` では、見つけた option は残りの長さの中にあり、`*encap_offset` は書かれない。 -/
theorem findLoop_plain {data : Bytes} {tag offset remaining : Nat} {enc : Option Nat} {o : Nat}
    {enc' : Option Nat} (htag : dhcpEncapsulator tag = 0)
    (h : findLoop data tag offset remaining enc = (some o, enc')) :
    OptionWithin data o offset (offset + remaining) ∧ enc' = enc := by
  fun_induction findLoop data tag offset remaining enc with
  | case1 => cases h
  | case2 => cases h
  | case3 tag offset remaining enc h0 hlen hend =>
    split at h
    · cases h
      exact ⟨⟨Nat.le_refl _, by omega⟩, rfl⟩
    · cases h
  | case4 offset remaining enc h0 hlen hend =>
    cases h
    exact ⟨⟨Nat.le_refl _, by omega⟩, rfl⟩
  | case5 tag offset remaining enc h0 hlen hend hmatch henc => exact absurd htag henc.1
  | case6 tag offset remaining enc h0 hlen hend hmatch henc ih =>
    obtain ⟨hw, rfl⟩ := ih htag h
    exact ⟨hw.mono (by omega) (by omega), rfl⟩

/-- 見つけた option は、その段で見つけたなら残りの長さの中にある。`encapsulator` に入ったなら、
`encapsulator` の option は残りの長さの中にあり、見つけた option はその header の後から、
その option の終わりの `DHCP_OPTION_HEADER_LEN` byte 先までの中にある。 -/
theorem findLoop_found {data : Bytes} {tag offset remaining : Nat} {enc : Option Nat} {o : Nat}
    {enc' : Option Nat} (h : findLoop data tag offset remaining enc = (some o, enc')) :
    (dhcpEncapsulator tag = 0 ∧ OptionWithin data o offset (offset + remaining) ∧ enc' = enc) ∨
      ∃ e, enc' = some e ∧ OptionWithin data e offset (offset + remaining) ∧
        optTag data e = dhcpEncapsulator tag ∧
        OptionWithin data o (e + dhcpOptionHeaderLen) (e + dhcpOptionLen data e + dhcpOptionHeaderLen) := by
  fun_induction findLoop data tag offset remaining enc with
  | case1 => cases h
  | case2 => cases h
  | case3 tag offset remaining enc h0 hlen hend =>
    split at h
    · next htag =>
      cases h
      refine .inl ⟨dhcpEncapsulator_eq_zero_of_lt (by rw [htag]; decide), ⟨Nat.le_refl _, by omega⟩, rfl⟩
    · cases h
  | case4 offset remaining enc h0 hlen hend =>
    cases h
    exact .inl ⟨dhcpEncapsulator_eq_zero_of_lt (optTag_lt _ _), ⟨Nat.le_refl _, by omega⟩, rfl⟩
  | case5 tag offset remaining enc h0 hlen hend hmatch henc =>
    -- 入れ子の `tag` で探す後半は、入れ子でない `tag` の探し方である
    obtain ⟨hw, rfl⟩ := findLoop_plain (dhcpEncapsulator_encapsulated tag) h
    exact .inr ⟨offset, rfl, ⟨Nat.le_refl _, by omega⟩, henc.2, hw.mono (Nat.le_refl _) (by omega)⟩
  | case6 tag offset remaining enc h0 hlen hend hmatch henc ih =>
    rcases ih h with ⟨htag, hw, rfl⟩ | ⟨e, rfl, he, htagE, hw⟩
    · exact .inl ⟨htag, hw.mono (by omega) (by omega), rfl⟩
    · exact .inr ⟨e, rfl, he.mono (by omega) (by omega), htagE, hw⟩

/-- 入れ子でない `tag` で見つけた option は `used_len` の中にある。 -/
theorem findDhcpOptionWithEncap_plain {opts : DhcpOptions} {tag o : Nat} {enc : Option Nat}
    (htag : dhcpEncapsulator tag = 0) (h : findDhcpOptionWithEncap opts tag = (some o, enc)) :
    OptionWithin opts.data o 0 opts.usedLen ∧ enc = none := by
  unfold findDhcpOptionWithEncap at h
  split at h
  · cases h
  · simpa only [Nat.zero_add] using findLoop_plain htag h

/-- 入れ子の `tag` で見つけた option は、`used_len` の中の `encapsulator` の option の header の後から、
その option の終わりの二 byte 先までの中にある。 -/
theorem findDhcpOptionWithEncap_encap {opts : DhcpOptions} {tag o : Nat} {enc : Option Nat}
    (htag : dhcpEncapsulator tag ≠ 0) (h : findDhcpOptionWithEncap opts tag = (some o, enc)) :
    ∃ e, enc = some e ∧ OptionWithin opts.data e 0 opts.usedLen ∧
      optTag opts.data e = dhcpEncapsulator tag ∧
      OptionWithin opts.data o (e + dhcpOptionHeaderLen)
        (e + dhcpOptionLen opts.data e + dhcpOptionHeaderLen) := by
  unfold findDhcpOptionWithEncap at h
  split at h
  · cases h
  · rcases findLoop_found h with ⟨h0, -⟩ | ⟨e, he, hw, htagE, ho⟩
    · exact absurd h0 htag
    · exact ⟨e, he, by simpa only [Nat.zero_add] using hw, htagE, ho⟩

/-- `set_dhcp_option` が見つけた option の長さ（`resize_dhcp_option` の `old_len`）は `used_len` を超えない。
入れ子の option は `encapsulator` の header の後から始まり、はみ出しても `used_len` の二 byte 先までである。
だから `new_used_len = used_len + delta` は巻き戻らない。 -/
theorem oldLen_le_usedLen {o : DhcpOptions} {tag offset : Nat} {enc : Option Nat}
    (h : findDhcpOptionWithEncap o tag = (some offset, enc)) : dhcpOptionLen o.data offset ≤ o.usedLen := by
  by_cases htag : dhcpEncapsulator tag = 0
  · obtain ⟨⟨-, hw⟩, -⟩ := findDhcpOptionWithEncap_plain htag h
    omega
  · obtain ⟨e, -, ⟨-, he⟩, -, ⟨ho, hw⟩⟩ := findDhcpOptionWithEncap_encap htag h
    simp only [dhcpOptionHeaderLen] at ho hw
    omega

theorem findDhcpOptionWithEncap_overruns_encapsulator :
    let opts : DhcpOptions := ⟨[43, 0, 1, 0], 2⟩
    findDhcpOptionWithEncap opts (dhcpEncapOpt 43 1) = (some 2, some 0) ∧
      (∀ e, optTag opts.data e = 43 →
        ¬OptionWithin opts.data 2 (e + dhcpOptionHeaderLen) (e + dhcpOptionHeaderLen + optLenField opts.data e)) ∧
      ¬OptionWithin opts.data 2 0 opts.usedLen := by
  intro opts
  refine ⟨by decide, ?_, ?_⟩
  · rintro e - ⟨hlo, hhi⟩
    have he : e = 0 := by simp only [dhcpOptionHeaderLen] at hlo; omega
    subst he
    revert hhi
    decide
  · rintro ⟨-, hhi⟩
    revert hhi
    decide

/-- その外にはみ出した入れ子の option に 1 byte を書くと、`memmove` の長さ `3 - 2 - 3` が巻き戻る。 -/
example : (dhcpoptStore dhcpoptNoRealloc ⟨[43, 0, 1, 0], 2⟩ (dhcpEncapOpt 43 1) [7]).2 =
    .error (.fault (.outOfBounds 4 4)) := by
  decide

/-! ## 確保が伸びても読むものは変わらない -/

/-- 二つの領域を `getD _ 0` で読むと、どこでも同じである。 -/
def SameView (d d' : Bytes) : Prop := ∀ i, d'.getD i 0 = d.getD i 0

theorem SameView.refl (d : Bytes) : SameView d d := fun _ => rfl

theorem SameView.trans {d d' d'' : Bytes} (h : SameView d d') (h' : SameView d' d'') : SameView d d'' :=
  fun i => (h' i).trans (h i)

theorem sameView_reallocData {data : Bytes} {a : Nat} (ha : data.length ≤ a) :
    SameView data (reallocData data a) := by
  intro i
  unfold reallocData
  rw [List.take_of_length_le ha]
  simp only [List.getD_eq_getElem?_getD]
  by_cases hi : i < data.length
  · rw [List.getElem?_append_left hi]
  · rw [List.getElem?_append_right (by omega), List.getElem?_replicate,
      List.getElem?_eq_none (l := data) (by omega)]
    split <;> rfl

theorem SameView.optTag_eq {d d' : Bytes} (h : SameView d d') : optTag d' = optTag d :=
  funext fun i => by rw [FlexBoot.Dhcp.optTag, FlexBoot.Dhcp.optTag, h i]

theorem SameView.optLenField_eq {d d' : Bytes} (h : SameView d d') : optLenField d' = optLenField d :=
  funext fun i => by rw [FlexBoot.Dhcp.optLenField, FlexBoot.Dhcp.optLenField, h (i + 1)]

theorem SameView.dhcpOptionLen_eq {d d' : Bytes} (h : SameView d d') : dhcpOptionLen d' = dhcpOptionLen d :=
  funext fun i => by rw [FlexBoot.Dhcp.dhcpOptionLen, FlexBoot.Dhcp.dhcpOptionLen, h.optTag_eq, h.optLenField_eq]

theorem SameView.findLoop_eq {d d' : Bytes} (h : SameView d d') (tag offset remaining : Nat)
    (enc : Option Nat) : findLoop d' tag offset remaining enc = findLoop d tag offset remaining enc := by
  fun_induction findLoop d tag offset remaining enc with
  | case1 tag offset enc => rw [FlexBoot.Dhcp.findLoop, if_pos rfl]
  | case2 tag offset remaining enc h0 hlen =>
    rw [FlexBoot.Dhcp.findLoop, if_neg h0, h.dhcpOptionLen_eq, if_pos hlen]
  | case3 tag offset remaining enc h0 hlen hend =>
    rw [FlexBoot.Dhcp.findLoop, if_neg h0, h.dhcpOptionLen_eq, if_neg hlen, h.optTag_eq, if_pos hend]
  | case4 offset remaining enc h0 hlen hend =>
    rw [FlexBoot.Dhcp.findLoop, if_neg h0, h.dhcpOptionLen_eq, if_neg hlen, h.optTag_eq, if_neg hend,
      if_pos rfl]
  | case5 tag offset remaining enc h0 hlen hend hmatch henc ih =>
    rw [FlexBoot.Dhcp.findLoop, if_neg h0, h.dhcpOptionLen_eq, if_neg hlen, h.optTag_eq, if_neg hend,
      if_neg hmatch, dif_pos henc, ih]
  | case6 tag offset remaining enc h0 hlen hend hmatch henc ih =>
    rw [FlexBoot.Dhcp.findLoop, if_neg h0, h.dhcpOptionLen_eq, if_neg hlen, h.optTag_eq, if_neg hend,
      if_neg hmatch, dif_neg henc, ih]

/-- 失敗した操作の後の塊が、前の塊と `used_len` も読むものも同じである。 -/
structure Keeps (o o' : DhcpOptions) : Prop where
  usedLen : o'.usedLen = o.usedLen
  view : SameView o.data o'.data

theorem Keeps.refl (o : DhcpOptions) : Keeps o o := ⟨rfl, SameView.refl _⟩

theorem Keeps.find {o o' : DhcpOptions} (h : Keeps o o') (tag : Nat) :
    findDhcpOptionWithEncap o' tag = findDhcpOptionWithEncap o tag := by
  unfold findDhcpOptionWithEncap
  rw [h.usedLen, h.view.findLoop_eq]

theorem Keeps.fetch {o o' : DhcpOptions} (h : Keeps o o') (tag len : Nat) :
    dhcpoptFetch o' tag len = dhcpoptFetch o tag len := by
  unfold dhcpoptFetch bytesAt
  rw [h.find, h.view.optLenField_eq]
  simp only [h.view _]

/-! ## 失敗した書き込み -/

/-- 確保を縮める `realloc` は失敗しない。 -/
def ShrinkOk (R : DhcpRealloc) : Prop := ∀ allocLen len, len < allocLen → ∃ a, R.realloc allocLen len = .ok a

theorem expandOptions_ok {R : DhcpRealloc} {o o' : DhcpOptions} {newUsedLen : Nat}
    (h : expandOptions R o newUsedLen = .ok o') : Keeps o o' := by
  unfold expandOptions at h
  split at h
  · split at h
    · cases h
    · next a ha =>
      cases h
      have hle := R.le_of_ok ha
      exact ⟨rfl, sameView_reallocData (by omega)⟩
  · cases h
    exact Keeps.refl o

/-- `resize_dhcp_option` が `-errno` で失敗すれば、`used_len` も読むものも変わらない。縮める `realloc` は
失敗しないので、失敗は `used_len` を書き換える前に起きる。 -/
theorem resizeDhcpOption_error {R : DhcpRealloc} (hR : ShrinkOk R) {o : DhcpOptions} {offset : Nat}
    {enc : Option Nat} {oldLen newLen : Nat} {rc : DhcpRc} (hrc : ∀ f, rc ≠ .fault f)
    (h : (resizeDhcpOption R o offset enc oldLen newLen).2 = .error rc) :
    Keeps o (resizeDhcpOption R o offset enc oldLen newLen).1 := by
  unfold resizeDhcpOption at h ⊢
  dsimp only at h ⊢
  split
  · exact Keeps.refl o
  · next hmax =>
    rw [if_neg hmax] at h
    split
    · exact Keeps.refl o
    · next o' hexp =>
      rw [hexp] at h
      dsimp only at h ⊢
      split
      · exact expandOptions_ok hexp
      · next data hupd =>
        rw [hupd] at h
        dsimp only at h
        split at h
        · -- `memmove` の長さが巻き戻るのは C の未定義動作で、`-errno` ではない
          cases h
          exact absurd rfl (hrc _)
        · split at h
          · next hlt =>
            obtain ⟨a, ha⟩ := hR _ _ hlt
            rw [ha] at h
            cases h
          · cases h

theorem placeOption_error {R : DhcpRealloc} (hR : ShrinkOk R) {o : DhcpOptions} {tag : Nat} {value : Bytes}
    {offset : Nat} {enc : Option Nat} {oldLen newLen : Nat} {rc : DhcpRc} (hrc : ∀ f, rc ≠ .fault f)
    (h : (placeOption R o tag value offset enc oldLen newLen).2 = .error rc) :
    Keeps o (placeOption R o tag value offset enc oldLen newLen).1 := by
  unfold placeOption at h ⊢
  rcases hres : resizeDhcpOption R o offset enc oldLen newLen with ⟨o', rc' | ⟨⟩⟩
  · rw [hres] at h
    cases h
    have := resizeDhcpOption_error hR hrc (congrArg Prod.snd hres)
    rw [hres] at this
    exact this
  · rw [hres] at h
    dsimp only at h
    split at h <;> cases h

/-- 入れ子でない `tag` か、`encapsulator` がもうある入れ子の `tag` なら、失敗した
`set_dhcp_option` は `used_len` も読むものも変えない。 -/
theorem setDhcpOption_error {R : DhcpRealloc} (hR : ShrinkOk R) {o : DhcpOptions} {tag : Nat}
    {value : Bytes} {rc : DhcpRc} (hrc : ∀ f, rc ≠ .fault f)
    (hencap : dhcpEncapsulator tag = 0 ∨ (findDhcpOptionWithEncap o tag).2.isSome)
    (h : (setDhcpOption R o tag value).2 = .error rc) :
    Keeps o (setDhcpOption R o tag value).1 := by
  rw [setDhcpOption] at h ⊢
  split
  · exact Keeps.refl o
  · next hpad =>
    rw [if_neg hpad] at h
    dsimp only at h ⊢
    split
    · next hplain =>
      rw [dif_pos hplain] at h
      exact placeOption_error hR hrc h
    · next hplain =>
      rw [dif_neg hplain] at h
      have hsome : (findDhcpOptionWithEncap o tag).2.isSome := hencap.resolve_left hplain
      obtain ⟨e, he⟩ := Option.isSome_iff_exists.mp hsome
      simp only [he] at h ⊢
      split
      · next o' rc' hplace =>
        rw [hplace] at h
        cases h
        have := placeOption_error hR hrc (congrArg Prod.snd hplace)
        rw [hplace] at this
        exact this
      · next o' offset hplace =>
        rw [hplace] at h
        dsimp only at h
        split at h <;> cases h

/-- 入れ子でない `tag` か、`encapsulator` がもうある入れ子の `tag` なら、`-errno` で失敗した
`dhcpopt_store` は `used_len` も、どの `tag` の `dhcpopt_fetch` の結果も変えない。 -/
theorem dhcpoptStore_error_keeps {R : DhcpRealloc} (hR : ShrinkOk R) {o : DhcpOptions} {tag : Nat}
    {value : Bytes} {rc : DhcpRc} (hrc : ∀ f, rc ≠ .fault f)
    (hencap : dhcpEncapsulator tag = 0 ∨ (findDhcpOptionWithEncap o tag).2.isSome)
    (h : (dhcpoptStore R o tag value).2 = .error rc) :
    (dhcpoptStore R o tag value).1.usedLen = o.usedLen ∧
      ∀ t len, dhcpoptFetch (dhcpoptStore R o tag value).1 t len = dhcpoptFetch o t len := by
  unfold dhcpoptStore at h ⊢
  rcases hset : setDhcpOption R o tag value with ⟨o', rc' | offset⟩
  · rw [hset] at h
    cases h
    have hk := setDhcpOption_error hR hrc hencap (congrArg Prod.snd hset)
    rw [hset] at hk
    exact ⟨hk.usedLen, hk.fetch⟩
  · rw [hset] at h
    cases h

/-! ## 作った `encapsulator` が残る -/

/-- 使った長さの中が、途中で切れない option の列である。 -/
@[semireducible] def optionsComplete (data : Bytes) (offset remaining : Nat) : Bool :=
  if remaining = 0 then true
  else if remaining < dhcpOptionLen data offset then false
  else optionsComplete data (offset + dhcpOptionLen data offset) (remaining - dhcpOptionLen data offset)
termination_by remaining
decreasing_by
  have := dhcpOptionLen_pos data offset
  omega

/-- 整った塊：`used_len` は確保の中にあり、その中は途中で切れない option の列である。 -/
def WellFormed (o : DhcpOptions) : Prop := o.usedLen ≤ o.data.length ∧ optionsComplete o.data 0 o.usedLen = true

instance (o : DhcpOptions) : Decidable (WellFormed o) := inferInstanceAs (Decidable (_ ∧ _))

theorem dhcpoptStore_failure_leaves_encapsulator :
    let o : DhcpOptions := dhcpoptInit [53, 1, 5, 255, 0, 0, 0, 0]
    let stored := dhcpoptStore dhcpoptNoRealloc o (dhcpEncapOpt 175 1) (List.replicate 254 0x41)
    WellFormed o ∧ stored.2 = .error .enospc ∧ o.usedLen = 4 ∧ stored.1.usedLen = 7 ∧
      dhcpoptFetch o 175 16 = .error .enoent ∧ dhcpoptFetch stored.1 175 16 = .ok (1, [0xff]) := by
  decide +kernel

end FlexBoot.Dhcp
