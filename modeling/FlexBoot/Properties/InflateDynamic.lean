import FlexBoot.Properties.InflateBounds

/-!
# dynamic block の code length の符号

`dynamic_header` は 14 bit の header から HLIT・HDIST・HCLEN を取り、`deflate->lengths` を 0 にする。
`dynamic_codelen` はそれから HCLEN + 4 個の 3 bit の値を読み、`deflate_codelen_map[]` の順の記号の
長さとして `deflate_set_length` で書き、`deflate_alphabet` で code length の符号の表を作る。
この表が RFC 1951 の 3.2.7 節の code length の符号であることを示す。

* `deflateLength_deflateSetLength` — `deflate_set_length` は 4 bit ずつ詰めた表の一つの記号にだけ
  or する
* `codelenLengths` — RFC の長さ：`16, 17, 18, 0, 8, ..` の順に届いた値、届かなかった記号は 0
* `deflateLength_codelens` — 0 にした表に loop が書いたものを `deflate_length` で読むと、RFC の長さ
* `inflateRun_dynamicCodelen_loop` — loop は読んだ値を `setCodelens` で書く（値の列についての帰納法）
* `inflateRun_dynamicCodelens` — header から `dynamic_litlen_distance` まで：長さが符号を使い切れば
  表はその正準な符号の表、使い切らなければ `-EINVAL`
-/

namespace FlexBoot.Inflate

open Infra

/-! ## 4 bit ずつ詰めた長さ -/

/-- byte の `k` 番目の 4 bit に `v` を or すると、その 4 bit にだけ `v` が or される。 -/
theorem nibble_or_shiftLeft (b : Nat) {v k k' : Nat} (hv : v < 16) (hk : k < 2) (hk' : k' < 2) :
    ((b ||| v <<< (4 * k)) >>> (4 * k')) &&& 15 =
      if k' = k then ((b >>> (4 * k')) &&& 15) ||| v else (b >>> (4 * k')) &&& 15 := by
  rw [Nat.shiftRight_or_distrib, Nat.and_or_distrib_right]
  have hv15 : v &&& 15 = v := Nat.and_two_pow_sub_one_of_lt_two_pow (n := 4) hv
  by_cases e : k' = k
  · subst e
    rw [if_pos rfl, Nat.shiftLeft_shiftRight, hv15]
  · rw [if_neg e]
    -- 別の 4 bit には何も入らない
    have hz : (v <<< (4 * k) >>> (4 * k')) &&& 15 = 0 := by
      rcases (show k = 0 ∧ k' = 1 ∨ k = 1 ∧ k' = 0 by omega) with ⟨rfl, rfl⟩ | ⟨rfl, rfl⟩
      · rw [Nat.shiftLeft_zero, Nat.shiftRight_eq_div_pow, Nat.div_eq_of_lt (by omega), Nat.zero_and]
      · rw [Nat.shiftRight_zero, Nat.shiftLeft_eq, show (15 : Nat) = 2 ^ 4 - 1 from rfl,
          Nat.and_two_pow_sub_one_eq_mod, Nat.mul_mod_left]
    rw [hz, Nat.or_zero]

/-- `deflate_set_length` で `index` の長さに `v` を足すと、`deflate_length` はその添字でだけ `v` を
or した値になる。 -/
theorem deflateLength_deflateSetLength {L : List UInt8} {index : Nat} (hidx : index / 2 < L.length) {v : Nat}
    (hv : v < 16) (j : Nat) :
    deflateLength (deflateSetLength L index v) j =
      if j = index then deflateLength L j ||| v else deflateLength L j := by
  unfold deflateLength deflateSetLength
  rw [List.getD_eq_getElem?_getD, List.getElem?_modify, List.getD_eq_getElem?_getD]
  by_cases hb : index / 2 = j / 2
  · obtain ⟨b, hget⟩ : ∃ b, L[j / 2]? = some b := ⟨_, List.getElem?_eq_getElem (hb ▸ hidx)⟩
    have hx : v <<< (4 * (index % 2)) < 2 ^ 8 := by
      rw [Nat.shiftLeft_eq]
      have : 2 ^ (4 * (index % 2)) ≤ 16 := by
        rcases Nat.mod_two_eq_zero_or_one index with h | h <;> rw [h] <;> decide
      calc v * 2 ^ (4 * (index % 2)) < 16 * 16 := Nat.mul_lt_mul_of_lt_of_le hv this (by decide)
        _ = 2 ^ 8 := rfl
    simp only [hget, Option.map_eq_map, Option.map_some, Option.getD_some, if_pos hb, UInt8.toNat_or,
      UInt8.toNat_ofNat_of_lt' hx]
    rw [nibble_or_shiftLeft _ (by omega) (Nat.mod_lt _ (by decide)) (Nat.mod_lt _ (by decide))]
    by_cases hj : j = index
    · rw [if_pos (by rw [hj]), if_pos hj]
    · rw [if_neg (by omega), if_neg hj]
  · have hj : j ≠ index := fun h => hb (by rw [h])
    rw [if_neg hj]
    cases L[j / 2]? with
    | none => rfl
    | some b => simp only [Option.map_eq_map, Option.map_some, Option.getD_some, if_neg hb]

/-! ## code length の符号の長さ -/

/-- `dynamic_codelen` の loop が `deflate->lengths` に書くもの：`index` 番目から、読んだ値 `vals` を
`deflate_codelen_map[]` の記号の長さとして順に書く。 -/
def setCodelens : Nat → List Nat → List UInt8 → List UInt8
  | _, [], lengths => lengths
  | index, v :: vals, lengths => setCodelens (index + 1) vals (deflateSetLength lengths (deflateCodelenMap.getD index 0) v)

/-- RFC 1951 の 3.2.7 節の code length の符号の長さ：`16, 17, 18, 0, 8, ..` の順に届いた値 `vals` を
その記号の長さとし、届かなかった記号は 0。 -/
def codelenLengths (vals : List Nat) : Nat → Nat :=
  (deflateCodelenMap.zip vals).foldl (fun f p => Function.update f p.1 p.2) fun _ => 0

theorem nodup_deflateCodelenMap : deflateCodelenMap.Nodup := by
  decide

theorem deflateCodelenMap_lt : ∀ s ∈ deflateCodelenMap, s < 19 := by
  decide

/-- 0 から始めた長さの表に `setCodelens` で書くと、記号ごとの長さは `Function.update` を重ねたもの。
`deflate_codelen_map[]` に重なりはないので、書く前のその記号の長さは 0。 -/
theorem deflateLength_setCodelens : ∀ (vals : List Nat) (index : Nat) (L : List UInt8) (f : Nat → Nat),
    L.length = lengthsSize → index + vals.length ≤ 19 → (∀ v ∈ vals, v < 16) →
    (∀ s, deflateLength L s = f s) → (∀ s ∈ deflateCodelenMap.drop index, f s = 0) →
    ∀ s, deflateLength (setCodelens index vals L) s =
      ((deflateCodelenMap.drop index).zip vals).foldl (fun f p => Function.update f p.1 p.2) f s := by
  intro vals
  induction vals with
  | nil =>
    intro index L f _ _ _ hL _ s
    rw [List.zip_nil_right, List.foldl_nil]
    exact hL s
  | cons v vals ih =>
    intro index L f hlen hidx hv hL hz s
    have hi : index < deflateCodelenMap.length := by
      rw [show deflateCodelenMap.length = 19 from rfl]
      simp only [List.length_cons] at hidx
      omega
    -- 書く記号 `deflate_codelen_map[index]` と、それより後の記号
    have hdrop : deflateCodelenMap.drop index = deflateCodelenMap[index] :: deflateCodelenMap.drop (index + 1) :=
      List.drop_eq_getElem_cons hi
    have hnd : (deflateCodelenMap[index] :: deflateCodelenMap.drop (index + 1)).Nodup :=
      hdrop ▸ nodup_deflateCodelenMap.sublist (List.drop_sublist _ _)
    have hnot : deflateCodelenMap[index] ∉ deflateCodelenMap.drop (index + 1) := (List.nodup_cons.mp hnd).1
    have hsym : deflateCodelenMap.getD index 0 = deflateCodelenMap[index] := by
      rw [List.getD_eq_getElem?_getD, List.getElem?_eq_getElem hi, Option.getD_some]
    have hmem : deflateCodelenMap[index] ∈ deflateCodelenMap := List.getElem_mem hi
    have hwrite : deflateCodelenMap[index] / 2 < L.length := by
      have := deflateCodelenMap_lt _ hmem
      rw [hlen, show lengthsSize = 160 from rfl]
      omega
    have hv0 : v < 16 := hv v List.mem_cons_self
    rw [hdrop, List.zip_cons_cons, List.foldl_cons]
    refine ih (index + 1) _ _ ?_ ?_ (fun w hw => hv w (List.mem_cons_of_mem v hw)) ?_ ?_ s
    · rw [length_deflateSetLength, hlen]
    · simp only [List.length_cons] at hidx
      omega
    · -- 書いた記号では `0 ||| v`、ほかの記号では前のまま
      intro s'
      rw [hsym, deflateLength_deflateSetLength hwrite hv0, Function.update_apply]
      by_cases e : s' = deflateCodelenMap[index]
      · rw [if_pos e, if_pos e, hL, e, hz _ (hdrop ▸ List.mem_cons_self), Nat.zero_or]
      · rw [if_neg e, if_neg e, hL]
    · intro s' hs'
      have hne : s' ≠ deflateCodelenMap[index] := fun e => hnot (e ▸ hs')
      rw [Function.update_apply, if_neg hne]
      exact hz s' (hdrop ▸ List.mem_cons_of_mem _ hs')

/-- `deflate->lengths` を 0 にしてから `setCodelens` で書くと、`deflate_length` は RFC の
code length の符号の長さを返す。 -/
theorem deflateLength_codelens (vals : List Nat) (hlen : vals.length ≤ 19) (hv : ∀ v ∈ vals, v < 16) (s : Nat) :
    deflateLength (setCodelens 0 vals (List.replicate lengthsSize 0)) s = codelenLengths vals s := by
  have hzero : ∀ s, deflateLength (List.replicate lengthsSize 0) s = 0 := by
    intro s
    unfold deflateLength
    rw [List.getD_eq_getElem?_getD, List.getElem?_replicate]
    split <;> simp
  exact deflateLength_setCodelens vals 0 _ _ List.length_replicate (by omega) hv hzero (fun _ _ => rfl) s

/-! ## 読みながら進む -/

/-- 残りの bit が `t` bit の値 `v` で始まれば、`deflate_extract` はその値を続きへ渡し、残りはその後ろ。 -/
theorem extractThen_of_stream {l : Label} {st : Inflater} {inp out : DeflateChunk}
    {k : Nat → Inflater → DeflateChunk → Step} {t v : Nat} {rest : List Bool} (hd : st.reader.Wf) (ht : t ≤ 25)
    (hv : v < 2 ^ t) (hs : stream st.reader inp = lsbBits t v ++ rest) :
    ∃ d inp₁, d.Wf ∧ stream d inp₁ = rest ∧ extractThen l st inp out t k = k v { st with reader := d } inp₁ := by
  obtain ⟨hw, henough, -⟩ := deflateExtract_spec hd inp ht
  have hlen : t ≤ (stream st.reader inp).length := by
    rw [hs, List.length_append, length_lsbBits]
    omega
  obtain ⟨v', hv'eq, hv'lt, hbits, hrest⟩ := henough hlen
  -- 読んだ値は、下から並べた `t` bit が同じなので `v`
  have hvv : v' = v := by
    rw [hs, List.take_left' (length_lsbBits t v)] at hbits
    have h := lsbBits_inj hbits
    rwa [Nat.mod_eq_of_lt hv'lt, Nat.mod_eq_of_lt hv] at h
  subst hvv
  refine ⟨_, (deflateExtract st.reader inp t).2.2, hw, ?_, ?_⟩
  · rw [hrest, hs, List.drop_left' (length_lsbBits t v')]
  · unfold extractThen
    dsimp only
    rw [hv'eq, if_neg (by omega), Int.toNat_natCast]

/-- `dynamic_header`：14 bit の header から三つの数を取り、`deflate->lengths` を 0 にする。 -/
theorem dynamicHeader_step {st : Inflater} {inp : DeflateChunk} (out : DeflateChunk) {header : Nat} {rest : List Bool}
    (hd : st.reader.Wf) (hh : header < 2 ^ 14) (hs : stream st.reader inp = lsbBits 14 header ++ rest) :
    ∃ d inp₁, d.Wf ∧ stream d inp₁ = rest ∧
      inflateStep .dynamicHeader st inp out =
        .next .dynamicCodelen
          { st with reader := d, litlenCount := ((header >>> 0) &&& 0x1f) + 257,
                    distanceCount := ((header >>> 5) &&& 0x1f) + 1, lengthIndex := 0,
                    lengthTarget := ((header >>> 10) &&& 0x0f) + 4, lengths := List.replicate lengthsSize 0 } inp₁ out := by
  delta inflateStep
  dsimp only
  exact extractThen_of_stream hd (by decide) hh hs

/-- `dynamic_codelen` の loop の一回り：3 bit 読んで、`deflate_codelen_map[]` の記号の長さとして書く。 -/
theorem dynamicCodelen_step {st : Inflater} {inp : DeflateChunk} (out : DeflateChunk) {v : Nat} {rest : List Bool}
    (hd : st.reader.Wf) (hlt : st.lengthIndex < st.lengthTarget) (hv : v < 2 ^ 3)
    (hs : stream st.reader inp = lsbBits 3 v ++ rest) :
    ∃ d inp₁, d.Wf ∧ stream d inp₁ = rest ∧
      inflateStep .dynamicCodelen st inp out =
        .next .dynamicCodelen
          { st with reader := d, lengthIndex := st.lengthIndex + 1,
                    lengths := deflateSetLength st.lengths (deflateCodelenMap.getD st.lengthIndex 0) v } inp₁ out := by
  delta inflateStep
  dsimp only
  rw [if_pos hlt]
  exact extractThen_of_stream hd (by decide) hv hs

/-- loop を抜けると、code length の符号の表を作る。作れれば `dynamic_litlen_distance` へ移る。 -/
theorem dynamicCodelen_alphabet {st : Inflater} {a : Alphabet} (inp out : DeflateChunk)
    (hge : ¬st.lengthIndex < st.lengthTarget) (h : deflateAlphabet st.lengths st.distanceCodelen (18 + 1) 0 = some a) :
    inflateStep .dynamicCodelen st inp out =
      .next .dynamicLitlenDistance
        { st with distanceCodelen := a, lengths := List.replicate lengthsSize 0, lengthIndex := 0,
                  lengthTarget := st.litlenCount + st.distanceCount, length := 0 } inp out := by
  delta inflateStep
  dsimp only
  rw [if_neg hge, h]

theorem dynamicCodelen_einval {st : Inflater} (inp out : DeflateChunk) (hge : ¬st.lengthIndex < st.lengthTarget)
    (h : deflateAlphabet st.lengths st.distanceCodelen (18 + 1) 0 = none) :
    inflateStep .dynamicCodelen st inp out = .fail .einval := by
  delta inflateStep
  dsimp only
  rw [if_neg hge, h]

/-- **`dynamic_codelen` の loop。** 残りの bit が 3 bit の値 `vals` で始まり、loop の残りがちょうど
`vals` の数なら、loop は `vals` を読み切って `setCodelens` で書く。`vals` についての帰納法で、
一回りごとに `dynamicCodelen_step`。 -/
theorem inflateRun_dynamicCodelen_loop (out : DeflateChunk) (rest : List Bool) (fuel : Nat) :
    ∀ (vals : List Nat) (st : Inflater) (inp : DeflateChunk), st.reader.Wf → (∀ v ∈ vals, v < 8) →
      st.lengthIndex + vals.length = st.lengthTarget → stream st.reader inp = (vals.map (lsbBits 3)).flatten ++ rest →
      ∃ d inp₁, d.Wf ∧ stream d inp₁ = rest ∧
        inflateRun (fuel + vals.length) .dynamicCodelen st inp out =
          inflateRun fuel .dynamicCodelen
            { st with reader := d, lengthIndex := st.lengthTarget,
                      lengths := setCodelens st.lengthIndex vals st.lengths } inp₁ out := by
  intro vals
  induction vals with
  | nil =>
    intro st inp hd _ hidx hs
    refine ⟨st.reader, inp, hd, by simpa using hs, ?_⟩
    obtain ⟨resume, format, reader, header, remaining, lengthIndex, lengthTarget⟩ := st
    simp only [List.length_nil, Nat.add_zero] at hidx
    subst hidx
    rfl
  | cons v vals ih =>
    intro st inp hd hv hidx hs
    simp only [List.length_cons] at hidx
    have hs' : stream st.reader inp = lsbBits 3 v ++ ((vals.map (lsbBits 3)).flatten ++ rest) := by
      rw [hs, List.map_cons, List.flatten_cons, List.append_assoc]
    obtain ⟨d, inp₁, hw, hr, hstep⟩ :=
      dynamicCodelen_step out hd (by omega) (hv v List.mem_cons_self) hs'
    obtain ⟨d', inp₂, hw', hr', hrun⟩ :=
      ih { st with reader := d, lengthIndex := st.lengthIndex + 1,
                   lengths := deflateSetLength st.lengths (deflateCodelenMap.getD st.lengthIndex 0) v } inp₁ hw (fun w hw => hv w (List.mem_cons_of_mem v hw)) (show st.lengthIndex + 1 + vals.length = st.lengthTarget by omega) hr
    refine ⟨d', inp₂, hw', hr', ?_⟩
    rw [List.length_cons, ← Nat.add_assoc, inflateRun_next hstep (fuel + vals.length), hrun]
    rfl

/-! ## header から code length の符号の表まで -/

/-- **code length の符号。** dynamic block の header の後に HCLEN + 4 個の 3 bit の値 `vals` が続けば、
`deflate_inflate` は `vals` を読み切り、RFC 1951 の 3.2.7 節の順 `16, 17, 18, 0, 8, ..` でその長さを
記号に割り当てた表を作る。長さが符号をちょうど使い切れば `dynamic_litlen_distance` へ移り、表は
その長さの正準な符号の表で、読み残しは `vals` の後ろである。使い切らなければ `-EINVAL`。 -/
theorem inflateRun_dynamicCodelens (st : Inflater) (inp out : DeflateChunk) (header : Nat) (vals : List Nat)
    (rest : List Bool) (fuel : Nat) (hd : st.reader.Wf) (hh : header < 2 ^ 14)
    (hlen : vals.length = ((header >>> 10) &&& 0x0f) + 4) (hv : ∀ v ∈ vals, v < 8)
    (hs : stream st.reader inp = lsbBits 14 header ++ (vals.map (lsbBits 3)).flatten ++ rest) :
    (kraftSum (codelenLengths vals) 19 16 = 2 ^ 16 →
      ∃ st' inp', inflateRun (fuel + vals.length + 2) .dynamicHeader st inp out =
          inflateRun fuel .dynamicLitlenDistance st' inp' out ∧
        Built (codelenLengths vals) 19 st'.distanceCodelen ∧ stream st'.reader inp' = rest ∧
        st'.litlenCount = ((header >>> 0) &&& 0x1f) + 257 ∧ st'.distanceCount = ((header >>> 5) &&& 0x1f) + 1) ∧
    (kraftSum (codelenLengths vals) 19 16 ≠ 2 ^ 16 →
      inflateRun (fuel + vals.length + 2) .dynamicHeader st inp out = .error .einval) := by
  have h15 : ((header >>> 10) &&& 0x0f) ≤ 15 := Nat.and_le_right
  -- header を読み、loop で `vals` を読み切る
  obtain ⟨d, inp₁, hw, hr, hstep⟩ :=
    dynamicHeader_step out hd hh (show stream st.reader inp = lsbBits 14 header ++ _ by
      rw [hs, List.append_assoc])
  obtain ⟨d', inp₂, hw', hr', hloop⟩ := inflateRun_dynamicCodelen_loop out rest (fuel + 1) vals
    { st with reader := d, litlenCount := ((header >>> 0) &&& 0x1f) + 257,
              distanceCount := ((header >>> 5) &&& 0x1f) + 1, lengthIndex := 0,
              lengthTarget := ((header >>> 10) &&& 0x0f) + 4, lengths := List.replicate lengthsSize 0 }
    inp₁ hw hv (show 0 + vals.length = ((header >>> 10) &&& 0x0f) + 4 by omega) hr
  have hrun : inflateRun (fuel + vals.length + 2) .dynamicHeader st inp out =
      inflateRun (fuel + 1) .dynamicCodelen
        { st with reader := d', litlenCount := ((header >>> 0) &&& 0x1f) + 257,
                  distanceCount := ((header >>> 5) &&& 0x1f) + 1, lengthIndex := ((header >>> 10) &&& 0x0f) + 4,
                  lengthTarget := ((header >>> 10) &&& 0x0f) + 4,
                  lengths := setCodelens 0 vals (List.replicate lengthsSize 0) } inp₂ out := by
    rw [show fuel + vals.length + 2 = fuel + 1 + vals.length + 1 by omega, inflateRun_next hstep, hloop]
  -- 書いた長さを `deflate_length` で読むと、RFC の長さ
  have hcl : ∀ s < 19, alphabetLength (setCodelens 0 vals (List.replicate lengthsSize 0)) 0 s = codelenLengths vals s :=
    fun s _ => deflateLength_codelens vals (by omega) (fun v hv' => by have := hv v hv'; omega) (s + 0)
  have hge : ¬((header >>> 10) &&& 0x0f) + 4 < ((header >>> 10) &&& 0x0f) + 4 := Nat.lt_irrefl _
  refine ⟨fun hk => ?_, fun hk => ?_⟩
  · obtain ⟨a, ha, hb⟩ := deflateAlphabet_of_kraftSum hcl hk st.distanceCodelen
    refine ⟨{ st with reader := d', litlenCount := ((header >>> 0) &&& 0x1f) + 257,
                      distanceCount := ((header >>> 5) &&& 0x1f) + 1, lengthIndex := 0,
                      lengthTarget := (((header >>> 0) &&& 0x1f) + 257) + (((header >>> 5) &&& 0x1f) + 1),
                      length := 0, distanceCodelen := a, lengths := List.replicate lengthsSize 0 },
      inp₂, ?_, hb, hr', rfl, rfl⟩
    rw [hrun]
    apply inflateRun_next
    apply dynamicCodelen_alphabet inp₂ out
    · exact hge
    · exact ha
  · have hnone : deflateAlphabet (setCodelens 0 vals (List.replicate lengthsSize 0)) st.distanceCodelen (18 + 1) 0 =
        none := by
      rw [deflateAlphabet_none_iff, kraftSum_congr hcl]
      exact hk
    rw [hrun]
    apply inflateRun_fail
    apply dynamicCodelen_einval inp₂ out
    · exact hge
    · exact hnone

/-- HCLEN = 0 の header の後に長さ 1, 2, 3, 3 が届くと、記号 16, 17, 18, 0 の符号が使い切られる。 -/
theorem inflateRun_dynamicCodelens_four :
    kraftSum (codelenLengths [1, 2, 3, 3]) 19 16 = 2 ^ 16 ∧
      ∃ st' inp', inflateRun (0 + [1, 2, 3, 3].length + 2) .dynamicHeader (deflateInit .raw) ⟨[0, 64, 180, 1], 0, 4⟩
            ⟨[], 0, 0⟩ = inflateRun 0 .dynamicLitlenDistance st' inp' ⟨[], 0, 0⟩ ∧
        Built (codelenLengths [1, 2, 3, 3]) 19 st'.distanceCodelen ∧ stream st'.reader inp' = List.replicate 6 false ∧
        st'.litlenCount = 257 ∧ st'.distanceCount = 1 := by
  have hk : kraftSum (codelenLengths [1, 2, 3, 3]) 19 16 = 2 ^ 16 := by decide
  exact ⟨hk, (inflateRun_dynamicCodelens (deflateInit .raw) ⟨[0, 64, 180, 1], 0, 4⟩ ⟨[], 0, 0⟩ 0 [1, 2, 3, 3]
    (List.replicate 6 false) 0 wf_zero (by decide) (by decide) (by decide) (by decide)).1 hk⟩

end FlexBoot.Inflate
