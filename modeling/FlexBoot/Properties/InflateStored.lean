import FlexBoot.Properties.InflateOutput

/-!
# stored block の往復

RFC 1951 の 3.2.4 節の stored block（`BTYPE = 00`）で data を包んだ流れを `deflate_inflate` に渡すと、
data がそのまま出力に書かれる。

* `storedBlock`, `storedStream` — stored block と、それを並べた raw DEFLATE の流れ（仕様の側の定義）
* `deflateExtract_zero` — 溜めた bit がない時の `deflate_extract` は、入力の byte を前から読む
* `inflateRun_storedBlock` — `block_header` から五歩で一つの block を写し、`block_done` に着く
* `inflateRun_storedBlocks` — block を全部写し、最後の block の `block_done` に着く
* `deflateInflate_storedStream` — `deflate_init` の直後に流れ全体を渡すと、data を全部書いて終わる
* `deflateInflate_storedNlen_mismatch` — `NLEN` が `LEN` の補数でない stored block は `-EINVAL`
-/

namespace FlexBoot.Inflate

open Infra

/-! ## 符号化 -/

/-- RFC 1951 の 3.2.4 節の stored block：`BFINAL` と `BTYPE = 00` の 3 bit（byte の残りは 0）、
`LEN` と `NLEN` を下の byte から、data。 -/
def storedBlock (final : Bool) (data : List UInt8) : List UInt8 :=
  [if final then 1 else 0, UInt8.ofNat (data.length % 256), UInt8.ofNat (data.length / 256),
    UInt8.ofNat ((65535 - data.length) % 256), UInt8.ofNat ((65535 - data.length) / 256)] ++ data

/-- stored block を並べた raw DEFLATE の流れ。最後の block だけ `BFINAL` を立てる。 -/
def storedStream (blocks : List (List UInt8)) (last : List UInt8) : List UInt8 :=
  blocks.flatMap (storedBlock false) ++ storedBlock true last

theorem length_storedBlock (final : Bool) (data : List UInt8) :
    (storedBlock final data).length = data.length + 5 := by
  simp only [storedBlock, List.length_append, List.length_cons, List.length_nil]
  omega

/-! ## 溜めた bit がない時の読み出し -/

/-- 読んだ bit の数と残りの bit の数から、読んだ byte の数が決まる。 -/
theorem extract_offset_arith {bits target o o' len : Nat} (hl : bits + 8 * (len - o') + target = 8 * (len - o))
    (hb : bits < 8) (ho' : o' ≤ len) (ho : o ≤ len) :
    o' = o + (target + 7) / 8 ∧ bits = 8 * ((target + 7) / 8) - target := by
  omega

/-- 溜めた bit がない時に `target` bit 取り出すと、入力の byte を `(target + 7) / 8` 個読み、読んだ bit の
残りが溜めに残る。 -/
theorem deflateExtract_zero (inp : DeflateChunk) {target : Nat} (ht : target ≤ 25)
    (ho : inp.offset ≤ inp.len) (hle : target ≤ 8 * (inp.len - inp.offset)) :
    ∃ (v : Nat) (d' : Deflate), deflateExtract ⟨0, 0, 0⟩ inp target =
        ((v : Int), d', { inp with offset := inp.offset + (target + 7) / 8 }) ∧
      v < 2 ^ target ∧ lsbBits target v = (chunkBits inp).take target ∧ d'.Wf ∧
      d'.bits = 8 * ((target + 7) / 8) - target := by
  have hs : stream ⟨0, 0, 0⟩ inp = chunkBits inp := rfl
  have hlen0 : (stream ⟨0, 0, 0⟩ inp).length = 8 * (inp.len - inp.offset) := by
    rw [length_stream, Nat.zero_add]
  obtain ⟨hw, hok, -⟩ := deflateExtract_spec wf_zero inp ht
  obtain ⟨v, hv, hvlt, hbits, -⟩ := hok (by omega)
  obtain ⟨hl, hlen, hdata⟩ := deflateExtract_length ⟨0, 0, 0⟩ inp target
  obtain ⟨hb, hoff⟩ := deflateExtract_bound ⟨0, 0, 0⟩ inp target ho (by rw [hv]; exact Int.natCast_nonneg v)
  rw [hv, if_neg (by omega), length_stream, hlen0] at hl
  rw [hs] at hbits
  -- 取り出した後の状態に名前をつける
  generalize deflateExtract ⟨0, 0, 0⟩ inp target = r at hv hw hl hlen hdata hb hoff
  obtain ⟨c, d', ⟨data', off', len'⟩⟩ := r
  dsimp only at hv hw hl hlen hdata hb hoff
  subst hv hlen hdata
  have hb8 : d'.bits < 8 := by
    rcases hb with hb | hb <;> omega
  obtain ⟨hoff', hbits'⟩ := extract_offset_arith hl hb8 hoff ho
  refine ⟨v, d', ?_, hvlt, hbits, hw, hbits'⟩
  rw [hoff']

/-- 溜めた bit がない時に 16 bit 取り出すと、次の二つの byte を下の byte から並べた値を読み、溜めは
空に戻る。 -/
theorem deflateExtract_zero_two {inp : DeflateChunk} (h : inp.offset + 2 ≤ inp.len) :
    deflateExtract ⟨0, 0, 0⟩ inp 16 =
      ((((inp.data.getD inp.offset 0).toNat + 256 * (inp.data.getD (inp.offset + 1) 0).toNat : Nat) : Int),
        ⟨0, 0, 0⟩, { inp with offset := inp.offset + 2 }) := by
  obtain ⟨v, d', he, hvlt, hbits, hw, hb⟩ :=
    deflateExtract_zero inp (show 16 ≤ 25 by decide) (by omega) (by omega)
  have hb0 := UInt8.toNat_lt (inp.data.getD inp.offset 0)
  have hb1 := UInt8.toNat_lt (inp.data.getD (inp.offset + 1) 0)
  -- 読んだ 16 bit は、二つの byte の bit を並べたもの
  have htake : (chunkBits inp).take 16 =
      lsbBits (8 + 8) ((inp.data.getD inp.offset 0).toNat + 2 ^ 8 * (inp.data.getD (inp.offset + 1) 0).toNat) := by
    rw [chunkBits_of_lt (by omega), chunkBits_of_lt (show inp.offset + 1 < inp.len by omega), ← List.append_assoc,
      List.take_left' (by simp), lsbBits_append hb0]
  have hv := lsbBits_inj (hbits.trans htake)
  rw [Nat.mod_eq_of_lt hvlt, Nat.mod_eq_of_lt (by omega)] at hv
  rw [he, hw.eq_zero (by omega), hv]
  rfl

/-- 溜めた bit がない時に 3 bit 取り出すと、次の byte の下 3 bit を読む。溜めに残る 5 bit は、byte の
境目まで捨てると空になる。 -/
theorem deflateExtract_zero_three {inp : DeflateChunk} (h : inp.offset < inp.len) :
    ∃ d', deflateExtract ⟨0, 0, 0⟩ inp 3 =
        ((((inp.data.getD inp.offset 0).toNat % 8 : Nat) : Int), d', { inp with offset := inp.offset + 1 }) ∧
      deflateDiscardToByte d' = ⟨0, 0, 0⟩ := by
  obtain ⟨v, d', he, hvlt, hbits, hw, hb⟩ :=
    deflateExtract_zero inp (show 3 ≤ 25 by decide) (by omega) (by omega)
  have htake : (chunkBits inp).take 3 = lsbBits 3 (inp.data.getD inp.offset 0).toNat := by
    rw [chunkBits_of_lt h, List.take_append_of_le_length (by simp), lsbBits_take (by decide)]
  have hv := lsbBits_inj (hbits.trans htake)
  rw [Nat.mod_eq_of_lt hvlt] at hv
  refine ⟨d', by rw [he, hv]; rfl, ?_⟩
  -- 5 bit 残っているので、byte の境目まで 5 bit 捨てる
  have h5 : d'.bits = 5 := by omega
  have hc : d'.bits &&& 7 ≤ d'.bits := Nat.and_le_left
  apply (wf_deflateConsume hw hc).eq_zero
  show d'.bits - (d'.bits &&& 7) = 0
  rw [h5]
  rfl

/-! ## 一歩ずつ -/

/-- `deflate_extract` が値をそろえれば、続きへ渡す。 -/
theorem extractThen_of_eq {l : Label} {st : Inflater} {inp out inp' : DeflateChunk} {t v : Nat} {d : Deflate}
    {k : Nat → Inflater → DeflateChunk → Step} (h : deflateExtract st.reader inp t = ((v : Int), d, inp')) :
    extractThen l st inp out t k = k v { st with reader := d } inp' := by
  unfold extractThen
  rw [h]
  dsimp only
  rw [if_neg (Int.not_lt.mpr (Int.natCast_nonneg v)), Int.toNat_natCast]

section Steps

variable (st : Inflater) (inp out : DeflateChunk)

/-- `block_header`：溜めた bit がなく、次の byte の下 3 bit が stored block なら `literal_block` へ。 -/
theorem inflateStep_blockHeader_stored {h : Nat} (hr : st.reader = ⟨0, 0, 0⟩) (hi : inp.offset < inp.len)
    (hb : (inp.data.getD inp.offset 0).toNat % 8 = h) (h2 : h < 2) :
    ∃ d, deflateDiscardToByte d = ⟨0, 0, 0⟩ ∧ inflateStep .blockHeader st inp out =
      .next .literalBlock { st with reader := d, header := h } { inp with offset := inp.offset + 1 } out := by
  obtain ⟨d, he, hd⟩ := deflateExtract_zero_three hi
  rw [← hr, hb] at he
  refine ⟨d, hd, ?_⟩
  delta inflateStep
  dsimp only
  rw [extractThen_of_eq he]
  have hs : h >>> 1 = 0 := by
    rw [Nat.shiftRight_eq_div_pow]
    omega
  dsimp only
  rw [hs]
  rfl

theorem inflateStep_literalBlock :
    inflateStep .literalBlock st inp out =
      .next .literalLen { st with reader := deflateDiscardToByte st.reader } inp out :=
  rfl

/-- `literal_len`：溜めた bit がなければ、次の二つの byte を `LEN` として読む。 -/
theorem inflateStep_literalLen_zero {len : Nat} (hr : st.reader = ⟨0, 0, 0⟩) (hi : inp.offset + 2 ≤ inp.len)
    (hv : (inp.data.getD inp.offset 0).toNat + 256 * (inp.data.getD (inp.offset + 1) 0).toNat = len) :
    inflateStep .literalLen st inp out =
      .next .literalNlen { st with reader := ⟨0, 0, 0⟩, remaining := len } { inp with offset := inp.offset + 2 } out := by
  delta inflateStep
  dsimp only
  rw [extractThen_of_eq (by rw [hr, deflateExtract_zero_two hi, hv])]

/-- `literal_nlen`：溜めた bit がなければ、次の二つの byte を `NLEN` として読む。`LEN` の 1 の補数なら
`literal_data` へ、そうでなければ `-EINVAL`。 -/
theorem inflateStep_literalNlen (hr : st.reader = ⟨0, 0, 0⟩) (hi : inp.offset + 2 ≤ inp.len)
    (hn : st.remaining < 2 ^ 16) :
    inflateStep .literalNlen st inp out =
      if (inp.data.getD inp.offset 0).toNat + 256 * (inp.data.getD (inp.offset + 1) 0).toNat =
          2 ^ 16 - (st.remaining + 1) then
        .next .literalData { st with reader := ⟨0, 0, 0⟩ } { inp with offset := inp.offset + 2 } out
      else .fail .einval := by
  have hb0 := UInt8.toNat_lt (inp.data.getD inp.offset 0)
  have hb1 := UInt8.toNat_lt (inp.data.getD (inp.offset + 1) 0)
  -- `~nlen` の下 16 bit が `LEN` に戻るのは、`NLEN` が `LEN` の補数の時だけ
  have hcheck := xor_complement_eq_zero_iff hn
    (show (inp.data.getD inp.offset 0).toNat + 256 * (inp.data.getD (inp.offset + 1) 0).toNat < 2 ^ 16 by omega)
  delta inflateStep
  dsimp only
  rw [extractThen_of_eq (by rw [hr]; exact deflateExtract_zero_two hi)]
  dsimp only
  rw [show (0xffff : Nat) = 2 ^ 16 - 1 from rfl, show (1 <<< 16) - 1 = 2 ^ 16 - 1 from rfl]
  by_cases h : (inp.data.getD inp.offset 0).toNat + 256 * (inp.data.getD (inp.offset + 1) 0).toNat =
      2 ^ 16 - (st.remaining + 1)
  · rw [if_pos h, if_neg (not_not.mpr (hcheck.mpr h))]
  · rw [if_neg h, if_pos (fun h0 => h (hcheck.mp h0))]

theorem inflateStep_literalNlen_zero (hr : st.reader = ⟨0, 0, 0⟩) (hi : inp.offset + 2 ≤ inp.len)
    (hn : st.remaining < 2 ^ 16)
    (hnlen : (inp.data.getD inp.offset 0).toNat + 256 * (inp.data.getD (inp.offset + 1) 0).toNat =
      2 ^ 16 - (st.remaining + 1)) :
    inflateStep .literalNlen st inp out =
      .next .literalData { st with reader := ⟨0, 0, 0⟩ } { inp with offset := inp.offset + 2 } out := by
  rw [inflateStep_literalNlen st inp out hr hi hn, if_pos hnlen]

theorem inflateStep_literalNlen_mismatch (hr : st.reader = ⟨0, 0, 0⟩) (hi : inp.offset + 2 ≤ inp.len)
    (hn : st.remaining < 2 ^ 16)
    (hne : (inp.data.getD inp.offset 0).toNat + 256 * (inp.data.getD (inp.offset + 1) 0).toNat ≠
      2 ^ 16 - (st.remaining + 1)) :
    inflateStep .literalNlen st inp out = .fail .einval := by
  rw [inflateStep_literalNlen st inp out hr hi hn, if_neg hne]

/-- `literal_data`：`LEN` の byte が全部入力にあれば、全部写して `block_done` へ。 -/
theorem inflateStep_literalData_all (h : st.remaining ≤ inp.len - inp.offset) :
    inflateStep .literalData st inp out =
      .next .blockDone { st with remaining := 0 } { inp with offset := inp.offset + st.remaining }
        (deflateCopy out (.bytes inp.data) inp.offset st.remaining) := by
  delta inflateStep
  dsimp only
  rw [Nat.min_eq_left h, Nat.sub_self, if_neg (not_not.mpr rfl)]

theorem inflateStep_blockDone_more (h : st.header &&& 1 = 0) :
    inflateStep .blockDone st inp out = .next .blockHeader st inp out := by
  delta inflateStep
  dsimp only
  rw [Nat.shiftLeft_zero, if_pos h]

theorem inflateStep_blockDone_raw (h : st.header &&& 1 ≠ 0) (hf : st.format = .raw) :
    inflateStep .blockDone st inp out = .next .finished st inp out := by
  delta inflateStep
  dsimp only
  rw [Nat.shiftLeft_zero, if_neg h, hf]

theorem inflateStep_finished : inflateStep .finished st inp out = .stop { st with resume := none } inp out :=
  rfl

end Steps

/-! ## 一つの block -/

/-- 入力の区間 `blk` を、出力の `len` の内側に全部写す。 -/
theorem deflateCopy_block {out : DeflateChunk} {b blk : List UInt8} {s : Nat}
    (hb : ∀ i < blk.length, b.getD (s + i) 0 = blk.getD i 0)
    (hout : out.offset + blk.length ≤ out.len) (hbuf : out.len ≤ out.data.length) :
    deflateCopy out (.bytes b) s blk.length =
      { out with data := splice out.data out.offset blk, offset := out.offset + blk.length } := by
  by_cases ho : out.offset < out.len
  · have hdata := deflateCopy_bytes b s blk.length ho hbuf
    rw [Nat.min_eq_right (by omega)] at hdata
    have hmap : (List.range blk.length).map (fun i => b.getD (s + i) 0) = blk := by
      apply List.ext_getElem (by simp)
      intro i h1 h2
      rw [List.getElem_map, List.getElem_range, hb i h2, List.getD_eq_getElem _ _ h2]
    rw [hmap] at hdata
    unfold deflateCopy at hdata ⊢
    dsimp only at hdata ⊢
    rw [hdata]
    rfl
  · -- 書く所がなければ `blk` は空
    have hnil : blk = [] := List.eq_nil_of_length_eq_zero (by omega)
    subst hnil
    unfold deflateCopy
    rw [if_neg ho, splice_nil]

section Block

variable {final : Bool} {blk rest : List UInt8} {st : Inflater} {inp out : DeflateChunk}

/-- 入力の offset から `s` が並んでいれば、offset から `i` 番目の byte は `s` の `i` 番目。 -/
theorem getD_of_drop {s : List UInt8} (hdata : inp.data.drop inp.offset = s) (i : Nat) :
    inp.data.getD (inp.offset + i) 0 = s.getD i 0 := by
  rw [← hdata, List.getD_eq_getElem?_getD, List.getD_eq_getElem?_getD, List.getElem?_drop]

/-- **一つの stored block。** 溜めた bit がなく、入力の offset から stored block が並んでいれば、
`block_header` から五歩で `block_done` に着き、その間に data を出力の offset に写す。 -/
theorem inflateRun_storedBlock (hn : blk.length < 2 ^ 16) (hr : st.reader = ⟨0, 0, 0⟩)
    (hdata : inp.data.drop inp.offset = storedBlock final blk ++ rest) (hlen : inp.offset + 5 + blk.length ≤ inp.len)
    (hout : out.offset + blk.length ≤ out.len) (hbuf : out.len ≤ out.data.length) (fuel : Nat) :
    inflateRun (fuel + 5) .blockHeader st inp out =
      inflateRun fuel .blockDone { st with reader := ⟨0, 0, 0⟩, header := final.toNat, remaining := 0 }
        { inp with offset := inp.offset + 5 + blk.length }
        { out with data := splice out.data out.offset blk, offset := out.offset + blk.length } := by
  have hbyte := getD_of_drop hdata
  -- block の頭の 5 byte
  have hb0 : (inp.data.getD inp.offset 0).toNat % 8 = final.toNat := by
    have h0 := hbyte 0
    rw [Nat.add_zero] at h0
    rw [h0]
    cases final <;> rfl
  have hlen1 : (inp.data.getD (inp.offset + 1) 0).toNat + 256 * (inp.data.getD (inp.offset + 1 + 1) 0).toNat =
      blk.length := by
    rw [hbyte, Nat.add_assoc, hbyte]
    show (UInt8.ofNat (blk.length % 256)).toNat + 256 * (UInt8.ofNat (blk.length / 256)).toNat = blk.length
    rw [UInt8.toNat_ofNat', UInt8.toNat_ofNat']
    omega
  have hnlen : (inp.data.getD (inp.offset + 3) 0).toNat + 256 * (inp.data.getD (inp.offset + 3 + 1) 0).toNat =
      2 ^ 16 - (blk.length + 1) := by
    rw [hbyte, Nat.add_assoc, hbyte]
    show (UInt8.ofNat ((65535 - blk.length) % 256)).toNat + 256 * (UInt8.ofNat ((65535 - blk.length) / 256)).toNat =
      2 ^ 16 - (blk.length + 1)
    rw [UInt8.toNat_ofNat', UInt8.toNat_ofNat']
    omega
  have hcopy : ∀ i < blk.length, inp.data.getD (inp.offset + 5 + i) 0 = blk.getD i 0 := by
    intro i hi
    rw [Nat.add_assoc, hbyte, List.getD_append _ _ _ _ (by rw [length_storedBlock]; omega)]
    show (_ :: _ :: _ :: _ :: _ :: blk).getD (5 + i) 0 = _
    rw [Nat.add_comm 5 i]
    rfl
  -- 五歩
  obtain ⟨d, hd, h1⟩ := inflateStep_blockHeader_stored st inp out hr (by omega) hb0
    (Nat.lt_of_le_of_lt (Bool.toNat_le final) (by decide))
  have h3 := inflateStep_literalLen_zero { st with reader := deflateDiscardToByte d, header := final.toNat }
    { inp with offset := inp.offset + 1 } out hd (by dsimp only; omega) hlen1
  have h4 := inflateStep_literalNlen_zero { st with reader := ⟨0, 0, 0⟩, header := final.toNat, remaining := blk.length }
    { inp with offset := inp.offset + 1 + 2 } out rfl (by dsimp only; omega) hn hnlen
  have h5 := inflateStep_literalData_all { st with reader := ⟨0, 0, 0⟩, header := final.toNat, remaining := blk.length }
    { inp with offset := inp.offset + 1 + 2 + 2 } out (by dsimp only; omega)
  calc inflateRun (fuel + 5) .blockHeader st inp out
      = inflateRun (fuel + 4) .literalBlock { st with reader := d, header := final.toNat }
          { inp with offset := inp.offset + 1 } out := inflateRun_next h1 _
    _ = inflateRun (fuel + 3) .literalLen { st with reader := deflateDiscardToByte d, header := final.toNat }
          { inp with offset := inp.offset + 1 } out := inflateRun_next (inflateStep_literalBlock _ _ _) _
    _ = inflateRun (fuel + 2) .literalNlen { st with reader := ⟨0, 0, 0⟩, header := final.toNat, remaining := blk.length }
          { inp with offset := inp.offset + 1 + 2 } out := inflateRun_next h3 _
    _ = inflateRun (fuel + 1) .literalData { st with reader := ⟨0, 0, 0⟩, header := final.toNat, remaining := blk.length }
          { inp with offset := inp.offset + 1 + 2 + 2 } out := inflateRun_next h4 _
    _ = _ := by
      rw [inflateRun_next h5, deflateCopy_block hcopy hout hbuf]

end Block

/-! ## 流れ全体 -/

theorem storedStream_nil (last : List UInt8) : storedStream [] last = storedBlock true last := by
  simp [storedStream]

theorem storedStream_cons (b : List UInt8) (bs : List (List UInt8)) (last : List UInt8) :
    storedStream (b :: bs) last = storedBlock false b ++ storedStream bs last := by
  simp [storedStream, List.append_assoc]

/-- **stored block の流れ。** 溜めた bit がなく、入力の offset から stored block の流れが並んでいれば、
`block_header` から `6 * |blocks| + 5` 歩で data を全部出力に写し、最後の block の `block_done` に着く。
block の数についての帰納法で、一つごとに `inflateRun_storedBlock` と `block_done` の一歩を使う。 -/
theorem inflateRun_storedBlocks {last : List UInt8} (rest : List UInt8) (hlast : last.length < 2 ^ 16) :
    ∀ (blocks : List (List UInt8)), (∀ b ∈ blocks, b.length < 2 ^ 16) →
    ∀ (st : Inflater) (inp out : DeflateChunk) (fuel : Nat), st.reader = ⟨0, 0, 0⟩ →
      inp.data.drop inp.offset = storedStream blocks last ++ rest →
      inp.offset + (storedStream blocks last).length ≤ inp.len →
      out.offset + (blocks.flatten ++ last).length ≤ out.len → out.len ≤ out.data.length →
      inflateRun (fuel + 6 * blocks.length + 5) .blockHeader st inp out =
        inflateRun fuel .blockDone { st with reader := ⟨0, 0, 0⟩, header := 1, remaining := 0 }
          { inp with offset := inp.offset + (storedStream blocks last).length }
          { out with data := splice out.data out.offset (blocks.flatten ++ last),
                     offset := out.offset + (blocks.flatten ++ last).length }
  | [], _, st, inp, out, fuel, hr, hdata, hlen, hout, hbuf => by
    -- 最後の block は `BFINAL` を立てている
    rw [storedStream_nil] at hdata hlen ⊢
    rw [length_storedBlock] at hlen ⊢
    rw [List.flatten_nil, List.nil_append] at hout ⊢
    rw [show fuel + 6 * [].length + 5 = fuel + 5 from rfl,
      inflateRun_storedBlock hlast hr hdata (by omega) hout hbuf fuel,
      show inp.offset + 5 + last.length = inp.offset + (last.length + 5) by omega]
    rfl
  | b :: bs, hsize, st, inp, out, fuel, hr, hdata, hlen, hout, hbuf => by
    have hb : b.length < 2 ^ 16 := hsize b (List.mem_cons_self ..)
    have hbs : ∀ b ∈ bs, b.length < 2 ^ 16 := fun b' h => hsize b' (List.mem_cons_of_mem _ h)
    rw [storedStream_cons, List.append_assoc] at hdata
    rw [storedStream_cons, List.length_append, length_storedBlock] at hlen
    rw [List.flatten_cons, List.append_assoc, List.length_append] at hout
    -- 次の block の始まり
    have hdata' : inp.data.drop (inp.offset + 5 + b.length) = storedStream bs last ++ rest := by
      rw [Nat.add_assoc, ← List.drop_drop, hdata,
        List.drop_left' (by rw [length_storedBlock, Nat.add_comm])]
    have hbuf' : out.len ≤ (splice out.data out.offset b).length := by
      rw [length_splice (by omega)]
      exact hbuf
    have ih := inflateRun_storedBlocks rest hlast bs hbs
      { st with reader := ⟨0, 0, 0⟩, header := (false).toNat, remaining := 0 }
      { inp with offset := inp.offset + 5 + b.length }
      { out with data := splice out.data out.offset b, offset := out.offset + b.length } fuel rfl hdata'
      (by dsimp only; omega) (by dsimp only; omega) hbuf'
    rw [show fuel + 6 * (b :: bs).length + 5 = fuel + 6 * bs.length + 5 + 1 + 5 by simp only [List.length_cons]; omega,
      inflateRun_storedBlock hb hr hdata (by omega) (by omega) hbuf,
      inflateRun_next (inflateStep_blockDone_more _ _ _ (by simp)), ih]
    dsimp only
    rw [splice_splice (by omega)]
    simp only [storedStream_cons, List.flatten_cons, List.length_append, length_storedBlock, List.append_assoc]
    rw [show inp.offset + 5 + b.length = inp.offset + (b.length + 5) by omega, Nat.add_assoc inp.offset,
      Nat.add_assoc out.offset]

/-- raw の形式では、最後の `block_done` から `finished` へ移って止まる。 -/
theorem inflateRun_storedStream {last : List UInt8} (rest : List UInt8) (hlast : last.length < 2 ^ 16)
    (blocks : List (List UInt8)) (hsize : ∀ b ∈ blocks, b.length < 2 ^ 16)
    (st : Inflater) (inp out : DeflateChunk) (fuel : Nat) (hr : st.reader = ⟨0, 0, 0⟩) (hf : st.format = .raw)
    (hdata : inp.data.drop inp.offset = storedStream blocks last ++ rest)
    (hlen : inp.offset + (storedStream blocks last).length ≤ inp.len)
    (hout : out.offset + (blocks.flatten ++ last).length ≤ out.len) (hbuf : out.len ≤ out.data.length) :
    inflateRun (fuel + 6 * blocks.length + 7) .blockHeader st inp out =
      .ok ({ st with reader := ⟨0, 0, 0⟩, header := 1, remaining := 0, resume := none },
        { inp with offset := inp.offset + (storedStream blocks last).length },
        { out with data := splice out.data out.offset (blocks.flatten ++ last),
                   offset := out.offset + (blocks.flatten ++ last).length }) := by
  rw [show fuel + 6 * blocks.length + 7 = fuel + 1 + 1 + 6 * blocks.length + 5 by omega,
    inflateRun_storedBlocks rest hlast blocks hsize st inp out (fuel + 1 + 1) hr hdata hlen hout hbuf,
    inflateRun_next (inflateStep_blockDone_raw { st with reader := ⟨0, 0, 0⟩, header := 1, remaining := 0 } _ _
      (by simp) hf),
    inflateRun_stop (inflateStep_finished _ _ _)]

/-- **stored block の往復。** `deflate_init` の直後に、stored block を並べた raw DEFLATE の流れ全体を一つの
入力の chunk で渡すと、`deflate_inflate` は入力を全部読み、data を全部出力の始めに書いて終わる
（`deflate_finished`）。出力の buffer の残りの byte はそのまま。 -/
theorem deflateInflate_storedStream (blocks : List (List UInt8)) (last : List UInt8)
    (hsize : ∀ b ∈ last :: blocks, b.length < 2 ^ 16) (buf : List UInt8)
    (hbuf : (blocks.flatten ++ last).length ≤ buf.length) :
    deflateInflate (deflateInit .raw) ⟨storedStream blocks last, 0, (storedStream blocks last).length⟩
        ⟨buf, 0, buf.length⟩ =
      .ok ({ deflateInit .raw with header := 1 },
        ⟨storedStream blocks last, (storedStream blocks last).length, (storedStream blocks last).length⟩,
        ⟨splice buf 0 (blocks.flatten ++ last), (blocks.flatten ++ last).length, buf.length⟩) := by
  have hr : Reachable (deflateInit .raw) := .init .raw
  have hrun := inflateRun_storedStream [] (hsize last (List.mem_cons_self ..)) blocks
    (fun b h => hsize b (List.mem_cons_of_mem _ h)) (deflateInit .raw)
    ⟨storedStream blocks last, 0, (storedStream blocks last).length⟩ ⟨buf, 0, buf.length⟩
    (inflateFuel (deflateInit .raw) ⟨storedStream blocks last, 0, (storedStream blocks last).length⟩)
    rfl rfl (by simp) (by simp) (by simpa using hbuf) (Nat.le_refl _)
  rw [Nat.add_assoc] at hrun
  unfold deflateInflate
  rw [← inflateRun_stable _ _ _ _ _ (inv_entryLabel hr.invResume) (measure_lt_inflateFuel _ _ _)
    (6 * blocks.length + 7)]
  rw [show entryLabel (deflateInit .raw) = .blockHeader from rfl, hrun]
  simp only [Nat.zero_add]
  rfl

theorem deflateInflate_storedStream_two_blocks :
    (∀ b ∈ ([[3], [1, 2]] : List (List UInt8)), b.length < 2 ^ 16) ∧
      (([[1, 2]] : List (List UInt8)).flatten ++ [3]).length ≤ ([0, 0, 0, 0] : List UInt8).length ∧
      deflateInflate (deflateInit .raw) ⟨storedStream [[1, 2]] [3], 0, 13⟩ ⟨[0, 0, 0, 0], 0, 4⟩ =
        .ok ({ deflateInit .raw with header := 1 }, ⟨storedStream [[1, 2]] [3], 13, 13⟩, ⟨[1, 2, 3, 0], 3, 4⟩) :=
  ⟨by decide, by decide, deflateInflate_storedStream [[1, 2]] [3] (by decide) [0, 0, 0, 0] (by decide)⟩

/-! ## 壊れた stored block -/

/-- **`NLEN` の検査。** `deflate_init` の直後、入力の最初の block が stored block（下の byte の bit 1 と 2 が
0）で、`NLEN` が `LEN` の 1 の補数でなければ、`deflate_inflate` は `-EINVAL` を返す。`BFINAL` と byte の残りの
5 bit、後に続く byte は問わない。 -/
theorem deflateInflate_storedNlen_mismatch (inp out : DeflateChunk) (h5 : inp.offset + 5 ≤ inp.len)
    (hbtype : (inp.data.getD inp.offset 0).toNat % 8 < 2)
    (hne : (inp.data.getD (inp.offset + 3) 0).toNat + 256 * (inp.data.getD (inp.offset + 4) 0).toNat ≠
      2 ^ 16 - ((inp.data.getD (inp.offset + 1) 0).toNat + 256 * (inp.data.getD (inp.offset + 2) 0).toNat + 1)) :
    deflateInflate (deflateInit .raw) inp out = .error .einval := by
  have hb1 := UInt8.toNat_lt (inp.data.getD (inp.offset + 1) 0)
  have hb2 := UInt8.toNat_lt (inp.data.getD (inp.offset + 1 + 1) 0)
  -- 読む位置を、一歩ずつ進めた形に直す
  have hne' : (inp.data.getD (inp.offset + 1 + 2) 0).toNat + 256 * (inp.data.getD (inp.offset + 1 + 2 + 1) 0).toNat ≠
      2 ^ 16 - ((inp.data.getD (inp.offset + 1) 0).toNat + 256 * (inp.data.getD (inp.offset + 1 + 1) 0).toNat + 1) := by
    rw [show inp.offset + 1 + 2 + 1 = inp.offset + 4 by omega, show inp.offset + 1 + 2 = inp.offset + 3 by omega,
      show inp.offset + 1 + 1 = inp.offset + 2 by omega]
    exact hne
  -- `block_header`、`literal_block`、`literal_len` と進み、`literal_nlen` で止まる
  obtain ⟨d, hd, h1⟩ := inflateStep_blockHeader_stored (deflateInit .raw) inp out rfl (by omega) rfl hbtype
  have h3 := inflateStep_literalLen_zero
    { deflateInit .raw with reader := deflateDiscardToByte d, header := (inp.data.getD inp.offset 0).toNat % 8 }
    { inp with offset := inp.offset + 1 } out hd (by dsimp only; omega) rfl
  have h4 := inflateStep_literalNlen_mismatch
    { deflateInit .raw with
      reader := ⟨0, 0, 0⟩, header := (inp.data.getD inp.offset 0).toNat % 8,
      remaining := (inp.data.getD (inp.offset + 1) 0).toNat + 256 * (inp.data.getD (inp.offset + 1 + 1) 0).toNat }
    { inp with offset := inp.offset + 1 + 2 } out rfl (by dsimp only; omega) (by dsimp only; omega) hne'
  obtain ⟨k, hk⟩ : ∃ k, inflateFuel (deflateInit .raw) inp = k + 4 :=
    ⟨inflateFuel (deflateInit .raw) inp - 4, by unfold inflateFuel; omega⟩
  unfold deflateInflate
  rw [hk, show entryLabel (deflateInit .raw) = .blockHeader from rfl, inflateRun_next h1,
    inflateRun_next (inflateStep_literalBlock _ _ _), inflateRun_next h3, inflateRun_fail h4]

theorem deflateInflate_storedNlen_mismatch_zero_nlen :
    0 + 5 ≤ 5 ∧ (0 : Nat) % 8 < 2 ∧ 0 + 256 * 0 ≠ 2 ^ 16 - (1 + 256 * 0 + 1) ∧
      deflateInflate (deflateInit .raw) ⟨[0, 1, 0, 0, 0], 0, 5⟩ ⟨[], 0, 0⟩ = .error .einval :=
  ⟨by decide, by decide, by decide,
    deflateInflate_storedNlen_mismatch ⟨[0, 1, 0, 0, 0], 0, 5⟩ ⟨[], 0, 0⟩ (by decide) (by decide) (by decide)⟩

end FlexBoot.Inflate
