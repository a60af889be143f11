import FlexBoot.Properties.InflateStored

/-!
# zlib の包み

`deflate_init ( deflate, DEFLATE_ZLIB )` で始めた伸長は、RFC 1950 の 2 byte の header（`CMF` と `FLG`）を
読んでから DEFLATE の流れを伸長し、最後の block の後で byte の境目まで捨てて 4 byte の Adler-32 を読む。

* `inflateStep_zlibHeader_zero` — header の検査は `CM = 8` と `FDICT` の bit だけ。`FCHECK`（`CMF * 256 + FLG`
  が 31 の倍数であること）は見ない
* `inflateRun_zlibTrailer` — 最後の `block_done` から 4 byte の Adler-32 を溜めて止まる。値は調べない
* `deflateInflate_zlibStoredStream` — header、stored block の流れ、任意の 4 byte を渡すと、data を全部書いて
  終わる
-/

namespace FlexBoot.Inflate

open Infra

/-- RFC 1950 の zlib の流れ：`CMF`、`FLG`、stored block を並べた DEFLATE の流れ、Adler-32 の 4 byte。 -/
def zlibStoredStream (cmf flg : UInt8) (blocks : List (List UInt8)) (last adler : List UInt8) : List UInt8 :=
  cmf :: flg :: (storedStream blocks last ++ adler)

theorem length_zlibStoredStream (cmf flg : UInt8) (blocks : List (List UInt8)) (last adler : List UInt8) :
    (zlibStoredStream cmf flg blocks last adler).length = (storedStream blocks last).length + adler.length + 2 := by
  simp only [zlibStoredStream, List.length_cons, List.length_append]

/-! ## header の検査 -/

/-- `CM`：header の下 4 bit は `CMF` の下 4 bit。 -/
theorem zlibHeader_cm (b0 b1 : Nat) : ((b0 + 256 * b1) >>> 0) &&& 0x0f = b0 % 16 := by
  rw [Nat.shiftRight_zero, show (0x0f : Nat) = 2 ^ 4 - 1 from rfl, Nat.and_two_pow_sub_one_eq_mod]
  omega

/-- `FDICT`：header の bit 13 は `FLG` の bit 5。 -/
theorem zlibHeader_fdict {b0 : Nat} (hb0 : b0 < 256) (b1 : Nat) :
    (b0 + 256 * b1) &&& (1 <<< 13) = 0 ↔ b1 / 32 % 2 = 0 := by
  rw [Nat.one_shiftLeft, and_two_pow_eq_zero_iff, show (2 : Nat) ^ 13 = 256 * 32 from rfl,
    ← Nat.div_div_eq_div_mul, Nat.add_mul_div_left _ _ (by decide), Nat.div_eq_of_lt hb0, Nat.zero_add]

/-! ## 一歩ずつ -/

/-- byte の境目にそろった溜めに 32 bit まで溜めると、足りない byte を読んで丁度 32 bit になる。
`zlib_adler32` の `deflate_accumulate` はこの形で呼ばれる。 -/
theorem accumulateLoop_aligned : ∀ (fuel : Nat) (d : Deflate) (inp : DeflateChunk), d.bits % 8 = 0 → d.bits ≤ 32 →
    inp.offset + (32 - d.bits) / 8 ≤ inp.len → (32 - d.bits) / 8 ≤ fuel →
    (accumulateLoop 32 fuel d inp).1.bits = 32 ∧
      (accumulateLoop 32 fuel d inp).2 = { inp with offset := inp.offset + (32 - d.bits) / 8 }
  | 0, d, inp, _, hb, _, hf => by
    have h32 : d.bits = 32 := by omega
    refine ⟨h32, ?_⟩
    rw [h32]
    rfl
  | fuel + 1, d, inp, hm, hb, hi, hf => by
    rw [accumulateLoop_succ]
    by_cases hbt : d.bits < 32
    · -- 32 bit に足りなければ、まだ読む byte がある
      rw [if_pos hbt, if_neg (by omega)]
      have h8 : (accumulateByte d (inp.data.getD inp.offset 0).toNat).bits = d.bits + 8 := rfl
      obtain ⟨hbits, hinp⟩ := accumulateLoop_aligned fuel _ { inp with offset := inp.offset + 1 }
        (by rw [h8]; omega) (by rw [h8]; omega) (by rw [h8]; dsimp only; omega) (by rw [h8]; omega)
      refine ⟨hbits, ?_⟩
      rw [hinp, h8]
      dsimp only
      congr 1
      omega
    · rw [if_neg hbt]
      have h32 : d.bits = 32 := by omega
      refine ⟨h32, ?_⟩
      rw [h32]
      rfl

section Steps

variable (st : Inflater) (inp out : DeflateChunk)

/-- `zlib_header`：溜めた bit がなければ、次の二つの byte（`CMF` と `FLG`）を読み、`CM` と `FDICT` だけを
調べる。 -/
theorem inflateStep_zlibHeader_zero (hr : st.reader = ⟨0, 0, 0⟩) (hi : inp.offset + 2 ≤ inp.len) :
    inflateStep .zlibHeader st inp out =
      if (inp.data.getD inp.offset 0).toNat % 16 ≠ 8 then .fail .enotsup
      else if (inp.data.getD (inp.offset + 1) 0).toNat / 32 % 2 ≠ 0 then .fail .enotsup
      else .next .blockHeader { st with reader := ⟨0, 0, 0⟩ } { inp with offset := inp.offset + 2 } out := by
  have hb0 := UInt8.toNat_lt (inp.data.getD inp.offset 0)
  delta inflateStep
  dsimp only
  rw [extractThen_of_eq (by rw [hr]; exact deflateExtract_zero_two hi)]
  simp only [ne_eq, zlibHeader_cm, zlibHeader_fdict hb0]

theorem inflateStep_blockDone_zlib (h : st.header &&& 1 ≠ 0) (hf : st.format = .zlib) :
    inflateStep .blockDone st inp out = .next .zlibFooter st inp out := by
  delta inflateStep
  dsimp only
  rw [Nat.shiftLeft_zero, if_neg h, hf]

theorem inflateStep_zlibFooter :
    inflateStep .zlibFooter st inp out =
      .next .zlibAdler32 { st with reader := deflateDiscardToByte st.reader } inp out :=
  rfl

/-- `zlib_adler32`：溜めた bit がなければ、次の 4 byte を溜めて `finished` へ。値は調べない。 -/
theorem inflateStep_zlibAdler32_zero (hr : st.reader = ⟨0, 0, 0⟩) (hi : inp.offset + 4 ≤ inp.len) :
    inflateStep .zlibAdler32 st inp out =
      .next .finished { st with reader := (accumulateLoop 32 (inp.len - inp.offset) ⟨0, 0, 0⟩ inp).1 }
        { inp with offset := inp.offset + 4 } out := by
  obtain ⟨hbits, hinp⟩ := accumulateLoop_aligned (inp.len - inp.offset) ⟨0, 0, 0⟩ inp rfl (by decide)
    (by dsimp only; omega) (by dsimp only; omega)
  delta inflateStep
  unfold deflateAccumulate
  rw [hr]
  dsimp only
  -- 溜めた 32 bit から 32 を引いた余りは 0 で、負ではない
  rw [hbits, hinp, if_neg (by omega)]
  rfl

end Steps

/-! ## 流れ全体 -/

/-- **zlib の後書き。** 溜めた bit がなく、最後の block（`BFINAL` が立つ）を終えた zlib の伸長は、
`block_done` から四歩で 4 byte を溜めて止まる。 -/
theorem inflateRun_zlibTrailer {st : Inflater} {inp out : DeflateChunk} (hr : st.reader = ⟨0, 0, 0⟩)
    (hh : st.header &&& 1 ≠ 0) (hf : st.format = .zlib) (hi : inp.offset + 4 ≤ inp.len) (fuel : Nat) :
    inflateRun (fuel + 4) .blockDone st inp out =
      .ok ({ st with reader := (accumulateLoop 32 (inp.len - inp.offset) ⟨0, 0, 0⟩ inp).1, resume := none },
        { inp with offset := inp.offset + 4 }, out) := by
  have hz : deflateDiscardToByte st.reader = ⟨0, 0, 0⟩ := by
    rw [hr]
    decide
  rw [inflateRun_next (inflateStep_blockDone_zlib st inp out hh hf),
    inflateRun_next (inflateStep_zlibFooter st inp out),
    inflateRun_next (inflateStep_zlibAdler32_zero { st with reader := deflateDiscardToByte st.reader } inp out hz hi),
    inflateRun_stop (inflateStep_finished _ _ _)]

/-- **zlib で包んだ stored block の流れ。** 溜めた bit がなく、形式が zlib で、入力の offset から
`CM = 8` で `FDICT` の立たない header、stored block の流れ、4 byte が並んでいれば、`zlib_header` から
`6 * |blocks| + 10` 歩で data を全部出力に写して止まる。 -/
theorem inflateRun_zlibStoredStream {cmf flg : UInt8} (hcm : cmf.toNat % 16 = 8) (hfdict : flg.toNat / 32 % 2 = 0)
    {last adler : List UInt8} (rest : List UInt8) (hlast : last.length < 2 ^ 16) (hadler : adler.length = 4)
    (blocks : List (List UInt8)) (hsize : ∀ b ∈ blocks, b.length < 2 ^ 16)
    (st : Inflater) (inp out : DeflateChunk) (fuel : Nat) (hr : st.reader = ⟨0, 0, 0⟩) (hf : st.format = .zlib)
    (hdata : inp.data.drop inp.offset = zlibStoredStream cmf flg blocks last adler ++ rest)
    (hlen : inp.offset + (zlibStoredStream cmf flg blocks last adler).length ≤ inp.len)
    (hout : out.offset + (blocks.flatten ++ last).length ≤ out.len) (hbuf : out.len ≤ out.data.length) :
    ∃ d, inflateRun (fuel + 6 * blocks.length + 10) .zlibHeader st inp out =
      .ok ({ st with reader := d, header := 1, remaining := 0, resume := none },
        { inp with offset := inp.offset + (zlibStoredStream cmf flg blocks last adler).length },
        { out with data := splice out.data out.offset (blocks.flatten ++ last),
                   offset := out.offset + (blocks.flatten ++ last).length }) := by
  rw [length_zlibStoredStream, hadler] at hlen ⊢
  have hbyte := getD_of_drop hdata
  -- header の二つの byte
  have hcm' : (inp.data.getD inp.offset 0).toNat % 16 = 8 := by
    have h0 := hbyte 0
    rw [Nat.add_zero] at h0
    rw [h0]
    exact hcm
  have hfd' : (inp.data.getD (inp.offset + 1) 0).toNat / 32 % 2 = 0 := by
    rw [hbyte]
    exact hfdict
  have h1 : inflateStep .zlibHeader st inp out =
      .next .blockHeader { st with reader := ⟨0, 0, 0⟩ } { inp with offset := inp.offset + 2 } out := by
    rw [inflateStep_zlibHeader_zero st inp out hr (by omega), if_neg (not_not.mpr hcm'), if_neg (not_not.mpr hfd')]
  -- header の後には stored block の流れが続く
  have hdata' : inp.data.drop (inp.offset + 2) = storedStream blocks last ++ (adler ++ rest) := by
    rw [← List.drop_drop, hdata]
    simp only [zlibStoredStream, List.cons_append, List.drop_succ_cons, List.drop_zero, List.append_assoc]
  have h2 := inflateRun_storedBlocks (adler ++ rest) hlast blocks hsize { st with reader := ⟨0, 0, 0⟩ }
    { inp with offset := inp.offset + 2 } out (fuel + 4) rfl hdata' (by dsimp only; omega) hout hbuf
  rw [show fuel + 6 * blocks.length + 10 = fuel + 4 + 6 * blocks.length + 5 + 1 by omega, inflateRun_next h1, h2,
    @inflateRun_zlibTrailer { st with reader := ⟨0, 0, 0⟩, header := 1, remaining := 0 } _ _ rfl (by simp) hf
      (by dsimp only; omega)]
  dsimp only
  rw [show inp.offset + 2 + (storedStream blocks last).length + 4 = inp.offset + ((storedStream blocks last).length + 4 + 2)
    by omega]
  exact ⟨_, rfl⟩

/-- **zlib の往復。** `deflate_init ( deflate, DEFLATE_ZLIB )` の直後に、`CM = 8` で `FDICT` の立たない header、
stored block を並べた流れ、任意の 4 byte を一つの入力の chunk で渡すと、`deflate_inflate` は入力を全部読み、
data を全部出力の始めに書いて終わる（`deflate_finished`）。`FCHECK` も Adler-32 の値も調べない。 -/
theorem deflateInflate_zlibStoredStream (cmf flg : UInt8) (hcm : cmf.toNat % 16 = 8) (hfdict : flg.toNat / 32 % 2 = 0)
    (blocks : List (List UInt8)) (last : List UInt8) (hsize : ∀ b ∈ last :: blocks, b.length < 2 ^ 16)
    (adler : List UInt8) (hadler : adler.length = 4) (buf : List UInt8)
    (hbuf : (blocks.flatten ++ last).length ≤ buf.length) :
    ∃ d : Deflate, deflateInflate (deflateInit .zlib)
        ⟨zlibStoredStream cmf flg blocks last adler, 0, (zlibStoredStream cmf flg blocks last adler).length⟩
        ⟨buf, 0, buf.length⟩ =
      .ok ({ deflateInit .zlib with reader := d, header := 1 },
        ⟨zlibStoredStream cmf flg blocks last adler, (zlibStoredStream cmf flg blocks last adler).length,
          (zlibStoredStream cmf flg blocks last adler).length⟩,
        ⟨splice buf 0 (blocks.flatten ++ last), (blocks.flatten ++ last).length, buf.length⟩) := by
  have hr : Reachable (deflateInit .zlib) := .init .zlib
  obtain ⟨d, hrun⟩ := inflateRun_zlibStoredStream hcm hfdict [] (hsize last (List.mem_cons_self ..)) hadler blocks
    (fun b h => hsize b (List.mem_cons_of_mem _ h)) (deflateInit .zlib)
    ⟨zlibStoredStream cmf flg blocks last adler, 0, (zlibStoredStream cmf flg blocks last adler).length⟩
    ⟨buf, 0, buf.length⟩
    (inflateFuel (deflateInit .zlib)
      ⟨zlibStoredStream cmf flg blocks last adler, 0, (zlibStoredStream cmf flg blocks last adler).length⟩)
    rfl rfl (by simp) (by simp) (by simpa using hbuf) (Nat.le_refl _)
  refine ⟨d, ?_⟩
  rw [Nat.add_assoc] at hrun
  unfold deflateInflate
  rw [← inflateRun_stable _ _ _ _ _ (inv_entryLabel hr.invResume) (measure_lt_inflateFuel _ _ _)
    (6 * blocks.length + 10)]
  rw [show entryLabel (deflateInit .zlib) = .zlibHeader from rfl, hrun]
  simp only [Nat.zero_add]
  rfl

theorem deflateInflate_zlibStoredStream_one_block :
    (0x78 : UInt8).toNat % 16 = 8 ∧ (0x01 : UInt8).toNat / 32 % 2 = 0 ∧
      (∀ b ∈ ([[7], [5, 6]] : List (List UInt8)), b.length < 2 ^ 16) ∧ ([1, 2, 3, 4] : List UInt8).length = 4 ∧
      (([[5, 6]] : List (List UInt8)).flatten ++ [7]).length ≤ ([0, 0, 0] : List UInt8).length ∧
      ∃ d : Deflate, deflateInflate (deflateInit .zlib) ⟨zlibStoredStream 0x78 0x01 [[5, 6]] [7] [1, 2, 3, 4], 0, 19⟩
          ⟨[0, 0, 0], 0, 3⟩ =
        .ok ({ deflateInit .zlib with reader := d, header := 1 },
          ⟨zlibStoredStream 0x78 0x01 [[5, 6]] [7] [1, 2, 3, 4], 19, 19⟩, ⟨[5, 6, 7], 3, 3⟩) :=
  ⟨by decide, by decide, by decide, by decide, by decide,
    deflateInflate_zlibStoredStream 0x78 0x01 (by decide) (by decide) [[5, 6]] [7] (by decide) [1, 2, 3, 4]
      (by decide) [0, 0, 0] (by decide)⟩

end FlexBoot.Inflate
