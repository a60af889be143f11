import FlexBoot.Properties.Png
import Mathlib.Data.List.GetD

/-!
# unfilter は RFC 2083 の filter を元に戻す

RFC 2083 の 6 節は、行の各 byte から予測子を引いて filter する。予測子は左（`bpp` byte 前）、
上（前の行の同じ位置）、左上の filter する前の値から決まり、行の始まりより左と pass の最初の
行より上は 0 とする。`png_unfilter_pass` は raw buffer の上でその場で足し戻し、左、上、左上を
既に戻した byte から読む。

* `filterPass` — RFC 2083 の filter。行ごとに filter の種類の byte を前に置く
* `pngUnfilterBytes_restores` — 一行の byte の loop は、filter した行を元の行に戻す
* `pngUnfilterScanlines_restores` — 行の loop はすべての行を戻し、行の長さずつ進む
* `pngUnfilterPass_inverts_filter` — `width * channels * depth` が `unsigned int` に収まる pass では、
  unfilter は filter を元に戻す。5 以上の種類の行があれば `-ENOTSUP` である

`width * channels * depth` が `2 ^ 32` を超えると、`png_scanline_len` は巻き戻った短い行の長さを
使うので、RFC 2083 の行の長さと合わない（`pngUnfilterPass_wide_row_not_restored`）。
-/

namespace FlexBoot.Png

open Infra FlexBoot

/-! ## RFC 2083 の filter -/

/-- RFC 2083 6.6 の `PaethPredictor`。 -/
def paethPredictor (a b c : Nat) : Nat :=
  let p : Int := (a : Int) + b - c
  if |p - a| ≤ |p - b| ∧ |p - a| ≤ |p - c| then a else if |p - b| ≤ |p - c| then b else c

/-- RFC 2083 6.2–6.6 の予測子。`a` は左、`b` は上、`c` は左上の byte。 -/
def rfcPredictor (filterType a b c : Nat) : Nat :=
  match filterType with
  | 0 => 0
  | 1 => a
  | 2 => b
  | 3 => (a + b) / 2
  | _ => paethPredictor a b c

/-- 行 `row` の `i` 番目から `bpp` byte 左の値。行の始まりより左は 0。 -/
def leftByte (row : Bytes) (bpp i : Nat) : Nat :=
  if bpp ≤ i then (row.getD (i - bpp) 0).toNat else 0

/-- 一行の filter。`prior` は上の行の filter する前の byte で、pass の最初の行では空（すべて 0）。 -/
def filterRow (filterType bpp : Nat) (prior row : Bytes) : Bytes :=
  row.mapIdx fun i x =>
    x - UInt8.ofNat (rfcPredictor filterType (leftByte row bpp i) (prior.getD i 0).toNat (leftByte prior bpp i))

/-- filter の種類と filter した行を並べる。`prior` は最初の行の上の行である。 -/
def filterScanlines (bpp : Nat) : Bytes → List (UInt8 × Bytes) → Bytes
  | _, [] => []
  | prior, (filterType, row) :: rows =>
    filterType :: (filterRow filterType.toNat bpp prior row ++ filterScanlines bpp row rows)

/-- pass の全体の filter。最初の行の上は 0 である。 -/
def filterPass (bpp : Nat) (rows : List (UInt8 × Bytes)) : Bytes := filterScanlines bpp [] rows

/-- unfilter した後の並び。filter の種類の byte は残る。 -/
def scanlinesBytes (rows : List (UInt8 × Bytes)) : Bytes := rows.flatMap fun r => r.1 :: r.2

@[simp] theorem length_filterRow (filterType bpp : Nat) (prior row : Bytes) :
    (filterRow filterType bpp prior row).length = row.length := List.length_mapIdx

theorem getElem_filterRow (filterType bpp : Nat) (prior row : Bytes) {i : Nat} (hi : i < row.length)
    (hi' : i < (filterRow filterType bpp prior row).length) :
    (filterRow filterType bpp prior row)[i] =
      row[i] - UInt8.ofNat (rfcPredictor filterType (leftByte row bpp i) (prior.getD i 0).toNat
        (leftByte prior bpp i)) :=
  List.getElem_mapIdx

/-! ## 一 byte -/

/-- `png_paeth_predictor` は RFC 2083 の `PaethPredictor` である。`abs` の値を `Nat` で比べても
`Int` で比べても同じ。 -/
theorem pngPaethPredictor_eq (a b c : Nat) : pngPaethPredictor a b c = paethPredictor a b c := by
  simp only [pngPaethPredictor, paethPredictor, ← Int.natCast_natAbs, Nat.cast_le]

/-- 知っている filter の unfilter は、予測子を足して 256 で割った余りである。 -/
theorem pngUnfilterByte_eq {filterType : Nat} (hft : filterType < 5) (current a b c : Nat) :
    pngUnfilterByte filterType current a b c = (current + rfcPredictor filterType a b c) % 256 := by
  match filterType, hft with
  | 0, _ => rfl
  | 1, _ => rfl
  | 2, _ => rfl
  | 3, _ => simp only [pngUnfilterByte, rfcPredictor, Nat.shiftRight_eq_div_pow, Nat.pow_one, Nat.add_comm b a]
  | 4, _ => simp only [pngUnfilterByte, rfcPredictor, pngPaethPredictor_eq]

/-- 予測子を引いてから足せば、元の byte に戻る。 -/
theorem pngUnfilterByte_filter {filterType : Nat} (hft : filterType < 5) (x : UInt8) (a b c : Nat) :
    UInt8.ofNat (pngUnfilterByte filterType (x - UInt8.ofNat (rfcPredictor filterType a b c)).toNat a b c) = x := by
  rw [pngUnfilterByte_eq hft, ← UInt8.toNat_inj, UInt8.toNat_ofNat', UInt8.toNat_sub, UInt8.toNat_ofNat']
  have hx := x.toNat_lt
  omega

/-! ## 一行の loop -/

/-- 一 byte の一回で使う左、上、左上の値。読まない値は前の回のままである。 -/
def predictors (pixelLen scanlineLen scanline byte : Nat) (st : UnfilterState) : Nat × Nat × Nat :=
  (if byte ≥ pixelLen then (st.raw.getD (st.offset - pixelLen) 0).toNat else st.left,
   if scanline > 0 then (st.raw.getD (st.offset - scanlineLen) 0).toNat else st.above,
   if scanline > 0 ∧ byte ≥ pixelLen then (st.raw.getD (st.offset - scanlineLen - pixelLen) 0).toNat
   else st.aboveLeft)

/-- 一 byte の一回：予測子を読み、`offset` の byte を unfilter して書き、一つ進む。読み書きの記録は
ここでは問わない。 -/
theorem pngUnfilterBytes_succ (filterType pixelLen scanlineLen scanline n byte : Nat) (st : UnfilterState) :
    ∃ acc, pngUnfilterBytes filterType pixelLen scanlineLen scanline (n + 1) byte st =
      pngUnfilterBytes filterType pixelLen scanlineLen scanline n (byte + 1)
        (let p := predictors pixelLen scanlineLen scanline byte st
         ⟨st.raw.set st.offset
            (UInt8.ofNat (pngUnfilterByte filterType (st.raw.getD st.offset 0).toNat p.1 p.2.1 p.2.2)),
          st.offset + 1, p.1, p.2.1, p.2.2, acc⟩) := by
  by_cases h1 : byte ≥ pixelLen <;> by_cases h2 : scanline > 0 <;>
    simp only [pngUnfilterBytes, predictors, UnfilterState.read, h1, h2, and_self, and_true, and_false,
      if_true, if_false] <;>
    exact ⟨_, rfl⟩

section Row

variable {ft : UInt8} {P R scanline : Nat} {W prior row rest : Bytes}

/-- 左の値：`bpp` byte 前は、この行の既に戻した byte である。 -/
theorem predictors_left {j : Nat} {st : UnfilterState} (hP : 0 < P) (hj : j < R) (hrow : row.length = R)
    (hraw : st.raw = W ++ row.take j ++ ((filterRow ft.toNat P prior row).drop j ++ rest))
    (hoff : st.offset = W.length + j) (hleft : j < P → st.left = 0) :
    (predictors P (R + 1) scanline j st).1 = leftByte row P j := by
  simp only [predictors, leftByte]
  by_cases hjP : P ≤ j
  · have hlen : (W ++ row.take j).length = W.length + j := by
      rw [List.length_append, List.length_take_of_le (by omega)]
    have hread : (W ++ row.take j).getD (W.length + j - P) 0 = row.getD (j - P) 0 := by
      rw [List.getD_append_right W (row.take j) 0 _ (show W.length ≤ W.length + j - P by omega),
        show W.length + j - P - W.length = j - P by omega, List.getD_eq_getElem?_getD,
        List.getElem?_take_of_lt (show j - P < j by omega), ← List.getD_eq_getElem?_getD]
    rw [if_pos hjP, if_pos hjP, hraw, hoff,
      List.getD_append _ _ 0 (W.length + j - P) (show W.length + j - P < (W ++ row.take j).length by omega),
      hread]
  · rw [if_neg hjP, if_neg hjP, hleft (by omega)]

/-- 上と左上の値：一行前の、filter する前の byte である。最初の行ではどちらも 0 のままである。 -/
theorem predictors_above {j : Nat} {st : UnfilterState} (hj : j < R)
    (hraw : st.raw = W ++ row.take j ++ ((filterRow ft.toNat P prior row).drop j ++ rest))
    (hoff : st.offset = W.length + j)
    (hprior : 0 < scanline → ∃ Z c, W = Z ++ prior ++ [c] ∧ prior.length = R)
    (hfirst : scanline = 0 → prior = [])
    (habove : scanline = 0 → st.above = 0) (haboveLeft : j < P ∨ scanline = 0 → st.aboveLeft = 0) :
    (predictors P (R + 1) scanline j st).2 = ((prior.getD j 0).toNat, leftByte prior P j) := by
  simp only [predictors, leftByte]
  by_cases hs : scanline > 0
  · obtain ⟨Z, c, rfl, hplen⟩ := hprior hs
    -- `offset - scanline_len` は一行前の同じ列、さらに `pixel_len` 引けばその左
    have hW : (Z ++ prior ++ [c]).length = Z.length + R + 1 := by
      rw [List.length_append, List.length_append, hplen, List.length_singleton]
    have hread : ∀ i < R, st.raw.getD (Z.length + i) 0 = prior.getD i 0 := by
      intro i hi
      simp only [List.append_assoc] at hraw
      rw [hraw, List.getD_append_right Z _ 0 (Z.length + i) (Nat.le_add_right _ _), Nat.add_sub_cancel_left,
        List.getD_append prior _ 0 i (by omega)]
    rw [if_pos hs, hoff, hW, show Z.length + R + 1 + j - (R + 1) = Z.length + j by omega, hread j hj]
    by_cases hjP : P ≤ j
    · rw [if_pos ⟨hs, hjP⟩, if_pos hjP, show Z.length + j - P = Z.length + (j - P) by omega,
        hread (j - P) (by omega)]
    · rw [if_neg (fun h => hjP h.2), if_neg hjP, haboveLeft (Or.inl (by omega))]
  · have hs0 : scanline = 0 := by omega
    rw [if_neg hs, if_neg (fun h => hs h.1), habove hs0, haboveLeft (Or.inr hs0), hfirst hs0]
    simp

/-- 一行の byte の loop。`j` byte を戻した所から残りの `m` byte を回すと、行の全体が戻り、
`offset` は行の終わりに来る。読む左の値は `j < bpp` の間は 0 のまま、上の値は最初の行では
0 のままである。 -/
theorem pngUnfilterBytes_restores (hft : ft.toNat < 5) (hP : 0 < P) (hrow : row.length = R)
    (hprior : 0 < scanline → ∃ Z c, W = Z ++ prior ++ [c] ∧ prior.length = R)
    (hfirst : scanline = 0 → prior = []) :
    ∀ (m j : Nat) (st : UnfilterState), j + m = R →
      st.raw = W ++ row.take j ++ ((filterRow ft.toNat P prior row).drop j ++ rest) →
      st.offset = W.length + j →
      (j < P → st.left = 0) → (j < P ∨ scanline = 0 → st.aboveLeft = 0) → (scanline = 0 → st.above = 0) →
      (pngUnfilterBytes ft.toNat P (R + 1) scanline m j st).raw = W ++ row ++ rest ∧
        (pngUnfilterBytes ft.toNat P (R + 1) scanline m j st).offset = W.length + R
  | 0, j, st, hm, hraw, hoff, _, _, _ => by
    have hj : j = R := by omega
    subst hj
    rw [List.take_of_length_le (by omega), List.drop_of_length_le (by simp [hrow]), List.nil_append] at hraw
    exact ⟨hraw, hoff⟩
  | m + 1, j, st, hm, hraw, hoff, hleft, haboveLeft, habove => by
    have hj : j < R := by omega
    have hjF : j < (filterRow ft.toNat P prior row).length := by simp [hrow, hj]
    obtain ⟨acc, hstep⟩ := pngUnfilterBytes_succ ft.toNat P (R + 1) scanline m j st
    rw [hstep]
    have hl : (predictors P (R + 1) scanline j st).1 = leftByte row P j :=
      predictors_left hP hj hrow hraw hoff hleft
    have ha := predictors_above hj hraw hoff hprior hfirst habove haboveLeft
    -- 読む byte は filter した行の `j` 番目で、戻すと元の行の `j` 番目になる
    have hlen : (W ++ row.take j).length = W.length + j := by
      rw [List.length_append, List.length_take_of_le (by omega)]
    have hcur : st.raw.getD st.offset 0 = (filterRow ft.toNat P prior row)[j] := by
      rw [hraw, hoff, ← hlen, List.getD_append_right _ _ 0 _ (Nat.le_refl _), Nat.sub_self,
        List.drop_eq_getElem_cons hjF, List.cons_append, List.getD_cons_zero]
    have hval : UInt8.ofNat (pngUnfilterByte ft.toNat (st.raw.getD st.offset 0).toNat
        (predictors P (R + 1) scanline j st).1 (predictors P (R + 1) scanline j st).2.1
        (predictors P (R + 1) scanline j st).2.2) = row[j] := by
      rw [hcur, hl, ha, getElem_filterRow _ _ _ _ (by omega) hjF]
      exact pngUnfilterByte_filter hft _ _ _ _
    refine pngUnfilterBytes_restores hft hP hrow hprior hfirst m (j + 1) _ (by omega) ?_ ?_ ?_ ?_ ?_
    · simp only
      rw [hval, hraw, hoff, ← hlen, List.set_append_right _ _ (Nat.le_refl _), Nat.sub_self,
        List.drop_eq_getElem_cons hjF, List.cons_append, List.set_cons_zero,
        ← List.take_append_getElem (show j < row.length by omega)]
      simp only [List.append_assoc, List.singleton_append]
    · simp only [hoff, Nat.add_assoc]
    · intro hjP
      simp only [hl, leftByte, if_neg (show ¬P ≤ j by omega)]
    · intro hcase
      simp only [ha, leftByte]
      rcases hcase with hjP | hs
      · rw [if_neg (show ¬P ≤ j by omega)]
      · rw [hfirst hs]; simp
    · intro hs
      simp only [ha, hfirst hs]
      simp

end Row

/-! ## 行の loop -/

section Scanlines

variable {P R : Nat}

theorem pngUnfilterScanlines_succ_of_ge (pixelLen scanlineLen n scanline : Nat) (st : UnfilterState)
    (h : 5 ≤ (st.raw.getD st.offset 0).toNat) :
    pngUnfilterScanlines pixelLen scanlineLen (n + 1) scanline st = .error .enotsup := by
  simp only [pngUnfilterScanlines, UnfilterState.read, ge_iff_le, if_pos h]

/-- 知っている filter の行：filter の byte を読んで一つ進み、左と左上を 0 にして byte の loop を回す。 -/
theorem pngUnfilterScanlines_succ_of_lt (pixelLen scanlineLen n scanline : Nat) (st : UnfilterState)
    (h : (st.raw.getD st.offset 0).toNat < 5) :
    ∃ acc, pngUnfilterScanlines pixelLen scanlineLen (n + 1) scanline st =
      pngUnfilterScanlines pixelLen scanlineLen n (scanline + 1)
        (pngUnfilterBytes (st.raw.getD st.offset 0).toNat pixelLen scanlineLen scanline (scanlineLen - 1) 0
          ⟨st.raw, st.offset + 1, 0, st.above, 0, acc⟩) := by
  simp only [pngUnfilterScanlines, UnfilterState.read, ge_iff_le, if_neg (Nat.not_le.mpr h)]
  exact ⟨_, rfl⟩

/-- 一行：filter の種類が 5 未満なら、その行を戻して次の行の始まりに進む。 -/
theorem pngUnfilterScanlines_row (hP : 0 < P) {ft : UInt8} (hft : ft.toNat < 5) {row Z prior rest : Bytes}
    (hrow : row.length = R) {scanline n : Nat} {st : UnfilterState}
    (hraw : st.raw = Z ++ ft :: (filterRow ft.toNat P prior row ++ rest)) (hoff : st.offset = Z.length)
    (hfirst : scanline = 0 → prior = [] ∧ st.above = 0)
    (hprior : 0 < scanline → ∃ Z', Z = Z' ++ prior ∧ prior.length = R) :
    ∃ st1, pngUnfilterScanlines P (R + 1) (n + 1) scanline st =
        pngUnfilterScanlines P (R + 1) n (scanline + 1) st1 ∧
      st1.raw = Z ++ ft :: (row ++ rest) ∧ st1.offset = Z.length + (R + 1) := by
  have hget : st.raw.getD st.offset 0 = ft := by
    rw [hraw, hoff, List.getD_append_right _ _ 0 _ (Nat.le_refl _), Nat.sub_self, List.getD_cons_zero]
  obtain ⟨acc, hstep⟩ := pngUnfilterScanlines_succ_of_lt P (R + 1) n scanline st (by rw [hget]; exact hft)
  rw [hget, Nat.add_sub_cancel] at hstep
  refine ⟨_, hstep, ?_⟩
  -- 行の data の前にあるのは、ここまでの byte と filter の種類の byte
  have hraw0 : st.raw = (Z ++ [ft]) ++ row.take 0 ++ ((filterRow ft.toNat P prior row).drop 0 ++ rest) := by
    rw [hraw]
    simp
  have hprior0 : 0 < scanline → ∃ Z' c, Z ++ [ft] = Z' ++ prior ++ [c] ∧ prior.length = R := by
    intro hs
    obtain ⟨Z', rfl, hlen⟩ := hprior hs
    exact ⟨Z', ft, rfl, hlen⟩
  obtain ⟨hr, ho⟩ := pngUnfilterBytes_restores hft hP hrow hprior0 (fun hs => (hfirst hs).1) R 0
    ⟨st.raw, st.offset + 1, 0, st.above, 0, acc⟩ (Nat.zero_add R) hraw0 (by simp [hoff])
    (fun _ => rfl) (fun _ => rfl) (fun hs => (hfirst hs).2)
  refine ⟨?_, ?_⟩
  · rw [hr]
    simp
  · rw [ho, List.length_append, List.length_singleton, Nat.add_assoc, Nat.add_comm 1 R]

/-- 行の loop：5 未満の種類の行だけなら、すべての行を戻し、一行 `1 + R` byte ずつ進む。 -/
theorem pngUnfilterScanlines_restores (hP : 0 < P) {post : Bytes} :
    ∀ (rows : List (UInt8 × Bytes)) (scanline : Nat) (Z prior : Bytes) (st : UnfilterState),
      (∀ r ∈ rows, r.2.length = R) → (∀ r ∈ rows, r.1.toNat < 5) →
      st.raw = Z ++ filterScanlines P prior rows ++ post → st.offset = Z.length →
      (scanline = 0 → prior = [] ∧ st.above = 0) → (0 < scanline → ∃ Z', Z = Z' ++ prior ∧ prior.length = R) →
      ∃ st', pngUnfilterScanlines P (R + 1) rows.length scanline st = .ok st' ∧
        st'.raw = Z ++ scanlinesBytes rows ++ post ∧ st'.offset = Z.length + rows.length * (R + 1)
  | [], _, Z, _, st, _, _, hraw, hoff, _, _ =>
    ⟨st, rfl, by simpa [scanlinesBytes, filterScanlines] using hraw, by simp [hoff]⟩
  | (ft, row) :: rows, scanline, Z, prior, st, hlen, hft, hraw, hoff, hfirst, hprior => by
    have hrow : row.length = R := hlen _ List.mem_cons_self
    have hraw' : st.raw = Z ++ ft :: (filterRow ft.toNat P prior row ++ (filterScanlines P row rows ++ post)) := by
      rw [hraw, filterScanlines]
      simp
    obtain ⟨st1, hstep, hraw1, hoff1⟩ :=
      pngUnfilterScanlines_row (n := rows.length) hP (hft _ List.mem_cons_self) hrow hraw' hoff hfirst hprior
    -- 次の行からは、上の行が `row` である
    obtain ⟨st', hrun, hraw', hoff'⟩ := @pngUnfilterScanlines_restores hP post rows (scanline + 1)
      (Z ++ ft :: row) row st1 (fun r hr => hlen r (List.mem_cons_of_mem _ hr)) (fun r hr => hft r (List.mem_cons_of_mem _ hr))
      (by rw [hraw1]; simp) (by rw [hoff1]; simp [hrow]) (fun h => absurd h (Nat.succ_ne_zero _))
      (fun _ => ⟨Z ++ [ft], by simp, hrow⟩)
    refine ⟨st', by rw [List.length_cons, hstep, hrun], ?_, ?_⟩
    · rw [hraw']
      simp [scanlinesBytes]
    · rw [hoff', List.length_cons, Nat.succ_mul]
      simp only [List.length_append, List.length_cons, hrow]
      omega

/-- 5 以上の種類の行があれば、そこまでの行を戻した後で `-ENOTSUP` で止まる。 -/
theorem pngUnfilterScanlines_enotsup (hP : 0 < P) {post : Bytes} :
    ∀ (rows : List (UInt8 × Bytes)) (scanline : Nat) (Z prior : Bytes) (st : UnfilterState),
      (∀ r ∈ rows, r.2.length = R) → (∃ r ∈ rows, 5 ≤ r.1.toNat) →
      st.raw = Z ++ filterScanlines P prior rows ++ post → st.offset = Z.length →
      (scanline = 0 → prior = [] ∧ st.above = 0) → (0 < scanline → ∃ Z', Z = Z' ++ prior ∧ prior.length = R) →
      pngUnfilterScanlines P (R + 1) rows.length scanline st = .error .enotsup
  | [], _, _, _, _, _, ⟨_, hr, _⟩, _, _, _, _ => absurd hr List.not_mem_nil
  | (ft, row) :: rows, scanline, Z, prior, st, hlen, ⟨r, hr, hbad⟩, hraw, hoff, hfirst, hprior => by
    have hrow : row.length = R := hlen _ List.mem_cons_self
    have hraw' : st.raw = Z ++ ft :: (filterRow ft.toNat P prior row ++ (filterScanlines P row rows ++ post)) := by
      rw [hraw, filterScanlines]
      simp
    have hget : st.raw.getD st.offset 0 = ft := by
      rw [hraw', hoff, List.getD_append_right _ _ 0 _ (Nat.le_refl _), Nat.sub_self, List.getD_cons_zero]
    by_cases hft : ft.toNat < 5
    · -- この行は戻り、悪い行は後ろにある
      have hbad' : ∃ r ∈ rows, 5 ≤ r.1.toNat := by
        rcases List.mem_cons.mp hr with rfl | hr
        · exact absurd hbad (Nat.not_le.mpr hft)
        · exact ⟨r, hr, hbad⟩
      obtain ⟨st1, hstep, hraw1, hoff1⟩ :=
        pngUnfilterScanlines_row (n := rows.length) hP hft hrow hraw' hoff hfirst hprior
      rw [List.length_cons, hstep]
      exact @pngUnfilterScanlines_enotsup hP post rows (scanline + 1) (Z ++ ft :: row) row st1
        (fun r hr => hlen r (List.mem_cons_of_mem _ hr)) hbad' (by rw [hraw1]; simp)
        (by rw [hoff1]; simp [hrow]) (fun h => absurd h (Nat.succ_ne_zero _))
        (fun _ => ⟨Z ++ [ft], by simp, hrow⟩)
    · rw [List.length_cons]
      exact pngUnfilterScanlines_succ_of_ge P (R + 1) rows.length scanline st (by rw [hget]; omega)

end Scanlines

/-! ## pass -/

/-- `width * channels * depth` が `unsigned int` に収まれば、`png_scanline_len` は RFC 2083 の一行の
byte 数に filter の byte の 1 を足したものである。 -/
theorem pngScanlineLen_of_lt (channels depth : Nat) (interlace : PngInterlace)
    (hwidth : interlace.width * channels * depth + 7 < 2 ^ 32) :
    pngScanlineLen channels depth interlace = (interlace.width * channels * depth + 7) / 8 + 1 := by
  unfold pngScanlineLen
  rw [Nat.mod_eq_of_lt (show interlace.width * channels * depth < 2 ^ 32 by omega), Nat.mod_eq_of_lt hwidth,
    Nat.add_comm]

/-- **unfilter は filter を元に戻す。** `width * channels * depth` が `unsigned int` に収まる pass では、
RFC 2083 の filter をした行を `png_unfilter_pass` は元の行に戻し、`raw.offset` を `height * scanline_len`
進める。5 以上の種類の行があれば `-ENOTSUP` である。 -/
theorem pngUnfilterPass_inverts_filter (ctx : PngContext) (interlace : PngInterlace)
    (hpixel : 0 < ctx.channels * ctx.depth)
    (hwidth : interlace.width * ctx.channels * ctx.depth + 7 < 2 ^ 32)
    (rows : List (UInt8 × Bytes)) (hheight : rows.length = interlace.height)
    (hlen : ∀ r ∈ rows, r.2.length = (interlace.width * ctx.channels * ctx.depth + 7) / 8)
    (st : UnfilterState) (pre post : Bytes)
    (hraw : st.raw = pre ++ filterPass (pngPixelLen ctx.channels ctx.depth) rows ++ post)
    (hoff : st.offset = pre.length) :
    ((∀ r ∈ rows, r.1.toNat < 5) → ∃ st', pngUnfilterPass ctx interlace st = .ok st' ∧
        st'.raw = pre ++ scanlinesBytes rows ++ post ∧
        st'.offset = pre.length + interlace.height * pngScanlineLen ctx.channels ctx.depth interlace) ∧
      ((∃ r ∈ rows, 5 ≤ r.1.toNat) → pngUnfilterPass ctx interlace st = .error .enotsup) := by
  have hP : 0 < pngPixelLen ctx.channels ctx.depth := by
    unfold pngPixelLen
    omega
  have hraw' : ({ st with above := 0 } : UnfilterState).raw =
      pre ++ filterScanlines (pngPixelLen ctx.channels ctx.depth) [] rows ++ post := hraw
  unfold pngUnfilterPass
  rw [pngScanlineLen_of_lt _ _ _ hwidth, ← hheight]
  -- 最初の行の上は空の行で、`above` は 0 から始まる
  refine ⟨fun hft => ?_, fun hbad => ?_⟩
  · obtain ⟨st', hrun, hr, ho⟩ := pngUnfilterScanlines_restores hP rows 0 pre [] _ hlen hft hraw' hoff
      (fun _ => ⟨rfl, rfl⟩) (fun h => absurd h (Nat.lt_irrefl 0))
    exact ⟨st', hrun, hr, ho⟩
  · exact pngUnfilterScanlines_enotsup hP rows 0 pre [] _ hlen hbad hraw' hoff
      (fun _ => ⟨rfl, rfl⟩) (fun h => absurd h (Nat.lt_irrefl 0))

/-- 幅 2、高さ 2 の 8 bit の grey の pass。 -/
def smallCtx : PngContext := ⟨⟨2, 2, 16⟩, 8, 0, 1, 1, 6⟩

def smallInterlace : PngInterlace := ⟨0, 0, 0, 1, 1, 2, 2⟩

/-- Sub と Paeth で filter する二行。 -/
def smallRows : List (UInt8 × Bytes) := [(1, [5, 7]), (4, [1, 2])]

example :
    (∀ r ∈ smallRows, r.1.toNat < 5) ∧
      ∃ st', pngUnfilterPass smallCtx smallInterlace ⟨filterPass 1 smallRows, 0, 0, 0, 0, []⟩ = .ok st' ∧
        st'.raw = scanlinesBytes smallRows := by
  have hft : ∀ r ∈ smallRows, r.1.toNat < 5 := by decide
  obtain ⟨st', hrun, hr, -⟩ := (pngUnfilterPass_inverts_filter smallCtx smallInterlace (by decide) (by decide)
    smallRows rfl (by decide) ⟨filterPass 1 smallRows, 0, 0, 0, 0, []⟩ [] [] rfl rfl).1 hft
  exact ⟨hft, st', hrun, by simpa using hr⟩

/-! ## 巻き戻る行の長さ -/

/-- 幅 `2 ^ 26`、高さ 1 の 16 bit の RGBA の pass。RFC 2083 の一行は `2 ^ 29` byte だが、
`width * channels * depth` は `2 ^ 32` で、`unsigned int` では 0 になる。 -/
def wideCtx : PngContext := ⟨⟨2 ^ 26, 1, 0⟩, 16, 6, 4, 1, 1⟩

def wideInterlace : PngInterlace := ⟨0, 0, 0, 1, 1, 2 ^ 26, 1⟩

/-- 最初の byte だけが 1 の、RFC 2083 の長さ `2 ^ 29` の一行。 -/
def wideRow : Bytes := 1 :: List.replicate (2 ^ 29 - 1) 0

/-- それを Sub で filter する。 -/
def wideRows : List (UInt8 × Bytes) := [(1, wideRow)]

theorem length_wideRow : wideRow.length = 2 ^ 29 := by
  rw [wideRow, List.length_cons, List.length_replicate, Nat.sub_add_cancel Nat.one_le_two_pow]

theorem getD_wideRow_eight : wideRow.getD 8 0 = 0 := by
  rw [wideRow, List.getD_cons_succ, List.getD_replicate _ (show 7 < 2 ^ 29 - 1 by norm_num)]

/-- 幅 `2 ^ 26` の 16 bit RGBA の pass では、`png_scanline_len` は 1 になり、`png_unfilter_pass` は
filter の種類の byte だけを読んで次に進む。filter した byte は戻らない。 -/
theorem pngUnfilterPass_wide_row_not_restored :
    ∃ st', pngUnfilterPass wideCtx wideInterlace ⟨filterPass 8 wideRows, 0, 0, 0, 0, []⟩ = .ok st' ∧
      st'.offset = 1 ∧ st'.raw ≠ scanlinesBytes wideRows := by
  have hS : pngScanlineLen wideCtx.channels wideCtx.depth wideInterlace = 1 := by decide
  have hget : (filterPass 8 wideRows).getD 0 0 = 1 := rfl
  obtain ⟨acc, hstep⟩ := pngUnfilterScanlines_succ_of_lt 8 1 0 0
    ⟨filterPass 8 wideRows, 0, 0, 0, 0, []⟩ (by rw [hget]; decide)
  refine ⟨⟨filterPass 8 wideRows, 1, 0, 0, 0, acc⟩, ?_, rfl, ?_⟩
  · -- 一行は filter の byte だけで、data の byte の loop は回らない
    unfold pngUnfilterPass
    rw [hS]
    exact hstep.trans rfl
  · -- filter した 9 byte 目の 0 - 1 = 255 が、そのまま残る
    have h8 : 8 < wideRow.length := by rw [length_wideRow]; norm_num
    have hfiltered : (filterPass 8 wideRows).getD 9 0 = 255 := by
      have hF : filterPass 8 wideRows = 1 :: (filterRow 1 8 [] wideRow ++ []) := rfl
      have hl : leftByte wideRow 8 8 = 1 := rfl
      rw [hF, List.getD_cons_succ, List.append_nil,
        List.getD_eq_getElem _ _ (by rw [length_filterRow]; exact h8), getElem_filterRow _ _ _ _ h8,
        ← List.getD_eq_getElem wideRow 0 h8, getD_wideRow_eight, hl]
      decide
    have hplain : (scanlinesBytes wideRows).getD 9 0 = 0 := by
      rw [scanlinesBytes, wideRows, List.flatMap_cons, List.flatMap_nil, List.append_nil,
        List.getD_cons_succ, getD_wideRow_eight]
    intro h
    have h9 := congrArg (fun l : Bytes => l.getD 9 0) h
    simp only [hfiltered, hplain] at h9
    exact absurd h9 (by decide)

end FlexBoot.Png
