import FlexBoot.Image.Png

/-!
# interlace の pass の格子

`png_interlace` は pass の始まりと間隔を pass の番号から shift で求め、pass の幅と高さを
`( width - x_indent + x_stride - 1 ) >> x_stride_log2` と `unsigned int` で計算する。pass の
`i` 列目、`j` 行目の pixel は画像の `(x_indent + i * x_stride, y_indent + j * y_stride)` にある。

* `pngInterlace_adam7` — 7 pass の始まりと間隔は RFC 2083 の Adam7 の表に一致する
* `pngInterlace_covers_once` — 幅と高さに格子一つ分の余裕があれば、画像の pixel はどれも、
  ちょうど一つの pass のちょうど一つの位置に現れる
* `pngInterlace_origin_uncovered` — 7 pass で幅が `2 ^ 32 - 8` を越えると、最初の pass の幅の
  計算が回って 0 になり、pixel (0, 0) はどの pass にも現れない

一つの軸について「`i` が pass の長さより小さく、位置が `indent + i * stride`」を「位置が画像の中
にあり、余りが `indent`」に言い換える `passAxis_iff` が、x と y の両方に使われる。どの pass の
格子に乗るかは余りだけで決まるので、格子一つ分の余りの上で `decide` で確かめる。
-/

namespace FlexBoot.Png

/-- RFC 2083 の Adam7 の表。pass ごとに x の始まり、y の始まり、x の間隔、y の間隔。 -/
def adam7 : List (Nat × Nat × Nat × Nat) :=
  [(0, 0, 8, 8), (4, 0, 8, 8), (0, 4, 4, 8), (2, 0, 4, 4), (0, 2, 2, 4), (1, 0, 2, 2), (0, 1, 1, 2)]

namespace PngInterlace

/-- pass の始まりと間隔。 -/
def grid (it : PngInterlace) : Nat × Nat × Nat × Nat := (it.xIndent, it.yIndent, it.xStride, it.yStride)

/-- pass の `i` 列目、`j` 行目の pixel の、画像の中の位置。 -/
def pixel (it : PngInterlace) (i j : Nat) : Nat × Nat := (it.xIndent + i * it.xStride, it.yIndent + j * it.yStride)

/-- 位置 `(x, y)` が pass の格子に乗る：間隔で割った余りが pass の始まりに一致する。 -/
def OnGrid (it : PngInterlace) (x y : Nat) : Prop := x % it.xStride = it.xIndent ∧ y % it.yStride = it.yIndent

instance (it : PngInterlace) (x y : Nat) : Decidable (it.OnGrid x y) := inferInstanceAs (Decidable (_ ∧ _))

end PngInterlace

/-! ## 一つの軸 -/

/-- pass の一つの軸の長さ `( size - indent + stride - 1 ) >> log2` は、`indent + i * stride` が
`size` より小さい `i` の数である。`size + stride ≤ 2 ^ 32` なら `unsigned int` の計算は回らない。 -/
theorem lt_passLength_iff {size indent k : Nat} (hind : indent < 2 ^ k) (hsize : size + 2 ^ k ≤ 2 ^ 32)
    (i : Nat) : i < (size + (2 ^ 32 - indent) + (2 ^ k - 1)) % 2 ^ 32 / 2 ^ k ↔ indent + i * 2 ^ k < size := by
  have hmod : (size + (2 ^ 32 - indent) + (2 ^ k - 1)) % 2 ^ 32 = size + (2 ^ k - 1) - indent := by omega
  rw [hmod, ← Nat.add_one_le_iff, Nat.le_div_iff_mul_le (Nat.two_pow_pos k), Nat.add_one_mul]
  omega

/-- 間隔 `stride` の格子の上の位置 `indent + i * stride` は余り `x % stride = indent` で決まり、
`i` は `x / stride` である。 -/
theorem eq_indent_add_mul_iff {stride indent x i : Nat} (hind : indent < stride) :
    x = indent + i * stride ↔ x % stride = indent ∧ i = x / stride := by
  constructor
  · rintro rfl
    refine ⟨by rw [Nat.add_mul_mod_self_right, Nat.mod_eq_of_lt hind], ?_⟩
    rw [Nat.add_mul_div_right _ _ (by omega), Nat.div_eq_of_lt hind, Nat.zero_add]
  · rintro ⟨hmod, rfl⟩
    have := Nat.div_add_mod' x stride
    omega

/-- 一つの軸で、pass の `i` 番目の位置が `x` であることは、`x` が画像の中にあり、余りが `indent`
で、`i = x / stride` であることに等しい。 -/
theorem passAxis_iff {size indent k : Nat} (hind : indent < 2 ^ k) (hsize : size + 2 ^ k ≤ 2 ^ 32)
    (x i : Nat) :
    (i < (size + (2 ^ 32 - indent) + (2 ^ k - 1)) % 2 ^ 32 / 2 ^ k ∧ indent + i * 2 ^ k = x) ↔
      x < size ∧ x % 2 ^ k = indent ∧ i = x / 2 ^ k := by
  rw [lt_passLength_iff hind hsize]
  constructor
  · rintro ⟨hlt, rfl⟩
    exact ⟨hlt, (eq_indent_add_mul_iff hind).1 rfl⟩
  · rintro ⟨hlt, hres⟩
    have hx := (eq_indent_add_mul_iff hind).2 hres
    exact ⟨by rw [← hx]; exact hlt, hx.symm⟩

/-! ## pass の始まりと間隔 -/

/-- 始まりと間隔は画像の大きさによらない。 -/
theorem pngInterlace_grid_eq (passes p W H : Nat) :
    (pngInterlace passes p W H).grid = (pngInterlace passes p 0 0).grid := rfl

theorem pngInterlace_xStride (passes p W H : Nat) :
    (pngInterlace passes p W H).xStride = 2 ^ (passes / 2 - p / 2) := by
  simp only [pngInterlace, Nat.one_shiftLeft]

/-- y の間隔の `pass ? ( ( pass - 1 ) / 2 ) : 0` は、`Nat` の引き算では `( pass - 1 ) / 2` と同じ。 -/
theorem pngInterlace_yStride (passes p W H : Nat) :
    (pngInterlace passes p W H).yStride = 2 ^ ((passes - 1) / 2 - (p - 1) / 2) := by
  by_cases hp : p = 0
  · subst hp
    simp only [pngInterlace, Nat.one_shiftLeft, ne_eq, not_true_eq_false, ↓reduceIte]
  · simp only [pngInterlace, Nat.one_shiftLeft, ne_eq, hp, not_false_eq_true, ↓reduceIte]

theorem pngInterlace_width (passes p W H : Nat) :
    (pngInterlace passes p W H).width =
      (W + (2 ^ 32 - (pngInterlace passes p W H).xIndent) + (2 ^ (passes / 2 - p / 2) - 1)) % 2 ^ 32 /
        2 ^ (passes / 2 - p / 2) := by
  simp only [pngInterlace, Nat.one_shiftLeft, Nat.shiftRight_eq_div_pow]

theorem pngInterlace_height (passes p W H : Nat) :
    (pngInterlace passes p W H).height =
      (H + (2 ^ 32 - (pngInterlace passes p W H).yIndent) + (2 ^ ((passes - 1) / 2 - (p - 1) / 2) - 1)) %
        2 ^ 32 / 2 ^ ((passes - 1) / 2 - (p - 1) / 2) := by
  have hy := pngInterlace_yStride passes p W H
  simp only [pngInterlace, Nat.one_shiftLeft] at hy ⊢
  rw [Nat.shiftRight_eq_div_pow, hy]

section Passes

variable {passes p : Nat} (hp : p < passes)
include hp

/-- 奇数の pass の x の始まり `1 << ( grid_width_log2 - pass / 2 - 1 )` は間隔より小さい。`pass` が
`passes` より小さい奇数なら `pass / 2 < passes / 2` なので、指数は引き算で 0 に切り詰められない。 -/
theorem pngInterlace_xIndent_lt (W H : Nat) : (pngInterlace passes p W H).xIndent < 2 ^ (passes / 2 - p / 2) := by
  simp only [pngInterlace, Nat.one_shiftLeft]
  split
  · exact Nat.pow_lt_pow_right (by norm_num) (by omega)
  · exact Nat.two_pow_pos _

/-- 0 でない偶数の pass の y の始まりは間隔より小さい。 -/
theorem pngInterlace_yIndent_lt (W H : Nat) :
    (pngInterlace passes p W H).yIndent < 2 ^ ((passes - 1) / 2 - (p - 1) / 2) := by
  simp only [pngInterlace, Nat.one_shiftLeft]
  split
  · exact Nat.pow_lt_pow_right (by norm_num) (by omega)
  · exact Nat.two_pow_pos _

end Passes

/-! ## 格子一つ分の余りの上で -/

-- 入れ子の有界な量化子の `Decidable` は、既定の大きさの上限を越える
set_option synthInstance.maxSize 256 in
/-- 1 pass でも 7 pass でも、格子 `2 ^ ( passes / 2 )` × `2 ^ ( ( passes - 1 ) / 2 )` の中の位置は
どれも、ちょうど一つの pass の格子に乗る。 -/
theorem pngInterlace_onGrid_unique {passes : Nat} (hpasses : passes = 1 ∨ passes = 7) :
    ∀ a < 2 ^ (passes / 2), ∀ b < 2 ^ ((passes - 1) / 2),
      (∃ p < passes, (pngInterlace passes p 0 0).OnGrid a b) ∧
      ∀ p < passes, ∀ q < passes, (pngInterlace passes p 0 0).OnGrid a b →
        (pngInterlace passes q 0 0).OnGrid a b → p = q := by
  rcases hpasses with rfl | rfl <;> decide

/-- pass の間隔は格子の大きさを割るので、格子に乗るかどうかは格子の中の余りで決まる。 -/
theorem pngInterlace_onGrid_mod (passes p W H x y : Nat) :
    (pngInterlace passes p W H).OnGrid x y ↔
      (pngInterlace passes p 0 0).OnGrid (x % 2 ^ (passes / 2)) (y % 2 ^ ((passes - 1) / 2)) := by
  simp only [PngInterlace.OnGrid, pngInterlace_xStride, pngInterlace_yStride]
  rw [Nat.mod_mod_of_dvd _ (Nat.pow_dvd_pow 2 (Nat.sub_le _ _)),
    Nat.mod_mod_of_dvd _ (Nat.pow_dvd_pow 2 (Nat.sub_le _ _))]
  rfl

/-! ## 余裕のある画像 -/

section Headroom

variable {passes W H : Nat} (hW : W + 2 ^ (passes / 2) ≤ 2 ^ 32) (hH : H + 2 ^ ((passes - 1) / 2) ≤ 2 ^ 32)
include hW hH

/-- 幅と高さに格子一つ分の余裕があれば、pass の `i` 列目、`j` 行目が `(x, y)` であることは、
`(x, y)` が画像の中にあって pass の格子に乗り、`i`、`j` が間隔で割った商であることに等しい。 -/
theorem pngInterlace_pixel_iff {p : Nat} (hp : p < passes) (i j x y : Nat) :
    (i < (pngInterlace passes p W H).width ∧ j < (pngInterlace passes p W H).height ∧
        (pngInterlace passes p W H).pixel i j = (x, y)) ↔
      x < W ∧ y < H ∧ (pngInterlace passes p W H).OnGrid x y ∧
        i = x / (pngInterlace passes p W H).xStride ∧ j = y / (pngInterlace passes p W H).yStride := by
  have hkx : W + 2 ^ (passes / 2 - p / 2) ≤ 2 ^ 32 :=
    le_trans (Nat.add_le_add_left (Nat.pow_le_pow_right (by norm_num) (Nat.sub_le _ _)) W) hW
  have hky : H + 2 ^ ((passes - 1) / 2 - (p - 1) / 2) ≤ 2 ^ 32 :=
    le_trans (Nat.add_le_add_left (Nat.pow_le_pow_right (by norm_num) (Nat.sub_le _ _)) H) hH
  have hx := passAxis_iff (pngInterlace_xIndent_lt hp W H) hkx x i
  have hy := passAxis_iff (pngInterlace_yIndent_lt hp W H) hky y j
  simp only [PngInterlace.pixel, PngInterlace.OnGrid, Prod.mk.injEq, pngInterlace_width,
    pngInterlace_height, pngInterlace_xStride, pngInterlace_yStride]
  constructor
  · rintro ⟨hi, hj, hex, hey⟩
    obtain ⟨hxW, hxm, hxi⟩ := hx.1 ⟨hi, hex⟩
    obtain ⟨hyH, hym, hyj⟩ := hy.1 ⟨hj, hey⟩
    exact ⟨hxW, hyH, ⟨hxm, hym⟩, hxi, hyj⟩
  · rintro ⟨hxW, hyH, ⟨hxm, hym⟩, hxi, hyj⟩
    obtain ⟨hi, hex⟩ := hx.2 ⟨hxW, hxm, hxi⟩
    obtain ⟨hj, hey⟩ := hy.2 ⟨hyH, hym, hyj⟩
    exact ⟨hi, hj, hex, hey⟩

/-- 余裕があれば、pass の格子の位置はどれも画像の中にある。 -/
theorem pngInterlace_pixel_lt {p i j : Nat} (hp : p < passes) (hi : i < (pngInterlace passes p W H).width)
    (hj : j < (pngInterlace passes p W H).height) :
    ((pngInterlace passes p W H).pixel i j).1 < W ∧ ((pngInterlace passes p W H).pixel i j).2 < H := by
  obtain ⟨hx, hy, -⟩ := (pngInterlace_pixel_iff hW hH hp i j _ _).1 ⟨hi, hj, rfl⟩
  exact ⟨hx, hy⟩

/-- 余裕があれば、1 pass でも 7 pass でも、画像の pixel はどれも、ちょうど一つの pass の
ちょうど一つの位置に現れる。 -/
theorem pngInterlace_covers_once (hpasses : passes = 1 ∨ passes = 7) {x y : Nat} (hx : x < W) (hy : y < H) :
    ∃! t : Nat × Nat × Nat, t.1 < passes ∧ t.2.1 < (pngInterlace passes t.1 W H).width ∧
      t.2.2 < (pngInterlace passes t.1 W H).height ∧ (pngInterlace passes t.1 W H).pixel t.2.1 t.2.2 = (x, y) := by
  -- どの pass かは格子の中の余りで決まる
  obtain ⟨⟨p, hp, hon⟩, huniq⟩ := pngInterlace_onGrid_unique hpasses _ (Nat.mod_lt x (Nat.two_pow_pos _))
    _ (Nat.mod_lt y (Nat.two_pow_pos _))
  refine ⟨(p, x / (pngInterlace passes p W H).xStride, y / (pngInterlace passes p W H).yStride),
    ⟨hp, (pngInterlace_pixel_iff hW hH hp _ _ x y).2 ⟨hx, hy, (pngInterlace_onGrid_mod ..).2 hon, rfl, rfl⟩⟩, ?_⟩
  rintro ⟨q, i, j⟩ ⟨hq, hqij⟩
  dsimp only at hq hqij ⊢
  obtain ⟨-, -, hqon, rfl, rfl⟩ := (pngInterlace_pixel_iff hW hH hq i j x y).1 hqij
  obtain rfl := huniq q hq p hp ((pngInterlace_onGrid_mod ..).1 hqon) hon
  rfl

end Headroom

/-! ## 回る幅 -/

/-- 7 pass で幅が `2 ^ 32 - 8` を越えると、最初の pass の幅 `( width + 7 ) >> 3` は `unsigned int`
で回って 0 になる。 -/
theorem pngInterlace_first_width_wraps {W : Nat} (hW : 2 ^ 32 - 8 < W) (hW' : W < 2 ^ 32) (H : Nat) :
    (pngInterlace 7 0 W H).width = 0 := by
  have h0 : (pngInterlace 7 0 W H).xIndent = 0 := rfl
  rw [pngInterlace_width, h0]
  norm_num
  omega

/-- 7 pass のうち、始まりが (0, 0) なのは最初の pass だけである。 -/
theorem pngInterlace_indent_ne_zero {p : Nat} (hp : p < 7) (h0 : p ≠ 0) (W H : Nat) :
    (pngInterlace 7 p W H).xIndent ≠ 0 ∨ (pngInterlace 7 p W H).yIndent ≠ 0 := by
  change (pngInterlace 7 p 0 0).xIndent ≠ 0 ∨ (pngInterlace 7 p 0 0).yIndent ≠ 0
  revert p
  decide

/-- 7 pass で幅が `2 ^ 32 - 8` を越えると、pixel (0, 0) はどの pass のどの位置にも現れない。 -/
theorem pngInterlace_origin_uncovered {W : Nat} (hW : 2 ^ 32 - 8 < W) (hW' : W < 2 ^ 32) (H : Nat) :
    ∀ p < 7, ∀ i < (pngInterlace 7 p W H).width, ∀ j, (pngInterlace 7 p W H).pixel i j ≠ (0, 0) := by
  intro p hp i hi j hij
  simp only [PngInterlace.pixel, Prod.mk.injEq] at hij
  by_cases h0 : p = 0
  · subst h0
    rw [pngInterlace_first_width_wraps hW hW'] at hi
    exact Nat.not_lt_zero _ hi
  · rcases pngInterlace_indent_ne_zero hp h0 W H with h | h <;> omega

/-! ## Adam7 の表 -/

/-- 7 pass の始まりと間隔は RFC 2083 の Adam7 の表に一致する。 -/
theorem pngInterlace_adam7 {p : Nat} (hp : p < 7) (W H : Nat) : adam7[p]? = some (pngInterlace 7 p W H).grid := by
  rw [pngInterlace_grid_eq]
  revert p
  decide

/-- interlace の格子は、7 pass では Adam7 の表に一致し、1 pass でも 7 pass でも幅と高さに格子一つ分の
余裕があれば画像の pixel をちょうど一度ずつ覆う。しかし `unsigned int` の幅が `2 ^ 32 - 8` を越えると、
7 pass の最初の pass の幅が回って 0 になり、pixel (0, 0) はどの pass にも現れない。 -/
theorem pngInterlace_partition_needs_headroom :
    (∀ p < 7, ∀ W H, adam7[p]? = some (pngInterlace 7 p W H).grid) ∧
    (∀ W H, (pngInterlace 1 0 W H).grid = (0, 0, 1, 1)) ∧
    (∀ passes W H, (passes = 1 ∨ passes = 7) →
      W + 2 ^ (passes / 2) ≤ 2 ^ 32 → H + 2 ^ ((passes - 1) / 2) ≤ 2 ^ 32 →
      (∀ p < passes, ∀ i < (pngInterlace passes p W H).width, ∀ j < (pngInterlace passes p W H).height,
        ((pngInterlace passes p W H).pixel i j).1 < W ∧ ((pngInterlace passes p W H).pixel i j).2 < H) ∧
      ∀ x < W, ∀ y < H, ∃! t : Nat × Nat × Nat, t.1 < passes ∧ t.2.1 < (pngInterlace passes t.1 W H).width ∧
        t.2.2 < (pngInterlace passes t.1 W H).height ∧
        (pngInterlace passes t.1 W H).pixel t.2.1 t.2.2 = (x, y)) ∧
    (∀ W H, 2 ^ 32 - 8 < W → W < 2 ^ 32 → (pngInterlace 7 0 W H).width = 0 ∧
      ∀ p < 7, ∀ i < (pngInterlace 7 p W H).width, ∀ j, (pngInterlace 7 p W H).pixel i j ≠ (0, 0)) := by
  refine ⟨fun p hp W H => pngInterlace_adam7 hp W H, fun W H => rfl, ?_, ?_⟩
  · intro passes W H hpasses hW hH
    exact ⟨fun p hp i hi j hj => pngInterlace_pixel_lt hW hH hp hi hj,
      fun x hx y hy => pngInterlace_covers_once hW hH hpasses hx hy⟩
  · intro W H hW hW'
    exact ⟨pngInterlace_first_width_wraps hW hW' H, pngInterlace_origin_uncovered hW hW' H⟩

/-- 幅 `2 ^ 32 - 1`、高さ 1 の Adam7 の画像では、pixel (0, 0) はどの pass にも現れない。 -/
theorem pngInterlace_origin_lost_at_max_width :
    (pngInterlace 7 0 (2 ^ 32 - 1) 1).width = 0 ∧
      ∀ p < 7, ∀ i < (pngInterlace 7 p (2 ^ 32 - 1) 1).width, ∀ j,
        (pngInterlace 7 p (2 ^ 32 - 1) 1).pixel i j ≠ (0, 0) :=
  pngInterlace_partition_needs_headroom.2.2.2 (2 ^ 32 - 1) 1 (by norm_num) (by norm_num)

end FlexBoot.Png
