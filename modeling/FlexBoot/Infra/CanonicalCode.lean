import Mathlib.Data.List.Nodup
import FlexBoot.Infra.BitString

/-!
# 長さから決まる正準な prefix code

RFC 1951 の 3.2.2 節の符号は、記号ごとの符号の長さだけで決まる。同じ長さの符号は記号の順に
連続した値をとり、長さ `b` の最初の符号 `next_code[b]` は、それより短い符号を使い切った次の値を
一つ左に送ったものである。ここでは記号 `0 .. n - 1` の長さを関数 `len` で与え、特定の形式には
触れない。

* `blCount`・`nextCode`・`code`・`codeword` — RFC の `bl_count`、`next_code`、符号の値と符号語
* `start` — 長さ `b` の最初の符号を `W` bit にそろえた値。区間 `[start b, start (b + 1))` が
  `W` bit の値を下から順に長さごとに分ける（`start_succ`）。最後の区間の終わりは Kraft の和で
  ある（`start_top`）
* `decode_spec` — `W` bit の値が長さ `c` の区間にあれば、その上の `c` bit はある記号の符号の値で
  ある。逆に符号の値で始まる値はその長さの区間にある（`mem_class_of_code`）
* `walkDown` — 区間の始まりの表を上から下へたどる探索。途中の添字から始めても、そこより上に
  答えがないなら同じ所で止まる（`walkDown_lookup`）
* `placeStep` — 記号を順に、長さごとの区画の書き込み位置に書いていく数え上げ整列
* `kraftSum_congr` ほか — どれも記号 `0 .. n - 1` の長さだけで決まる

## 記号の順位

長さ `c` の記号を記号の順に並べた列が `lengthClass c` である。記号 `s` の順位 `rank s` はその中の
位置で、`symbolOfRank c j` は `j` 番目の記号である。二つは互いに逆になる（`symbolOfRank_rank`、
`rank_symbolOfRank`）。
-/

namespace Infra

section Defs

variable (len : Nat → Nat) (n : Nat)

/-- 記号 `0 .. n - 1` のうち長さ `c` のものを、記号の順に並べた列。 -/
def lengthClass (c : Nat) : List Nat := (List.range n).filter (len · = c)

/-- `bl_count[c]`。長さ 0 の記号は符号を持たないので数えない。 -/
def blCount (c : Nat) : Nat := if c = 0 then 0 else (lengthClass len n c).length

/-- `next_code[b]`。`next_code[b + 1] = ( next_code[b] + bl_count[b] ) << 1`。 -/
def nextCode : Nat → Nat
  | 0 => 0
  | b + 1 => (nextCode b + blCount len n b) * 2

/-- 記号 `s` より前にある、同じ長さの記号の数。 -/
def rank (s : Nat) : Nat := (lengthClass len s (len s)).length

/-- 記号 `s` の符号の値。 -/
def code (s : Nat) : Nat := nextCode len n (len s) + rank len s

/-- 記号 `s` の符号語。上の bit から `len s` bit。 -/
def codeword (s : Nat) : List Bool := msbBits (len s) (code len n s)

/-- 長さ `c` の `j` 番目の記号。 -/
def symbolOfRank (c j : Nat) : Nat := (lengthClass len n c).getD j 0

/-- 長さ `b` の最初の符号を `W` bit にそろえた値。 -/
def start (W b : Nat) : Nat := nextCode len n b * 2 ^ (W - b)

/-- 長さが `b` より短い記号の数（長さ 0 は除く）。長さ `b` の記号の区画の始まりである。 -/
def classBase (b : Nat) : Nat := ((List.range b).map (blCount len n)).sum

/-- Kraft の和の `2 ^ W` 倍。符号が過不足なく埋まればちょうど `2 ^ W` である。 -/
def kraftSum (W : Nat) : Nat :=
  ((List.range n).map fun s => if len s = 0 then 0 else 2 ^ (W - len s)).sum

end Defs

variable {len : Nat → Nat} {n : Nat}

/-! ## 長さごとの記号の列 -/

theorem lengthClass_succ (m c : Nat) :
    lengthClass len (m + 1) c = lengthClass len m c ++ if len m = c then [m] else [] := by
  unfold lengthClass
  rw [List.range_succ, List.filter_append, List.filter_singleton]
  by_cases h : len m = c <;> simp [h]

theorem lengthClass_isPrefix {m n : Nat} (h : m ≤ n) (c : Nat) : lengthClass len m c <+: lengthClass len n c := by
  induction n with
  | zero =>
    obtain rfl := Nat.le_zero.mp h
    exact List.prefix_refl _
  | succ n ih =>
    rcases Nat.lt_or_ge m (n + 1) with hm | hm
    · rw [lengthClass_succ]
      exact (ih (by omega)).trans (List.prefix_append _ _)
    · obtain rfl := Nat.le_antisymm h hm
      exact List.prefix_refl _

theorem mem_lengthClass {m c s : Nat} : s ∈ lengthClass len m c ↔ s < m ∧ len s = c := by
  simp [lengthClass]

theorem nodup_lengthClass (m c : Nat) : (lengthClass len m c).Nodup :=
  List.nodup_range.filter _

theorem blCount_succ (m c : Nat) :
    blCount len (m + 1) c = blCount len m c + if c ≠ 0 ∧ len m = c then 1 else 0 := by
  unfold blCount
  rw [lengthClass_succ]
  by_cases hc : c = 0 <;> by_cases h : len m = c <;> simp [hc, h]

theorem blCount_of_ne_zero {c : Nat} (hc : c ≠ 0) : blCount len n c = (lengthClass len n c).length := by
  rw [blCount, if_neg hc]

/-- 前の記号の列はどこで切っても、全体の列の頭である。 -/
theorem getD_lengthClass_of_le {m c j : Nat} (h : m ≤ n) (hj : j < (lengthClass len m c).length) :
    (lengthClass len n c).getD j 0 = (lengthClass len m c).getD j 0 := by
  obtain ⟨t, ht⟩ := lengthClass_isPrefix h c
  rw [← ht, List.getD_eq_getElem?_getD, List.getD_eq_getElem?_getD, List.getElem?_append_left hj]

/-! ## 順位 -/

theorem rank_lt {s : Nat} (hs : s < n) (h0 : len s ≠ 0) : rank len s < blCount len n (len s) := by
  rw [blCount_of_ne_zero h0]
  have hpre : (lengthClass len (s + 1) (len s)).length ≤ (lengthClass len n (len s)).length :=
    (lengthClass_isPrefix (Nat.succ_le_of_lt hs) (len s)).length_le
  rw [lengthClass_succ, if_pos rfl, List.length_append, List.length_singleton] at hpre
  exact hpre

theorem symbolOfRank_rank {s : Nat} (hs : s < n) : symbolOfRank len n (len s) (rank len s) = s := by
  have hj : rank len s < (lengthClass len (s + 1) (len s)).length := by
    rw [lengthClass_succ, if_pos rfl, List.length_append, List.length_singleton]
    exact Nat.lt_succ_self _
  rw [symbolOfRank, getD_lengthClass_of_le (Nat.succ_le_of_lt hs) hj, lengthClass_succ, if_pos rfl,
    List.getD_eq_getElem?_getD,
    List.getElem?_append_right (show (lengthClass len s (len s)).length ≤ rank len s from Nat.le_refl _)]
  simp [rank]

/-- `j` 番目の記号は長さ `c` で、その順位は `j`。 -/
theorem symbolOfRank_spec {c j : Nat} (hc : c ≠ 0) (hj : j < blCount len n c) :
    symbolOfRank len n c j < n ∧ len (symbolOfRank len n c j) = c ∧ rank len (symbolOfRank len n c j) = j := by
  rw [blCount_of_ne_zero hc] at hj
  have e : symbolOfRank len n c j = (lengthClass len n c)[j] := by
    rw [symbolOfRank, List.getD_eq_getElem?_getD, List.getElem?_eq_getElem hj, Option.getD_some]
  have hmem := mem_lengthClass.mp (List.getElem_mem hj)
  refine ⟨e ▸ hmem.1, e ▸ hmem.2, ?_⟩
  -- 順位 `rank t` の記号も `t` なので、重複のない列の位置として等しい
  have hback : symbolOfRank len n c (rank len (lengthClass len n c)[j]) = (lengthClass len n c)[j] := by
    have h : symbolOfRank len n (len (lengthClass len n c)[j]) (rank len (lengthClass len n c)[j]) =
        (lengthClass len n c)[j] := symbolOfRank_rank hmem.1
    rwa [hmem.2] at h
  have hr : rank len (lengthClass len n c)[j] < (lengthClass len n c).length := by
    have h : rank len (lengthClass len n c)[j] < blCount len n (len (lengthClass len n c)[j]) :=
      rank_lt hmem.1 (by rw [hmem.2]; exact hc)
    rwa [hmem.2, blCount_of_ne_zero hc] at h
  rw [symbolOfRank, List.getD_eq_getElem?_getD, List.getElem?_eq_getElem hr, Option.getD_some] at hback
  rw [e]
  exact (List.Nodup.getElem_inj_iff (nodup_lengthClass n c)).mp hback

/-! ## 長さごとの区間 -/

section Window

variable {W : Nat}

@[simp] theorem start_zero : start len n W 0 = 0 := by
  simp [start, nextCode]

theorem start_one : start len n W 1 = 0 := by
  simp [start, nextCode, blCount]

/-- 長さ `b` の区間の幅は、長さ `b` の記号の数の `2 ^ (W - b)` 倍。 -/
theorem start_succ {b : Nat} (hb : b < W) :
    start len n W (b + 1) = start len n W b + blCount len n b * 2 ^ (W - b) := by
  unfold start
  have e : W - b = W - (b + 1) + 1 := by omega
  rw [nextCode, e, Nat.pow_succ]
  ring

theorem start_mono {b b' : Nat} (h : b ≤ b') (hb' : b' ≤ W) : start len n W b ≤ start len n W b' := by
  induction b' with
  | zero => rw [Nat.le_zero.mp h]
  | succ b' ih =>
    rcases Nat.lt_or_ge b (b' + 1) with hlt | hge
    · rw [start_succ (by omega)]
      exact (ih (by omega) (by omega)).trans (Nat.le_add_right _ _)
    · rw [Nat.le_antisymm h hge]

/-- 記号を一つ足すと、その長さより上の区間の始まりがその記号の分だけ上がる。 -/
theorem start_succ_symbols {b : Nat} (hb : b ≤ W) :
    start len (n + 1) W b = start len n W b + if 0 < len n ∧ len n < b then 2 ^ (W - len n) else 0 := by
  induction b with
  | zero => simp
  | succ b ih =>
    rw [start_succ (by omega), start_succ (by omega), ih (by omega), blCount_succ]
    -- 足した記号は、短い区間にあったか、ちょうど長さ `b` か、それより長いか
    by_cases h1 : 0 < len n ∧ len n < b
    · have h2 : ¬(b ≠ 0 ∧ len n = b) := by omega
      have h3 : 0 < len n ∧ len n < b + 1 := by omega
      rw [if_pos h1, if_neg h2, if_pos h3]
      ring
    · by_cases h2 : b ≠ 0 ∧ len n = b
      · have h3 : 0 < len n ∧ len n < b + 1 := by omega
        rw [if_neg h1, if_pos h2, if_pos h3, h2.2]
        ring
      · have h3 : ¬(0 < len n ∧ len n < b + 1) := by omega
        rw [if_neg h1, if_neg h2, if_neg h3]
        ring

theorem nextCode_no_symbols (b : Nat) : nextCode len 0 b = 0 := by
  induction b with
  | zero => rfl
  | succ b ih => simp [nextCode, ih, blCount, lengthClass]

theorem kraftSum_succ : kraftSum len (n + 1) W = kraftSum len n W + if len n = 0 then 0 else 2 ^ (W - len n) := by
  simp [kraftSum, List.range_succ]

/-- **最後の区間の終わりは Kraft の和。** 長さがどれも `W` より短いとき。 -/
theorem start_top (hlen : ∀ s < n, len s < W) : start len n W W = kraftSum len n W := by
  induction n with
  | zero => simp [start, nextCode_no_symbols, kraftSum]
  | succ n ih =>
    rw [start_succ_symbols (Nat.le_refl W), ih (fun s hs => hlen s (by omega)), kraftSum_succ]
    have h := hlen n (Nat.lt_succ_self n)
    by_cases h0 : len n = 0
    · rw [if_neg (by omega), if_pos h0]
    · rw [if_pos (by omega), if_neg h0]

/-- 長さ `c` の区間は、その長さの最初の符号と記号の数で書ける。 -/
theorem start_succ_eq {c : Nat} (hc : c < W) :
    start len n W (c + 1) = (nextCode len n c + blCount len n c) * 2 ^ (W - c) := by
  rw [start_succ hc, start, Nat.add_mul]

/-- 長さ `c` の記号の符号は、その長さの区間に収まる。 -/
theorem mem_class_of_code {s x : Nat} (hs : s < n) (h0 : len s ≠ 0) (hW : len s < W)
    (hx : x / 2 ^ (W - len s) = code len n s) :
    start len n W (len s) ≤ x ∧ x < start len n W (len s + 1) := by
  have hP := Nat.two_pow_pos (W - len s)
  have hr := rank_lt hs h0
  unfold code at hx
  constructor
  · rw [start]
    calc nextCode len n (len s) * 2 ^ (W - len s)
        ≤ x / 2 ^ (W - len s) * 2 ^ (W - len s) := by rw [hx]; exact Nat.mul_le_mul_right _ (by omega)
      _ ≤ x := Nat.div_mul_le_self x _
  · rw [start_succ_eq hW]
    calc x < x / 2 ^ (W - len s) * 2 ^ (W - len s) + 2 ^ (W - len s) := Nat.lt_div_mul_add hP
      _ = (x / 2 ^ (W - len s) + 1) * 2 ^ (W - len s) := by ring
      _ ≤ (nextCode len n (len s) + blCount len n (len s)) * 2 ^ (W - len s) := by
        rw [hx]; exact Nat.mul_le_mul_right _ (by omega)

/-- 長さ `c` の区間にある値の上の `c` bit は、長さ `c` の符号の値の範囲にある。 -/
theorem code_range_of_mem_class {c x : Nat} (hcW : c < W)
    (h1 : start len n W c ≤ x) (h2 : x < start len n W (c + 1)) :
    nextCode len n c ≤ x / 2 ^ (W - c) ∧ x / 2 ^ (W - c) < nextCode len n c + blCount len n c := by
  have hP := Nat.two_pow_pos (W - c)
  refine ⟨(Nat.le_div_iff_mul_le hP).mpr h1, ?_⟩
  rw [start_succ_eq hcW] at h2
  exact (Nat.div_lt_iff_lt_mul hP).mpr h2

/-- **区間から記号を読む。** `W` bit の値 `x` が長さ `c` の区間にあれば、上の `c` bit から
最初の符号を引いた値を順位とする記号は長さ `c` で、その符号は `x` の上の `c` bit である。 -/
theorem decode_spec {c x : Nat} (hc : c ≠ 0) (hcW : c < W)
    (h1 : start len n W c ≤ x) (h2 : x < start len n W (c + 1)) :
    let t := symbolOfRank len n c (x / 2 ^ (W - c) - nextCode len n c)
    t < n ∧ len t = c ∧ code len n t = x / 2 ^ (W - c) := by
  intro t
  obtain ⟨hlo, hhi⟩ := code_range_of_mem_class hcW h1 h2
  have hj : x / 2 ^ (W - c) - nextCode len n c < blCount len n c := by omega
  obtain ⟨ht, hlen, hrank⟩ := symbolOfRank_spec hc hj
  refine ⟨ht, hlen, ?_⟩
  rw [code, hlen, hrank]
  omega

/-- 区間は重ならないので、値の入る区間は一つ。 -/
theorem class_unique {c c' x : Nat} (hc : c < W) (hc' : c' < W)
    (h1 : start len n W c ≤ x) (h2 : x < start len n W (c + 1))
    (h1' : start len n W c' ≤ x) (h2' : x < start len n W (c' + 1)) : c = c' := by
  rcases Nat.lt_trichotomy c c' with h | h | h
  · have hm : start len n W (c + 1) ≤ start len n W c' := start_mono (by omega) (by omega)
    omega
  · exact h
  · have hm : start len n W (c' + 1) ≤ start len n W c := start_mono (by omega) (by omega)
    omega

/-- 符号の値から符号語へ：列が符号語で始まることは、列の上の bit の値で言える。 -/
theorem codeword_prefix_iff {s : Nat} (hs : s < n) (h0 : len s ≠ 0) (hW : len s < W)
    (hcomplete : start len n W W ≤ 2 ^ W) (w : List Bool) :
    codeword len n s <+: w ↔ len s ≤ w.length ∧ bitsVal (w.take (len s)) = code len n s := by
  apply msbBits_prefix_iff
  -- 符号の値は区間の終わり `start W ≤ 2 ^ W` から `2 ^ len s` より小さい
  have hP := Nat.two_pow_pos (W - len s)
  have hin := mem_class_of_code (x := code len n s * 2 ^ (W - len s)) hs h0 hW (Nat.mul_div_cancel _ hP)
  have htop : start len n W (len s + 1) ≤ start len n W W := start_mono (by omega) (Nat.le_refl W)
  have hlt : code len n s * 2 ^ (W - len s) < 2 ^ len s * 2 ^ (W - len s) := by
    rw [← Nat.pow_add, Nat.add_sub_cancel' (Nat.le_of_lt hW)]
    omega
  exact Nat.lt_of_mul_lt_mul_right hlt

end Window

/-! ## 長さごとの区画 -/

theorem classBase_succ (b : Nat) : classBase len n (b + 1) = classBase len n b + blCount len n b := by
  simp [classBase, List.range_succ]

theorem classBase_mono {b b' : Nat} (h : b ≤ b') : classBase len n b ≤ classBase len n b' := by
  induction b' with
  | zero => rw [Nat.le_zero.mp h]
  | succ b' ih =>
    rcases Nat.lt_or_ge b (b' + 1) with hlt | hge
    · rw [classBase_succ]
      exact (ih (by omega)).trans (Nat.le_add_right _ _)
    · rw [Nat.le_antisymm h hge]

/-- 区画は重ならない。 -/
theorem classBase_add_inj {c c' j j' : Nat} (hj : j < blCount len n c) (hj' : j' < blCount len n c')
    (h : classBase len n c + j = classBase len n c' + j') : c = c' ∧ j = j' := by
  rcases Nat.lt_trichotomy c c' with hlt | heq | hgt
  · have hm : classBase len n (c + 1) ≤ classBase len n c' := classBase_mono (by omega)
    rw [classBase_succ] at hm
    omega
  · subst heq
    exact ⟨rfl, by omega⟩
  · have hm : classBase len n (c' + 1) ≤ classBase len n c := classBase_mono (by omega)
    rw [classBase_succ] at hm
    omega

/-! ## 数え上げ整列

記号を順に見て、長さ `len s` の区画の書き込み位置 `ptr (len s)` に `s` を書き、位置を一つ進める。
区画 `c` が `classBase c` から始まるなら、終わった後の区画 `c` には長さ `c` の記号が順に並ぶ。
-/

/-- 記号 `s` を、その長さの区画の書き込み位置に書いて位置を進める。長さ 0 の記号は書かない。 -/
def placeStep (len : Nat → Nat) (st : (Nat → Int) × (Int → Nat)) (s : Nat) : (Nat → Int) × (Int → Nat) :=
  if len s = 0 then st
  else (Function.update st.1 (len s) (st.1 (len s) + 1), Function.update st.2 (st.1 (len s)) s)

/-- 記号 `0 .. m - 1` を書き終えた状態：長さ `W` 未満の区画 `c` の位置はそこまでの長さ `c` の
記号の数だけ進み、区画の頭にはそれらが順に並ぶ。 -/
def PlacedUpTo (len : Nat → Nat) (n W m : Nat) (st : (Nat → Int) × (Int → Nat)) : Prop :=
  ∀ c, c ≠ 0 → c < W → st.1 c = (classBase len n c : Int) + (lengthClass len m c).length ∧
    ∀ j < (lengthClass len m c).length, st.2 (classBase len n c + j) = (lengthClass len m c).getD j 0

theorem placedUpTo_step {W m : Nat} (hm : m < n) (hW : len m < W) {st : (Nat → Int) × (Int → Nat)}
    (h : PlacedUpTo len n W m st) : PlacedUpTo len n W (m + 1) (placeStep len st m) := by
  intro c hc hcW
  obtain ⟨hptr, hmem⟩ := h c hc hcW
  unfold placeStep
  by_cases hk : len m = 0
  · -- 長さ 0 の記号は書かず、どの区画の列も変わらない
    have e : lengthClass len (m + 1) c = lengthClass len m c := by
      rw [lengthClass_succ, if_neg (by omega), List.append_nil]
    rw [if_pos hk, e]
    exact ⟨hptr, hmem⟩
  rw [if_neg hk]
  dsimp only
  obtain ⟨hptrk, -⟩ := h (len m) hk hW
  -- 区画 `len m` の今の長さは、全体の長さより小さい
  have hroom : (lengthClass len m (len m)).length < blCount len n (len m) := by
    have hpre : (lengthClass len (m + 1) (len m)).length ≤ (lengthClass len n (len m)).length :=
      (lengthClass_isPrefix (Nat.succ_le_of_lt hm) (len m)).length_le
    rw [lengthClass_succ, if_pos rfl, List.length_append, List.length_singleton] at hpre
    rw [blCount_of_ne_zero hk]
    omega
  have hcount : ∀ j < (lengthClass len (m + 1) c).length, j < blCount len n c := by
    intro j hj
    have hpre : (lengthClass len (m + 1) c).length ≤ (lengthClass len n c).length :=
      (lengthClass_isPrefix (Nat.succ_le_of_lt hm) c).length_le
    rw [blCount_of_ne_zero hc]
    omega
  by_cases hkc : len m = c
  · subst hkc
    have e : lengthClass len (m + 1) (len m) = lengthClass len m (len m) ++ [m] := by
      rw [lengthClass_succ, if_pos rfl]
    refine ⟨?_, ?_⟩
    · rw [Function.update_self, hptr, e, List.length_append, List.length_singleton]
      push_cast
      ring
    · intro j hj
      rw [e] at hj ⊢
      rw [List.length_append, List.length_singleton] at hj
      rw [Function.update_apply, hptrk]
      by_cases hjm : j = (lengthClass len m (len m)).length
      · subst hjm
        rw [if_pos rfl, List.getD_eq_getElem?_getD,
          List.getElem?_append_right (Nat.le_refl _)]
        simp
      · rw [if_neg (by omega), List.getD_eq_getElem?_getD, List.getElem?_append_left (by omega),
          ← List.getD_eq_getElem?_getD]
        exact hmem j (by omega)
  · have e : lengthClass len (m + 1) c = lengthClass len m c := by
      rw [lengthClass_succ, if_neg hkc, List.append_nil]
    refine ⟨?_, ?_⟩
    · rw [Function.update_of_ne (Ne.symm hkc), e]
      exact hptr
    · intro j hj
      have hj' := hcount j hj
      rw [e] at hj ⊢
      rw [Function.update_apply, hptrk]
      -- 別の区画の頭には書かない
      rw [if_neg]
      · exact hmem j hj
      · intro heq
        have hnat : classBase len n c + j = classBase len n (len m) + (lengthClass len m (len m)).length := by
          exact_mod_cast heq
        exact hkc (classBase_add_inj hroom hj' hnat.symm).1

/-- **数え上げ整列。** 区画 `c` の書き込み位置が `classBase c` から始まれば、全部書き終えた後、
区画 `c` の `j` 番目には長さ `c` の `j` 番目の記号があり、位置は区画の終わりにある。 -/
theorem placeAll_spec {W : Nat} (hlen : ∀ s < n, len s < W) (ptr0 : Nat → Int) (mem0 : Int → Nat)
    (hptr : ∀ c, c ≠ 0 → c < W → ptr0 c = classBase len n c) :
    ∀ c, c ≠ 0 → c < W →
      ((List.range n).foldl (placeStep len) (ptr0, mem0)).1 c = (classBase len n c : Int) + blCount len n c ∧
      ∀ j < blCount len n c,
        ((List.range n).foldl (placeStep len) (ptr0, mem0)).2 (classBase len n c + j) = symbolOfRank len n c j := by
  -- 記号 `0 .. m - 1` を書き終えた所まで、`PlacedUpTo` が成り立つ
  have hrun : ∀ m, m ≤ n → PlacedUpTo len n W m ((List.range m).foldl (placeStep len) (ptr0, mem0)) := by
    intro m
    induction m with
    | zero =>
      intro _ c hc hcW
      simp [lengthClass, hptr c hc hcW]
    | succ m ih =>
      intro hm
      rw [List.range_succ, List.foldl_append, List.foldl_cons, List.foldl_nil]
      exact placedUpTo_step (by omega) (hlen m (by omega)) (ih (by omega))
  intro c hc hcW
  obtain ⟨hp, hmem⟩ := hrun n (Nat.le_refl n) c hc hcW
  refine ⟨by rw [hp, blCount_of_ne_zero hc], ?_⟩
  intro j hj
  rw [blCount_of_ne_zero hc] at hj
  rw [hmem j hj]
  rfl

/-! ## 表を上から下へたどる -/

/-- 添字 `i` から、`x < st i` のあいだ一つずつ下がる。添字 0 で止まる。 -/
def walkDown (st : Nat → Nat) (x : Nat) : Nat → Nat
  | 0 => 0
  | i + 1 => if x < st (i + 1) then walkDown st x i else i + 1

section Walk

variable {st : Nat → Nat} {x : Nat}

theorem walkDown_succ (i : Nat) : walkDown st x (i + 1) = if x < st (i + 1) then walkDown st x i else i + 1 :=
  rfl

/-- たどるのは添字 `i` 以下だけなので、そこで等しい表なら同じ所で止まる。 -/
theorem walkDown_congr {st' : Nat → Nat} {i : Nat} (h : ∀ j ≤ i, st j = st' j) :
    walkDown st x i = walkDown st' x i := by
  induction i with
  | zero => rfl
  | succ i ih =>
    rw [walkDown_succ, walkDown_succ, h (i + 1) (Nat.le_refl _), ih (fun j hj => h j (by omega))]

theorem walkDown_le (i : Nat) : walkDown st x i ≤ i := by
  induction i with
  | zero => exact Nat.le_refl 0
  | succ i ih =>
    rw [walkDown_succ]
    split <;> omega

theorem st_walkDown_le (h0 : st 0 ≤ x) (i : Nat) : st (walkDown st x i) ≤ x := by
  induction i with
  | zero => exact h0
  | succ i ih =>
    rw [walkDown_succ]
    split
    · exact ih
    · omega

/-- 止まった所より上の添字では、どれも `x < st j`。 -/
theorem lt_st_of_walkDown_lt {i j : Nat} (hj : walkDown st x i < j) (hji : j ≤ i) : x < st j := by
  induction i with
  | zero => omega
  | succ i ih =>
    rw [walkDown_succ] at hj
    split at hj
    · next hlt =>
      rcases Nat.lt_or_ge j (i + 1) with h | h
      · exact ih hj (by omega)
      · rw [Nat.le_antisymm hji h]
        exact hlt
    · omega

/-- 答え `c` より上に `st j ≤ x` の添字がなければ、`c` より上のどこから始めても `c` で止まる。 -/
theorem walkDown_eq {c i : Nat} (hc : st c ≤ x) (hci : c ≤ i) (habove : ∀ j, c < j → j ≤ i → x < st j) :
    walkDown st x i = c := by
  induction i with
  | zero =>
    rw [Nat.le_zero.mp hci]
    rfl
  | succ i ih =>
    rcases Nat.lt_or_ge c (i + 1) with h | h
    · rw [walkDown_succ, if_pos (habove (i + 1) h (Nat.le_refl _))]
      exact ih (by omega) (fun j h1 h2 => habove j h1 (by omega))
    · rw [Nat.le_antisymm hci h, walkDown_succ, if_neg (by rw [← Nat.le_antisymm hci h]; omega)]

/-- **近道。** `st` を `2 ^ sh` で割った粗い表を上からたどって止まった所から始めても、
`st` を上からたどるのと同じ所で止まる。 -/
theorem walkDown_lookup (h0 : st 0 ≤ x) (sh T : Nat) :
    walkDown st x (walkDown (fun j => st j / 2 ^ sh) (x / 2 ^ sh) T) = walkDown st x T := by
  have hc := st_walkDown_le h0 T
  have hcT : walkDown st x T ≤ T := walkDown_le T
  have hqT : walkDown (fun j => st j / 2 ^ sh) (x / 2 ^ sh) T ≤ T := walkDown_le T
  -- 粗い表で止まる所は、本当の答えより下にはない
  have hcq : walkDown st x T ≤ walkDown (fun j => st j / 2 ^ sh) (x / 2 ^ sh) T := by
    apply Nat.le_of_not_lt
    intro hlt
    have h := lt_st_of_walkDown_lt hlt hcT
    exact absurd (Nat.div_le_div_right hc) (Nat.not_le_of_lt h)
  exact walkDown_eq hc hcq (fun j h1 h2 => lt_st_of_walkDown_lt h1 (by omega))

end Walk

/-- 添字 `j` を小さい方から順に、`st j ≤ q < size` のすべての `q` に `j` を書いた表は、
`st` を上からたどった答えを引く表である。 -/
theorem fill_eq_walkDown (st : Nat → Nat) (size : Nat) (lk0 : Nat → Nat) (T : Nat) {p : Nat}
    (hp : p < size) (h0 : st 0 ≤ p) :
    (List.range (T + 1)).foldl (fun lk j q => if st j ≤ q ∧ q < size then j else lk q) lk0 p = walkDown st p T := by
  induction T with
  | zero => simp [walkDown, h0, hp]
  | succ T ih =>
    rw [List.range_succ, List.foldl_append, List.foldl_cons, List.foldl_nil, walkDown_succ]
    by_cases h : st (T + 1) ≤ p
    · rw [if_pos ⟨h, hp⟩, if_neg (by omega)]
    · rw [if_neg (fun h' => h h'.1), if_pos (by omega), ih]

/-! ## 記号の範囲の外の長さ

符号は記号 `0 .. n - 1` の長さだけで決まる。範囲の外で値の違う長さの関数に取り替えても、
ここで定めたものはどれも変わらない。 -/

section Congr

variable {len' : Nat → Nat}

theorem lengthClass_congr (h : ∀ s < n, len s = len' s) (c : Nat) : lengthClass len n c = lengthClass len' n c := by
  unfold lengthClass
  refine List.filter_congr fun s hs => ?_
  rw [h s (List.mem_range.mp hs)]

theorem blCount_congr (h : ∀ s < n, len s = len' s) (c : Nat) : blCount len n c = blCount len' n c := by
  unfold blCount
  rw [lengthClass_congr h]

theorem nextCode_congr (h : ∀ s < n, len s = len' s) : ∀ b, nextCode len n b = nextCode len' n b
  | 0 => rfl
  | b + 1 => by
    show (nextCode len n b + blCount len n b) * 2 = (nextCode len' n b + blCount len' n b) * 2
    rw [nextCode_congr h b, blCount_congr h]

theorem start_congr (h : ∀ s < n, len s = len' s) (W b : Nat) : start len n W b = start len' n W b := by
  unfold start
  rw [nextCode_congr h]

theorem classBase_congr (h : ∀ s < n, len s = len' s) (b : Nat) : classBase len n b = classBase len' n b := by
  unfold classBase
  congr 1
  exact List.map_congr_left fun c _ => blCount_congr h c

theorem symbolOfRank_congr (h : ∀ s < n, len s = len' s) (c j : Nat) :
    symbolOfRank len n c j = symbolOfRank len' n c j := by
  unfold symbolOfRank
  rw [lengthClass_congr h]

theorem kraftSum_congr (h : ∀ s < n, len s = len' s) (W : Nat) : kraftSum len n W = kraftSum len' n W := by
  unfold kraftSum
  congr 1
  refine List.map_congr_left fun s hs => ?_
  rw [h s (List.mem_range.mp hs)]

end Congr

end Infra
