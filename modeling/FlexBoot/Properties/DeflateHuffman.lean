import FlexBoot.Properties.DeflateBits
import FlexBoot.Infra.CanonicalCode

/-!
# DEFLATE の Huffman 表（RFC 1951 の 3.2.2 節）

`deflate_alphabet` が作る表と `deflate_decode` の引き方が、長さから決まる正準な符号
（`Infra.CanonicalCode`）と合うことを示す。記号 `raw` の長さは `len raw` とし、
`deflate_alphabet` の四つの loop を一つずつ閉じた形にする。

* `populate_run` — 表を埋める loop は、長さ `b` の組に `next_code[b]` を 16 bit にそろえた値と
  区画の始まりを書き、符号が `2 ^ b` を超えた所で止まる
* `placed_spec` — 記号を置く loop は `Infra.placeAll_spec` の数え上げ整列である
* `adjust_run` — 最後の loop は区画の位置を最初の符号の分ずらし、quick lookup を埋める
* `deflateAlphabet_none_iff` — `-EINVAL` は Kraft の和が `2 ^ 16` でない時だけ
* `Built` — 作り終えた表の性質。`deflateAlphabet_built` がそれを与える
* `Built.lookupWalk_eq` — quick lookup から下へたどっても、一番長い組から下へたどっても同じ
* `Built.deflateDecode_iff` — 記号 `s` を `len s` bit で読むことは、列が `s` の符号語で
  始まることと同じ
-/

namespace FlexBoot.Inflate

open Infra

/-- 長さは 4 bit。 -/
theorem deflateLength_lt (lengths : List UInt8) (index : Nat) : deflateLength lengths index < 16 :=
  Nat.lt_succ_of_le Nat.and_le_right

section Table

variable (len : Nat → Nat) (n : Nat)

/-- 長さ `b` の組を埋めた項。`raw` は長さ `b` の区画の始まり。 -/
def populated (b : Nat) : HufSymbols :=
  ⟨b, 16 - b, blCount len n b, start len n 16 b, classBase len n b⟩

/-- 長さ `1 .. m` の組を埋め終えた loop の変数。 -/
def populateState (m : Nat) : Populate :=
  ⟨nextCode len n (m + 1), classBase len n (m + 1),
    fun i => if i < m then populated len n (i + 1) else ⟨0, 0, blCount len n (i + 1), 0, 0⟩⟩

/-- 仕上がった項。`raw` は区画の始まりから、その長さの最初の符号の値を引いたもの。 -/
def builtSymbols (b : Nat) : HufSymbols :=
  ⟨b, 16 - b, blCount len n b, start len n 16 b, (classBase len n b : Int) - nextCode len n b⟩

/-- 表の組ごとの書き込み位置。長さ `c` の組は `c - 1` 番目にある。 -/
def rawPtr (tbl : Nat → HufSymbols) (c : Nat) : Int := if c = 0 then 0 else (tbl (c - 1)).raw

/-- 記号を置く loop を終えた組と `raw[]`。 -/
def placedState (mem0 : Int → Nat) : (Nat → HufSymbols) × (Int → Nat) :=
  (List.range n).foldl (fun acc raw => placeRaw acc raw (len raw)) ((populateState len n 15).table, mem0)

/-- 最後の loop を終えた組と quick lookup。 -/
def adjustedState (lk0 : Nat → Nat) (mem0 : Int → Nat) : (Nat → HufSymbols) × (Nat → Nat) :=
  (List.range' 1 huffmanBits).foldl adjustStep ((placedState len n mem0).1, lk0)

variable {len} {n}

/-! ## 長さごとに数える -/

/-- 記号 `0 .. m - 1` を数え終えた表の `i` 番目は、長さ `i + 1` の記号の数。 -/
theorem countFreq_fold (m : Nat) :
    (List.range m).foldl (fun huf raw => countFreq huf (len raw)) (fun _ => hufZero) =
      fun i => ⟨0, 0, blCount len m (i + 1), 0, 0⟩ := by
  induction m with
  | zero =>
    funext i
    simp [blCount, lengthClass, hufZero]
  | succ m ih =>
    rw [List.range_succ, List.foldl_append, List.foldl_cons, List.foldl_nil, ih]
    funext i
    rw [blCount_succ]
    unfold countFreq
    by_cases h0 : len m = 0
    · simp [h0]
    · rw [if_neg h0, Function.update_apply]
      -- 数えるのは `len m - 1` 番目の組だけ
      by_cases hi : i = len m - 1
      · rw [if_pos hi, if_pos (by omega), hi]
      · simp [hi, show len m ≠ i + 1 by omega]

/-! ## 組を埋める -/

theorem populateState_zero :
    populateState len n 0 = ⟨0, 0, fun i => ⟨0, 0, blCount len n (i + 1), 0, 0⟩⟩ := by
  simp [populateState, nextCode, classBase, blCount]

/-- 長さ `m + 1` の組を埋める一歩。長さ `m + 1` 以下の符号が `2 ^ (m + 1)` に収まる時だけ進む。 -/
theorem populateStep_state (m : Nat) :
    populateStep (populateState len n m) (m + 1) =
      if nextCode len n (m + 1) + blCount len n (m + 1) ≤ 2 ^ (m + 1) then some (populateState len n (m + 1))
      else none := by
  have htab : (populateState len n m).table (m + 1 - 1) = ⟨0, 0, blCount len n (m + 1), 0, 0⟩ := by
    simp [populateState]
  unfold populateStep
  simp only [htab, Nat.one_shiftLeft]
  by_cases hf : nextCode len n (m + 1) + blCount len n (m + 1) ≤ 2 ^ (m + 1)
  · rw [if_neg (by simp only [populateState]; omega), if_pos hf]
    -- 次の変数：符号は一つ左へ送り、区画の始まりは長さ `m + 1` の記号の分だけ進む
    simp only [populateState, Option.some.injEq, Populate.mk.injEq, Nat.shiftLeft_eq, pow_one]
    refine ⟨rfl, (classBase_succ _).symm, ?_⟩
    funext i
    rw [Function.update_apply]
    by_cases hi : i = m
    · rw [if_pos (by omega), if_pos (by omega), hi]
      simp [populated, start]
    · rw [if_neg (by omega)]
      by_cases him : i < m
      · rw [if_pos him, if_pos (by omega)]
      · rw [if_neg him, if_neg (by omega)]
  · rw [if_pos (by simp only [populateState]; omega), if_neg hf]

/-- **表を埋める loop。** 長さ `1 .. m` のどれでも符号が収まれば、長さ `m` まで埋め終えた
変数で抜ける。どこかであふれれば `-EINVAL`。 -/
theorem populate_run (m : Nat) :
    (List.range' 1 m).foldlM populateStep (populateState len n 0) =
      if ∀ b < m, nextCode len n (b + 1) + blCount len n (b + 1) ≤ 2 ^ (b + 1) then
        some (populateState len n m)
      else none := by
  induction m with
  | zero => simp
  | succ m ih =>
    rw [List.range'_concat, List.foldlM_append, ih, show 1 + 1 * m = m + 1 by omega]
    by_cases hall : ∀ b < m, nextCode len n (b + 1) + blCount len n (b + 1) ≤ 2 ^ (b + 1)
    · rw [if_pos hall]
      simp only [Option.bind_eq_bind, Option.bind_some, List.foldlM_cons, List.foldlM_nil, populateStep_state]
      by_cases hm : nextCode len n (m + 1) + blCount len n (m + 1) ≤ 2 ^ (m + 1)
      · have hall' : ∀ b < m + 1, nextCode len n (b + 1) + blCount len n (b + 1) ≤ 2 ^ (b + 1) := by
          intro b hb
          rcases Nat.lt_or_ge b m with h | h
          · exact hall b h
          · rwa [Nat.le_antisymm (Nat.le_of_lt_succ hb) h]
        rw [if_pos hm, if_pos hall']
        rfl
      · rw [if_neg hm, if_neg (fun h => hm (h m (Nat.lt_succ_self m)))]
        rfl
    · rw [if_neg hall, if_neg (fun h => hall (fun b hb => h b (by omega)))]
      rfl

/-- 長さ `b` の符号が `2 ^ b` に収まることは、次の区間の始まりが `2 ^ 16` を超えないこと。 -/
theorem fits_iff_start {b : Nat} (hb : b < 16) :
    nextCode len n b + blCount len n b ≤ 2 ^ b ↔ start len n 16 (b + 1) ≤ 2 ^ 16 := by
  rw [start_succ_eq hb, show (2 : Nat) ^ 16 = 2 ^ b * 2 ^ (16 - b) by rw [← Nat.pow_add]; congr 1; omega]
  exact (Nat.mul_le_mul_right_iff (Nat.two_pow_pos _)).symm

/-- 長さ `1 .. 15` のどこでもあふれないことは、Kraft の和が `2 ^ 16` を超えないこと。 -/
theorem fits_all_iff (hlen : ∀ s < n, len s < 16) :
    (∀ b < 15, nextCode len n (b + 1) + blCount len n (b + 1) ≤ 2 ^ (b + 1)) ↔ kraftSum len n 16 ≤ 2 ^ 16 := by
  rw [← start_top hlen]
  constructor
  · intro h
    exact (fits_iff_start (by decide)).mp (h 14 (by decide))
  · intro h b hb
    -- 区間の始まりは長さについて増えるので、一番上で収まればどこでも収まる
    have hmono : start len n 16 (b + 1 + 1) ≤ start len n 16 16 := start_mono (by omega) (Nat.le_refl _)
    exact (fits_iff_start (by omega)).mpr (hmono.trans h)

/-- 埋め終えた時の符号 `huf` は、Kraft の和。 -/
theorem populateState_huf (hlen : ∀ s < n, len s < 16) : (populateState len n 15).huf = kraftSum len n 16 := by
  rw [← start_top hlen]
  simp [populateState, start]

/-! ## 記号を置く -/

/-- 記号を一つ置く `placeRaw` は、書き込み位置だけを見れば `Infra.placeStep` である。 -/
theorem placeRaw_rawPtr (acc : (Nat → HufSymbols) × (Int → Nat)) (raw : Nat) :
    (rawPtr (placeRaw acc raw (len raw)).1, (placeRaw acc raw (len raw)).2) =
      placeStep len (rawPtr acc.1, acc.2) raw := by
  unfold placeRaw placeStep
  by_cases h0 : len raw = 0
  · rw [if_pos h0, if_pos h0]
  rw [if_neg h0, if_neg h0]
  have hptr : rawPtr acc.1 (len raw) = (acc.1 (len raw - 1)).raw := if_neg h0
  refine Prod.ext ?_ ?_
  · funext c
    dsimp only
    rw [Function.update_apply]
    unfold rawPtr
    by_cases hc : c = len raw
    · rw [if_pos hc, if_neg (by omega), hc, Function.update_self, if_neg h0]
    · rw [if_neg hc]
      by_cases hc0 : c = 0
      · rw [if_pos hc0, if_pos hc0]
      · rw [if_neg hc0, if_neg hc0, Function.update_of_ne (by omega)]
  · dsimp only
    rw [hptr]

/-- 記号を置いても、組の `raw` 以外は変わらない。 -/
theorem placeRaw_shape (acc : (Nat → HufSymbols) × (Int → Nat)) (raw b i : Nat) :
    ∃ r : Int, (placeRaw acc raw b).1 i = { acc.1 i with raw := r } := by
  unfold placeRaw
  by_cases h0 : b = 0
  · exact ⟨(acc.1 i).raw, by rw [if_pos h0]⟩
  rw [if_neg h0]
  dsimp only
  rw [Function.update_apply]
  by_cases hi : i = b - 1
  · rw [if_pos hi, hi]
    exact ⟨_, rfl⟩
  · rw [if_neg hi]
    exact ⟨(acc.1 i).raw, rfl⟩

theorem placeRaw_fold_shape (l : List Nat) (init : (Nat → HufSymbols) × (Int → Nat)) (i : Nat) :
    (l.foldl (fun acc raw => placeRaw acc raw (len raw)) init).1 i =
      { init.1 i with raw := (l.foldl (fun acc raw => placeRaw acc raw (len raw)) init).1 i |>.raw } := by
  induction l generalizing init with
  | nil => rfl
  | cons r l ih =>
    rw [List.foldl_cons, ih]
    obtain ⟨x, hx⟩ := placeRaw_shape init r (len r) i
    rw [hx]

/-- **記号を置く loop。** 組の書き込み位置は区画の始まりから区画の終わりまで進み、区画 `c` の
`j` 番目には長さ `c` の `j` 番目の記号が入る。書き込み位置だけを見れば数え上げ整列
`Infra.placeAll_spec` なので、`List.foldl_hom` でそこへ移す。 -/
theorem placed_spec (hlen : ∀ s < n, len s < 16) (mem0 : Int → Nat) :
    (∀ i < 15, (placedState len n mem0).1 i = ⟨i + 1, 16 - (i + 1), blCount len n (i + 1), start len n 16 (i + 1),
      (classBase len n (i + 1) : Int) + blCount len n (i + 1)⟩) ∧
    ∀ c, c ≠ 0 → c < 16 → ∀ j < blCount len n c,
      (placedState len n mem0).2 (classBase len n c + j) = symbolOfRank len n c j := by
  have hhom : (rawPtr (placedState len n mem0).1, (placedState len n mem0).2) =
      (List.range n).foldl (placeStep len) (rawPtr (populateState len n 15).table, mem0) :=
    (List.foldl_hom (fun acc => (rawPtr acc.1, acc.2)) (fun acc raw => (placeRaw_rawPtr acc raw).symm)).symm
  have hptr0 : ∀ c, c ≠ 0 → c < 16 → rawPtr (populateState len n 15).table c = classBase len n c := by
    intro c hc hcW
    simp [rawPtr, populateState, populated, hc, show c - 1 < 15 by omega, Nat.sub_add_cancel (Nat.pos_of_ne_zero hc)]
  have hall := placeAll_spec hlen _ mem0 hptr0
  rw [← hhom] at hall
  refine ⟨fun i hi => ?_, fun c hc hcW => (hall c hc hcW).2⟩
  have hraw : ((placedState len n mem0).1 i).raw = (classBase len n (i + 1) : Int) + blCount len n (i + 1) := by
    have h := (hall (i + 1) (by omega) (by omega)).1
    simpa [rawPtr] using h
  rw [placedState, placeRaw_fold_shape, ← placedState, hraw]
  simp [populateState, hi, populated]

/-! ## 位置をずらし、quick lookup を埋める -/

/-- 添字 `a` から `k` 個を `v` に書き換えた表。 -/
theorem foldl_update_rangeFrom (v : Nat) : ∀ (k a : Nat) (lk : Nat → Nat) (p : Nat),
    (List.range' a k).foldl (fun lk q => Function.update lk q v) lk p = if a ≤ p ∧ p < a + k then v else lk p
  | 0, a, lk, p => by simp
  | k + 1, a, lk, p => by
    rw [List.range'_succ, List.foldl_cons, foldl_update_rangeFrom v k (a + 1), Function.update_apply]
    by_cases h1 : a + 1 ≤ p ∧ p < a + 1 + k
    · rw [if_pos h1, if_pos (by omega)]
    · rw [if_neg h1]
      by_cases h2 : p = a
      · rw [if_pos h2, if_pos (by omega)]
      · rw [if_neg h2, if_neg (by omega)]

/-- quick lookup を埋める loop は、`first` から表の終わりまでを `v` にする。 -/
theorem fillLookup_apply (lk : Nat → Nat) (first v p : Nat) :
    fillLookup lk first v p = if first ≤ p ∧ p < 128 then v else lk p := by
  have e : (first ≤ p ∧ p < first + ((1 <<< huffmanQlBits) - first)) ↔ (first ≤ p ∧ p < 128) := by
    rw [show 1 <<< huffmanQlBits = 128 from rfl]
    omega
  rw [fillLookup, foldl_update_rangeFrom]
  exact if_congr e rfl rfl

/-- 16 bit にそろえた最初の符号を長さの分だけ戻すと、最初の符号。 -/
theorem start_shiftRight (b : Nat) : start len n 16 b >>> (16 - b) = nextCode len n b := by
  rw [start, Nat.shiftRight_eq_div_pow, Nat.mul_div_cancel _ (Nat.two_pow_pos _)]

/-- 最後の loop の一回り。組の項 `sym` を書き換え、quick lookup を埋める。 -/
theorem adjustStep_eq (T : Nat → HufSymbols) (L : Nat → Nat) {b : Nat} {sym : HufSymbols} (h : T (b - 1) = sym) :
    adjustStep (T, L) b =
      (Function.update T (b - 1)
          ⟨sym.bits, sym.shift, sym.freq, sym.start, sym.raw - sym.freq - (sym.start >>> sym.shift : Nat)⟩,
        fillLookup L (sym.start >>> huffmanQlShift) (b - 1)) := by
  subst h
  rfl

/-- **最後の loop。** 長さ `1 .. m` の組を仕上げ、quick lookup をその長さの順に埋める。 -/
theorem adjust_run (P : Nat → HufSymbols) (lk0 : Nat → Nat)
    (hP : ∀ i < 15, P i = ⟨i + 1, 16 - (i + 1), blCount len n (i + 1), start len n 16 (i + 1),
      (classBase len n (i + 1) : Int) + blCount len n (i + 1)⟩) :
    ∀ m ≤ 15, (List.range' 1 m).foldl adjustStep (P, lk0) =
      (fun i => if i < m then builtSymbols len n (i + 1) else P i,
        (List.range m).foldl (fun lk j => fillLookup lk (start len n 16 (j + 1) >>> huffmanQlShift) j) lk0)
  | 0, _ => by
    refine Prod.ext ?_ rfl
    funext i
    simp
  | m + 1, hm => by
    rw [List.range'_concat, List.foldl_append, adjust_run P lk0 hP m (by omega), show 1 + 1 * m = m + 1 by omega,
      List.foldl_cons, List.foldl_nil, List.range_succ, List.foldl_append, List.foldl_cons, List.foldl_nil,
      adjustStep_eq _ _ (show (fun i => if i < m then builtSymbols len n (i + 1) else P i) (m + 1 - 1) = P m by simp)]
    rw [hP m (by omega)]
    dsimp only
    rw [start_shiftRight, Nat.add_sub_cancel]
    refine Prod.ext ?_ rfl
    funext i
    dsimp only
    rw [Function.update_apply]
    by_cases hi : i = m
    · -- 位置は区画の終わりから記号の数だけ戻り、さらに最初の符号の分だけずれる
      rw [if_pos hi, if_pos (by omega), hi]
      simp only [builtSymbols, HufSymbols.mk.injEq, true_and]
      omega
    · rw [if_neg hi]
      by_cases him : i < m
      · rw [if_pos him, if_pos (by omega)]
      · rw [if_neg him, if_neg (by omega)]

end Table

/-! ## `deflate_alphabet` -/

/-- `deflate_alphabet` が読む記号 `raw` の長さ `deflate_length ( deflate, ( raw + offset ) )`。 -/
def alphabetLength (lengths : List UInt8) (offset : Nat) : Nat → Nat := fun raw => deflateLength lengths (raw + offset)

/-- **`deflate_alphabet` の閉じた形。** 返すのは Kraft の和が `2 ^ 16` の時だけで、表は記号を置く
loop と最後の loop の結果。 -/
theorem deflateAlphabet_eq (lengths : List UInt8) (a : Alphabet) (count offset : Nat) :
    deflateAlphabet lengths a count offset =
      if kraftSum (alphabetLength lengths offset) count 16 = 2 ^ 16 then
        some ⟨(adjustedState (alphabetLength lengths offset) count a.lookup a.raw).1,
          (adjustedState (alphabetLength lengths offset) count a.lookup a.raw).2,
          (placedState (alphabetLength lengths offset) count a.raw).2⟩
      else none := by
  unfold deflateAlphabet adjustedState placedState alphabetLength
  have hlen : ∀ s < count, (fun raw => deflateLength lengths (raw + offset)) s < 16 :=
    fun s _ => deflateLength_lt _ _
  simp only [countFreq_fold, ← populateState_zero]
  rw [show huffmanBits = 15 from rfl, populate_run 15]
  by_cases hk : kraftSum (fun raw => deflateLength lengths (raw + offset)) count 16 ≤ 2 ^ 16
  · -- どの長さでもあふれず、最後に符号がちょうど使い切られたかを見る
    rw [if_pos ((fits_all_iff hlen).mpr hk)]
    simp only [Option.bind_eq_bind, Option.bind_some, populateState_huf hlen, beq_iff_eq, Nat.one_shiftLeft]
  · rw [if_neg (fun h => hk ((fits_all_iff hlen).mp h))]
    exact (if_neg (by omega : ¬kraftSum (fun raw => deflateLength lengths (raw + offset)) count 16 = 2 ^ 16)).symm

/-- **`-EINVAL` の条件。** Kraft の和が `2 ^ 16` でない、つまり長さが符号をあふれさせるか
使い切らない時だけ失敗する。 -/
theorem deflateAlphabet_none_iff (lengths : List UInt8) (a : Alphabet) (count offset : Nat) :
    deflateAlphabet lengths a count offset = none ↔ kraftSum (alphabetLength lengths offset) count 16 ≠ 2 ^ 16 := by
  rw [deflateAlphabet_eq]
  by_cases hk : kraftSum (alphabetLength lengths offset) count 16 = 2 ^ 16
  · rw [if_pos hk]
    exact ⟨fun h => absurd h (Option.some_ne_none _), fun h => absurd hk h⟩
  · rw [if_neg hk]
    exact ⟨fun _ => hk, fun _ => rfl⟩

/-- `deflate_alphabet` が作り終えた表。長さ `c` の組は `c - 1` 番目にある。 -/
structure Built (len : Nat → Nat) (n : Nat) (a : Alphabet) : Prop where
  len_lt : ∀ s < n, len s < 16
  complete : kraftSum len n 16 = 2 ^ 16
  huf_eq : ∀ i < 15, a.huf i = builtSymbols len n (i + 1)
  lookup_eq : ∀ p < 128, a.lookup p = walkDown (fun j => start len n 16 (j + 1) / 2 ^ huffmanQlShift) p 14
  raw_eq : ∀ c, c ≠ 0 → c < 16 → ∀ j < blCount len n c, a.raw (classBase len n c + j) = symbolOfRank len n c j

/-- 符号がちょうど使い切られていれば、四つの loop の結果は `Built`。 -/
theorem built_of_complete {len : Nat → Nat} {n : Nat} (hlen : ∀ s < n, len s < 16) (hk : kraftSum len n 16 = 2 ^ 16)
    (lk0 : Nat → Nat) (mem0 : Int → Nat) :
    Built len n ⟨(adjustedState len n lk0 mem0).1, (adjustedState len n lk0 mem0).2, (placedState len n mem0).2⟩ := by
  obtain ⟨hP, hraw⟩ := placed_spec hlen mem0
  have hadj : adjustedState len n lk0 mem0 =
      (fun i => if i < 15 then builtSymbols len n (i + 1) else (placedState len n mem0).1 i,
        (List.range 15).foldl (fun lk j => fillLookup lk (start len n 16 (j + 1) >>> huffmanQlShift) j) lk0) :=
    adjust_run (placedState len n mem0).1 lk0 hP 15 (Nat.le_refl 15)
  refine ⟨hlen, hk, fun i hi => ?_, fun p hp => ?_, hraw⟩
  · dsimp only
    rw [hadj]
    exact if_pos hi
  · -- quick lookup を埋める loop は、粗い区間の表を上からたどった答えを書く
    have hstep : (fun lk j => fillLookup lk (start len n 16 (j + 1) >>> huffmanQlShift) j) =
        fun lk j q => if start len n 16 (j + 1) / 2 ^ huffmanQlShift ≤ q ∧ q < 128 then j else lk q := by
      funext lk j q
      rw [fillLookup_apply, Nat.shiftRight_eq_div_pow]
    dsimp only
    rw [hadj]
    dsimp only
    rw [hstep]
    exact fill_eq_walkDown (fun j => start len n 16 (j + 1) / 2 ^ huffmanQlShift) 128 lk0 14 hp
      (by simp [start_one])

/-- `deflate_alphabet` が成功すれば、表は `Built`。 -/
theorem deflateAlphabet_built {lengths : List UInt8} {a a' : Alphabet} {count offset : Nat}
    (h : deflateAlphabet lengths a count offset = some a') : Built (alphabetLength lengths offset) count a' := by
  rw [deflateAlphabet_eq] at h
  by_cases hk : kraftSum (alphabetLength lengths offset) count 16 = 2 ^ 16
  · rw [if_pos hk] at h
    cases h
    exact built_of_complete (fun s _ => deflateLength_lt _ _) hk a.lookup a.raw
  · rw [if_neg hk] at h
    cases h

/-! ## 符号を一つ読む -/

/-- 長さで決まる符号での読み出し。溜めた後の状態 `d` の先頭 16 bit `x` が入る区間を上から探し、
その長さ `c` の bit がそろっていれば、上の `c` bit を符号の値とする記号を返して `c` bit 捨てる。 -/
def canonicalDecode (len : Nat → Nat) (n : Nat) (d : Deflate) (inp : DeflateChunk) :
    Except Fault (Int × Deflate × DeflateChunk) :=
  let x := (d.rotalumucca >>> 16) % 2 ^ 16
  let c := walkDown (fun j => start len n 16 (j + 1)) x 14 + 1
  if (d.bits : Int) < c then .ok ((d.bits : Int) - c, d, inp)
  else .ok (symbolOfRank len n c (x / 2 ^ (16 - c) - nextCode len n c), (deflateConsume d c).2, inp)

/-- 表の先頭の組の `start` が `x` 以下なら、`walkSymbols` は表の先頭より前へ出ず、`walkDown` と
同じ所で止まる。 -/
theorem walkSymbols_eq {huf : Nat → HufSymbols} {x : Nat} (h0 : (huf 0).start ≤ x) :
    ∀ i, walkSymbols huf x i = .ok (walkDown (fun j => (huf j).start) x i)
  | 0 => by
    show walkSymbols huf x 0 = .ok 0
    rw [walkSymbols_zero, if_neg (Nat.not_lt.mpr h0)]
  | i + 1 => by
    rw [walkSymbols_succ, walkDown_succ]
    by_cases h : x < (huf (i + 1)).start
    · rw [if_pos h, if_pos h, walkSymbols_eq h0 i]
    · rw [if_neg h, if_neg h]

section Decode

variable {len : Nat → Nat} {n : Nat} {a : Alphabet}

/-- 仕上がった表を `i` 番目から下へたどるのは、区間の始まりの表を下へたどること。 -/
theorem Built.walk_eq (hb : Built len n a) {x i : Nat} (hi : i ≤ 14) :
    walkSymbols a.huf x i = .ok (walkDown (fun j => start len n 16 (j + 1)) x i) := by
  have h0 : (a.huf 0).start ≤ x := by
    rw [hb.huf_eq 0 (by decide)]
    simp [builtSymbols, start_one]
  rw [walkSymbols_eq h0, walkDown_congr (fun j hj => ?_)]
  rw [hb.huf_eq j (by omega)]
  rfl

/-- **quick lookup は近道。** 上の 7 bit で引いた組から下へたどっても、一番長い組から下へたどっても
同じ組で止まる。 -/
theorem Built.lookupWalk_eq (hb : Built len n a) {x : Nat} (hx : x < 2 ^ 16) :
    walkSymbols a.huf x (a.lookup (x >>> huffmanQlShift)) = walkSymbols a.huf x (huffmanBits - 1) := by
  have hp : x / 2 ^ huffmanQlShift < 128 := Nat.div_lt_of_lt_mul (by rw [show 2 ^ huffmanQlShift * 128 = 2 ^ 16 from rfl]; exact hx)
  rw [Nat.shiftRight_eq_div_pow, hb.lookup_eq _ hp, hb.walk_eq (walkDown_le 14), show huffmanBits - 1 = 14 from rfl,
    hb.walk_eq (Nat.le_refl 14), walkDown_lookup (by simp [start_one])]

/-- 一番長い組から下へたどって止まる組を `c - 1` 番目とすると、`x` は長さ `c` の区間にある。
一番上の区間の終わりは Kraft の和 `2 ^ 16` である。 -/
theorem Built.walk_class (hb : Built len n a) {x : Nat} (hx : x < 2 ^ 16) :
    0 < walkDown (fun j => start len n 16 (j + 1)) x 14 + 1 ∧ walkDown (fun j => start len n 16 (j + 1)) x 14 + 1 < 16 ∧
      start len n 16 (walkDown (fun j => start len n 16 (j + 1)) x 14 + 1) ≤ x ∧
      x < start len n 16 (walkDown (fun j => start len n 16 (j + 1)) x 14 + 1 + 1) := by
  have h0 : start len n 16 (0 + 1) ≤ x := by simp [start_one]
  have hle := @walkDown_le (fun j => start len n 16 (j + 1)) x 14
  refine ⟨Nat.succ_pos _, by omega, @st_walkDown_le (fun j => start len n 16 (j + 1)) x h0 14, ?_⟩
  -- 止まった所が一番上でなければ、一つ上の組の `start` より小さい
  rcases Nat.lt_or_ge (walkDown (fun j => start len n 16 (j + 1)) x 14) 14 with hlt | hge
  · exact @lt_st_of_walkDown_lt (fun j => start len n 16 (j + 1)) x 14 _ (Nat.lt_succ_self _) hlt
  · rw [show walkDown (fun j => start len n 16 (j + 1)) x 14 + 1 + 1 = 16 by omega, start_top hb.len_lt,
      hb.complete]
    exact hx

/-- 一番長い組から下へたどって止まる組は、`x` の入る区間の組。 -/
theorem Built.walk_eq_iff (hb : Built len n a) {x : Nat} (hx : x < 2 ^ 16) {c : Nat} (hc0 : 0 < c) (hc : c ≤ 15) :
    walkSymbols a.huf x (huffmanBits - 1) = .ok (c - 1) ↔ start len n 16 c ≤ x ∧ x < start len n 16 (c + 1) := by
  obtain ⟨-, hw16, hlo, hhi⟩ := hb.walk_class hx
  rw [show huffmanBits - 1 = 14 from rfl, hb.walk_eq (Nat.le_refl 14)]
  constructor
  · intro h
    have hw : walkDown (fun j => start len n 16 (j + 1)) x 14 + 1 = c := by
      have := Except.ok.inj h
      omega
    rw [← hw]
    exact ⟨hlo, hhi⟩
  · rintro ⟨h1, h2⟩
    -- 区間は重ならない
    have hu := class_unique (by omega) (by omega) hlo hhi h1 h2
    rw [← hu, Nat.add_sub_cancel]

/-- **表で読むことは、長さで決まる符号で読むこと。** `deflate_decode` は、溜めた後の状態に
`canonicalDecode` を施したものに等しい。 -/
theorem Built.deflateDecode_eq (hb : Built len n a) (d : Deflate) (inp : DeflateChunk) :
    deflateDecode d inp a =
      canonicalDecode len n (deflateAccumulate d inp huffmanBits).1 (deflateAccumulate d inp huffmanBits).2.1 := by
  unfold deflateDecode canonicalDecode
  generalize deflateAccumulate d inp huffmanBits = r
  obtain ⟨d', inp', rc⟩ := r
  dsimp only
  have hx : (d'.rotalumucca >>> 16) % 2 ^ 16 < 2 ^ 16 := Nat.mod_lt _ (by decide)
  generalize (d'.rotalumucca >>> 16) % 2 ^ 16 = x at hx ⊢
  obtain ⟨-, hc16, hlo, hhi⟩ := hb.walk_class hx
  have hcode := code_range_of_mem_class (by omega) hlo hhi
  rw [hb.lookupWalk_eq hx, show huffmanBits - 1 = 14 from rfl, hb.walk_eq (Nat.le_refl 14)]
  generalize walkDown (fun j => start len n 16 (j + 1)) x 14 = w at hc16 hlo hhi hcode ⊢
  simp only [bind, Except.bind, pure, Except.pure, hb.huf_eq w (by omega), builtSymbols]
  by_cases hbits : (d'.bits : Int) < (w + 1 : Nat)
  · rw [if_pos (by omega), if_pos hbits]
  · rw [if_neg (by omega), if_neg hbits]
    -- `raw[]` の中の位置は、長さ `w + 1` の区画の始まりに順位を足したもの
    have hidx : (classBase len n (w + 1) : Int) - nextCode len n (w + 1) + ((x >>> (16 - (w + 1)) : Nat) : Int) =
        (classBase len n (w + 1) : Int) + ((x / 2 ^ (16 - (w + 1)) - nextCode len n (w + 1) : Nat) : Int) := by
      rw [Nat.shiftRight_eq_div_pow]
      omega
    rw [hidx, if_neg (by omega), hb.raw_eq (w + 1) (by omega) hc16 _ (by omega : _ < blCount len n (w + 1))]

/-- **記号を一つ読む。** 表が `Built` で読み出しの状態が `Wf` なら、`deflate_decode` が記号 `s` を
返して `len s` bit を捨てることは、残りの bit の列が `s` の符号語で始まることと同じ。 -/
theorem Built.deflateDecode_iff (hb : Built len n a) {d : Deflate} (hd : d.Wf) (inp : DeflateChunk)
    {s : Nat} (hs : s < n) (h0 : len s ≠ 0) :
    (∃ d' inp', deflateDecode d inp a = .ok ((s : Int), d', inp') ∧ stream d' inp' = (stream d inp).drop (len s)) ↔
      codeword len n s <+: stream d inp := by
  obtain ⟨hw, hstr, henough⟩ := deflateAccumulate_spec hd inp (show huffmanBits ≤ 25 by decide)
  rw [hb.deflateDecode_eq]
  generalize deflateAccumulate d inp huffmanBits = r at hw hstr henough
  obtain ⟨d', inp', rc⟩ := r
  dsimp only at hw hstr henough ⊢
  rw [← hstr]
  unfold canonicalDecode
  dsimp only
  have hx : (d'.rotalumucca >>> 16) % 2 ^ 16 < 2 ^ 16 := Nat.mod_lt _ (by decide)
  generalize hxd : (d'.rotalumucca >>> 16) % 2 ^ 16 = x at hx ⊢
  obtain ⟨hc0, hc16, hlo, hhi⟩ := hb.walk_class hx
  generalize walkDown (fun j => start len n 16 (j + 1)) x 14 + 1 = c at hc0 hc16 hlo hhi ⊢
  -- 溜めた bit のうち先頭 `c'` bit の値は、`x` の上の `c'` bit
  have hwin : ∀ c', c' ≤ d'.bits → c' ≤ 16 → x / 2 ^ (16 - c') = bitsVal ((stream d' inp').take c') := by
    intro c' h1 h2
    rw [← hxd, hw.window h1 h2, stream, List.take_append_of_le_length (by rw [length_pendingBits]; exact h1)]
  have hlen : len s < 16 := hb.len_lt s hs
  have hcomplete : start len n 16 16 ≤ 2 ^ 16 := by rw [start_top hb.len_lt, hb.complete]
  constructor
  · rintro ⟨d'', inp'', hdec, -⟩
    by_cases hbits : (d'.bits : Int) < c
    · -- bit が足りなければ負の数を返すので、記号ではない
      rw [if_pos hbits] at hdec
      have hv := congrArg Prod.fst (Except.ok.inj hdec)
      dsimp only at hv
      omega
    · rw [if_neg hbits] at hdec
      have hv : symbolOfRank len n c (x / 2 ^ (16 - c) - nextCode len n c) = s := by
        have h := congrArg Prod.fst (Except.ok.inj hdec)
        dsimp only at h
        exact_mod_cast h
      obtain ⟨-, hlt, hcode⟩ := decode_spec (W := 16) (show c ≠ 0 by omega) hc16 hlo hhi
      rw [hv] at hlt hcode
      rw [codeword_prefix_iff hs h0 hlen hcomplete]
      refine ⟨?_, ?_⟩
      · rw [stream, List.length_append, length_pendingBits]
        omega
      · rw [hlt, ← hwin c (by omega) (by omega), hcode]
  · intro hpre
    obtain ⟨hle, hval⟩ := (codeword_prefix_iff hs h0 hlen hcomplete _).mp hpre
    -- 符号語の bit はすべて溜まっている：15 bit 溜めたか、入力が尽きて列が溜めた bit だけ
    have hbits : len s ≤ d'.bits := by
      rcases henough with h | h
      · exact Nat.le_trans (Nat.le_of_lt_succ hlen) h
      · rw [stream, h, List.append_nil, length_pendingBits] at hle
        exact hle
    have hxs : x / 2 ^ (16 - len s) = code len n s := by rw [hwin (len s) hbits (by omega), hval]
    obtain ⟨h1, h2⟩ := mem_class_of_code (W := 16) hs h0 hlen hxs
    have hcs : c = len s := class_unique hc16 hlen hlo hhi h1 h2
    subst hcs
    refine ⟨(deflateConsume d' (len s)).2, inp', ?_, stream_deflateConsume hbits inp'⟩
    rw [if_neg (by omega), hxs, code, Nat.add_sub_cancel_left, symbolOfRank_rank hs]

/-- 作り終えた表で読むと、記号を返せば少なくとも 1 bit 読み、返さなければ bit を読まない。 -/
theorem Built.deflateDecode_length (hb : Built len n a) {d d' : Deflate} {inp inp' : DeflateChunk} {code : Int}
    (h : deflateDecode d inp a = .ok (code, d', inp')) :
    (if code < 0 then (stream d' inp').length = (stream d inp).length
      else (stream d' inp').length < (stream d inp).length) ∧ inp'.len = inp.len ∧ inp'.data = inp.data := by
  obtain ⟨hl, hlen, hdata⟩ := deflateAccumulate_length d inp huffmanBits
  rw [hb.deflateDecode_eq] at h
  unfold canonicalDecode at h
  generalize deflateAccumulate d inp huffmanBits = r at h hl hlen hdata
  obtain ⟨d₁, inp₁, rc⟩ := r
  dsimp only at h hl hlen hdata
  generalize walkDown (fun j => start len n 16 (j + 1)) ((d₁.rotalumucca >>> 16) % 2 ^ 16) 14 = w at h
  by_cases hbits : (d₁.bits : Int) < (w + 1 : Nat)
  · -- 足りない：溜めただけで何も捨てない
    rw [if_pos hbits] at h
    simp only [Except.ok.injEq, Prod.mk.injEq] at h
    obtain ⟨rfl, rfl, rfl⟩ := h
    rw [if_pos (by omega)]
    exact ⟨hl, hlen, hdata⟩
  · rw [if_neg hbits] at h
    simp only [Except.ok.injEq, Prod.mk.injEq] at h
    obtain ⟨rfl, rfl, rfl⟩ := h
    rw [if_neg (by omega)]
    refine ⟨?_, hlen, hdata⟩
    rw [← hl, length_stream, length_stream]
    simp only [deflateConsume]
    omega

end Decode

/-! ## RFC 1951 の正準な符号との一致 -/

/-- `deflate_alphabet` と `deflate_decode` は RFC 1951 の 3.2.2 節の符号を実現する。
`-EINVAL` は長さがあふれるか使い切らない時だけで、作った表では quick lookup からたどっても一番長い組
から順に探しても、`x` の入る長さの区間の組で止まる。記号 `s` を `len s` bit で読むことは、列が
`s` の符号語で始まることと同じ。 -/
theorem deflate_huffman_rfc1951 (lengths : List UInt8) (a : Alphabet) (count offset : Nat) :
    (deflateAlphabet lengths a count offset = none ↔
      2 ^ 16 < kraftSum (alphabetLength lengths offset) count 16 ∨
        kraftSum (alphabetLength lengths offset) count 16 < 2 ^ 16) ∧
    ∀ a', deflateAlphabet lengths a count offset = some a' →
      (∀ x < 2 ^ 16,
        walkSymbols a'.huf x (a'.lookup (x >>> huffmanQlShift)) = walkSymbols a'.huf x (huffmanBits - 1) ∧
        ∀ c, 0 < c → c ≤ 15 →
          (walkSymbols a'.huf x (huffmanBits - 1) = .ok (c - 1) ↔
            start (alphabetLength lengths offset) count 16 c ≤ x ∧
              x < start (alphabetLength lengths offset) count 16 (c + 1))) ∧
      ∀ (d : Deflate) (inp : DeflateChunk) (s : Nat), d.Wf → s < count → alphabetLength lengths offset s ≠ 0 →
        ((∃ d' inp', deflateDecode d inp a' = .ok ((s : Int), d', inp') ∧
            stream d' inp' = (stream d inp).drop (alphabetLength lengths offset s)) ↔
          codeword (alphabetLength lengths offset) count s <+: stream d inp) := by
  refine ⟨?_, fun a' ha' => ?_⟩
  · rw [deflateAlphabet_none_iff]
    omega
  · have hb := deflateAlphabet_built ha'
    exact ⟨fun x hx => ⟨hb.lookupWalk_eq hx, fun c hc0 hc => hb.walk_eq_iff hx hc0 hc⟩,
      fun d inp s hd hs h0 => hb.deflateDecode_iff hd inp hs h0⟩

/-- 長さ 2, 1, 3, 3 の四つの記号（RFC 1951 の例）で、`10` で始まる入力から記号 0 を 2 bit で読む。 -/
theorem deflate_huffman_rfc1951_sample :
    ∃ a', deflateAlphabet [0x12, 0x33] ⟨fun _ => hufZero, fun _ => 0, fun _ => 0⟩ 4 0 = some a' ∧
      ∃ d' inp', deflateDecode ⟨0, 0, 0⟩ ⟨[0x01], 0, 1⟩ a' = .ok (0, d', inp') ∧
        stream d' inp' = (stream ⟨0, 0, 0⟩ ⟨[0x01], 0, 1⟩).drop 2 := by
  obtain ⟨hnone, hbuilt⟩ := deflate_huffman_rfc1951 [0x12, 0x33] ⟨fun _ => hufZero, fun _ => 0, fun _ => 0⟩ 4 0
  have hk : deflateAlphabet [0x12, 0x33] ⟨fun _ => hufZero, fun _ => 0, fun _ => 0⟩ 4 0 ≠ none := by
    intro h
    rcases hnone.mp h with h' | h' <;> revert h' <;> decide
  obtain ⟨a', ha'⟩ := Option.ne_none_iff_exists'.mp hk
  obtain ⟨-, hdec⟩ := hbuilt a' ha'
  exact ⟨a', ha', (hdec ⟨0, 0, 0⟩ ⟨[0x01], 0, 1⟩ 0 wf_zero (by decide) (by decide)).mpr (by decide)⟩

end FlexBoot.Inflate
