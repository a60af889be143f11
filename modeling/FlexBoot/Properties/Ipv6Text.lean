import FlexBoot.Properties.Ipv6
import Mathlib.Data.Finset.Max
import Mathlib.Data.List.TakeWhile

/-!
# IPv6 アドレスの文字列の形

RFC 5952 §4 は IPv6 アドレスの書き方を一つに決める。語は小文字の 16 進で先頭の 0 を書かず、
二語以上続く 0 の並びのうち一番長いもの（同じ長さなら最初のもの）を `::` にし、0 が一語だけなら
縮めない。RFC 4291 §2.2 は読む側の形で、一つから四つの 16 進の数字の語を `:` でつなぎ、
`::` 一つが一つ以上の 0 の語の代わりになる。

* `canonicalText` は RFC 5952 の規則を、語の列と縮める並びの始まりから書く。語の文字は Lean の
  `Nat.toDigits` で書き、`inet6_ntoa` の `hexDigits` とは別に決める（`hexDigits_eq_groupText`）。
* `inet6_ntoa` の loop は、覚えた並びが最初の一番長い並びであることを保つ（`NtoaFirst`）。
  一つの語で変わるのは末尾の並びだけなので（`zeroRun_concat`）、loop の一回ごとに言える。
* `inet6_aton` の loop の一回は `inet6AtonWords_some` にまとまり、受け付けた文字列の語は
  八つの 16 bit の語である（`inet6Aton_some`）。
* `inet6_aton` は RFC 4291 の形と一致しない。`::` の検出は `strtoul` が何も読まなかったことに
  よるので、先頭の `:` 一つは 0 の語になり、先頭の空白は `strtoul` が読み飛ばす。語の数の検査は
  区切りの後にあるので、七つの語の前後の `::` は読めない（`inet6Aton_differs_from_rfc4291`）。
-/

namespace FlexBoot.Ipv6

open Infra FlexBoot

/-! ## RFC 5952 の文字列 -/

/-- `i` 番目の語から続く 0 の語の数。 -/
def zeroRun (ws : List Nat) (i : Nat) : Nat := ((ws.drop i).takeWhile (· == 0)).length

/-- `i` から始まる 0 の並びが一番長く、それより前から始まる並びはどれも短い。 -/
def FirstLongestZeroRun (ws : List Nat) (i : Nat) : Prop :=
  i < ws.length ∧ (∀ j < ws.length, zeroRun ws j ≤ zeroRun ws i) ∧ ∀ j < i, zeroRun ws j < zeroRun ws i

instance (ws : List Nat) (i : Nat) : Decidable (FirstLongestZeroRun ws i) :=
  inferInstanceAs (Decidable (_ ∧ _ ∧ _))

/-- 一語を小文字の 16 進で、先頭の 0 なしに書く。 -/
def groupText (w : Nat) : Bytes := (Nat.toDigits 16 w).map fun c => UInt8.ofNat c.toNat

/-- 語の文字列を `:` でつなぐ。 -/
def joinWith : List Bytes → Bytes
  | [] => []
  | g :: gs => g ++ gs.flatMap fun h => 0x3A :: h

/-- 語を書いて `:` でつなぐ。 -/
def joinGroups (ws : List Nat) : Bytes := joinWith (ws.map groupText)

/-- RFC 5952 の文字列。`i` から始まる 0 の並びが二語以上なら、それを `::` にする。 -/
def canonicalText (ws : List Nat) (i : Nat) : Bytes :=
  if 2 ≤ zeroRun ws i then
    joinGroups (ws.take i) ++ 0x3A :: 0x3A :: joinGroups (ws.drop (i + zeroRun ws i))
  else joinGroups ws

/-! ## 0 の並び -/

theorem zeroRun_le (ws : List Nat) (j : Nat) : zeroRun ws j ≤ ws.length - j := by
  have := (List.takeWhile_sublist (· == 0) (l := ws.drop j)).length_le
  rwa [List.length_drop] at this

theorem zeroRun_of_length_le {ws : List Nat} {j : Nat} (h : ws.length ≤ j) : zeroRun ws j = 0 := by
  have := zeroRun_le ws j
  omega

/-- 語を一つ足すと、末尾まで 0 が続いていた並びだけが、足した語が 0 なら一つ延びる。 -/
theorem zeroRun_concat (ws : List Nat) (v j : Nat) :
    zeroRun (ws ++ [v]) j =
      if j ≤ ws.length ∧ zeroRun ws j = ws.length - j ∧ v = 0 then zeroRun ws j + 1
      else zeroRun ws j := by
  by_cases hj : j ≤ ws.length
  · have hlen : (ws.drop j).length = ws.length - j := List.length_drop
    have hstep : zeroRun (ws ++ [v]) j =
        (if zeroRun ws j = ws.length - j then ws.drop j ++ [v].takeWhile (· == 0)
          else (ws.drop j).takeWhile (· == 0)).length := by
      rw [zeroRun, List.drop_append_of_le_length hj, List.takeWhile_append, hlen]
      rfl
    rw [hstep]
    by_cases hrun : zeroRun ws j = ws.length - j
    · by_cases hv : v = 0
      · subst hv
        simp [hj, hrun, hlen]
      · simp [hv, hrun]
    · rw [if_neg hrun, if_neg (fun h => hrun h.2.1)]
      rfl
  · rw [zeroRun_of_length_le (by simp; omega), zeroRun_of_length_le (by omega),
      if_neg (fun h => hj h.1)]

theorem zeroRun_concat_of_ne {v : Nat} (hv : v ≠ 0) (ws : List Nat) (j : Nat) :
    zeroRun (ws ++ [v]) j = zeroRun ws j := by
  rw [zeroRun_concat, if_neg (fun h => hv h.2.2)]

/-- `i` からの `zeroRun ws i` 語は 0 で、語の列はその前と後に分かれる。 -/
theorem take_append_zeroRun (ws : List Nat) (i : Nat) :
    ws.take i ++ List.replicate (zeroRun ws i) 0 ++ ws.drop (i + zeroRun ws i) = ws := by
  have hsplit := List.takeWhile_append_dropWhile (p := (· == 0)) (l := ws.drop i)
  have hrep : (ws.drop i).takeWhile (· == 0) = List.replicate (zeroRun ws i) 0 :=
    List.eq_replicate_iff.mpr ⟨rfl, fun b hb => by simpa using List.mem_takeWhile_imp hb⟩
  have hrest : ws.drop (i + zeroRun ws i) = (ws.drop i).dropWhile (· == 0) := by
    rw [← List.drop_drop]
    conv_lhs => rw [← hsplit]
    exact List.drop_left
  rw [hrest, List.append_assoc, ← hrep, hsplit, List.take_append_drop]

/-- 空でない列には、最初の一番長い並びがある。 -/
theorem exists_firstLongestZeroRun {ws : List Nat} (hne : ws ≠ []) : ∃ i, FirstLongestZeroRun ws i := by
  obtain ⟨m, hm, hmax⟩ := (Finset.range ws.length).exists_max_image (zeroRun ws)
    ⟨0, Finset.mem_range.mpr (List.length_pos_of_ne_nil hne)⟩
  -- 一番長い並びと同じ長さの並びのうち、最初のもの
  have hex : ∃ i, i < ws.length ∧ zeroRun ws i = zeroRun ws m := ⟨m, Finset.mem_range.mp hm, rfl⟩
  obtain ⟨hlt, heq⟩ := Nat.find_spec hex
  refine ⟨Nat.find hex, hlt, fun j hj => ?_, fun j hj => ?_⟩
  · rw [heq]
    exact hmax j (Finset.mem_range.mpr hj)
  have hj' : j < ws.length := Nat.lt_trans hj hlt
  rw [heq]
  exact Nat.lt_of_le_of_ne (hmax j (Finset.mem_range.mpr hj')) fun h => Nat.find_min hex hj ⟨hj', h⟩

/-! ## 語の文字 -/

/-- `inet6_ntoa` の `"%x"` は、Lean の `Nat.toDigits 16` と同じ文字を書く。 -/
theorem hexDigits_eq_groupText (w : Nat) : hexDigits w = groupText w := by
  have hdig : ∀ d < 16, hexDigit d = UInt8.ofNat (Nat.digitChar d).toNat := by decide
  calc hexDigits w = digitsMsb 16 (fun d => UInt8.ofNat (Nat.digitChar d).toNat) (w + 1) w :=
        digitsMsb_congr (by decide) hdig (w + 1) w
    _ = ((digitsMsb 16 id (w + 1) w).map Nat.digitChar).map fun c => UInt8.ofNat c.toNat := by
        rw [digitsMsb_eq_map, List.map_map]
        rfl
    _ = groupText w := by
        rw [← digitsMsb_eq_map, groupText, Nat.toDigits, toDigitsCore_eq_digitsMsb, List.append_nil]

theorem joinGroups_eq_drop_pieces (ws : List Nat) : joinGroups ws = (pieces ws).drop 1 := by
  cases ws with
  | nil => rfl
  | cons w ws =>
    have hword : (fun v => 0x3A :: hexDigits v) = fun v => (0x3A :: groupText v : Bytes) :=
      funext fun v => by rw [hexDigits_eq_groupText]
    rw [drop_one_pieces_cons, pieces, hword, hexDigits_eq_groupText, joinGroups, List.map_cons, joinWith,
      List.flatMap_map]

/-! ## `inet6_ntoa` が覚える並び -/

/-- loop が語の列 `past` を書いた後、覚えている並びについて言えること。 -/
structure NtoaFirst (past : List Nat) (st : NtoaState) : Prop where
  /-- 末尾まで 0 が続くのは、末尾の `len` 語の並びの中からだけである。 -/
  trailing : ∀ j ≤ past.length, zeroRun past j = past.length - j ↔ past.length - st.len ≤ j
  le_longest : ∀ j, zeroRun past j ≤ st.longestLen
  /-- 覚えた並びは、長さ `longest_len` の並びのうち最初のものである。 -/
  first : ∀ ls, st.longestStart = some ls → ∃ i, ls = (pieces (past.take i)).length ∧
    zeroRun past i = st.longestLen ∧ ∀ j < i, zeroRun past j < st.longestLen

theorem NtoaFirst.init : NtoaFirst [] NtoaState.init := by
  refine ⟨fun j _ => ?_, fun j => ?_, fun _ h => by cases h⟩
  · rw [zeroRun_of_length_le (Nat.zero_le j)]
    show 0 = 0 - j ↔ 0 - 0 ≤ j
    omega
  · rw [zeroRun_of_length_le (Nat.zero_le j)]
    exact Nat.zero_le _

/-- 0 でない語は末尾の並びを終わらせ、どの並びの長さも変えない。 -/
theorem NtoaFirst.step_ne {past : List Nat} {st : NtoaState} {v : Nat} (hinv : NtoaInv past st)
    (h : NtoaFirst past st) (hv : v ≠ 0) : NtoaFirst (past ++ [v]) (inet6NtoaStep st v) := by
  rw [inet6NtoaStep, if_neg hv]
  refine ⟨fun j hj => ?_, fun j => ?_, fun ls hls => ?_⟩
  · -- 足した語の後の、長さ 0 の並びだけが末尾まで続く
    have hle := zeroRun_le past j
    simp only [zeroRun_concat_of_ne hv, List.length_append, List.length_singleton]
    rcases Nat.lt_or_ge past.length j with hgt | hj'
    · rw [zeroRun_of_length_le hgt.le]
      omega
    · omega
  · rw [zeroRun_concat_of_ne hv]
    exact h.le_longest j
  · obtain ⟨i, hi, hrun, hbefore⟩ := h.first ls hls
    have hpos := hinv.one_le_longestLen
    have hlt : i < past.length := by
      have := zeroRun_le past i
      omega
    refine ⟨i, ?_, ?_, fun j hj => ?_⟩
    · rw [List.take_append_of_le_length hlt.le]
      exact hi
    · rw [zeroRun_concat_of_ne hv]
      exact hrun
    · rw [zeroRun_concat_of_ne hv]
      exact hbefore j hj

/-- 0 の語は末尾の並びを一つ延ばす。延ばした並びがそれまでの一番長い並びより長いときだけ覚え直す。 -/
theorem NtoaFirst.step_zero {past : List Nat} {st : NtoaState} (hinv : NtoaInv past st)
    (h : NtoaFirst past st) : NtoaFirst (past ++ [0]) (inet6NtoaStep st 0) := by
  obtain ⟨A, hpast, hstart⟩ := hinv.trailing
  have hA : A.length = past.length - st.len := by rw [hpast]; simp
  have hlen : st.len ≤ past.length := by rw [hpast]; simp
  -- 末尾の並びの始まり `past.length - st.len` から後の並びだけが一つ延びる
  have hnew : ∀ j, zeroRun (past ++ [0]) j =
      if past.length - st.len ≤ j ∧ j ≤ past.length then past.length - j + 1 else zeroRun past j := by
    intro j
    rw [zeroRun_concat]
    by_cases hj : j ≤ past.length
    · have htr := h.trailing j hj
      by_cases hs : past.length - st.len ≤ j
      · rw [if_pos ⟨hj, htr.mpr hs, rfl⟩, if_pos ⟨hs, hj⟩, htr.mpr hs]
      · rw [if_neg (fun h' => hs (htr.mp h'.2.1)), if_neg (fun h' => hs h'.1)]
    · rw [if_neg (fun h' => hj h'.1), if_neg (fun h' => hj h'.2)]
  have htrail : ∀ j ≤ (past ++ [0]).length,
      zeroRun (past ++ [0]) j = (past ++ [0]).length - j ↔ (past ++ [0]).length - (st.len + 1) ≤ j := by
    intro j hj
    simp only [List.length_append, List.length_singleton] at hj ⊢
    rw [hnew j]
    by_cases hc : past.length - st.len ≤ j ∧ j ≤ past.length
    · rw [if_pos hc]
      omega
    · rw [if_neg hc]
      rcases Nat.lt_or_ge past.length j with hgt | hj'
      · rw [zeroRun_of_length_le hgt.le]
        omega
      · have hne := mt (h.trailing j hj').mp (by omega)
        have := zeroRun_le past j
        omega
  -- 延ばした並びの始まり
  have hs : (if st.len = 0 then st.out.length else st.start) =
      (pieces ((past ++ [0]).take (past.length - st.len))).length := by
    rw [← hA, List.take_append_of_le_length (by omega), hpast, List.take_left]
    split
    · next h0 => rw [hinv.out, hpast, h0]; simp
    · next h0 => exact hstart (Nat.pos_of_ne_zero h0)
  have hL := h.le_longest
  rw [inet6NtoaStep, if_pos rfl]
  by_cases hgt : st.len + 1 > st.longestLen
  · simp only [if_pos hgt]
    generalize (if st.len = 0 then st.out.length else st.start) = start at hs ⊢
    refine ⟨htrail, fun j => ?_, fun ls hls => ?_⟩
    · dsimp only
      rw [hnew j]
      by_cases hc : past.length - st.len ≤ j ∧ j ≤ past.length
      · rw [if_pos hc]
        omega
      · rw [if_neg hc]
        have := hL j
        omega
    · cases hls
      refine ⟨past.length - st.len, hs, ?_, fun j hj => ?_⟩
      · dsimp only
        rw [hnew, if_pos ⟨le_rfl, by omega⟩]
        omega
      · dsimp only
        rw [hnew, if_neg (by omega)]
        have := hL j
        omega
  · simp only [if_neg hgt]
    refine ⟨htrail, fun j => ?_, fun ls hls => ?_⟩
    · dsimp only
      rw [hnew j]
      by_cases hc : past.length - st.len ≤ j ∧ j ≤ past.length
      · rw [if_pos hc]
        omega
      · rw [if_neg hc]
        exact hL j
    · obtain ⟨i, hi, hrun, hbefore⟩ := h.first ls hls
      -- 覚えた並びは末尾の並びより長いので、末尾の並びより前にある
      have his : i < past.length - st.len := by
        have hpos := hinv.one_le_longestLen
        have hle := zeroRun_le past i
        by_contra hge
        have := (h.trailing i (by omega)).mpr (by omega)
        omega
      refine ⟨i, ?_, ?_, fun j hj => ?_⟩
      · rw [List.take_append_of_le_length (by omega)]
        exact hi
      · rw [hnew, if_neg (by omega)]
        exact hrun
      · rw [hnew, if_neg (by omega)]
        exact hbefore j hj

theorem NtoaFirst.step {past : List Nat} {st : NtoaState} (hinv : NtoaInv past st)
    (h : NtoaFirst past st) (v : Nat) : NtoaFirst (past ++ [v]) (inet6NtoaStep st v) := by
  by_cases hv : v = 0
  · subst hv
    exact h.step_zero hinv
  · exact h.step_ne hinv hv

/-- loop を回し終えた状態。`NtoaFirst` の一回分には `NtoaInv` も要るので、二つを一緒に運ぶ。 -/
theorem ntoaFirst_run (ws : List Nat) : NtoaFirst ws (run inet6NtoaStep NtoaState.init ws) := by
  have := run_history (I := fun past st => NtoaInv past st ∧ NtoaFirst past st)
    (fun _ _ v h => ⟨h.1.step v, h.2.step h.1 v⟩) ws [] NtoaState.init ⟨NtoaInv.init, NtoaFirst.init⟩
  rw [List.nil_append] at this
  exact this.2

/-- `inet6_ntoa` は、最初の一番長い 0 の並びを選んで RFC 5952 の文字列を書く。 -/
theorem inet6Ntoa_eq_canonicalText {raw : Bytes} (hne : ntohsWords (raw.take 16) ≠ []) :
    ∃ i, FirstLongestZeroRun (ntohsWords (raw.take 16)) i ∧
      inet6Ntoa raw = canonicalText (ntohsWords (raw.take 16)) i := by
  have hinv := ntoaInv_run (ntohsWords (raw.take 16))
  have hfirst := ntoaFirst_run (ntohsWords (raw.take 16))
  unfold inet6Ntoa
  generalize ntohsWords (raw.take 16) = ws at hne hinv hfirst ⊢
  generalize run inet6NtoaStep NtoaState.init ws = st at hinv hfirst ⊢
  cases hl : st.longestStart with
  | none =>
    -- どの並びも一語以下なので、どこから始まる並びを選んでも縮めない
    obtain ⟨i, hi⟩ := exists_firstLongestZeroRun hne
    have hone : zeroRun ws i ≤ 1 := by
      rw [← hinv.longest_none hl]
      exact hfirst.le_longest i
    refine ⟨i, hi, ?_⟩
    simp only [hl, hinv.out]
    rw [canonicalText, if_neg (by omega), joinGroups_eq_drop_pieces]
  | some ls =>
    obtain ⟨hL, -⟩ := hinv.longest_some ls hl
    obtain ⟨i, hls, hrun, hbefore⟩ := hfirst.first ls hl
    have hlt : i < ws.length := by
      have := zeroRun_le ws i
      omega
    have hsplit := take_append_zeroRun ws i
    rw [hrun] at hsplit
    refine ⟨i, ⟨hlt, fun j _ => ?_, fun j hj => ?_⟩, ?_⟩
    · rw [hrun]
      exact hfirst.le_longest j
    · rw [hrun]
      exact hbefore j hj
    simp only [hl]
    refine (compress_pieces (B := ws.drop (i + st.longestLen)) (by rw [hinv.out, hsplit]) hL hls).trans ?_
    rw [canonicalText, if_pos (by omega), hrun, joinGroups_eq_drop_pieces, joinGroups_eq_drop_pieces]

/-! ## `inet6_aton` が返す語 -/

section Aton

variable (arch : Arch) (string : Bytes)

/-- loop の一回がすること。`0xffff` 以下の語を一つ読み、そこで終わるか、`:` の後へ進む。進むとき
`pad` はそのままか、まだなければ今の位置になる。 -/
theorem inet6AtonWords_some {k : Nat} {nptr : Bytes} {words : List Nat} {pad : Option Nat}
    {res : List Nat × Option Nat} (h : inet6AtonWords arch string k nptr words pad = some res) :
    ∃ value, value < 65536 ∧ (res = (words ++ [value], pad) ∨
      ∃ k' rest pad', k = k' + 1 ∧ (pad' = pad ∨ pad = none ∧ pad' = some (words ++ [value]).length) ∧
        inet6AtonWords arch string k' rest (words ++ [value]) pad' = some res) := by
  rw [inet6AtonWords_eq] at h
  rcases hs : strtoul arch nptr 16 with ⟨value, endptr⟩
  rw [hs] at h
  dsimp only at h
  by_cases hv : value > 0xffff
  · rw [if_pos hv] at h
    cases h
  rw [if_neg hv] at h
  refine ⟨value, by omega, ?_⟩
  by_cases h0 : endptr.headD 0 = 0
  · rw [if_pos h0] at h
    exact .inl (Option.some.inj h).symm
  rw [if_neg h0] at h
  by_cases hc : endptr.headD 0 ≠ 0x3A
  · rw [if_pos hc] at h
    cases h
  rw [if_neg hc] at h
  by_cases hp : (endptr.length = nptr.length ∧ nptr.length ≠ string.length) ∧ pad.isSome = true
  · rw [if_pos hp] at h
    cases h
  rw [if_neg hp] at h
  cases k with
  | zero => cases h
  | succ k =>
    refine .inr ⟨k, endptr.drop 1, _, rfl, ?_, h⟩
    by_cases he : endptr.length = nptr.length ∧ nptr.length ≠ string.length
    · -- 数字のない語：`pad` はまだない
      rw [if_pos he]
      cases pad with
      | none => exact .inr ⟨rfl, rfl⟩
      | some p => exact absurd ⟨he, rfl⟩ hp
    · rw [if_neg he]
      exact .inl rfl

/-- 読んだ語がどれも 16 bit に収まり、`::` の位置が語の中にあること。 -/
def AtonWordsOk (words : List Nat) (pad : Option Nat) : Prop :=
  (∀ v ∈ words, v < 65536) ∧ ∀ p, pad = some p → p ≤ words.length

theorem AtonWordsOk.concat {words : List Nat} {pad : Option Nat} (h : AtonWordsOk words pad)
    {value : Nat} (hv : value < 65536) : AtonWordsOk (words ++ [value]) pad := by
  refine ⟨fun v hmem => ?_, fun p hp => ?_⟩
  · rcases List.mem_append.mp hmem with hmem | hmem
    · exact h.1 v hmem
    · rw [List.mem_singleton.mp hmem]
      exact hv
  · have := h.2 p hp
    simp only [List.length_append, List.length_singleton]
    omega

/-- loop は `k + 1` 語より多くは読まず、読んだ語は `AtonWordsOk` を保つ。 -/
theorem inet6AtonWords_ok : ∀ (k : Nat) {nptr : Bytes} {words : List Nat} {pad : Option Nat}
    {res : List Nat × Option Nat}, inet6AtonWords arch string k nptr words pad = some res →
    AtonWordsOk words pad → res.1.length ≤ words.length + k + 1 ∧ AtonWordsOk res.1 res.2 := by
  intro k
  induction k with
  | zero =>
    intro nptr words pad res h hok
    obtain ⟨value, hv, rfl | ⟨k', -, -, hk, -⟩⟩ := inet6AtonWords_some arch string h
    · exact ⟨by simp, hok.concat hv⟩
    · omega
  | succ k ih =>
    intro nptr words pad res h hok
    obtain ⟨value, hv, rfl | ⟨k', rest, pad', hk, hpad, hrec⟩⟩ := inet6AtonWords_some arch string h
    · exact ⟨by simp, hok.concat hv⟩
    · obtain rfl : k' = k := by omega
      -- 次の語へ進むときの `pad` も語の中にある
      have hok' : AtonWordsOk (words ++ [value]) pad' := by
        rcases hpad with rfl | ⟨-, rfl⟩
        · exact hok.concat hv
        · exact ⟨(hok.concat hv).1, fun p hp => by cases hp; exact le_rfl⟩
      have := ih hrec hok'
      simp only [List.length_append, List.length_singleton] at this
      exact ⟨by omega, this.2⟩

/-- `inet6_aton` が受け付けた文字列の語は八つで、どれも 16 bit に収まる。 -/
theorem inet6Aton_some {s : Bytes} {ws : List Nat} (h : inet6Aton arch s = some ws) :
    ws.length = 8 ∧ ∀ v ∈ ws, v < 65536 := by
  rcases hw : inet6AtonWords arch s 7 s [] none with _ | ⟨words, pad⟩
  · rw [inet6Aton, hw] at h
    cases h
  obtain ⟨hlen, hv, hp⟩ := inet6AtonWords_ok arch s 7 hw ⟨by simp, by simp⟩
  simp only [List.length_nil] at hlen
  rw [inet6Aton, hw] at h
  simp only [Option.bind_eq_bind, Option.bind_some] at h
  cases pad with
  | none =>
    by_cases h8 : words.length ≠ 8
    · rw [if_pos h8] at h
      cases h
    · rw [if_neg h8] at h
      cases h
      exact ⟨by omega, hv⟩
  | some p =>
    -- `memmove` と `memset` で八語にそろえる
    cases h
    have hp' := hp p rfl
    refine ⟨?_, fun v hmem => ?_⟩
    · simp only [List.length_append, List.length_take, List.length_replicate, List.length_drop]
      omega
    · simp only [List.mem_append] at hmem
      rcases hmem with (hmem | hmem) | hmem
      · exact hv v (List.mem_of_mem_take hmem)
      · rw [(List.mem_replicate.mp hmem).2]
        decide
      · exact hv v (List.mem_of_mem_drop hmem)

/-- 置ける語が残っていなければ、語の後に何が続いても読み終える。`string` は効かない。 -/
theorem inet6AtonWords_zero (nptr : Bytes) (words : List Nat) (pad : Option Nat) :
    inet6AtonWords arch string 0 nptr words pad =
      let (value, endptr) := strtoul arch nptr 16
      if value > 0xffff then none
      else if endptr.headD 0 = 0 then some (words ++ [value], pad)
      else none := by
  rw [inet6AtonWords_eq]
  rcases strtoul arch nptr 16 with ⟨value, endptr⟩
  dsimp only
  simp only [ite_self]

/-- 文字列の先頭より後ろでは、数字のない語は `::` の位置になる。 -/
theorem inet6AtonWords_succ_of_lt {nptr : Bytes} (h : nptr.length < string.length) (k : Nat)
    (words : List Nat) (pad : Option Nat) :
    inet6AtonWords arch string (k + 1) nptr words pad =
      let (value, endptr) := strtoul arch nptr 16
      if value > 0xffff then none
      else if endptr.headD 0 = 0 then some (words ++ [value], pad)
      else if endptr.headD 0 ≠ 0x3A then none
      else if endptr.length = nptr.length ∧ pad.isSome then none
      else inet6AtonWords arch string k (endptr.drop 1) (words ++ [value])
        (if endptr.length = nptr.length then some (words ++ [value]).length else pad) := by
  rw [inet6AtonWords_eq]
  rcases strtoul arch nptr 16 with ⟨value, endptr⟩
  dsimp only
  simp only [Nat.ne_of_lt h, ne_eq, not_false_eq_true, and_true]

/-- 文字列の先頭より後ろからは、loop は `string` の長さが `nptr` より長いことしか見ない。 -/
theorem inet6AtonWords_congr_string {s₁ s₂ : Bytes} : ∀ (k : Nat) {nptr : Bytes} (words : List Nat)
    (pad : Option Nat), nptr.length < s₁.length → nptr.length < s₂.length →
    inet6AtonWords arch s₁ k nptr words pad = inet6AtonWords arch s₂ k nptr words pad := by
  intro k
  induction k with
  | zero =>
    intro nptr words pad _ _
    rw [inet6AtonWords_zero, inet6AtonWords_zero]
  | succ k ih =>
    intro nptr words pad h₁ h₂
    rw [inet6AtonWords_succ_of_lt arch s₁ h₁, inet6AtonWords_succ_of_lt arch s₂ h₂]
    rcases hs : strtoul arch nptr 16 with ⟨value, endptr⟩
    have hsuf : endptr.length ≤ nptr.length := by
      have := (strtoul_suffix arch nptr 16).length_le
      rwa [hs] at this
    dsimp only
    by_cases hc : endptr.headD 0 = 0x3A
    · -- `:` の後の残りは `nptr` より短い
      have hne : endptr ≠ [] := by
        rintro rfl
        cases hc
      have hlen : (endptr.drop 1).length < nptr.length := by
        have := List.length_pos_of_ne_nil hne
        rw [List.length_drop]
        omega
      rw [ih _ _ (by omega) (by omega)]
    · -- `:` でなければ次の語へは進まない
      simp only [if_pos hc]

/-- `strtoul` は先頭の空白を読み飛ばす。 -/
theorem strtoul_space (s : Bytes) (base : Nat) : strtoul arch (0x20 :: s) base = strtoul arch s base := by
  have hd : (0x20 :: s).dropWhile isspace = s.dropWhile isspace := List.dropWhile_cons_of_pos (by decide)
  unfold strtoul
  rw [hd]

/-- 先頭の空白は読み飛ばされる。最初の語は数字がなくても `::` の位置にならず、その後は
`string` の長さしか効かない。 -/
theorem inet6Aton_space (s : Bytes) : inet6Aton arch (0x20 :: s) = inet6Aton arch s := by
  have hfirst : inet6AtonWords arch (0x20 :: s) 7 (0x20 :: s) [] none =
      inet6AtonWords arch s 7 s [] none := by
    rw [inet6AtonWords_eq, inet6AtonWords_eq, strtoul_space]
    rcases hs : strtoul arch s 16 with ⟨value, endptr⟩
    have hsuf : endptr.length ≤ s.length := by
      have := (strtoul_suffix arch s 16).length_le
      rwa [hs] at this
    dsimp only
    simp only [ne_eq, eq_self, not_true_eq_false, and_false, false_and, if_false]
    by_cases hc : endptr.headD 0 = 0x3A
    · have hne : endptr ≠ [] := by
        rintro rfl
        cases hc
      have hlen : (endptr.drop 1).length < s.length := by
        have := List.length_pos_of_ne_nil hne
        rw [List.length_drop]
        omega
      rw [inet6AtonWords_congr_string arch 6 _ _ (by simp only [List.length_cons]; omega) hlen]
    · simp only [if_pos hc]
  unfold inet6Aton
  rw [hfirst]

/-- 置ける語が残っていないのに、語の後に `:` が続けば読めない。 -/
theorem inet6AtonWords_zero_of_colon {nptr : Bytes} (h : (strtoul arch nptr 16).2.headD 0 = 0x3A)
    (words : List Nat) (pad : Option Nat) : inet6AtonWords arch string 0 nptr words pad = none := by
  rw [inet6AtonWords_zero]
  rcases hs : strtoul arch nptr 16 with ⟨value, endptr⟩
  rw [hs] at h
  dsimp only
  rw [h, if_neg (show ¬(0x3A : UInt8) = 0 by decide), ite_self]

/-- `k + 1` 語より多くを `:` でつないだものは読めない。 -/
theorem inet6AtonWords_pieces_overflow : ∀ (k w : Nat) (ws : List Nat), k < ws.length →
    (∀ v ∈ w :: ws, v < 65536) → ∀ (words : List Nat) (pad : Option Nat),
    inet6AtonWords arch string k (hexDigits w ++ pieces ws) words pad = none
  | _, _, [], hk, _, _, _ => absurd hk (Nat.not_lt_zero _)
  | 0, w, v :: ws, _, hw, words, pad => by
    apply inet6AtonWords_zero_of_colon
    rw [pieces_cons, strtoul_word arch (hw w List.mem_cons_self) (.inr rfl)]
    rfl
  | k + 1, w, v :: ws, hk, hw, words, pad => by
    rw [pieces_cons, inet6AtonWords_word arch string (hw w List.mem_cons_self)]
    exact inet6AtonWords_pieces_overflow k v ws (by simp at hk; omega)
      (fun u hu => hw u (List.mem_cons_of_mem w hu)) _ _

/-- 七つの語の後の `::` は読めない。八つ目の語として空の語を読んだ後に、もう一つ `:` が続く。 -/
theorem inet6Aton_seven_then_colons {ws : List Nat} (h7 : ws.length = 7) (hw : ∀ v ∈ ws, v < 65536) :
    inet6Aton arch ((pieces ws).drop 1 ++ [0x3A, 0x3A]) = none := by
  obtain ⟨w, ws', rfl⟩ := List.exists_cons_of_ne_nil (List.ne_nil_of_length_pos (by omega : 0 < ws.length))
  have h6 : ws'.length = 6 := by simpa using h7
  have hread := inet6AtonWords_pieces_colon arch (hexDigits w ++ pieces ws' ++ [0x3A, 0x3A]) 0 w ws' [0x3A]
    hw [] none
  simp only [h6] at hread
  rw [drop_one_pieces_cons, inet6Aton, hread,
    inet6AtonWords_zero_of_colon arch _ (by rw [strtoul_colon]; rfl)]
  rfl

/-- 先頭の `::` の後の七つの語は読めない。二つの `:` で二語を使い、残りは六語分しかない。 -/
theorem inet6Aton_colons_then_seven {ws : List Nat} (h7 : ws.length = 7) (hw : ∀ v ∈ ws, v < 65536) :
    inet6Aton arch (0x3A :: 0x3A :: (pieces ws).drop 1) = none := by
  obtain ⟨w, ws', rfl⟩ := List.exists_cons_of_ne_nil (List.ne_nil_of_length_pos (by omega : 0 < ws.length))
  have h6 : ws'.length = 6 := by simpa using h7
  rw [drop_one_pieces_cons, inet6Aton, inet6AtonWords_empty_first arch _ 6 _ [] none rfl,
    inet6AtonWords_empty_pad arch _ 5 _ _ (by simp),
    inet6AtonWords_pieces_overflow arch _ 5 w ws' (by omega) hw]
  rfl

/-- 先頭の `:` 一つの後の七つの語は読める。先頭の空の語は `::` の位置にならず、0 の語になる。 -/
theorem inet6Aton_colon_then_seven {ws : List Nat} (h7 : ws.length = 7) (hw : ∀ v ∈ ws, v < 65536) :
    inet6Aton arch (0x3A :: (pieces ws).drop 1) = some (0 :: ws) := by
  obtain ⟨w, ws', rfl⟩ := List.exists_cons_of_ne_nil (List.ne_nil_of_length_pos (by omega : 0 < ws.length))
  have h6 : ws'.length = 6 := by simpa using h7
  have hread := inet6AtonWords_pieces arch (0x3A :: (hexDigits w ++ pieces ws')) 0 w ws' hw [0] none
  rw [h6, Nat.zero_add] at hread
  rw [drop_one_pieces_cons, inet6Aton, inet6AtonWords_empty_first arch _ 6 _ [] none rfl, List.nil_append,
    hread]
  simp [h6]

end Aton

/-! ## RFC 4291 の文字列 -/

/-- RFC 4291 §2.2 の 16 進の数字の値。大文字も小文字も読む。 -/
def hexValue (c : UInt8) : Option Nat :=
  if 0x30 ≤ c.toNat ∧ c.toNat ≤ 0x39 then some (c.toNat - 0x30)
  else if 0x41 ≤ c.toNat ∧ c.toNat ≤ 0x46 then some (c.toNat - 0x37)
  else if 0x61 ≤ c.toNat ∧ c.toNat ≤ 0x66 then some (c.toNat - 0x57)
  else none

/-- 一つの語の文字列：一つから四つの 16 進の数字。 -/
def IsGroupText (g : Bytes) : Prop := g ≠ [] ∧ g.length ≤ 4 ∧ ∀ c ∈ g, (hexValue c).isSome

/-- 語の文字列が表す値。 -/
def groupValue (g : Bytes) : Nat := horner 16 0 (g.map fun c => (hexValue c).getD 0)

/-- RFC 4291 §2.2 の文字列（IPv4 を埋め込んだ形を除く）と、それが表す八つの語。 -/
inductive Rfc4291Text : Bytes → List Nat → Prop
  /-- `x:x:x:x:x:x:x:x` -/
  | full {gs : List Bytes} : gs.length = 8 → (∀ g ∈ gs, IsGroupText g) →
      Rfc4291Text (joinWith gs) (gs.map groupValue)
  /-- `::` が一つ以上の 0 の語の代わりになる。前にも後ろにも語がなくてよい。 -/
  | compressed {as bs : List Bytes} : as.length + bs.length ≤ 7 → (∀ g ∈ as ++ bs, IsGroupText g) →
      Rfc4291Text (joinWith as ++ 0x3A :: 0x3A :: joinWith bs)
        (as.map groupValue ++ List.replicate (8 - as.length - bs.length) 0 ++ bs.map groupValue)

theorem hexValue_hexDigit : ∀ d < 16, hexValue (hexDigit d) = some d := by
  decide

/-- 書いた語は一つの語の文字列で、その値に戻る。 -/
theorem isGroupText_hexDigits {w : Nat} (hw : w < 65536) :
    IsGroupText (hexDigits w) ∧ groupValue (hexDigits w) = w := by
  have hmap : hexDigits w = (digitsMsb 16 id (w + 1) w).map hexDigit := digitsMsb_eq_map (w + 1) w
  have hdig : ∀ d ∈ digitsMsb 16 id (w + 1) w, d < 16 := fun d hd => lt_of_mem_digitsMsb (by decide) hd
  refine ⟨⟨hexDigits_ne_nil w, length_digitsMsb_le (by decide) (Nat.lt_of_lt_of_eq hw rfl), fun c hc => ?_⟩, ?_⟩
  · rw [hmap, List.mem_map] at hc
    obtain ⟨d, hd, rfl⟩ := hc
    rw [hexValue_hexDigit d (hdig d hd)]
    rfl
  · -- 数字の値は桁の値そのものなので、Horner 法で元の数に戻る
    have hvals : (hexDigits w).map (fun c => (hexValue c).getD 0) = digitsMsb 16 id (w + 1) w := by
      rw [hmap, List.map_map]
      conv_rhs => rw [← List.map_id (digitsMsb 16 id (w + 1) w)]
      refine List.map_congr_left fun d hd => ?_
      simp only [Function.comp_apply, hexValue_hexDigit d (hdig d hd), Option.getD_some, id]
    rw [groupValue, hvals, horner_digitsMsb (lt_sixteen_pow_succ w)]

/-- `:` でつないだ語は RFC 4291 の語の列として読める。 -/
theorem groups_pieces {ws : List Nat} (hw : ∀ v ∈ ws, v < 65536) :
    joinWith (ws.map groupText) = (pieces ws).drop 1 ∧ (∀ g ∈ ws.map groupText, IsGroupText g) ∧
      (ws.map groupText).map groupValue = ws := by
  have hgroup : ∀ v ∈ ws, groupText v = hexDigits v := fun v _ => (hexDigits_eq_groupText v).symm
  refine ⟨joinGroups_eq_drop_pieces ws, fun g hg => ?_, ?_⟩
  · obtain ⟨v, hv, rfl⟩ := List.mem_map.mp hg
    rw [hgroup v hv]
    exact (isGroupText_hexDigits (hw v hv)).1
  · rw [List.map_map]
    conv_rhs => rw [← List.map_id ws]
    refine List.map_congr_left fun v hv => ?_
    rw [Function.comp_apply, hgroup v hv, (isGroupText_hexDigits (hw v hv)).2, id]

/-- RFC 4291 の文字列は 16 進の数字か `::` で始まる。 -/
theorem Rfc4291Text.head {s : Bytes} {a : List Nat} (h : Rfc4291Text s a) :
    (∃ c t, s = c :: t ∧ (hexValue c).isSome) ∨ ∃ t, s = 0x3A :: 0x3A :: t := by
  -- 最初の語があれば、その最初の数字で始まる
  have hfirst : ∀ (g : Bytes) (gs : List Bytes) (rest : Bytes), IsGroupText g →
      ∃ c t, joinWith (g :: gs) ++ rest = c :: t ∧ (hexValue c).isSome := by
    intro g gs rest hg
    obtain ⟨c, g', rfl⟩ := List.exists_cons_of_ne_nil hg.1
    exact ⟨c, _, rfl, hg.2.2 c List.mem_cons_self⟩
  cases h with
  | @full gs h8 hgs =>
    obtain ⟨g, gs, rfl⟩ := List.exists_cons_of_ne_nil (List.ne_nil_of_length_pos (by omega : 0 < gs.length))
    left
    simpa using hfirst g gs [] (hgs g List.mem_cons_self)
  | @compressed as bs _ hgs =>
    cases as with
    | nil => exact .inr ⟨_, rfl⟩
    | cons g gs => exact .inl (hfirst g gs _ (hgs g (by simp)))

/-- 空白で始まる文字列は RFC 4291 の形でない。 -/
theorem not_rfc4291Text_space (s : Bytes) (a : List Nat) : ¬Rfc4291Text (0x20 :: s) a := by
  intro h
  rcases h.head with ⟨c, t, hct, hc⟩ | ⟨t, ht⟩
  · cases hct
    exact absurd hc (by decide)
  · cases ht

/-- 16 進の数字の前の `:` 一つで始まる文字列は RFC 4291 の形でない。 -/
theorem not_rfc4291Text_colon {c : UInt8} (hc : (hexValue c).isSome) (s : Bytes) (a : List Nat) :
    ¬Rfc4291Text (0x3A :: c :: s) a := by
  intro h
  rcases h.head with ⟨c', t, hct, hc'⟩ | ⟨t, ht⟩
  · cases hct
    exact absurd hc' (by decide)
  · cases ht
    exact absurd hc (by decide)

/-- `htons` で並べた byte を `ntohs` で読むと元の語に戻る。 -/
theorem ntohsWords_htonsBytes : ∀ {ws : List Nat}, (∀ v ∈ ws, v < 65536) → ntohsWords (htonsBytes ws) = ws
  | [], _ => rfl
  | w :: ws, hw => by
    have hword := be16_toBe16 (hw w List.mem_cons_self) []
    rw [List.append_nil] at hword
    calc ntohsWords (htonsBytes (w :: ws)) = be16 (toBe16 w) 0 :: ntohsWords (htonsBytes ws) := rfl
      _ = w :: ws := by rw [hword, ntohsWords_htonsBytes fun v hv => hw v (List.mem_cons_of_mem w hv)]

theorem length_htonsBytes : ∀ ws : List Nat, (htonsBytes ws).length = 2 * ws.length
  | [] => rfl
  | w :: ws => by
    rw [show htonsBytes (w :: ws) = toBe16 w ++ htonsBytes ws from rfl, List.length_append,
      length_htonsBytes ws, List.length_cons]
    simp only [toBe16, List.length_cons, List.length_nil]
    omega

/-! ## `inet6_aton` が受け付ける文字列 -/

/-- **`inet6_aton` が受け付ける文字列は RFC 4291 の形と一致しない。** 七つの語の後か前に `::` を
置いた文字列は RFC 4291 の形だが、`inet6_aton` は読まない。`:` 一つで始まる文字列と空白で始まる
文字列は RFC 4291 の形でないが、`inet6_aton` は読む。 -/
theorem inet6Aton_differs_from_rfc4291 (arch : Arch) :
    (∀ ws : List Nat, ws.length = 7 → (∀ v ∈ ws, v < 65536) →
      (Rfc4291Text (joinGroups ws ++ [0x3A, 0x3A]) (ws ++ [0]) ∧
        inet6Aton arch (joinGroups ws ++ [0x3A, 0x3A]) = none) ∧
      (Rfc4291Text (0x3A :: 0x3A :: joinGroups ws) (0 :: ws) ∧
        inet6Aton arch (0x3A :: 0x3A :: joinGroups ws) = none) ∧
      ((¬∃ a, Rfc4291Text (0x3A :: joinGroups ws) a) ∧
        inet6Aton arch (0x3A :: joinGroups ws) = some (0 :: ws))) ∧
    ∀ s : Bytes, (¬∃ a, Rfc4291Text (0x20 :: s) a) ∧ inet6Aton arch (0x20 :: s) = inet6Aton arch s := by
  refine ⟨fun ws h7 hw => ?_, fun s => ⟨fun ⟨a, h⟩ => not_rfc4291Text_space s a h, inet6Aton_space arch s⟩⟩
  obtain ⟨hjoin, hgroups, hvalues⟩ := groups_pieces hw
  have hjoin' : joinGroups ws = (pieces ws).drop 1 := hjoin
  have hlen : (ws.map groupText).length = 7 := by rw [List.length_map, h7]
  refine ⟨⟨?_, ?_⟩, ⟨?_, ?_⟩, ⟨?_, ?_⟩⟩
  · -- `::` が最後の一語の代わりになる
    have h := @Rfc4291Text.compressed (ws.map groupText) [] (by simp [hlen]) (by simpa using hgroups)
    rw [hvalues, hlen, List.map_nil, List.append_nil] at h
    exact h
  · rw [hjoin']
    exact inet6Aton_seven_then_colons arch h7 hw
  · -- `::` が最初の一語の代わりになる
    have h := @Rfc4291Text.compressed [] (ws.map groupText) (by simp [hlen]) (by simpa using hgroups)
    rw [hvalues, hlen] at h
    exact h
  · rw [hjoin']
    exact inet6Aton_colons_then_seven arch h7 hw
  · -- `:` の後は最初の語の数字なので、`::` でもない
    rintro ⟨a, h⟩
    obtain ⟨w, ws', rfl⟩ := List.exists_cons_of_ne_nil (List.ne_nil_of_length_pos (by omega : 0 < ws.length))
    obtain ⟨⟨hne, -, hhex⟩, -⟩ := isGroupText_hexDigits (hw w List.mem_cons_self)
    obtain ⟨c, g, hg⟩ := List.exists_cons_of_ne_nil hne
    rw [hjoin', drop_one_pieces_cons, hg] at h
    exact not_rfc4291Text_colon (hhex c (by rw [hg]; exact List.mem_cons_self)) _ _ h
  · rw [hjoin']
    exact inet6Aton_colon_then_seven arch h7 hw

theorem inet6Aton_rejects_seven_groups_then_colons :
    Rfc4291Text (ascii "1:2:3:4:5:6:7::") [1, 2, 3, 4, 5, 6, 7, 0] ∧
      inet6Aton .x86_64 (ascii "1:2:3:4:5:6:7::") = none := by
  have htext : joinGroups [1, 2, 3, 4, 5, 6, 7] ++ [0x3A, 0x3A] = ascii "1:2:3:4:5:6:7::" := by decide
  have h := ((inet6Aton_differs_from_rfc4291 .x86_64).1 [1, 2, 3, 4, 5, 6, 7] rfl (by decide)).1
  rwa [htext] at h

/-! ## 正規の文字列での往復 -/

/-- **IPv6 アドレスの文字列は正規の形で往復する。** 16 byte のアドレスを `inet6_ntoa` で書いて
`inet6_aton` で読むと元に戻り、書いた文字列は最初の一番長い 0 の並びを縮めた RFC 5952 の文字列で
ある。`inet6_aton` が受け付けた文字列の語を `inet6_ntoa` で書き直しても、その正規の文字列になる。 -/
theorem inet6_text_round_trips_canonically (arch : Arch) :
    (∀ raw : Bytes, raw.length = 16 →
      (inet6Aton arch (inet6Ntoa raw)).map htonsBytes = some raw ∧
        ∃ i, FirstLongestZeroRun (ntohsWords raw) i ∧ inet6Ntoa raw = canonicalText (ntohsWords raw) i) ∧
    ∀ (s : Bytes) (ws : List Nat), inet6Aton arch s = some ws →
      ∃ i, FirstLongestZeroRun ws i ∧ inet6Ntoa (htonsBytes ws) = canonicalText ws i := by
  refine ⟨fun raw h16 => ⟨?_, ?_⟩, fun s ws h => ?_⟩
  · rw [inet6Aton_inet6Ntoa arch h16, Option.map_some, htonsBytes_ntohsWords (by omega)]
  · have htake : raw.take 16 = raw := List.take_of_length_le (by omega)
    have h8 : (ntohsWords raw).length = 8 := length_ntohsWords_of_length h16
    have hne : ntohsWords (raw.take 16) ≠ [] := by
      rw [htake]
      exact List.ne_nil_of_length_pos (by omega)
    have hcanon := inet6Ntoa_eq_canonicalText hne
    rwa [htake] at hcanon
  · -- 受け付けた文字列の語は八つの 16 bit の語なので、byte に並べて読み戻せる
    obtain ⟨h8, hw⟩ := inet6Aton_some arch h
    have hwords : ntohsWords ((htonsBytes ws).take 16) = ws := by
      rw [List.take_of_length_le (by rw [length_htonsBytes]; omega), ntohsWords_htonsBytes hw]
    have hcanon := @inet6Ntoa_eq_canonicalText (htonsBytes ws)
      (by rw [hwords]; exact List.ne_nil_of_length_pos (by omega))
    rwa [hwords] at hcanon

example : FirstLongestZeroRun [1, 0, 0, 2, 0, 0, 3, 4] 1 ∧
    canonicalText [1, 0, 0, 2, 0, 0, 3, 4] 1 = ascii "1::2:0:0:3:4" := by
  decide

end FlexBoot.Ipv6
