import FlexBoot.Properties.DnsNames

/-!
# `dns_encode` の往復

`dns_encode` が受け付けるのは、空の文字列、`.` だけの文字列、1 から 63 byte の label を
一つずつの `.` でつなぎ、最後に `.` を一つ置いてもよい文字列である（`EncodableAs`）。
受け付けた文字列は圧縮しない形 `encodeLabels` に書かれ、その長さを返す。書いたものを
`dns_decode` で読めば、最後の `.` を除いた文字列が返る（`dns_encode_round_trip`）。

証明は二つの向きに分かれる。

* 受け付けた文字列の形：loop が読み終えた部分を `joinLabels (done ++ [p])`（`done` は
  読み終えた label、`p` は読んでいる label）と書き、それと残りの文字列についての不変条件を
  一文字ごとに保つ（`encodable_of_dnsEncodeLoop`）。
* 書くもの：label 一つの文字を読む loop（`dnsEncodeLoop_label`）、`.` でつないだ label の列
  （`dnsEncodeLoop_labels`）の順に、buffer が `fillAt` で書いたものになることを示す。
  戻り値は buffer によらないので（`dnsEncode_snd_congr`）、十分大きい buffer で計算したものが
  どの buffer でも返る。
-/

namespace FlexBoot.Dns

open Infra

/-- `dns_encode` が `ls` として受け付ける文字列：label はどれも 1 から 63 byte で `.` を含まず、
文字列はそれを `.` でつないだもの、またはその後ろに `.` を一つ置いたもの。 -/
def EncodableAs (w : Bytes) (ls : List Bytes) : Prop :=
  (∀ l ∈ ls, LabelOk l ∧ dot ∉ l) ∧ (w = joinLabels ls ∨ w = joinLabels ls ++ [dot])

/-- 長さの byte と中身を並べたもの。`encodeLabels` はこれに root の 0 を足したもの。 -/
def labelBlocks (ls : List Bytes) : Bytes := ls.flatMap (fun l => UInt8.ofNat l.length :: l)

theorem encodeLabels_eq (ls : List Bytes) : encodeLabels ls = labelBlocks ls ++ [0] := by
  induction ls with
  | nil => rfl
  | cons l ls ih => simp [encodeLabels, labelBlocks, ih]

/-! ## label の列をつなぐ -/

theorem joinLabels_concat {ls : List Bytes} (hls : ls ≠ []) (a : Bytes) :
    joinLabels (ls ++ [a]) = joinLabels ls ++ dot :: a := by
  obtain ⟨l, ls', rfl⟩ := List.exists_cons_of_ne_nil hls
  simp [joinLabels, dotted]

/-- 読んでいる label に一文字足す。 -/
theorem joinLabels_concat_char (done : List Bytes) (p : Bytes) (c : UInt8) :
    joinLabels (done ++ [p ++ [c]]) = joinLabels (done ++ [p]) ++ [c] := by
  by_cases hd : done = []
  · simp [hd, joinLabels, dotted]
  · rw [joinLabels_concat hd, joinLabels_concat hd]
    simp

/-- `.` を読んで、次の label を空から始める。 -/
theorem joinLabels_concat_dot (done : List Bytes) (p : Bytes) :
    joinLabels (done ++ [p] ++ [[]]) = joinLabels (done ++ [p]) ++ [dot] := by
  rw [joinLabels_concat (by simp)]

theorem joinLabels_cons_cons (l l' : Bytes) (ls : List Bytes) :
    joinLabels (l :: l' :: ls) = l ++ dot :: joinLabels (l' :: ls) := by
  simp [joinLabels, dotted]

/-! ## 一文字の判定 -/

/-- 一文字の判定が通るときの形：`.` なら、続く `.` でも先頭の `.` でもなく、末尾なら抜け、
そうでなければ label を 0 から数え直す。それ以外の文字は 63 byte を越えない。 -/
theorem dnsEncodeLength_ok {start dst len : Nat} {c next : UInt8} {r : Option Nat}
    (h : dnsEncodeLength start c next dst len = .ok r) :
    (c = dot ∧ ¬(len = 0 ∧ dst ≠ start) ∧
        ((next = 0 ∧ r = none) ∨ (next ≠ 0 ∧ len ≠ 0 ∧ r = some 0))) ∨
      (c ≠ dot ∧ len + 1 ≤ dnsMaxLabelLen ∧ r = some (len + 1)) := by
  unfold dnsEncodeLength at h
  by_cases hc : c = dot
  · rw [if_pos hc] at h
    by_cases hcons : len = 0 ∧ dst ≠ start
    · rw [if_pos hcons] at h
      cases h
    · rw [if_neg hcons] at h
      by_cases hnext : next = 0
      · rw [if_pos hnext] at h
        cases h
        exact .inl ⟨hc, hcons, .inl ⟨hnext, rfl⟩⟩
      · rw [if_neg hnext] at h
        by_cases h0 : len = 0
        · rw [if_pos h0] at h
          cases h
        · rw [if_neg h0] at h
          cases h
          exact .inl ⟨hc, hcons, .inr ⟨hnext, h0, rfl⟩⟩
  · rw [if_neg hc] at h
    by_cases hmax : dnsMaxLabelLen < len + 1
    · rw [if_pos hmax] at h
      cases h
    · rw [if_neg hmax] at h
      cases h
      exact .inr ⟨hc, by omega, rfl⟩

-- loop の一文字分の式。以下の証明は `dnsEncodeLoop` を開かず、これで一文字進める
theorem dnsEncodeLoop_cons (start stop : Nat) (c : UInt8) (s : Bytes) (dst len : Nat) (buf : Bytes) :
    dnsEncodeLoop start stop (c :: s) dst len buf =
      if c = 0 then (buf, .ok (dst, len))
      else
        match dnsEncodeLength start c (s.headD 0) dst len with
        | .error rc => (buf, .error rc)
        | .ok none => (buf, .ok (dst, len))
        | .ok (some len) =>
          dnsEncodeLoop start stop s (dst + 1) len
            (if dst + 1 < stop then (buf.set (dst + 1) c).set (dst + 1 - len) (UInt8.ofNat len) else buf) :=
  rfl

/-- NUL か文字列の終わりで loop を抜ける。 -/
theorem dnsEncodeLoop_stop {start stop dst len : Nat} {buf s : Bytes} (hs : s.headD 0 = 0) :
    dnsEncodeLoop start stop s dst len buf = (buf, .ok (dst, len)) := by
  cases s with
  | nil => rfl
  | cons c s =>
    simp only [List.headD_cons] at hs
    rw [dnsEncodeLoop_cons, if_pos hs]

/-- label の中の文字を一つ読む。 -/
theorem dnsEncodeLoop_char {start stop dst len : Nat} {buf s : Bytes} {c : UInt8} (hc0 : c ≠ 0)
    (hcd : c ≠ dot) (hmax : len + 1 ≤ dnsMaxLabelLen) :
    dnsEncodeLoop start stop (c :: s) dst len buf =
      dnsEncodeLoop start stop s (dst + 1) (len + 1)
        (if dst + 1 < stop then (buf.set (dst + 1) c).set (dst + 1 - (len + 1)) (UInt8.ofNat (len + 1))
          else buf) := by
  rw [dnsEncodeLoop_cons, if_neg hc0]
  simp only [dnsEncodeLength, if_neg hcd, if_neg (Nat.not_lt.mpr hmax)]

/-- label の間の `.` を読む：0 を書き、次の label を 0 から数える。 -/
theorem dnsEncodeLoop_dot {start stop dst len : Nat} {buf s : Bytes} (hlen : len ≠ 0)
    (hnext : s.headD 0 ≠ 0) :
    dnsEncodeLoop start stop (dot :: s) dst len buf =
      dnsEncodeLoop start stop s (dst + 1) 0
        (if dst + 1 < stop then (buf.set (dst + 1) dot).set (dst + 1 - 0) (UInt8.ofNat 0) else buf) := by
  rw [dnsEncodeLoop_cons, if_neg (by decide)]
  simp only [dnsEncodeLength, if_true, hlen, false_and, if_false, if_neg hnext]

/-- 末尾の `.` で抜ける。 -/
theorem dnsEncodeLoop_trailing_dot {start stop dst len : Nat} {buf s : Bytes}
    (hfirst : len = 0 → dst = start) (hs : s.headD 0 = 0) :
    dnsEncodeLoop start stop (dot :: s) dst len buf = (buf, .ok (dst, len)) := by
  rw [dnsEncodeLoop_cons, if_neg (by decide)]
  have hcons : ¬(len = 0 ∧ dst ≠ start) := fun ⟨h0, hne⟩ => hne (hfirst h0)
  simp only [dnsEncodeLength, if_true, if_neg hcons, if_pos hs]

/-! ## 受け付ける文字列 -/

/-- 読み終えた label の後ろに、読んでいた空でない label を足しても、受け付ける label の列である。 -/
theorem labelsOk_concat {done : List Bytes} {p : Bytes} (hdone : ∀ l ∈ done, LabelOk l ∧ dot ∉ l)
    (hpe : p ≠ []) (hp : dot ∉ p) (hmax : p.length ≤ dnsMaxLabelLen) :
    ∀ l ∈ done ++ [p], LabelOk l ∧ dot ∉ l := by
  intro l hl
  rcases List.mem_append.mp hl with hl | hl
  · exact hdone l hl
  · rw [List.mem_singleton.mp hl]
    exact ⟨⟨List.length_pos_iff.mpr hpe, hmax⟩, hp⟩

theorem cstr_of_headD_eq_zero {s : Bytes} (hs : s.headD 0 = 0) : cstr s = [] := by
  cases s with
  | nil => rfl
  | cons c s =>
    simp only [List.headD_cons] at hs
    simp [cstr, hs]

/-- NUL か文字列の終わりで抜けたとき：`p` が空でなければ最後の label、空なら名前は空。 -/
theorem encodable_of_stop {s : Bytes} {done : List Bytes} {p : Bytes}
    (hdone : ∀ l ∈ done, LabelOk l ∧ dot ∉ l) (hp : dot ∉ p) (hmax : p.length ≤ dnsMaxLabelLen)
    (hinv : p = [] → done ≠ [] → s.headD 0 ≠ 0) (hs : s.headD 0 = 0) :
    ∃ ls, EncodableAs (joinLabels (done ++ [p]) ++ cstr s) ls := by
  rw [cstr_of_headD_eq_zero hs, List.append_nil]
  by_cases hpe : p = []
  · have hd : done = [] := by
      by_contra hne
      exact hinv hpe hne hs
    exact ⟨[], by simp, .inl (by simp [hd, hpe, joinLabels, dotted])⟩
  · exact ⟨done ++ [p], labelsOk_concat hdone hpe hp hmax, .inl rfl⟩

/-- 読み終えた部分が `joinLabels (done ++ [p])` で、残りが `s` の状態から抜ければ、文字列は
受け付けられる形をしている。`p` が空で `done` が空でないのは `.` の直後で、そのときは次の文字が
NUL でないことを判定が確かめている。 -/
theorem encodable_of_dnsEncodeLoop {start stop : Nat} :
    ∀ (s : Bytes) (done : List Bytes) (p buf buf' : Bytes) (dst len : Nat),
      (∀ l ∈ done, LabelOk l ∧ dot ∉ l) → dot ∉ p → p.length ≤ dnsMaxLabelLen →
      (p = [] → done ≠ [] → s.headD 0 ≠ 0) →
      dnsEncodeLoop start stop s (start + (joinLabels (done ++ [p])).length) p.length buf =
        (buf', .ok (dst, len)) →
      ∃ ls, EncodableAs (joinLabels (done ++ [p]) ++ cstr s) ls := by
  intro s
  induction s with
  | nil =>
    intro done p buf buf' dst len hdone hp hmax hinv _
    exact encodable_of_stop hdone hp hmax hinv rfl
  | cons c s ih =>
    intro done p buf buf' dst len hdone hp hmax hinv h
    by_cases hc0 : c = 0
    · exact encodable_of_stop hdone hp hmax hinv (by simp [hc0])
    rw [dnsEncodeLoop_cons, if_neg hc0] at h
    rcases hlen : dnsEncodeLength start c (s.headD 0) (start + (joinLabels (done ++ [p])).length) p.length
      with rc | r
    · rw [hlen] at h
      cases h
    rcases dnsEncodeLength_ok hlen with ⟨rfl, hcons, ⟨hnext, rfl⟩ | ⟨hnext, hpne, rfl⟩⟩ | ⟨hcd, hmax', rfl⟩
    · -- 末尾の `.`：名前はその手前まで
      have hcstr : cstr (dot :: s) = [dot] := by
        cases s with
        | nil => rfl
        | cons d s => simp only [List.headD_cons] at hnext; simp [cstr, hnext, dot]
      rw [hcstr]
      by_cases hpe : p = []
      · -- `len = 0` なら `dst = start`：まだ何も読んでいない
        subst hpe
        have hempty : joinLabels (done ++ [[]]) = [] := by simpa using hcons
        rw [hempty]
        exact ⟨[], by simp, .inr rfl⟩
      · exact ⟨done ++ [p], labelsOk_concat hdone hpe hp hmax, .inr rfl⟩
    · -- label の間の `.`：`p` を読み終え、空の label から続ける
      rw [hlen] at h
      dsimp only at h
      have hpne' : p ≠ [] := fun he => hpne (by simp [he])
      have hdst : start + (joinLabels (done ++ [p])).length + 1 = start + (joinLabels (done ++ [p] ++ [[]])).length := by
        rw [joinLabels_concat_dot]
        simp only [List.length_append, List.length_singleton]
        omega
      rw [hdst] at h
      obtain ⟨ls, hls⟩ := ih (done ++ [p]) [] _ buf' dst len (labelsOk_concat hdone hpne' hp hmax)
        (by simp) (by simp) (fun _ _ => hnext) h
      refine ⟨ls, ?_⟩
      rw [joinLabels_concat_dot] at hls
      simpa [cstr, dot] using hls
    · -- label の中の文字
      rw [hlen] at h
      dsimp only at h
      have hdst : start + (joinLabels (done ++ [p])).length + 1 = start + (joinLabels (done ++ [p ++ [c]])).length := by
        rw [joinLabels_concat_char]
        simp only [List.length_append, List.length_singleton]
        omega
      rw [hdst, show p.length + 1 = (p ++ [c]).length by simp] at h
      obtain ⟨ls, hls⟩ := ih done (p ++ [c]) _ buf' dst len hdone (by simp [hp, Ne.symm hcd])
        (by simp; omega) (fun he => absurd he (by simp)) h
      refine ⟨ls, ?_⟩
      rw [joinLabels_concat_char] at hls
      have hcstr : cstr (c :: s) = c :: cstr s := by simp [cstr, hc0]
      rw [hcstr]
      simpa using hls

/-! ## 書くもの -/

/-- label の一文字：一つ先に写し、label の頭の長さを書き直す。 -/
theorem fillAt_label_char {B p : Bytes} {q : Nat} (x c : UInt8) (h : q + p.length + 1 < B.length) :
    ((fillAt B q (x :: p)).set (q + p.length + 1) c).set (q + p.length + 1 - (p.length + 1))
        (UInt8.ofNat (p.length + 1)) = fillAt B q (UInt8.ofNat (p.length + 1) :: (p ++ [c])) := by
  have hset := fillAt_set B q (x :: p) c
  rw [List.length_cons, ← Nat.add_assoc] at hset
  rw [hset, show q + p.length + 1 - (p.length + 1) = q by omega, List.cons_append,
    fillAt_set_head _ _ _ (by omega)]

/-- label の文字を読む。`p` は読み終えた文字で、その頭の長さの byte は `x`。 -/
theorem dnsEncodeLoop_label {start : Nat} {B : Bytes} {q : Nat} :
    ∀ (r p : Bytes) (x : UInt8) (rest : Bytes), (∀ c ∈ r, c ≠ 0 ∧ c ≠ dot) →
      p.length + r.length ≤ dnsMaxLabelLen → q + p.length + r.length < B.length →
      dnsEncodeLoop start B.length (r ++ rest) (q + p.length) p.length (fillAt B q (x :: p)) =
        dnsEncodeLoop start B.length rest (q + p.length + r.length) (p.length + r.length)
          (fillAt B q ((if r = [] then x else UInt8.ofNat (p.length + r.length)) :: (p ++ r)))
  | [], p, x, rest, _, _, _ => by simp
  | c :: r, p, x, rest, hr, hmax, hroom => by
    obtain ⟨hc0, hcd⟩ := hr c (by simp)
    simp only [List.length_cons] at hmax hroom
    rw [List.cons_append, dnsEncodeLoop_char hc0 hcd (by omega), if_pos (by omega),
      fillAt_label_char x c (by omega)]
    have ih := @dnsEncodeLoop_label start B q r (p ++ [c]) (UInt8.ofNat (p.length + 1)) rest
      (fun d hd => hr d (by simp [hd])) (by simp; omega) (by simp; omega)
    simp only [List.length_append, List.length_singleton] at ih
    -- 長さの byte は、読んだ文字の数
    have hlen : (if r = [] then UInt8.ofNat (p.length + 1) else UInt8.ofNat (p.length + 1 + r.length)) =
        UInt8.ofNat (p.length + (r.length + 1)) := by
      split
      · next hr0 => simp [hr0]
      · congr 1
        omega
    rw [show q + p.length + 1 = q + (p.length + 1) by omega, ih, hlen, if_neg (List.cons_ne_nil c r)]
    simp only [List.length_cons, List.append_assoc, List.singleton_append]
    rw [show q + (p.length + 1) + r.length = q + p.length + (r.length + 1) by omega,
      show p.length + 1 + r.length = p.length + (r.length + 1) by omega]

/-- `.` でつないだ label を読む。先頭の label の長さの byte の位置には `x` がある。 -/
theorem dnsEncodeLoop_labels {start : Nat} (tail : Bytes) :
    ∀ (ls : List Bytes) (l : Bytes) (B : Bytes) (q : Nat) (x : UInt8),
      (∀ l' ∈ l :: ls, LabelOk l' ∧ dot ∉ l' ∧ 0 ∉ l') → q + (labelBlocks (l :: ls)).length ≤ B.length →
      ∃ len, len ≠ 0 ∧
        dnsEncodeLoop start B.length (joinLabels (l :: ls) ++ tail) q 0 (fillAt B q [x]) =
          dnsEncodeLoop start B.length tail (q + (labelBlocks (l :: ls)).length - 1) len
            (fillAt B q (labelBlocks (l :: ls)))
  | [], l, B, q, x, hok, hroom => by
    obtain ⟨⟨hpos, hmax⟩, hdot, hzero⟩ := hok l (by simp)
    have hne : l ≠ [] := List.ne_nil_of_length_pos hpos
    have hchars : ∀ c ∈ l, c ≠ 0 ∧ c ≠ dot :=
      fun c hc => ⟨fun h0 => hzero (h0 ▸ hc), fun hd => hdot (hd ▸ hc)⟩
    simp only [labelBlocks, List.flatMap_cons, List.flatMap_nil, List.append_nil, List.length_cons] at hroom ⊢
    have hlabel := @dnsEncodeLoop_label start B q l [] x tail hchars (by simpa using hmax) (by simp; omega)
    simp only [List.length_nil, Nat.add_zero, Nat.zero_add, List.nil_append, if_neg hne] at hlabel
    refine ⟨l.length, by omega, ?_⟩
    rw [show joinLabels [l] = l by simp [joinLabels, dotted], hlabel,
      show q + (l.length + 1) - 1 = q + l.length by omega]
  | l' :: ls, l, B, q, x, hok, hroom => by
    obtain ⟨⟨hpos, hmax⟩, hdot, hzero⟩ := hok l (by simp)
    have hne : l ≠ [] := List.ne_nil_of_length_pos hpos
    have hchars : ∀ c ∈ l, c ≠ 0 ∧ c ≠ dot :=
      fun c hc => ⟨fun h0 => hzero (h0 ▸ hc), fun hd => hdot (hd ▸ hc)⟩
    have hblocks : labelBlocks (l :: l' :: ls) = (UInt8.ofNat l.length :: l) ++ labelBlocks (l' :: ls) := by
      simp [labelBlocks]
    have hroom' : q + (l.length + 1) + (labelBlocks (l' :: ls)).length ≤ B.length := by
      rw [hblocks] at hroom
      simp only [List.length_append, List.length_cons] at hroom
      omega
    have hnonempty : 0 < (labelBlocks (l' :: ls)).length := by simp [labelBlocks]
    -- 先頭の label の文字
    have hlabel := @dnsEncodeLoop_label start B q l [] x (dot :: (joinLabels (l' :: ls) ++ tail)) hchars
      (by simpa using hmax) (by simp; omega)
    simp only [List.length_nil, Nat.add_zero, Nat.zero_add, List.nil_append, if_neg hne] at hlabel
    -- 間の `.`：次の label の最初の文字は NUL でない
    obtain ⟨⟨hpos', -⟩, -, hzero'⟩ := hok l' (by simp)
    have hnext : (joinLabels (l' :: ls) ++ tail).headD 0 ≠ 0 := by
      obtain ⟨d, l'', rfl⟩ := List.exists_cons_of_ne_nil (List.ne_nil_of_length_pos hpos')
      simp only [joinLabels, List.cons_append, List.headD_cons]
      exact fun h0 => hzero' (h0 ▸ List.mem_cons_self)
    rw [joinLabels_cons_cons, List.append_assoc, List.cons_append, hlabel,
      dnsEncodeLoop_dot (by omega) hnext, if_pos (by omega), Nat.sub_zero, List.set_set]
    -- `.` の所に書いた 0 が、次の label の長さの byte の位置になる
    have hset := fillAt_set B q (UInt8.ofNat l.length :: l) (UInt8.ofNat 0)
    simp only [List.length_cons] at hset
    have hsplit := fillAt_fillAt B q (UInt8.ofNat l.length :: l) [UInt8.ofNat 0]
    simp only [List.length_cons] at hsplit
    rw [show q + l.length + 1 = q + (l.length + 1) by omega, hset, ← hsplit]
    obtain ⟨len, hlen, hloop⟩ := dnsEncodeLoop_labels tail ls l' (fillAt B q (UInt8.ofNat l.length :: l))
      (q + (l.length + 1)) (UInt8.ofNat 0) (fun l'' hl'' => hok l'' (List.mem_cons_of_mem _ hl''))
      (by rw [length_fillAt]; omega)
    rw [length_fillAt] at hloop
    refine ⟨len, hlen, ?_⟩
    have hff := fillAt_fillAt B q (UInt8.ofNat l.length :: l) (labelBlocks (l' :: ls))
    simp only [List.length_cons] at hff
    rw [hloop, hff, ← hblocks]
    congr 1
    rw [hblocks, List.length_append, List.length_cons]
    omega

/-! ## `dns_encode` -/

/-- 戻り値と受け付けるかどうかは、書く先の buffer によらない。 -/
theorem dnsEncodeLoop_snd_congr {start : Nat} :
    ∀ (s : Bytes) (stop stop' dst len : Nat) (buf buf' : Bytes),
      (dnsEncodeLoop start stop s dst len buf).2 = (dnsEncodeLoop start stop' s dst len buf').2
  | [], _, _, _, _, _, _ => rfl
  | c :: s, stop, stop', dst, len, buf, buf' => by
    rw [dnsEncodeLoop_cons, dnsEncodeLoop_cons]
    by_cases hc0 : c = 0
    · rw [if_pos hc0, if_pos hc0]
    · rw [if_neg hc0, if_neg hc0]
      rcases dnsEncodeLength start c (s.headD 0) dst len with rc | _ | len'
      · rfl
      · rfl
      · exact dnsEncodeLoop_snd_congr s _ _ _ _ _ _

theorem dnsEncode_snd_congr (string : Bytes) {name name' : DnsName} (h : name.offset = name'.offset) :
    (dnsEncode string name).2 = (dnsEncode string name').2 := by
  have hloop := @dnsEncodeLoop_snd_congr name.offset string name.len name'.len name.offset 0 name.data name'.data
  unfold dnsEncode
  rw [← h]
  rcases hl : dnsEncodeLoop name.offset name.len string name.offset 0 name.data with ⟨b, rc | ⟨dst, len⟩⟩ <;>
    rcases hl' : dnsEncodeLoop name.offset name'.len string name.offset 0 name'.data with
      ⟨b', rc' | ⟨dst', len'⟩⟩ <;>
    rw [hl, hl'] at hloop <;> cases hloop <;> rfl

theorem mem_joinLabels {ls : List Bytes} {l : Bytes} {c : UInt8} (hc : c ∈ l) (hl : l ∈ ls) :
    c ∈ joinLabels ls := by
  cases ls with
  | nil => cases hl
  | cons l' ls =>
    rcases List.mem_cons.mp hl with rfl | hl
    · exact List.mem_append_left _ hc
    · exact List.mem_append_right _ (List.mem_flatMap.mpr ⟨l, hl, List.mem_cons_of_mem _ hc⟩)

/-- 受け付ける文字列を、入る buffer に書く。 -/
theorem dnsEncode_of_encodable {string : Bytes} {ls : List Bytes} (h : EncodableAs (cstr string) ls)
    {name : DnsName} (hroom : name.offset + (encodeLabels ls).length ≤ name.len) :
    dnsEncode string name = (fillAt name.data name.offset (encodeLabels ls), .ok (encodeLabels ls).length) := by
  obtain ⟨hok, hw⟩ := h
  have hnul : (0 : UInt8) ∉ cstr string := zero_not_mem_cstr string
  have htail := headD_dropWhile_cstr string
  have hsplit := cstr_append_dropWhile string
  generalize string.dropWhile (· != 0) = t at htail hsplit
  unfold DnsName.len at hroom
  rw [encodeLabels_eq] at hroom ⊢
  simp only [List.length_append, List.length_singleton] at hroom ⊢
  -- 名前の最後の label の後ろまで読めば、NUL か末尾の `.` で抜ける
  have hloop : ∃ len, (ls = [] ↔ len = 0) ∧
      dnsEncodeLoop name.offset name.data.length string name.offset 0 name.data =
        (fillAt name.data name.offset (labelBlocks ls),
          .ok (name.offset + (labelBlocks ls).length - (if ls = [] then 0 else 1), len)) := by
    cases ls with
    | nil =>
      refine ⟨0, by simp, ?_⟩
      simp only [labelBlocks, List.flatMap_nil, fillAt_nil, List.length_nil, if_true, Nat.add_zero,
        Nat.sub_zero]
      rcases hw with hw | hw <;> simp only [joinLabels, List.nil_append] at hw <;> rw [hw] at hsplit <;>
        rw [← hsplit]
      · exact dnsEncodeLoop_stop htail
      · exact dnsEncodeLoop_trailing_dot (fun _ => rfl) htail
    | cons l ls =>
      have hq : name.offset < name.data.length := by
        have : 0 < (labelBlocks (l :: ls)).length := by simp [labelBlocks]
        omega
      have hzero : ∀ l' ∈ l :: ls, LabelOk l' ∧ dot ∉ l' ∧ 0 ∉ l' := by
        intro l' hl'
        refine ⟨(hok l' hl').1, (hok l' hl').2, fun h0 => hnul ?_⟩
        rcases hw with hw | hw <;> rw [hw]
        · exact mem_joinLabels h0 hl'
        · exact List.mem_append_left _ (mem_joinLabels h0 hl')
      rw [if_neg (List.cons_ne_nil l ls)]
      rcases hw with hw | hw
      · obtain ⟨len, hlen, hlabels⟩ := @dnsEncodeLoop_labels name.offset t ls l name.data name.offset
          name.data[name.offset] hzero (by omega)
        rw [fillAt_getElem_self hq] at hlabels
        rw [hw] at hsplit
        refine ⟨len, by simp; omega, ?_⟩
        rw [← hsplit, hlabels, dnsEncodeLoop_stop htail]
      · obtain ⟨len, hlen, hlabels⟩ := @dnsEncodeLoop_labels name.offset (dot :: t) ls l name.data
          name.offset name.data[name.offset] hzero (by omega)
        rw [fillAt_getElem_self hq] at hlabels
        rw [hw, List.append_assoc, List.singleton_append] at hsplit
        refine ⟨len, by simp; omega, ?_⟩
        rw [← hsplit, hlabels, dnsEncodeLoop_trailing_dot (fun h0 => absurd h0 hlen) htail]
  obtain ⟨len, hlen, hl⟩ := hloop
  -- root の 0 は、最後の label の後ろ（名前が空なら先頭）に書く
  have hdst : (if len ≠ 0 then name.offset + (labelBlocks ls).length - (if ls = [] then 0 else 1) + 1
      else name.offset + (labelBlocks ls).length - (if ls = [] then 0 else 1)) =
        name.offset + (labelBlocks ls).length := by
    by_cases hls : ls = []
    · subst hls
      simp [hlen.mp rfl]
    · have : 0 < (labelBlocks ls).length := by
        obtain ⟨l, ls', rfl⟩ := List.exists_cons_of_ne_nil hls
        simp [labelBlocks]
      rw [if_pos (fun h0 => hls (hlen.mpr h0)), if_neg hls]
      omega
  unfold dnsEncode DnsName.len
  rw [hl]
  dsimp only
  rw [hdst, if_pos (by omega), fillAt_set]
  congr 2
  omega

/-- 受け付ける文字列の名前の長さは、どの buffer に書いても同じである。 -/
theorem dnsEncode_snd_of_encodable {string : Bytes} {ls : List Bytes} (h : EncodableAs (cstr string) ls)
    (name : DnsName) : (dnsEncode string name).2 = .ok (encodeLabels ls).length := by
  -- 名前がちょうど入る buffer に書いたときの戻り値と同じである
  have hbig : (dnsEncode string ⟨List.replicate (name.offset + (encodeLabels ls).length) 0, name.offset⟩).2 =
      .ok (encodeLabels ls).length := by
    rw [dnsEncode_of_encodable h (by simp [DnsName.len])]
  exact (@dnsEncode_snd_congr string name
    ⟨List.replicate (name.offset + (encodeLabels ls).length) 0, name.offset⟩ rfl).trans hbig

/-- `dns_encode` が成功すれば、文字列は受け付ける形をしている。 -/
theorem encodable_of_dnsEncode {string : Bytes} {name : DnsName} {n : Nat}
    (h : (dnsEncode string name).2 = .ok n) : ∃ ls, EncodableAs (cstr string) ls := by
  unfold dnsEncode at h
  rcases hl : dnsEncodeLoop name.offset name.len string name.offset 0 name.data with ⟨b, rc | ⟨dst, len⟩⟩
  · rw [hl] at h
    cases h
  · have hstart := @encodable_of_dnsEncodeLoop name.offset name.len string [] [] name.data b dst len
      (by simp) (by simp) (by simp) (by simp)
    simp only [List.nil_append, joinLabels, dotted, List.flatMap_nil, List.append_nil, List.length_nil,
      Nat.add_zero] at hstart
    exact hstart hl

theorem dns_encode_round_trip (string : Bytes) (name : DnsName) :
    ((∃ n, (dnsEncode string name).2 = .ok n) ↔ ∃ ls, EncodableAs (cstr string) ls) ∧
    ∀ ls, EncodableAs (cstr string) ls →
      (dnsEncode string name).2 = .ok (encodeLabels ls).length ∧
      (name.offset + (encodeLabels ls).length ≤ name.len →
        (dnsEncode string name).1 = fillAt name.data name.offset (encodeLabels ls) ∧
        ∀ out, dnsDecode ⟨(dnsEncode string name).1, name.offset⟩ out =
          (fillAt out 0 (joinLabels ls ++ [0]), .ok (joinLabels ls).length)) := by
  refine ⟨⟨fun ⟨n, hn⟩ => encodable_of_dnsEncode hn, fun ⟨ls, hls⟩ => ⟨_, dnsEncode_snd_of_encodable hls name⟩⟩, ?_⟩
  intro ls hls
  refine ⟨dnsEncode_snd_of_encodable hls name, fun hroom => ?_⟩
  have hwrite := dnsEncode_of_encodable hls hroom
  rw [hwrite]
  refine ⟨rfl, fun out => dnsDecode_of_dnsWalk ?_ out⟩
  -- 書いた名前を辿れば、元の label が返る
  have hok : ∀ l ∈ ls, LabelOk l := fun l hl => (hls.1 l hl).1
  have hfuel : ls.length < name.data.length := by
    have := length_encodeLabels ls
    unfold DnsName.len at hroom
    omega
  unfold dnsWalk DnsName.len
  dsimp only
  rw [length_fillAt]
  exact dnsLabels_fillAt_encodeLabels hok hroom hfuel

end FlexBoot.Dns
