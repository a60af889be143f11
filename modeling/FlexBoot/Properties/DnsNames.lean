import FlexBoot.Net.Udp.Dns
import FlexBoot.Infra.Run

/-!
# 圧縮した DNS の名前を読む四つの loop は、同じ label の列を辿る

名前が表すのは label の列である。それを `dnsLabels` と書く：`dns_label` で label を
一つずつ読み、root で止まる。fuel は `recursion_limit` に当たり、`dnsWalk` はそれを
`name->len` にしたもの。

* `dnsDecode_of_dnsWalk` — `dns_decode` は、辿った label を `.` でつないだ文字列を出力
  buffer の頭に（入るだけ）書き、その長さを返す。
* `dnsCopy_of_dnsWalk` — `dns_copy` は、辿った label を圧縮しない形（`encodeLabels`）で写す。
* `dnsCompare_eq_ok_iff` — `dns_compare` が 0 を返すのは、二つの名前を辿れて、label が
  大文字と小文字を除いて等しいときである。
* `dnsLabels_encodeLabels` — 圧縮しない形を辿れば、元の label が返る。

辿り終わらない名前（`NeverEnds`）には、pointer が輪になった名前（`Cyclic`）が含まれる。
-/

namespace FlexBoot.Dns

open Infra

/-! ## 名前が表す label の列 -/

/-- 圧縮しない RFC 1035 の形：label ごとに長さの byte と中身、最後に root の 0。 -/
def encodeLabels : List Bytes → Bytes
  | [] => [0]
  | l :: ls => UInt8.ofNat l.length :: l ++ encodeLabels ls

/-- 二つ目からの label の前に `.` を置いたもの。 -/
def dotted (ls : List Bytes) : Bytes := ls.flatMap (fun l => dot :: l)

/-- label を `.` でつないだ文字列。 -/
def joinLabels : List Bytes → Bytes
  | [] => []
  | l :: ls => l ++ dotted ls

/-- 一つの label として書ける中身：1 から `DNS_MAX_LABEL_LEN` byte。 -/
def LabelOk (l : Bytes) : Prop := 0 < l.length ∧ l.length ≤ dnsMaxLabelLen

/-- 名前が表す label の列。`dns_label` で label を読み、root の前まで集める。 -/
def dnsLabels (name : DnsName) : Nat → Nat → Except Rc (List Bytes)
  | 0, _ => .error .einval
  | limit + 1, offset =>
    match dnsLabel name offset with
    | .error rc => .error rc
    | .ok offset =>
      if labelLen name offset = 0 then .ok []
      else (labelAt name offset :: ·) <$> dnsLabels name limit (offset + 1 + labelLen name offset)

/-- `recursion_limit = name->len` で辿った名前。 -/
def dnsWalk (name : DnsName) : Except Rc (List Bytes) := dnsLabels name name.len name.offset

/-- どれだけ辿っても root に着かない名前。 -/
def NeverEnds (name : DnsName) : Prop := ∀ limit ls, dnsLabels name limit name.offset ≠ .ok ls

/-! ## `dns_label` -/

theorem toNat_lt_of_not_isCompressed {b : UInt8} (h : isCompressed b = false) : b.toNat < 64 := by
  have hall : ∀ n : Fin 256, isCompressed (UInt8.ofNat n) = false → n.val < 64 := by decide +kernel
  have hb := hall ⟨b.toNat, b.toNat_lt⟩
  simp only [UInt8.ofNat_toNat] at hb
  exact hb h

theorem isCompressed_ofNat {n : Nat} (h : n < 64) : isCompressed (UInt8.ofNat n) = false := by
  have hall : ∀ n < 64, isCompressed (UInt8.ofNat n) = false := by decide
  exact hall n h

/-- `dns_label` が返すのは、名前の中に収まる圧縮でない label の位置で、前にしか戻らない。 -/
theorem dnsLabel_ok {name : DnsName} {offset found : Nat} (h : dnsLabel name offset = .ok found) :
    found ≤ offset ∧ isCompressed (name.data.getD found 0) = false ∧
      found + 1 + labelLen name found ≤ name.len := by
  revert h
  fun_induction dnsLabel name offset with
  | case1 | case2 | case3 | case5 => intro h; cases h
  | case4 offset _ _ _ ptr hlt ih =>
    -- pointer は前を指すので、見つかった位置はさらに前にある
    intro h
    obtain ⟨hle, hc, hin⟩ := ih h
    exact ⟨by omega, hc, hin⟩
  | case6 offset _ hc hin =>
    intro h
    cases h
    exact ⟨Nat.le_refl _, by simpa using hc, by omega⟩

theorem dnsLabel_error {name : DnsName} {offset : Nat} {rc : Rc} (h : dnsLabel name offset = .error rc) :
    rc = .einval := by
  revert h
  fun_induction dnsLabel name offset with
  | case1 | case2 | case3 | case5 => intro h; cases h; rfl
  | case4 offset _ _ _ ptr hlt ih => exact ih
  | case6 => intro h; cases h

/-- 圧縮でなく名前に収まる label は、その場で見つかる。 -/
theorem dnsLabel_of_plain {name : DnsName} {offset : Nat}
    (hc : isCompressed (name.data.getD offset 0) = false)
    (hin : offset + 1 + labelLen name offset ≤ name.len) : dnsLabel name offset = .ok offset := by
  rw [dnsLabel, if_neg (by omega), if_neg (by rw [hc]; exact Bool.false_ne_true), if_neg (by omega)]

/-- 見つかった label の中身は、長さの byte のとおりの長さで、63 byte を越えない。 -/
theorem length_labelAt {name : DnsName} {offset found : Nat} (h : dnsLabel name offset = .ok found) :
    (labelAt name found).length = labelLen name found ∧ labelLen name found < 64 := by
  obtain ⟨-, hc, hin⟩ := dnsLabel_ok h
  refine ⟨?_, toNat_lt_of_not_isCompressed hc⟩
  simp only [labelAt, List.length_take, List.length_drop]
  unfold DnsName.len at hin
  omega

/-! ## 辿った列

`dnsLabels` を開くのは一歩の式 `dnsLabels_succ_eq` だけで、ほかは一歩の形
（`dnsLabels_succ`、`dnsLabels_succ_error`）とその逆（`dnsLabels_succ_of_root`、
`dnsLabels_succ_of_label`）を使う。
-/

theorem dnsLabels_succ_eq (name : DnsName) (limit offset : Nat) :
    dnsLabels name (limit + 1) offset =
      match dnsLabel name offset with
      | .error rc => .error rc
      | .ok offset =>
        if labelLen name offset = 0 then .ok []
        else (labelAt name offset :: ·) <$> dnsLabels name limit (offset + 1 + labelLen name offset) :=
  rfl

/-- 一歩で辿ったものの形：root で終わるか、label を一つ読んで先へ進むか。 -/
theorem dnsLabels_succ {name : DnsName} {limit offset : Nat} {ls : List Bytes}
    (h : dnsLabels name (limit + 1) offset = .ok ls) :
    ∃ found, dnsLabel name offset = .ok found ∧
      ((labelLen name found = 0 ∧ ls = []) ∨
        (labelLen name found ≠ 0 ∧ ∃ rest, dnsLabels name limit (found + 1 + labelLen name found) = .ok rest ∧
          ls = labelAt name found :: rest)) := by
  rw [dnsLabels_succ_eq] at h
  rcases hl : dnsLabel name offset with rc | found
  · rw [hl] at h
    cases h
  · rw [hl] at h
    dsimp only at h
    refine ⟨found, rfl, ?_⟩
    by_cases h0 : labelLen name found = 0
    · rw [if_pos h0] at h
      exact .inl ⟨h0, by cases h; rfl⟩
    · rw [if_neg h0] at h
      rcases hrest : dnsLabels name limit (found + 1 + labelLen name found) with rc | rest
      · rw [hrest] at h
        cases h
      · rw [hrest] at h
        cases h
        exact .inr ⟨h0, rest, rfl, rfl⟩

/-- 一歩で失敗するのは、`dns_label` が失敗するか、label を読んだ後の残りが失敗するときである。 -/
theorem dnsLabels_succ_error {name : DnsName} {limit offset : Nat} {rc : Rc}
    (h : dnsLabels name (limit + 1) offset = .error rc) :
    dnsLabel name offset = .error rc ∨
      ∃ found, dnsLabel name offset = .ok found ∧ labelLen name found ≠ 0 ∧
        dnsLabels name limit (found + 1 + labelLen name found) = .error rc := by
  rw [dnsLabels_succ_eq] at h
  rcases hl : dnsLabel name offset with rc' | found
  · rw [hl] at h
    cases h
    exact .inl rfl
  · rw [hl] at h
    dsimp only at h
    by_cases h0 : labelLen name found = 0
    · rw [if_pos h0] at h
      cases h
    · rw [if_neg h0] at h
      rcases hrest : dnsLabels name limit (found + 1 + labelLen name found) with rc' | rest
      · rw [hrest] at h
        cases h
        exact .inr ⟨found, rfl, h0, hrest⟩
      · rw [hrest] at h
        cases h

/-- root を読めば、辿ったものは空の列である。 -/
theorem dnsLabels_succ_of_root {name : DnsName} {limit offset found : Nat}
    (hl : dnsLabel name offset = .ok found) (h0 : labelLen name found = 0) :
    dnsLabels name (limit + 1) offset = .ok [] := by
  rw [dnsLabels_succ_eq, hl]
  exact if_pos h0

/-- label を読めば、その中身の後ろに残りを辿ったものが続く。 -/
theorem dnsLabels_succ_of_label {name : DnsName} {limit offset found : Nat} {rest : List Bytes}
    (hl : dnsLabel name offset = .ok found) (h0 : labelLen name found ≠ 0)
    (hrest : dnsLabels name limit (found + 1 + labelLen name found) = .ok rest) :
    dnsLabels name (limit + 1) offset = .ok (labelAt name found :: rest) := by
  rw [dnsLabels_succ_eq, hl]
  dsimp only
  rw [if_neg h0, hrest]
  rfl

theorem dnsLabels_error {name : DnsName} :
    ∀ {limit offset : Nat} {rc : Rc}, dnsLabels name limit offset = .error rc → rc = .einval
  | 0, _, _, h => by cases h; rfl
  | limit + 1, offset, rc, h => by
    rcases dnsLabels_succ_error h with hl | ⟨found, -, -, hrest⟩
    · exact dnsLabel_error hl
    · exact dnsLabels_error hrest

/-- 辿った label はどれも空でなく 63 byte 以下で、数は fuel より少ない。 -/
theorem dnsLabels_ok {name : DnsName} :
    ∀ {limit offset : Nat} {ls : List Bytes}, dnsLabels name limit offset = .ok ls →
      ls.length < limit ∧ ∀ l ∈ ls, LabelOk l
  | 0, _, _, h => by cases h
  | limit + 1, offset, ls, h => by
    obtain ⟨found, hl, ⟨-, rfl⟩ | ⟨h0, rest, hrest, rfl⟩⟩ := dnsLabels_succ h
    · simp
    · obtain ⟨hlen, hok⟩ := dnsLabels_ok hrest
      obtain ⟨hl1, hl2⟩ := length_labelAt hl
      refine ⟨by simp; omega, ?_⟩
      intro l hmem
      rcases List.mem_cons.mp hmem with rfl | hmem
      · exact ⟨by omega, by unfold dnsMaxLabelLen; omega⟩
      · exact hok l hmem

/-! ## 圧縮しない形を辿る -/

theorem length_encodeLabels : ∀ ls : List Bytes, ls.length < (encodeLabels ls).length
  | [] => by simp [encodeLabels]
  | l :: ls => by
    have := length_encodeLabels ls
    simp [encodeLabels]
    omega

/-- 前後に何があっても、圧縮しない形を辿れば元の label が返る。 -/
theorem dnsLabels_encodeLabels {off : Nat} :
    ∀ {ls : List Bytes} {pre post : Bytes} {limit : Nat}, (∀ l ∈ ls, LabelOk l) → ls.length < limit →
      dnsLabels ⟨pre ++ encodeLabels ls ++ post, off⟩ limit pre.length = .ok ls
  | [], pre, post, limit + 1, _, _ => by
    have hplain : dnsLabel ⟨pre ++ encodeLabels [] ++ post, off⟩ pre.length = .ok pre.length := by
      apply dnsLabel_of_plain <;> simp [encodeLabels, labelLen, DnsName.len, isCompressed]
    exact dnsLabels_succ_of_root hplain (by simp [labelLen, encodeLabels])
  | l :: ls, pre, post, limit + 1, hok, hlen => by
    obtain ⟨hpos, hmax⟩ := hok l (by simp)
    have hbyte : (pre ++ encodeLabels (l :: ls) ++ post).getD pre.length 0 = UInt8.ofNat l.length := by
      simp [encodeLabels]
    have hlabelLen : labelLen ⟨pre ++ encodeLabels (l :: ls) ++ post, off⟩ pre.length = l.length := by
      unfold dnsMaxLabelLen at hmax
      rw [labelLen, hbyte, UInt8.toNat_ofNat_of_lt' (by simp [UInt8.size]; omega)]
    have hin : pre.length + 1 + labelLen ⟨pre ++ encodeLabels (l :: ls) ++ post, off⟩ pre.length ≤
        (pre ++ encodeLabels (l :: ls) ++ post).length := by
      have := length_encodeLabels ls
      rw [hlabelLen]
      simp only [encodeLabels, List.length_append, List.length_cons]
      omega
    have hplain : dnsLabel ⟨pre ++ encodeLabels (l :: ls) ++ post, off⟩ pre.length = .ok pre.length := by
      apply dnsLabel_of_plain _ hin
      rw [hbyte]
      exact isCompressed_ofNat (by unfold dnsMaxLabelLen at hmax; omega)
    have hlabel : labelAt ⟨pre ++ encodeLabels (l :: ls) ++ post, off⟩ pre.length = l := by
      rw [labelAt, hlabelLen]
      simp [encodeLabels]
    -- 次の label は `pre ++ [長さ] ++ l` の後ろから始まる
    have hdata : pre ++ encodeLabels (l :: ls) ++ post = (pre ++ UInt8.ofNat l.length :: l) ++ encodeLabels ls ++ post := by
      simp [encodeLabels]
    have hrest := @dnsLabels_encodeLabels off ls (pre ++ UInt8.ofNat l.length :: l) post limit
      (fun l' hl' => hok l' (by simp [hl'])) (by simpa using hlen)
    rw [← hdata] at hrest
    have hnext : pre.length + 1 + l.length = (pre ++ UInt8.ofNat l.length :: l).length := by
      simp; omega
    have hrest' : dnsLabels ⟨pre ++ encodeLabels (l :: ls) ++ post, off⟩ limit
        (pre.length + 1 + labelLen ⟨pre ++ encodeLabels (l :: ls) ++ post, off⟩ pre.length) = .ok ls := by
      rw [hlabelLen, hnext]
      exact hrest
    have hstep := dnsLabels_succ_of_label hplain (by rw [hlabelLen]; omega) hrest'
    rwa [hlabel] at hstep

/-! ## `dns_decode` -/

/-- 出力の頭に `t` を書いた buffer に、入るなら一つ足す。 -/
theorem fillAt_push (out t : Bytes) (c : UInt8) :
    (if t.length < out.length then (fillAt out 0 t).set (min t.length out.length) c else fillAt out 0 t) =
      fillAt out 0 (t ++ [c]) := by
  have hset := fillAt_set out 0 t c
  rw [Nat.zero_add] at hset
  split
  · next hlt => rw [Nat.min_eq_left (Nat.le_of_lt hlt), hset]
  · next hge => rw [← hset, List.set_eq_of_length_le (by rw [length_fillAt]; omega)]

/-- label の前の `.`：出力が空でなければ、数えて、入るなら書く。 -/
theorem fillAt_dot (out t : Bytes) :
    (if t.length = 0 then (t.length, min t.length out.length, fillAt out 0 t)
      else if t.length < out.length then
        (t.length + 1, min t.length out.length + 1, (fillAt out 0 t).set (min t.length out.length) dot)
      else (t.length + 1, min t.length out.length, fillAt out 0 t)) =
    ((if t = [] then [] else t ++ [dot]).length, min (if t = [] then [] else t ++ [dot]).length out.length,
      fillAt out 0 (if t = [] then [] else t ++ [dot])) := by
  by_cases ht : t = []
  · subst ht
    simp
  · have hpush := fillAt_push out t dot
    rw [if_neg (by simpa using ht), if_neg ht, ← hpush]
    split
    · next hlt => simp; omega
    · next hge => simp; omega

/-- label の中身を、出力の頭に書いた `u` の後ろに入るだけ写す。 -/
theorem fillAt_label (out u l : Bytes) :
    splice (fillAt out 0 u) (min u.length out.length) (l.take (min (out.length - u.length) l.length)) =
      fillAt out 0 (u ++ l) := by
  have happ := fillAt_append out 0 u l
  rw [Nat.zero_add] at happ
  by_cases hle : u.length ≤ out.length
  · rw [Nat.min_eq_left hle, ← happ]
    rw [List.take_eq_take_min (i := out.length - u.length)]
  · have h0 : out.length - u.length = 0 := by omega
    rw [h0, Nat.zero_min, List.take_zero, splice_nil, ← happ, h0, List.take_zero, splice_nil]

/-- 出力した文字列 `t` の後ろに label を続けたもの。`t` が空でなければ `.` でつなぐ。 -/
def appendLabels (t : Bytes) (ls : List Bytes) : Bytes := if t = [] then joinLabels ls else t ++ dotted ls

theorem appendLabels_nil (t : Bytes) : appendLabels t [] = t := by
  by_cases ht : t = [] <;> simp [appendLabels, ht, joinLabels, dotted]

theorem appendLabels_cons (t : Bytes) {l : Bytes} (ls : List Bytes) (hl : l ≠ []) :
    appendLabels t (l :: ls) = appendLabels (if t = [] then l else t ++ dot :: l) ls := by
  by_cases ht : t = [] <;> simp [appendLabels, ht, hl, joinLabels, dotted]

theorem dnsDecodeLoop_of_dnsLabels {name : DnsName} {out : Bytes} :
    ∀ {limit offset : Nat} {ls : List Bytes} (t : Bytes), dnsLabels name limit offset = .ok ls →
      dnsDecodeLoop name out.length limit offset t.length (min t.length out.length) (fillAt out 0 t) =
        (fillAt out 0 (appendLabels t ls ++ [0]), .ok (appendLabels t ls).length)
  | 0, _, _, _, h => by cases h
  | limit + 1, offset, ls, t, h => by
    obtain ⟨found, hl, ⟨h0, rfl⟩ | ⟨h0, rest, hrest, rfl⟩⟩ := dnsLabels_succ h
    · -- root：入るなら NUL を書いて終わる
      rw [dnsDecodeLoop, hl]
      dsimp only
      rw [if_pos h0, appendLabels_nil, fillAt_push]
    · rw [dnsDecodeLoop, hl]
      dsimp only
      rw [if_neg h0, fillAt_dot]
      obtain ⟨hlen, -⟩ := length_labelAt hl
      have hne : labelAt name found ≠ [] := by
        intro he
        rw [he] at hlen
        exact h0 hlen.symm
      generalize hu : (if t = [] then [] else t ++ [dot]) = u
      have hnext : u ++ labelAt name found = if t = [] then labelAt name found else t ++ dot :: labelAt name found := by
        rw [← hu]
        split <;> simp
      have hstate : u.length + labelLen name found = (u ++ labelAt name found).length := by
        simp [hlen]
      have hptr : min u.length out.length + min (out.length - u.length) (labelLen name found) =
          min (u ++ labelAt name found).length out.length := by
        simp only [List.length_append, hlen]
        omega
      rw [← hlen, fillAt_label, hlen, hstate, hptr,
        dnsDecodeLoop_of_dnsLabels (u ++ labelAt name found) hrest, appendLabels_cons t rest hne, hnext]

theorem dnsDecodeLoop_of_error {name : DnsName} {len : Nat} :
    ∀ {limit offset decodedLen ptr : Nat} {data : Bytes} {rc : Rc}, dnsLabels name limit offset = .error rc →
      (dnsDecodeLoop name len limit offset decodedLen ptr data).2 = .error rc
  | 0, _, _, _, _, _, h => by cases h; rfl
  | limit + 1, offset, decodedLen, ptr, data, rc, h => by
    rw [dnsDecodeLoop]
    rcases dnsLabels_succ_error h with hl | ⟨found, hl, h0, hrest⟩
    · simp only [hl]
    · rw [hl]
      dsimp only
      rw [if_neg h0]
      exact dnsDecodeLoop_of_error hrest

/-- `dns_decode` は辿った label を `.` でつないで出力の頭に入るだけ書き、入れば後ろに NUL を置く。 -/
theorem dnsDecode_of_dnsWalk {name : DnsName} {ls : List Bytes} (h : dnsWalk name = .ok ls) (out : Bytes) :
    dnsDecode name out = (fillAt out 0 (joinLabels ls ++ [0]), .ok (joinLabels ls).length) := by
  have hloop := @dnsDecodeLoop_of_dnsLabels name out name.len name.offset ls [] h
  simp only [List.length_nil, Nat.zero_min, fillAt_nil] at hloop
  rw [dnsDecode, hloop]
  simp [appendLabels]

/-- `dns_decode` の戻り値は出力 buffer によらず、辿った名前だけで決まる。 -/
theorem dnsDecode_result (name : DnsName) (out : Bytes) :
    (dnsDecode name out).2 = (dnsWalk name).map (fun ls => (joinLabels ls).length) := by
  rcases hw : dnsWalk name with rc | ls
  · exact dnsDecodeLoop_of_error hw
  · rw [dnsDecode_of_dnsWalk hw]
    rfl

/-- 同じ label の列を辿る二つの名前は、同じように decode される。 -/
theorem dnsDecode_of_walk_eq {a b : DnsName} {ls : List Bytes} (ha : dnsWalk a = .ok ls)
    (hb : dnsWalk b = .ok ls) (out : Bytes) : dnsDecode a out = dnsDecode b out := by
  rw [dnsDecode_of_dnsWalk ha, dnsDecode_of_dnsWalk hb]

/-! ## `dns_copy` -/

/-- 見つかった label を長さの byte から読むと、長さの byte と中身である。 -/
theorem take_drop_of_dnsLabel {name : DnsName} {offset found : Nat} (h : dnsLabel name offset = .ok found) :
    (name.data.drop found).take (1 + labelLen name found) =
      UInt8.ofNat (labelAt name found).length :: labelAt name found := by
  obtain ⟨-, -, hin⟩ := dnsLabel_ok h
  obtain ⟨hlen, -⟩ := length_labelAt h
  unfold DnsName.len at hin
  have hlt : found < name.data.length := by omega
  have hbyte : name.data.getD found 0 = name.data[found] := by
    simp [List.getD_eq_getElem?_getD, hlt]
  rw [List.drop_eq_getElem_cons hlt, Nat.add_comm, List.take_succ_cons, hlen, labelAt]
  congr 1
  rw [labelLen, hbyte, UInt8.ofNat_toNat]

theorem dnsCopyLoop_of_dnsLabels {src : DnsName} {out : Bytes} {start : Nat} :
    ∀ {limit srcOffset : Nat} {ls : List Bytes} (e : Bytes), dnsLabels src limit srcOffset = .ok ls →
      dnsCopyLoop src start out.length limit srcOffset (start + e.length) (fillAt out start e) =
        (fillAt out start (e ++ encodeLabels ls), .ok (e ++ encodeLabels ls).length)
  | 0, _, _, _, h => by cases h
  | limit + 1, srcOffset, ls, e, h => by
    obtain ⟨found, hl, hstep⟩ := dnsLabels_succ h
    rw [dnsCopyLoop, hl]
    dsimp only
    -- 長さの byte ごと写すので、書くものは `encodeLabels` の頭の一つ分
    have hseg := take_drop_of_dnsLabel hl
    have hlen := (length_labelAt hl).1
    have hwrite : splice (fillAt out start e) (start + e.length)
        ((src.data.drop found).take (min (out.length - (start + e.length)) (1 + labelLen src found))) =
          fillAt out start (e ++ (UInt8.ofNat (labelAt src found).length :: labelAt src found)) := by
      rw [← List.take_take, hseg, fillAt_append]
    rcases hstep with ⟨h0, rfl⟩ | ⟨h0, rest, hrest, rfl⟩
    · -- root：長さ 0 の byte を写して終わる
      have hnil : labelAt src found = [] := List.eq_nil_of_length_eq_zero (hlen.trans h0)
      rw [if_pos h0, hwrite, hnil, h0]
      simp only [encodeLabels, List.length_append, List.length_nil, List.length_cons]
      congr 2
      omega
    · have hsrc : found + (1 + labelLen src found) = found + 1 + labelLen src found := by omega
      have hdst : start + e.length + (1 + labelLen src found) =
          start + (e ++ (UInt8.ofNat (labelAt src found).length :: labelAt src found)).length := by
        simp only [List.length_append, List.length_cons, hlen]
        omega
      rw [if_neg h0, hwrite, hsrc, hdst, dnsCopyLoop_of_dnsLabels _ hrest]
      simp [encodeLabels]

theorem dnsCopyLoop_of_error {src : DnsName} {start dstLen : Nat} :
    ∀ {limit srcOffset dstOffset : Nat} {data : Bytes} {rc : Rc}, dnsLabels src limit srcOffset = .error rc →
      (dnsCopyLoop src start dstLen limit srcOffset dstOffset data).2 = .error rc
  | 0, _, _, _, _, h => by cases h; rfl
  | limit + 1, srcOffset, dstOffset, data, rc, h => by
    rw [dnsCopyLoop]
    rcases dnsLabels_succ_error h with hl | ⟨found, hl, h0, hrest⟩
    · simp only [hl]
    · rw [hl]
      dsimp only
      rw [if_neg h0, show found + (1 + labelLen src found) = found + 1 + labelLen src found by omega]
      exact dnsCopyLoop_of_error hrest

/-- `dns_copy` は辿った label を圧縮しない形で、`dst` の位置から入るだけ書く。 -/
theorem dnsCopy_of_dnsWalk {src : DnsName} {ls : List Bytes} (h : dnsWalk src = .ok ls) (dst : DnsName) :
    dnsCopy src dst = (fillAt dst.data dst.offset (encodeLabels ls), .ok (encodeLabels ls).length) := by
  have hloop := @dnsCopyLoop_of_dnsLabels src dst.data dst.offset src.len src.offset ls [] h
  simp only [List.length_nil, Nat.add_zero, fillAt_nil, List.nil_append] at hloop
  exact hloop

/-- `dns_copy` の戻り値は `dst` によらず、辿った名前だけで決まる。 -/
theorem dnsCopy_result (src dst : DnsName) :
    (dnsCopy src dst).2 = (dnsWalk src).map (fun ls => (encodeLabels ls).length) := by
  rcases hw : dnsWalk src with rc | ls
  · exact dnsCopyLoop_of_error hw
  · rw [dnsCopy_of_dnsWalk hw]
    rfl

/-- buffer の途中に圧縮しない形で書いた名前は、その位置から辿れば元の label を返す。 -/
theorem dnsLabels_fillAt_encodeLabels {data : Bytes} {off limit : Nat} {ls : List Bytes}
    (hok : ∀ l ∈ ls, LabelOk l) (hroom : off + (encodeLabels ls).length ≤ data.length)
    (hfuel : ls.length < limit) :
    dnsLabels ⟨fillAt data off (encodeLabels ls), off⟩ limit off = .ok ls := by
  have hpre : (data.take off).length = off := by simp; omega
  have hwalk := @dnsLabels_encodeLabels off ls (data.take off) (data.drop (off + (encodeLabels ls).length))
    limit hok hfuel
  rw [hpre] at hwalk
  rw [fillAt_of_le hroom]
  exact hwalk

/-- 入る `dst` に写した名前は、元と同じ label の列を辿る。 -/
theorem dnsWalk_dnsCopy {src : DnsName} {ls : List Bytes} (h : dnsWalk src = .ok ls) {dst : DnsName}
    (hroom : dst.offset + (encodeLabels ls).length ≤ dst.len) :
    dnsWalk ⟨(dnsCopy src dst).1, dst.offset⟩ = .ok ls := by
  obtain ⟨-, hok⟩ := dnsLabels_ok h
  have hfuel : ls.length < dst.data.length := by
    have := length_encodeLabels ls
    unfold DnsName.len at hroom
    omega
  unfold dnsWalk DnsName.len
  rw [dnsCopy_of_dnsWalk h, length_fillAt]
  exact dnsLabels_fillAt_encodeLabels hok hroom hfuel

/-! ## `dns_compare` -/

/-- 二つの名前を辿れて、label が大文字と小文字を除いて等しければ、`dns_compare` は 0 を返す。 -/
theorem dnsCompareLoop_of_dnsLabels {first second : DnsName} :
    ∀ {limit o1 o2 : Nat} {ls1 ls2 : List Bytes}, dnsLabels first limit o1 = .ok ls1 →
      dnsLabels second limit o2 = .ok ls2 → ls1.map (List.map tolower) = ls2.map (List.map tolower) →
      dnsCompareLoop first second limit o1 o2 = .ok ()
  | 0, _, _, _, _, h1, _, _ => by cases h1
  | limit + 1, o1, o2, ls1, ls2, h1, h2, heq => by
    obtain ⟨f1, hl1, ⟨h10, rfl⟩ | ⟨h10, r1, hr1, rfl⟩⟩ := dnsLabels_succ h1 <;>
      obtain ⟨f2, hl2, ⟨h20, rfl⟩ | ⟨h20, r2, hr2, rfl⟩⟩ := dnsLabels_succ h2
    · -- 両方 root
      rw [dnsCompareLoop, hl1, hl2]
      simp [h10, h20]
    · cases heq
    · cases heq
    · -- 両方 label：中身が揃っていれば長さも揃う
      simp only [List.map_cons, List.cons.injEq] at heq
      obtain ⟨hhead, htail⟩ := heq
      have hlen : labelLen first f1 = labelLen second f2 := by
        rw [← (length_labelAt hl1).1, ← (length_labelAt hl2).1, ← List.length_map (f := tolower), hhead,
          List.length_map]
      rw [dnsCompareLoop, hl1, hl2]
      dsimp only
      rw [if_neg (by omega), if_neg h10, if_neg (by simpa using hhead)]
      rw [← hlen] at hr2
      exact dnsCompareLoop_of_dnsLabels hr1 hr2 htail

/-- `dns_compare` が 0 を返せば、二つの名前は辿れて、label が大文字と小文字を除いて等しい。 -/
theorem dnsLabels_of_dnsCompareLoop {first second : DnsName} :
    ∀ {limit o1 o2 : Nat}, dnsCompareLoop first second limit o1 o2 = .ok () →
      ∃ ls1 ls2, dnsLabels first limit o1 = .ok ls1 ∧ dnsLabels second limit o2 = .ok ls2 ∧
        ls1.map (List.map tolower) = ls2.map (List.map tolower)
  | 0, _, _, h => by cases h
  | limit + 1, o1, o2, h => by
    rw [dnsCompareLoop] at h
    rcases hl1 : dnsLabel first o1 with rc | f1
    · rw [hl1] at h
      cases h
    rcases hl2 : dnsLabel second o2 with rc | f2
    · rw [hl1, hl2] at h
      cases h
    rw [hl1, hl2] at h
    dsimp only at h
    by_cases hlen : labelLen first f1 = labelLen second f2
    · rw [if_neg (by simpa using hlen)] at h
      by_cases h0 : labelLen first f1 = 0
      · exact ⟨[], [], dnsLabels_succ_of_root hl1 h0, dnsLabels_succ_of_root hl2 (by omega), rfl⟩
      · rw [if_neg h0] at h
        by_cases hhead : (labelAt first f1).map tolower = (labelAt second f2).map tolower
        · rw [if_neg (by simpa using hhead)] at h
          obtain ⟨r1, r2, hr1, hr2, htail⟩ := dnsLabels_of_dnsCompareLoop h
          rw [hlen] at hr2
          refine ⟨labelAt first f1 :: r1, labelAt second f2 :: r2, dnsLabels_succ_of_label hl1 h0 hr1,
            dnsLabels_succ_of_label hl2 (by omega) hr2, ?_⟩
          simp [hhead, htail]
        · rw [if_pos (by simpa using hhead)] at h
          cases h
    · rw [if_pos (by simpa using hlen)] at h
      cases h

/-- `dns_compare` が 0 を返すのは、二つの名前を（`first->len` 回までで）辿れて、label が
大文字と小文字を除いて等しいときに限る。 -/
theorem dnsCompare_eq_ok_iff (first second : DnsName) :
    dnsCompare first second = .ok () ↔
      ∃ ls1 ls2, dnsLabels first first.len first.offset = .ok ls1 ∧
        dnsLabels second first.len second.offset = .ok ls2 ∧
        ls1.map (List.map tolower) = ls2.map (List.map tolower) := by
  constructor
  · exact dnsLabels_of_dnsCompareLoop
  · rintro ⟨ls1, ls2, h1, h2, heq⟩
    exact dnsCompareLoop_of_dnsLabels h1 h2 heq

/-! ## 辿り終わらない名前

`dns_label` は前を指す pointer しか辿らないが、pointer の先の label から先へ読み進めれば、
また同じ pointer に来られる。そういう名前（`Cyclic`）は、いくら辿っても root に着かない。
前を指す pointer に着く名前（`ReachesBadLabel`）も同じである。
-/

/-- 名前の次の label の位置。root に着くか、`dns_label` が失敗すれば `none`。 -/
def nextLabel (name : DnsName) (offset : Nat) : Option Nat :=
  match dnsLabel name offset with
  | .ok found => if labelLen name found = 0 then none else some (found + 1 + labelLen name found)
  | .error _ => none

/-- pointer が輪になった名前：辿っていくと、一度来た位置にまた来る。 -/
def Cyclic (name : DnsName) : Prop :=
  ∃ m n p, 0 < n ∧ follow (nextLabel name) m name.offset = some p ∧ follow (nextLabel name) n p = some p

/-- 辿っていくと、`dns_label` が認めない位置に着く名前。 -/
def ReachesBadLabel (name : DnsName) : Prop :=
  ∃ m p rc, follow (nextLabel name) m name.offset = some p ∧ dnsLabel name p = .error rc

/-- 前を指す pointer。 -/
def ForwardPointer (name : DnsName) (offset : Nat) : Prop :=
  isCompressed (name.data.getD offset 0) = true ∧ offset + 2 ≤ name.len ∧
    offset ≤ be16 name.data offset % 0x4000

/-- 辿り終えた名前は、label の数より一つ先で止まる。 -/
theorem follow_of_dnsLabels {name : DnsName} :
    ∀ {limit offset : Nat} {ls : List Bytes}, dnsLabels name limit offset = .ok ls →
      follow (nextLabel name) (ls.length + 1) offset = none
  | 0, _, _, h => by cases h
  | limit + 1, offset, ls, h => by
    obtain ⟨found, hl, ⟨h0, rfl⟩ | ⟨h0, rest, hrest, rfl⟩⟩ := dnsLabels_succ h
    · simp [follow, nextLabel, hl, h0]
    · rw [List.length_cons, follow]
      simp only [nextLabel, hl, if_neg h0, Option.bind_some]
      exact follow_of_dnsLabels hrest

/-- 辿り終えた名前の途中の位置では、`dns_label` は label を見つける。 -/
theorem dnsLabel_of_follow {name : DnsName} :
    ∀ {limit offset m p : Nat} {ls : List Bytes}, dnsLabels name limit offset = .ok ls →
      follow (nextLabel name) m offset = some p → ∃ found, dnsLabel name p = .ok found
  | 0, _, _, _, _, h, _ => by cases h
  | limit + 1, offset, m, p, ls, h, hp => by
    obtain ⟨found, hl, ⟨h0, rfl⟩ | ⟨h0, rest, hrest, rfl⟩⟩ := dnsLabels_succ h
    · cases m with
      | zero => cases hp; exact ⟨found, hl⟩
      | succ m => simp [follow, nextLabel, hl, h0] at hp
    · cases m with
      | zero => cases hp; exact ⟨found, hl⟩
      | succ m =>
        simp only [follow, nextLabel, hl, if_neg h0, Option.bind_some] at hp
        exact dnsLabel_of_follow hrest hp

theorem Cyclic.neverEnds {name : DnsName} (h : Cyclic name) : NeverEnds name := by
  obtain ⟨m, n, p, hn, hm, hp⟩ := h
  intro limit ls hwalk
  exact follow_ne_none_of_cycle hn hm hp _ (follow_of_dnsLabels hwalk)

theorem ReachesBadLabel.neverEnds {name : DnsName} (h : ReachesBadLabel name) : NeverEnds name := by
  obtain ⟨m, p, rc, hm, hbad⟩ := h
  intro limit ls hwalk
  obtain ⟨found, hfound⟩ := dnsLabel_of_follow hwalk hm
  rw [hfound] at hbad
  cases hbad

/-- 辿り終わらない名前は、`dns_decode` と `dns_copy` が `-EINVAL` で断り、`dns_compare` は
どちらの側に置いても 0 を返さない。 -/
theorem NeverEnds.rejected {name : DnsName} (h : NeverEnds name) :
    (∀ out, (dnsDecode name out).2 = .error .einval) ∧ (∀ dst, (dnsCopy name dst).2 = .error .einval) ∧
      ∀ other, dnsCompare name other ≠ .ok () ∧ dnsCompare other name ≠ .ok () := by
  have hwalk : dnsWalk name = .error .einval := by
    rcases hw : dnsWalk name with rc | ls
    · rw [dnsLabels_error hw]
    · exact absurd hw (h _ _)
  refine ⟨fun out => by rw [dnsDecode_result, hwalk]; rfl, fun dst => by rw [dnsCopy_result, hwalk]; rfl,
    fun other => ⟨?_, ?_⟩⟩
  · rw [Ne, dnsCompare_eq_ok_iff]
    rintro ⟨ls1, -, h1, -⟩
    exact h _ _ h1
  · rw [Ne, dnsCompare_eq_ok_iff]
    rintro ⟨-, ls2, -, h2, -⟩
    exact h _ _ h2

/-! ## 四つの loop は同じ列を辿る -/

theorem dns_names_follow_one_walk (name : DnsName) :
    (∀ out, (dnsDecode name out).2 = (dnsWalk name).map (fun ls => (joinLabels ls).length)) ∧
    (∀ dst, (dnsCopy name dst).2 = (dnsWalk name).map (fun ls => (encodeLabels ls).length)) ∧
    (∀ ls, dnsWalk name = .ok ls → ∀ dst : DnsName, dst.offset + (encodeLabels ls).length ≤ dst.len →
      (∀ out, dnsDecode ⟨(dnsCopy name dst).1, dst.offset⟩ out = dnsDecode name out) ∧
        dnsCompare name ⟨(dnsCopy name dst).1, dst.offset⟩ = .ok ()) ∧
    (Cyclic name ∨ ReachesBadLabel name →
      (∀ out, (dnsDecode name out).2 = .error .einval) ∧ (∀ dst, (dnsCopy name dst).2 = .error .einval) ∧
        ∀ other, dnsCompare name other ≠ .ok () ∧ dnsCompare other name ≠ .ok ()) := by
  refine ⟨dnsDecode_result name, dnsCopy_result name, ?_, ?_⟩
  · intro ls hwalk dst hroom
    have hcopy := dnsWalk_dnsCopy hwalk hroom
    refine ⟨dnsDecode_of_walk_eq hcopy hwalk, ?_⟩
    -- 写した名前は `name->len` 回で辿り終える：label の数は `name->len` より少ない
    obtain ⟨hlen, hok⟩ := dnsLabels_ok hwalk
    have hsecond := dnsLabels_fillAt_encodeLabels hok hroom hlen
    have hdata : (dnsCopy name dst).1 = fillAt dst.data dst.offset (encodeLabels ls) := by
      rw [dnsCopy_of_dnsWalk hwalk]
    rw [hdata]
    exact (dnsCompare_eq_ok_iff _ _).mpr ⟨ls, ls, hwalk, hsecond, rfl⟩
  · rintro (hcyc | hbad)
    · exact hcyc.neverEnds.rejected
    · exact hbad.neverEnds.rejected

theorem dnsCompare_cyclic_name_enoent :
    let cyclic : DnsName := ⟨[1, 0x61, 0xc0, 0], 0⟩
    Cyclic cyclic ∧ dnsCompare cyclic ⟨[1, 0x61, 0], 0⟩ = .error .enoent ∧ dnsSkip cyclic = .ok 4 :=
  ⟨⟨1, 1, 2, Nat.one_pos, by decide, by decide⟩, by decide, by decide⟩

end FlexBoot.Dns
