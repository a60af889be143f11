import FlexBoot.Crypto.Asn1

/-!
# ASN.1 の長さの読み書き

`asn1_header` が書く長さの欄は最小の DER の形で、`asn1_start` はそれを正しく読み戻す。
一方で `asn1_start` の長さの loop は `unsigned int` の中で回るので、5 byte 以上の長さの欄は
上の桁を失い、不定長の `0x80` は長さ 0 として読まれる。

## 主な結果

* `asn1HeaderLength_eq_digitsMsb` — 長さの byte は `len` の 256 進表記である
* `asn1Start_header` — header を前に置いた byte 列を、`asn1_start` は header の直後の長さ `len` の
  中身として読む
* `asn1Start_misreads_length` — 長さ `2 ^ 32` の欄と不定長の印を、どちらも長さ 0 と読む
* `asn1_cursors_stay_within` — それでも、成功した `asn1_enter`、`asn1_skip`、`asn1_shrink` の
  cursor は元の cursor の中にある
-/

namespace FlexBoot.Asn1

open Infra FlexBoot

/-! ## 長さの byte -/

theorem asn1HeaderLength_zero (fuel : Nat) : asn1HeaderLength fuel 0 = [] := by
  cases fuel <;> rfl

/-- 長さの byte は、上の桁から並べた `len` の 256 進表記である。 -/
theorem asn1HeaderLength_eq_digitsMsb :
    ∀ (fuel n : Nat), 0 < n → asn1HeaderLength fuel n = digitsMsb 256 UInt8.ofNat fuel n
  | 0, _, _ => rfl
  | fuel + 1, n, hn => by
    have hdiv : n >>> 8 = n / 256 := Nat.shiftRight_eq_div_pow n 8
    have hmod : n &&& 0xff = n % 256 := Nat.and_two_pow_sub_one_eq_mod n 8
    rw [asn1HeaderLength, if_neg (Nat.pos_iff_ne_zero.mp hn), digitsMsb_succ, hdiv, hmod]
    split
    · next hq => rw [hq, asn1HeaderLength_zero]
    · next hq => rw [asn1HeaderLength_eq_digitsMsb fuel (n / 256) (Nat.pos_of_ne_zero hq)]

/-- `len_len` は、書いた長さの byte の数である。 -/
theorem asn1HeaderLenLen_eq_length :
    ∀ (fuel n : Nat), asn1HeaderLenLen fuel n = (asn1HeaderLength fuel n).length
  | 0, _ => rfl
  | fuel + 1, n => by
    rw [asn1HeaderLenLen, asn1HeaderLength]
    split
    · rfl
    · rw [List.length_append, List.length_singleton, asn1HeaderLenLen_eq_length fuel]

/-- 長さの byte の数値としての並び。 -/
theorem map_toNat_asn1HeaderLength (n : Nat) (hn : 0 < n) :
    (asn1HeaderLength n n).map UInt8.toNat = digitsMsb 256 id n n := by
  rw [asn1HeaderLength_eq_digitsMsb n n hn, digitsMsb_eq_map, List.map_map]
  refine (List.map_congr_left fun d hd => ?_).trans (List.map_id _)
  have hd : d < 256 := lt_of_mem_digitsMsb (by decide) hd
  simp [Nat.mod_eq_of_lt hd]

theorem horner_asn1HeaderLength (n : Nat) (hn : 0 < n) :
    horner 256 0 ((asn1HeaderLength n n).map UInt8.toNat) = n := by
  rw [map_toNat_asn1HeaderLength n hn]
  exact horner_digitsMsb (Nat.lt_pow_self (by decide))

/-- 最小の形：先頭の長さの byte は 0 でない。 -/
theorem headD_asn1HeaderLength_pos (n : Nat) (hn : 0 < n) :
    0 < ((asn1HeaderLength n n).map UInt8.toNat).headD 0 := by
  rw [map_toNat_asn1HeaderLength n hn]
  exact headD_digitsMsb_pos (by decide) hn (Nat.lt_pow_self (by decide))

/-- `256 ^ k` より小さい長さは `k` byte 以下で書ける。 -/
theorem asn1HeaderLenLen_le {n k : Nat} (hn : 0 < n) (hk : n < 256 ^ k) : asn1HeaderLenLen n n ≤ k := by
  have hk0 : 0 < k := by
    rcases Nat.eq_zero_or_pos k with rfl | hk0
    · rw [Nat.pow_zero] at hk
      omega
    · exact hk0
  rw [asn1HeaderLenLen_eq_length, asn1HeaderLength_eq_digitsMsb n n hn]
  exact length_digitsMsb_le hk0 hk

/-! ## 長さの欄を読む -/

/-- `len <<= 8; len |= byte` は、`unsigned int` の中で 256 倍して足すことである。 -/
theorem shiftLeft_or_byte (acc b : Nat) (hb : b < 256) :
    (acc <<< 8) % 2 ^ 32 ||| b = (acc * 256 + b) % 2 ^ 32 := by
  have hlow : (acc <<< 8) % 2 ^ 32 = (acc % 2 ^ 24) <<< 8 := by
    rw [Nat.shiftLeft_eq, Nat.shiftLeft_eq]
    omega
  rw [hlow, ← Nat.shiftLeft_add_eq_or_of_lt (show b < 2 ^ 8 by simpa using hb), Nat.shiftLeft_eq]
  omega

theorem getD_of_drop_eq {buf rest : Bytes} {n : Nat} {d : UInt8} (h : buf.drop n = d :: rest) :
    buf.getD n 0 = d := by
  have h0 := congrArg (·[0]?) h
  simp only [List.getElem?_drop, Nat.add_zero, List.getElem?_cons_zero] at h0
  simp [List.getD_eq_getElem?_getD, h0]

theorem drop_succ_of_drop_eq {buf rest : Bytes} {n : Nat} {d : UInt8} (h : buf.drop n = d :: rest) :
    buf.drop (n + 1) = rest := by
  rw [← List.drop_drop, h, List.drop_one, List.tail_cons]

/-- 長さの loop は cursor の先の `ds` を上の桁から読み、`2 ^ 32` で巻き戻した値を返す。 -/
theorem asn1StartLen_read (buf : Bytes) :
    ∀ (ds rest : Bytes) (acc : Nat) (c : Asn1Cursor), buf.drop c.data = ds ++ rest → acc < 2 ^ 32 →
      asn1StartLen buf ds.length acc c =
        (horner 256 acc (ds.map UInt8.toNat) % 2 ^ 32, ⟨c.data + ds.length, c.len - ds.length⟩)
  | [], _, acc, c, _, hacc => by
    simp only [asn1StartLen, List.length_nil, List.map_nil, horner_nil, Nat.add_zero, Nat.sub_zero,
      Nat.mod_eq_of_lt hacc]
  | d :: ds, rest, acc, c, hbuf, _ => by
    have hbyte : c.byte buf = d.toNat := by
      rw [Asn1Cursor.byte, getD_of_drop_eq hbuf]
    rw [List.length_cons, asn1StartLen, hbyte, shiftLeft_or_byte acc d.toNat d.toNat_lt,
      asn1StartLen_read buf ds rest _ c.next (drop_succ_of_drop_eq hbuf) (Nat.mod_lt _ (by decide))]
    simp only [List.map_cons, horner_cons, horner_mod, Asn1Cursor.next]
    congr 2 <;> omega

/-- 長さの loop は、何を読んでも cursor を `n` byte 進める。 -/
theorem asn1StartLen_cursor (buf : Bytes) :
    ∀ (n acc : Nat) (c : Asn1Cursor), (asn1StartLen buf n acc c).2 = ⟨c.data + n, c.len - n⟩
  | 0, _, c => rfl
  | n + 1, acc, c => by
    rw [asn1StartLen, asn1StartLen_cursor buf n]
    simp only [Asn1Cursor.next, Asn1Cursor.mk.injEq]
    omega

/-! ## `asn1_start` の成功する二つの形 -/

section Start

variable {buf : Bytes} {c : Asn1Cursor} {type : Nat} {t l : UInt8} {rest : Bytes}

theorem byte_of_drop_eq (hbuf : buf.drop c.data = t :: rest) : c.byte buf = t.toNat := by
  rw [Asn1Cursor.byte, getD_of_drop_eq hbuf]

theorem not_typeMismatch (htype : type = asn1Any ∨ type = t.toNat) (h0 : c.byte buf = t.toNat) :
    ¬(type ≠ asn1Any ∧ type ≠ c.byte buf) := by
  rintro ⟨hany, ht⟩
  rcases htype with h | h
  · exact hany h
  · exact ht (h0 ▸ h)

/-- 短い形の長さの欄：長さの byte がそのまま長さで、中身はその直後から始まる。 -/
theorem asn1Start_short (hbuf : buf.drop c.data = t :: l :: rest)
    (htype : type = asn1Any ∨ type = t.toNat) (hl : l.toNat < 0x80) (hlen : 2 + l.toNat ≤ c.len) :
    asn1Start buf c type = (⟨c.data + 2, c.len - 2⟩, .ok l.toNat) := by
  have h1 : c.next.byte buf = l.toNat := byte_of_drop_eq (drop_succ_of_drop_eq hbuf)
  have hshort : l.toNat &&& 0x80 = 0 := (by decide : ∀ n < 0x80, n &&& 0x80 = 0) _ hl
  have hloop := asn1StartLen_read buf [l] rest 0 c.next (drop_succ_of_drop_eq hbuf) (by decide)
  have hl32 : l.toNat < 2 ^ 32 := by
    have := l.toNat_lt
    omega
  simp only [List.length_singleton, List.map_cons, List.map_nil, horner_cons, horner_nil,
    Nat.zero_mul, Nat.zero_add, Nat.mod_eq_of_lt hl32] at hloop
  unfold asn1Start
  rw [if_neg (by omega), if_neg (not_typeMismatch htype (byte_of_drop_eq hbuf))]
  simp only [h1, hshort, ne_eq, not_true_eq_false, if_false]
  rw [if_neg (by simp only [Asn1Cursor.next]; omega), hloop,
    if_neg (by simp only [Asn1Cursor.next]; omega), if_pos (by omega)]
  rfl

/-- 長い形の長さの欄：長さの byte の数 `ds.length` の後に、長さを上の桁から書いた `ds` が続く。
長さは `2 ^ 32` で巻き戻して読み、`2 ^ 31` 以上なら負の値として返る。 -/
theorem asn1Start_long {ds : Bytes} (hbuf : buf.drop c.data = t :: l :: (ds ++ rest))
    (htype : type = asn1Any ∨ type = t.toNat) (hlong : l.toNat &&& 0x80 ≠ 0)
    (hn : l.toNat &&& 0x7f = ds.length)
    (hlen : 2 + ds.length + horner 256 0 (ds.map UInt8.toNat) % 2 ^ 32 ≤ c.len) :
    asn1Start buf c type =
      (⟨c.data + 2 + ds.length, c.len - 2 - ds.length⟩,
        if horner 256 0 (ds.map UInt8.toNat) % 2 ^ 32 < 2 ^ 31 then
          .ok (horner 256 0 (ds.map UInt8.toNat) % 2 ^ 32)
        else .error (.negative (horner 256 0 (ds.map UInt8.toNat) % 2 ^ 32))) := by
  have h1 : c.next.byte buf = l.toNat := byte_of_drop_eq (drop_succ_of_drop_eq hbuf)
  have hloop := asn1StartLen_read buf ds rest 0 c.next.next
    (by simpa [Asn1Cursor.next] using drop_succ_of_drop_eq (drop_succ_of_drop_eq hbuf)) (by decide)
  unfold asn1Start
  rw [if_neg (by omega), if_neg (not_typeMismatch htype (byte_of_drop_eq hbuf))]
  simp only [h1, hlong, hn, ne_eq, not_false_eq_true, if_true]
  rw [if_neg (by simp only [Asn1Cursor.next]; omega), hloop,
    if_neg (by simp only [Asn1Cursor.next]; omega)]
  rfl

end Start

/-! ## header を読み戻す -/

/-- 長い形の最初の byte。`0x80` の bit が立ち、下の 7 bit が長さの byte の数である。 -/
theorem longForm_bits (n : Nat) (hn : n < 0x80) :
    (UInt8.ofNat (0x80 ||| n)).toNat &&& 0x80 ≠ 0 ∧ (UInt8.ofNat (0x80 ||| n)).toNat &&& 0x7f = n := by
  -- simp は `toNat` を `128 ||| n % 256` の形に開く
  have key : ∀ k < 0x80, (0x80 ||| k % 256) &&& 0x80 ≠ 0 ∧ (0x80 ||| k % 256) &&& 0x7f = k := by
    decide
  simpa using key n hn

/-- **header の後に中身を置いた byte 列を、`asn1_start` は header の直後の長さ `len` の object
として読む。** `len` が `2 ^ 31` 以上なら、長さは正しく読めるが `int` では負になる。 -/
theorem asn1Start_header (pre rest : Bytes) (type len : Nat) (ht : type < 256) (h32 : len < 2 ^ 32)
    (hrest : len ≤ rest.length) :
    asn1Start (pre ++ asn1Header type len ++ rest)
        ⟨pre.length, (asn1Header type len).length + rest.length⟩ type =
      (⟨pre.length + (asn1Header type len).length, rest.length⟩,
        if len < 2 ^ 31 then .ok len else .error (.negative len)) := by
  have htype : type = asn1Any ∨ type = (UInt8.ofNat type).toNat := by
    right
    simp [Nat.mod_eq_of_lt ht]
  by_cases hs : len < 0x80
  · -- 短い形：長さの byte が一つ
    have hH : asn1Header type len = [UInt8.ofNat type, UInt8.ofNat len] := if_pos hs
    have hl : (UInt8.ofNat len).toNat = len := by simp [Nat.mod_eq_of_lt (by omega : len < 256)]
    have key := asn1Start_short (c := ⟨pre.length, (asn1Header type len).length + rest.length⟩)
      (show (pre ++ asn1Header type len ++ rest).drop pre.length =
        UInt8.ofNat type :: UInt8.ofNat len :: rest by simp [hH])
      htype (by omega) (by simp only [hH, hl, List.length_cons, List.length_nil]; omega)
    rw [key, hl, if_pos (by omega), hH]
    simp
  · -- 長い形：長さの byte の数の後に、上の桁から書いた長さが続く
    have hpos : 0 < len := by omega
    have hH : asn1Header type len = UInt8.ofNat type ::
        UInt8.ofNat (0x80 ||| asn1HeaderLenLen len len) :: asn1HeaderLength len len := if_neg hs
    have hnL := asn1HeaderLenLen_eq_length len len
    have hn4 : asn1HeaderLenLen len len ≤ 4 := asn1HeaderLenLen_le hpos (by simpa using h32)
    have hv : horner 256 0 ((asn1HeaderLength len len).map UInt8.toNat) % 2 ^ 32 = len := by
      rw [horner_asn1HeaderLength len hpos, Nat.mod_eq_of_lt h32]
    obtain ⟨hlong, hlow⟩ := longForm_bits (asn1HeaderLenLen len len) (by omega)
    have key := asn1Start_long (c := ⟨pre.length, (asn1Header type len).length + rest.length⟩)
      (show (pre ++ asn1Header type len ++ rest).drop pre.length =
        UInt8.ofNat type :: UInt8.ofNat (0x80 ||| asn1HeaderLenLen len len) ::
          (asn1HeaderLength len len ++ rest) by simp [hH])
      htype hlong (hlow.trans hnL)
      (by rw [hv, hH]; simp only [List.length_cons]; omega)
    rw [key, hv, hH]
    simp only [List.length_cons]
    congr 2 <;> omega

/-! ## 巻き戻る長さと不定長の byte

長い形の長さの欄は 127 byte まで許されるが、`len` は `unsigned int` なので 5 byte 目からは上の桁が
消える。`0x80` の後には長さの byte が一つもなく、長さ 0 として読む。 -/

/-- 長さ `2 ^ 32` を書いた 5 byte の長さの欄を、`asn1_start` は長さ 0 と読み、後ろに何が
続いても成功する。不定長の印 `0x80` も長さ 0 の object として読む。 -/
theorem asn1Start_misreads_length (t : UInt8) (rest : Bytes) :
    horner 256 0 [1, 0, 0, 0, 0] = 2 ^ 32 ∧
    asn1Start (t :: 0x85 :: ([1, 0, 0, 0, 0] ++ rest)) ⟨0, 7 + rest.length⟩ t.toNat =
      (⟨7, rest.length⟩, .ok 0) ∧
    asn1Start (t :: 0x80 :: ([] ++ rest)) ⟨0, 2 + rest.length⟩ t.toNat = (⟨2, rest.length⟩, .ok 0) := by
  have hwrap : horner 256 0 (([1, 0, 0, 0, 0] : Bytes).map UInt8.toNat) % 2 ^ 32 = 0 := by decide
  have hempty : horner 256 0 (([] : Bytes).map UInt8.toNat) % 2 ^ 32 = 0 := by decide
  have hlong : (t :: 0x85 :: ([1, 0, 0, 0, 0] ++ rest)).drop 0 = t :: 0x85 :: ([1, 0, 0, 0, 0] ++ rest) :=
    List.drop_zero
  have hindef : (t :: 0x80 :: ([] ++ rest)).drop 0 = t :: 0x80 :: ([] ++ rest) := List.drop_zero
  refine ⟨by decide, ?_, ?_⟩
  · -- 5 byte の長さの欄：上の桁の 1 が `unsigned int` の外へ消える
    rw [asn1Start_long hlong (.inr rfl) (by decide) (by decide)
      (by rw [hwrap]; simp only [List.length_cons, List.length_nil]; omega), hwrap,
      if_pos (Nat.two_pow_pos 31)]
    simp only [List.length_cons, List.length_nil, Prod.mk.injEq, Asn1Cursor.mk.injEq, true_and, and_true]
    omega
  · -- 不定長の印：長さの byte の数が 0 で、loop は一度も回らない
    rw [asn1Start_long hindef (.inr rfl) (by decide) (by decide)
      (by rw [hempty]; simp only [List.length_nil]; omega), hempty,
      if_pos (Nat.two_pow_pos 31)]
    simp only [List.length_nil, Prod.mk.injEq, Asn1Cursor.mk.injEq, true_and, and_true]
    omega

/-! ## cursor は元の cursor の中に留まる

長さを巻き戻して読んでも、`asn1_start` は読んだ長さが残りの長さに収まることを確かめてから返す。
そのため成功した `asn1_enter`、`asn1_skip`、`asn1_shrink` の cursor は、元の cursor の指す範囲の
中にある。 -/

/-- cursor `c'` の指す byte が、すべて cursor `c` の指す範囲に入る。 -/
def Asn1Cursor.Within (c' c : Asn1Cursor) : Prop :=
  c.data ≤ c'.data ∧ c'.data + c'.len ≤ c.data + c.len

instance (c' c : Asn1Cursor) : Decidable (c'.Within c) :=
  inferInstanceAs (Decidable (_ ∧ _))

namespace Asn1Cursor

variable {c c' c'' : Asn1Cursor}

theorem Within.trans (h₁ : c''.Within c') (h₂ : c'.Within c) : c''.Within c := by
  obtain ⟨h₁, h₁'⟩ := h₁
  obtain ⟨h₂, h₂'⟩ := h₂
  exact ⟨by omega, by omega⟩

theorem within_advance {k : Nat} (hk : k ≤ c.len) : (⟨c.data + k, c.len - k⟩ : Asn1Cursor).Within c := by
  constructor <;> simp only <;> omega

theorem within_next (h : 1 ≤ c.len) : c.next.Within c := within_advance h

theorem within_shorten {l : Nat} (hl : l ≤ c.len) : { c with len := l }.Within c := by
  constructor <;> simp only <;> omega

end Asn1Cursor

open Asn1Cursor

section Within

variable {buf : Bytes} {c c' : Asn1Cursor} {type len : Nat}

theorem within_asn1StartLen {n acc : Nat} (hn : n ≤ c.len) : (asn1StartLen buf n acc c).2.Within c := by
  rw [asn1StartLen_cursor]
  exact within_advance hn

/-- 成功した `asn1_start` の cursor は元の cursor の中にあり、返す長さはその残りに収まる。 -/
theorem asn1Start_ok_within (h : asn1Start buf c type = (c', .ok len)) : c'.Within c ∧ len ≤ c'.len := by
  unfold asn1Start at h
  split_ifs at h with hshort hmis
  · cases h
  · cases h
  dsimp only at h
  split_ifs at h with hlong hll hl hneg hll hl hneg <;> cases h
  -- 残るのは長さを読み終えた二つ：長い形は二 byte、短い形は一 byte 進んでから長さを読む
  · have h1 : 1 ≤ c.next.len := by
      rw [next_len]
      omega
    exact ⟨(within_asn1StartLen (by omega)).trans ((within_next h1).trans (within_next (by omega))),
      by omega⟩
  · exact ⟨(within_asn1StartLen (by omega)).trans (within_next (by omega)), by omega⟩

theorem asn1Enter_within {r : Except Asn1Error Unit} (h : asn1Enter buf c type = (some c', r)) :
    c'.Within c := by
  unfold asn1Enter at h
  split at h
  · cases h
  · next temp len hs =>
    cases h
    obtain ⟨hw, hlen⟩ := asn1Start_ok_within hs
    exact (within_shorten hlen).trans hw

theorem asn1SkipIfExists_ok_within (h : asn1SkipIfExists buf c type = (c', .ok ())) : c'.Within c := by
  unfold asn1SkipIfExists at h
  split at h
  · cases h
  · next temp len hs =>
    obtain ⟨hw, hlen⟩ := asn1Start_ok_within hs
    dsimp only at h
    split_ifs at h <;> cases h
    exact (within_advance hlen).trans hw

theorem asn1Skip_within {r : Except Asn1Error Unit} (h : asn1Skip buf c type = (some c', r)) :
    c'.Within c := by
  unfold asn1Skip at h
  split at h
  · cases h
  · next temp hs =>
    cases h
    exact asn1SkipIfExists_ok_within hs

theorem asn1Shrink_within {r : Except Asn1Error Unit} (h : asn1Shrink buf c type = (some c', r)) :
    c'.Within c := by
  unfold asn1Shrink at h
  split at h
  · cases h
  · next temp len hs =>
    cases h
    -- 元の cursor の先頭から、見つけた object の終わりまでに切る
    obtain ⟨⟨hd, hend⟩, hlen⟩ := asn1Start_ok_within hs
    exact within_shorten (by omega)

end Within

/-- **成功した `asn1_enter`、`asn1_skip`、`asn1_shrink` の cursor は、どの byte 列の上でも
元の cursor の中にある。** -/
theorem asn1_cursors_stay_within (buf : Bytes) (c c' : Asn1Cursor) (type : Nat)
    (r : Except Asn1Error Unit) :
    (asn1Enter buf c type = (some c', r) → c'.Within c) ∧
    (asn1Skip buf c type = (some c', r) → c'.Within c) ∧
    (asn1Shrink buf c type = (some c', r) → c'.Within c) :=
  ⟨asn1Enter_within, asn1Skip_within, asn1Shrink_within⟩

theorem asn1_cursors_stay_within_on_sequence :
    asn1Skip [0x30, 0x03, 0x02, 0x01, 0x05, 0x04, 0x00] ⟨0, 7⟩ 0x30 = (some ⟨5, 2⟩, .ok ()) ∧
      Asn1Cursor.Within ⟨5, 2⟩ ⟨0, 7⟩ :=
  ⟨by decide, (asn1_cursors_stay_within [0x30, 0x03, 0x02, 0x01, 0x05, 0x04, 0x00] ⟨0, 7⟩ ⟨5, 2⟩ 0x30
    (.ok ())).2.1 (by decide)⟩

end FlexBoot.Asn1
