import FlexBoot.Properties.Asn1

/-!
# ASN.1 builder の出力を読み戻す

`asn1_prepend` と `asn1_wrap` は、header と中身を builder の前に足す。足した byte 列を
`asn1_enter` と `asn1_skip` で読み戻すと、足した object の中身とその後ろの元の中身に着く。

## 二段に分かれる

* **builder が書くもの**。`asn1_grow` は前に `extra` byte の場所を空け、元の中身を後ろへ写す
  （`asn1Grow_ok`）。空けた場所の中身は決まらないが、その長さだけが後で使われる。そこへ
  header と中身を `memcpy` で書くと、`header ++ data ++ b` になる（`asn1Prepend_ok`）。
* **`asn1_start` が読むもの**。header を前に置いた byte 列を、`asn1_start` は header の直後の
  object として読む（`asn1Start_header`）。そこから `asn1Enter_header` と `asn1Skip_header` が出る。

`asn1_skip` は object の後ろに何も残らないと `-ENOENT` を返して cursor を無効にするので、空の
builder に足した object は読み飛ばせない。

## header の形

`asn1_header` は長さの byte を数えてから、下の byte を後ろの位置から順に書く。その結果は DER の
最短の長さの欄である（`asn1Header_isDerLength`）。
-/

namespace FlexBoot.Asn1

open Infra FlexBoot

/-! ## builder の中身 -/

/-- builder の保持する byte 列。`NULL` で長さ 0 の builder は空の列を保持し、確保に失敗した
builder は何も保持しない。 -/
def Asn1Builder.content (B : Asn1Builder) : Option Bytes :=
  match B.data with
  | some x => some x
  | none => if B.len = 0 then some [] else none

namespace Asn1Builder

variable {B : Asn1Builder} {x : Bytes}

theorem content_cases (h : B.content = some x) :
    B.data = some x ∨ (B.data = none ∧ B.len = 0 ∧ x = []) := by
  unfold content at h
  split at h
  · next y hy =>
    cases h
    exact .inl hy
  · next hy =>
    split_ifs at h with h0
    cases h
    exact .inr ⟨hy, h0, rfl⟩

theorem len_of_content (h : B.content = some x) : B.len = x.length := by
  rcases content_cases h with hd | ⟨-, h0, rfl⟩
  · exact (B.data_len x hd).symm
  · exact h0

theorem getD_of_content (h : B.content = some x) : B.data.getD [] = x := by
  rcases content_cases h with hd | ⟨hd, -, rfl⟩ <;> rw [hd] <;> rfl

/-- 中身を保持する builder は、前の確保に失敗した builder ではない。 -/
theorem not_failed_of_content (h : B.content = some x) : ¬(B.len ≠ 0 ∧ B.data = none) := by
  rintro ⟨hlen, hnull⟩
  rcases content_cases h with hd | ⟨-, h0, -⟩
  · rw [hd] at hnull
    cases hnull
  · exact hlen h0

@[simp] theorem content_empty : Asn1Builder.empty.content = some [] := rfl

@[simp] theorem content_ofBytes (b : Bytes) : (Asn1Builder.ofBytes b).content = some b := rfl

/-- `memcpy` は確保した範囲の中なら、その位置を書き換える。 -/
theorem write_ok (off : Nat) (src : Bytes) (hB : B.data = some x) (h : off + src.length ≤ x.length) :
    (B.write off src).2 = .ok () ∧ (B.write off src).1.data = some (splice x off src) := by
  unfold Asn1Builder.write
  split
  · next hb =>
    rw [hB] at hb
    cases hb
  · next d hb =>
    rw [hB] at hb
    cases hb
    split
    · next hw =>
      rw [writeAt_eq_some h] at hw
      cases hw
    · next d' hw =>
      rw [writeAt_eq_some h] at hw
      cases hw
      exact ⟨rfl, rfl⟩

end Asn1Builder

open Asn1Builder

/-! ## `asn1_grow` -/

section Grow

variable {arch : Arch} {alloc : Nat → Bool} {B : Asn1Builder} {x : Bytes} {extra : Nat}

/-- 確保した長さ `|x| + extra` の buffer は、元の中身の後ろを 0 で埋めたものである。 -/
theorem reallocBytes_append (x : Bytes) (extra : Nat) :
    reallocBytes x (x.length + extra) = x ++ List.replicate extra 0 := by
  simp [reallocBytes, List.take_append, List.take_of_length_le (by omega : x.length ≤ x.length + extra)]

/-- 元の中身を `extra` の位置へ写すと、前の `extra` byte の後ろに元の中身が並ぶ。 -/
theorem memmoveIn_grow (x : Bytes) (extra : Nat) :
    memmoveIn (x ++ List.replicate extra 0) extra 0 x.length =
      some ((x ++ List.replicate extra 0).take extra ++ x) := by
  have hlen : (x ++ List.replicate extra 0).length = x.length + extra := by simp
  unfold memmoveIn
  rw [sliceAt_eq_some (by omega), List.drop_zero, List.take_left' rfl, Option.bind_some,
    writeAt_eq_some (by omega), splice, List.drop_eq_nil_of_le (by omega), List.append_nil]

/-- **`asn1_grow` は、確保が成功すれば前に `extra` byte を空けて元の中身を後ろへ写す。** -/
theorem asn1Grow_ok (hB : B.content = some x) (hfit : x.length + extra < 2 ^ arch.longBits)
    (halloc : alloc (x.length + extra) = true) :
    (asn1Grow arch alloc B extra).2 = .ok () ∧
      ∃ G : Bytes, G.length = extra ∧ (asn1Grow arch alloc B extra).1.data = some (G ++ x) := by
  have hlen := len_of_content hB
  have hmove := memmoveIn_grow x extra
  rw [← reallocBytes_append] at hmove
  unfold asn1Grow
  rw [if_neg (not_failed_of_content hB)]
  dsimp only
  -- `B.len` は builder の証明の中にも現れるので、書き換えるのは分けた後の仮定だけにする
  rw [if_neg (by rw [hlen, Nat.mod_eq_of_lt hfit]; simp [halloc])]
  split
  · next buf' h =>
    rw [hlen, Nat.mod_eq_of_lt hfit, getD_of_content hB, hmove] at h
    cases h
    refine ⟨rfl, _, ?_, rfl⟩
    simp [reallocBytes_append]
  · next h =>
    rw [hlen, Nat.mod_eq_of_lt hfit, getD_of_content hB, hmove] at h
    cases h

end Grow

/-! ## `asn1_prepend` と `asn1_wrap` -/

section Prepend

variable {arch : Arch} {alloc : Nat → Bool} {B : Asn1Builder} {x : Bytes} {type : Nat}

/-- **`asn1_prepend` は、確保が成功すれば header と `d` を中身の前に足す。** -/
theorem asn1Prepend_ok {d : Bytes}
    (hfit : x.length + ((asn1Header type d.length).length + d.length) < 2 ^ arch.longBits)
    (halloc : alloc (x.length + ((asn1Header type d.length).length + d.length)) = true)
    (hB : B.content = some x) :
    (asn1Prepend arch alloc B type d).2 = .ok () ∧
      (asn1Prepend arch alloc B type d).1.data = some (asn1Header type d.length ++ d ++ x) := by
  unfold asn1Prepend
  dsimp only
  generalize asn1Header type d.length = hdr at hfit halloc ⊢
  rw [Nat.mod_eq_of_lt (by omega)]
  obtain ⟨hok, G, hG, hdata⟩ := asn1Grow_ok hB hfit halloc
  rcases hg : asn1Grow arch alloc B (hdr.length + d.length) with ⟨B₁, r₁⟩
  rw [hg] at hok hdata
  cases hok
  -- 空けた場所の前の `|hdr|` byte に header を書き、残りの `|d|` byte に `d` を書く
  rw [← List.take_append_drop hdr.length G, List.append_assoc] at hdata
  obtain ⟨hw₁, hd₁⟩ := write_ok 0 hdr hdata (by simp; omega)
  rw [splice_front (by simp; omega)] at hd₁
  rcases hw : B₁.write 0 hdr with ⟨B₂, r₂⟩
  rw [hw] at hw₁ hd₁
  cases hw₁
  obtain ⟨hw₂, hd₂⟩ := write_ok hdr.length d hd₁ (by simp; omega)
  rw [← List.append_assoc, splice_append_left (by simp; omega),
    splice_append_of_length_eq (by simp; omega)] at hd₂
  dsimp only
  rw [hw]
  exact ⟨hw₂, hd₂⟩

/-- **`asn1_wrap` は、確保が成功すれば今の中身を包む header を前に足す。** -/
theorem asn1Wrap_ok (hfit : x.length + (asn1Header type x.length).length < 2 ^ arch.longBits)
    (halloc : alloc (x.length + (asn1Header type x.length).length) = true)
    (hB : B.content = some x) :
    (asn1Wrap arch alloc B type).2 = .ok () ∧
      (asn1Wrap arch alloc B type).1.data = some (asn1Header type x.length ++ x) := by
  unfold asn1Wrap
  dsimp only
  rw [len_of_content hB]
  generalize asn1Header type x.length = hdr at hfit halloc ⊢
  obtain ⟨hok, G, hG, hdata⟩ := asn1Grow_ok hB hfit halloc
  rcases hg : asn1Grow arch alloc B hdr.length with ⟨B₁, r₁⟩
  rw [hg] at hok hdata
  cases hok
  obtain ⟨hw, hd⟩ := write_ok 0 hdr hdata (by simp; omega)
  rw [splice_front hG] at hd
  exact ⟨hw, hd⟩

end Prepend

/-! ## 足した object を読み戻す -/

section ReadBack

variable {type : Nat} {d rest : Bytes}

/-- header の後に中身と残りを置いた byte 列に、`asn1_enter` は中身の位置と長さで入る。 -/
theorem asn1Enter_header (ht : type < 256) (hd : d.length < 2 ^ 31) :
    asn1Enter (asn1Header type d.length ++ d ++ rest)
        ⟨0, (asn1Header type d.length ++ d ++ rest).length⟩ type =
      (some ⟨(asn1Header type d.length).length, d.length⟩, .ok ()) := by
  have h := asn1Start_header [] (d ++ rest) type d.length ht (by omega) (by simp)
  rw [List.nil_append, List.length_nil, Nat.zero_add, if_pos hd] at h
  unfold asn1Enter
  rw [List.append_assoc, List.length_append, h]

/-- `asn1_skip` は中身を読み飛ばして残りの先頭に着く。残りが空なら `-ENOENT` で cursor を無効にする。 -/
theorem asn1Skip_header (ht : type < 256) (hd : d.length < 2 ^ 31) :
    asn1Skip (asn1Header type d.length ++ d ++ rest)
        ⟨0, (asn1Header type d.length ++ d ++ rest).length⟩ type =
      if rest = [] then (none, .error .noent)
      else (some ⟨(asn1Header type d.length).length + d.length, rest.length⟩, .ok ()) := by
  have h := asn1Start_header [] (d ++ rest) type d.length ht (by omega) (by simp)
  rw [List.nil_append, List.length_nil, Nat.zero_add, if_pos hd] at h
  unfold asn1Skip asn1SkipIfExists
  rw [List.append_assoc, List.length_append, h]
  dsimp only
  have hrest : (d ++ rest).length - d.length = rest.length := by simp
  rw [hrest]
  -- 読み飛ばした後の長さが 0 かどうかは、残りが空かどうかである
  by_cases hr : rest = []
  · subst hr
    rfl
  · have hlen : rest.length ≠ 0 := by simpa using hr
    rw [if_neg hlen, if_neg hr]

end ReadBack

/-! ## header の形 -/

/-- `enc` は長さ `len` の DER の長さの欄である。128 より小さい長さは一 byte の短い形で書き、
それ以外は `0x80` の bit と長さの byte の数を書いた byte の後に、`len` を上の桁から書いた byte が
続く。先頭の長さの byte は 0 でなく（最短の形）、byte の数は予約された `0x7f` に届かない。 -/
def IsDerLength (len : Nat) : Bytes → Prop
  | [] => False
  | l :: ds =>
    if len < 0x80 then l.toNat = len ∧ ds = []
    else
      l.toNat &&& 0x80 ≠ 0 ∧ l.toNat &&& 0x7f = ds.length ∧ ds.length < 0x7f ∧
        (ds.map UInt8.toNat).headD 0 ≠ 0 ∧ horner 256 0 (ds.map UInt8.toNat) = len

instance (len : Nat) : (enc : Bytes) → Decidable (IsDerLength len enc)
  | [] => inferInstanceAs (Decidable False)
  | _ :: _ => inferInstanceAs (Decidable (ite _ _ _))

example : IsDerLength 0x100 [0x82, 0x01, 0x00] ∧ ¬IsDerLength 0x100 [0x83, 0x00, 0x01, 0x00] := by
  decide

/-- `size_t` の幅は 8 bit の byte の数で書ける。 -/
theorem two_pow_longBits (arch : Arch) : 2 ^ arch.longBits = 256 ^ (arch.longBits / 8) := by
  cases arch <;> rfl

/-- `size_t` の長さは、`sizeof ( size_t )` 個以下の長さの byte で書ける。 -/
theorem asn1HeaderLenLen_le_sizeof (arch : Arch) {len : Nat} (hpos : 0 < len)
    (hlen : len < 2 ^ arch.longBits) : asn1HeaderLenLen len len ≤ arch.longBits / 8 :=
  asn1HeaderLenLen_le hpos (two_pow_longBits arch ▸ hlen)

theorem sizeof_le_eight (arch : Arch) : arch.longBits / 8 ≤ 8 := by
  cases arch <;> decide

/-- **`asn1_header` は type の byte の後に、`len` の最短の DER の長さの欄を書く。** -/
theorem asn1Header_isDerLength (arch : Arch) (type len : Nat) (hlen : len < 2 ^ arch.longBits) :
    (asn1Header type len).head? = some (UInt8.ofNat type) ∧ IsDerLength len (asn1Header type len).tail := by
  by_cases hs : len < 0x80
  · -- 短い形
    rw [asn1Header, if_pos hs]
    refine ⟨rfl, ?_⟩
    simp only [List.tail_cons, IsDerLength, if_pos hs, and_true]
    simp [Nat.mod_eq_of_lt (by omega : len < 256)]
  · -- 長い形：長さの byte の数は `sizeof ( size_t )` 以下なので、`0x7f` にも届かない
    have hpos : 0 < len := by omega
    have hn := asn1HeaderLenLen_le_sizeof arch hpos hlen
    have h8 := sizeof_le_eight arch
    obtain ⟨hlong, hlow⟩ := longForm_bits (asn1HeaderLenLen len len) (by omega)
    rw [asn1Header, if_neg hs]
    refine ⟨rfl, ?_⟩
    simp only [List.tail_cons, IsDerLength, if_neg hs]
    rw [← asn1HeaderLenLen_eq_length]
    exact ⟨hlong, hlow, by omega, (headD_asn1HeaderLength_pos len hpos).ne',
      horner_asn1HeaderLength len hpos⟩

/-! ## builder の出力を読み戻す -/

/-- 空の builder に足した object の後ろには何もないので、`asn1_skip` は `-ENOENT` を返して
cursor を無効にする。 -/
theorem asn1Skip_fails_after_prepend_to_empty :
    (asn1Prepend .x86_64 (fun _ => true) Asn1Builder.empty 0x02 [0x01]).1.data = some [0x02, 0x01, 0x01] ∧
      asn1Skip [0x02, 0x01, 0x01] ⟨0, 3⟩ 0x02 = (none, .error .noent) := by
  decide

/-- **builder の出力は読み戻せる。** 確保が成功し、新しい長さが `size_t` に収まれば、
`asn1_prepend` の出力に `asn1_enter` は足した中身の位置と長さで入り、`asn1_skip` は元の中身の
先頭に着く（元の中身が空なら `-ENOENT`）。`asn1_wrap` の出力には、元の中身の長さが `int` に
収まれば、`asn1_enter` はちょうど元の中身で入る。header は最短の DER の長さの欄である。 -/
theorem asn1_builder_output_parses_back (arch : Arch) (alloc : Nat → Bool) (B : Asn1Builder)
    (b : Bytes) (type : Nat) (hB : B.content = some b) (ht : type < 256) :
    (∀ d : Bytes, d.length < 2 ^ 31 →
      b.length + ((asn1Header type d.length).length + d.length) < 2 ^ arch.longBits →
      alloc (b.length + ((asn1Header type d.length).length + d.length)) = true →
      (asn1Prepend arch alloc B type d).2 = .ok () ∧
      (asn1Prepend arch alloc B type d).1.data = some (asn1Header type d.length ++ d ++ b) ∧
      asn1Enter (asn1Header type d.length ++ d ++ b)
          ⟨0, (asn1Header type d.length ++ d ++ b).length⟩ type =
        (some ⟨(asn1Header type d.length).length, d.length⟩, .ok ()) ∧
      asn1Skip (asn1Header type d.length ++ d ++ b)
          ⟨0, (asn1Header type d.length ++ d ++ b).length⟩ type =
        if b = [] then (none, .error .noent)
        else (some ⟨(asn1Header type d.length).length + d.length, b.length⟩, .ok ())) ∧
    (b.length < 2 ^ 31 →
      b.length + (asn1Header type b.length).length < 2 ^ arch.longBits →
      alloc (b.length + (asn1Header type b.length).length) = true →
      (asn1Wrap arch alloc B type).2 = .ok () ∧
      (asn1Wrap arch alloc B type).1.data = some (asn1Header type b.length ++ b) ∧
      asn1Enter (asn1Header type b.length ++ b) ⟨0, (asn1Header type b.length ++ b).length⟩ type =
        (some ⟨(asn1Header type b.length).length, b.length⟩, .ok ())) ∧
    (∀ len, len < 2 ^ arch.longBits →
      (asn1Header type len).head? = some (UInt8.ofNat type) ∧
        IsDerLength len (asn1Header type len).tail) := by
  refine ⟨fun d hd hfit halloc => ?_, fun hb hfit halloc => ?_,
    fun len hlen => asn1Header_isDerLength arch type len hlen⟩
  · obtain ⟨hok, hdata⟩ := asn1Prepend_ok hfit halloc hB
    exact ⟨hok, hdata, asn1Enter_header ht hd, asn1Skip_header ht hd⟩
  · obtain ⟨hok, hdata⟩ := asn1Wrap_ok hfit halloc hB
    -- 包んだ object の後ろには何もない
    have henter : asn1Enter (asn1Header type b.length ++ b ++ [])
        ⟨0, (asn1Header type b.length ++ b ++ []).length⟩ type = _ := asn1Enter_header ht hb
    rw [List.append_nil] at henter
    exact ⟨hok, hdata, henter⟩

theorem asn1_builder_output_parses_back_on_integer :
    (Asn1Builder.ofBytes [0x05, 0x00]).content = some [0x05, 0x00] ∧ 0x02 < 256 ∧
      (asn1Prepend .x86_64 (fun _ => true) (.ofBytes [0x05, 0x00]) 0x02 [0x01]).1.data =
        some [0x02, 0x01, 0x01, 0x05, 0x00] ∧
      asn1Skip [0x02, 0x01, 0x01, 0x05, 0x00] ⟨0, 5⟩ 0x02 = (some ⟨3, 2⟩, .ok ()) := by
  obtain ⟨-, hdata, -, hskip⟩ := (asn1_builder_output_parses_back .x86_64 (fun _ => true)
    (.ofBytes [0x05, 0x00]) [0x05, 0x00] 0x02 rfl (by decide)).1 [0x01] (by decide) (by decide) rfl
  exact ⟨rfl, by decide, hdata, hskip⟩

end FlexBoot.Asn1
