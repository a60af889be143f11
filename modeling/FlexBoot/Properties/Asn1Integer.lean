import FlexBoot.Properties.Asn1
import Mathlib.Tactic.IntervalCases

/-!
# `asn1_integer` の値

`asn1_integer` は中身の最初の byte を `int8_t` として読み、残りの byte ごとに `int` の値を
8 bit ずらして足す。ずらす前に上の byte が `0x00` か `0xff` であることを確かめるが、それは値が
`[-2 ^ 24, 2 ^ 24)` にあるということで、ずらした値が `int` に収まるということではない。

1. loop の一回は、値を 256 倍して byte を足し、`2 ^ 32` で巻き戻す（`shiftLeft_add_byte`）。
   上の byte の検査は、値が `[-2 ^ 24, 2 ^ 24)` にないことを見る（`highByte_bad_iff`）。
2. loop の値はいつも、それまでに読んだ byte の 2 の補数の値を巻き戻したものである。そのため
   成功した `asn1_integer` の値は、中身の 2 の補数の値を `2 ^ 32` で巻き戻したものである
   （`asn1Integer_eq_bmod`）。
3. 途中の値がどれも `[-2 ^ 24, 2 ^ 24)` にあれば loop は最後まで進む（`asn1IntegerLoop_of_small`）。
   `int` に収まる値の途中の値はそこにあるので、そのような INTEGER は正しく読まれる
   （`asn1Integer_of_fits`）。
4. 一方 `00 80 00 00 00` のような 5 byte の中身では、途中の値が 3 byte に収まるので検査を通り、
   `2 ^ 31` 以上の値が負の値に巻き戻って返る（`asn1Integer_wraps_above_int_max`）。
-/

namespace FlexBoot.Asn1

open Infra FlexBoot

/-- cursor の指す byte の値。 -/
def Asn1Cursor.bytes (buf : Bytes) (c : Asn1Cursor) : List Nat :=
  ((buf.drop c.data).take c.len).map UInt8.toNat

/-- `int` に収まる。 -/
def FitsInt (v : Int) : Prop := -2 ^ 31 ≤ v ∧ v < 2 ^ 31

instance (v : Int) : Decidable (FitsInt v) := inferInstanceAs (Decidable (_ ∧ _))

theorem fitsInt_bmod (v : Int) : FitsInt (Int.bmod v (2 ^ 32)) :=
  ⟨Int.le_bmod (by decide), Int.bmod_lt (by decide)⟩

theorem bmod_of_fitsInt {v : Int} (h : FitsInt v) : Int.bmod v (2 ^ 32) = v := by
  obtain ⟨hlo, hhi⟩ := h
  exact Int.bmod_eq_of_le_mul_two (by push_cast; omega) (by push_cast; omega)

/-! ## loop の一回 -/

/-- `*value << 8 | byte` は、256 倍して byte を足した値を `int` に巻き戻すことである。 -/
theorem shiftLeft_add_byte (v : Int) {b : Nat} (hb : b < 256) :
    Int.bmod (v * 2 ^ 8) (2 ^ 32) + b = Int.bmod (v * 256 + b) (2 ^ 32) := by
  have hlo := Int.le_bmod (x := v * 256) (m := 2 ^ 32) (by decide)
  have hhi := Int.bmod_lt (x := v * 256) (m := 2 ^ 32) (by decide)
  have hmod := Int.bmod_emod (x := v * 256) (m := 2 ^ 32)
  -- 巻き戻した値の下の 8 bit は 0 なので、byte を足しても `int` に収まる
  rw [show (2 : Int) ^ 8 = 256 by rfl, ← Int.bmod_add_bmod]
  simp only [Nat.reducePow, Nat.cast_ofNat] at *
  rw [Int.bmod_eq_of_le_mul_two (x := Int.bmod (v * 256) 4294967296 + b) (by omega) (by omega)]

/-- `int` の値の上の byte が `0x00` でも `0xff` でもないのは、値が `[-2 ^ 24, 2 ^ 24)` にないときである。 -/
theorem highByte_bad_iff {v : Int} (hv : FitsInt v) :
    (v / 2 ^ 24 % 256 ≠ 0x00 ∧ v / 2 ^ 24 % 256 ≠ 0xff) ↔ ¬(-2 ^ 24 ≤ v ∧ v < 2 ^ 24) := by
  obtain ⟨hlo, hhi⟩ := hv
  omega

/-- loop の一回：値が `[-2 ^ 24, 2 ^ 24)` になければ誤り、あれば 256 倍して byte を足し巻き戻す。 -/
theorem asn1IntegerLoop_succ (buf : Bytes) (n : Nat) {value : Int} (hv : FitsInt value) (c : Asn1Cursor) :
    asn1IntegerLoop buf (n + 1) value c =
      if -2 ^ 24 ≤ value ∧ value < 2 ^ 24 then
        asn1IntegerLoop buf n (Int.bmod (value * 256 + c.byte buf) (2 ^ 32)) c.next
      else .error .integer := by
  have hb : c.byte buf < 256 := (buf.getD c.data 0).toNat_lt
  rw [asn1IntegerLoop, shiftLeft_add_byte value hb]
  by_cases hs : -2 ^ 24 ≤ value ∧ value < 2 ^ 24
  · rw [if_pos hs, if_neg (fun h => (highByte_bad_iff hv).mp h hs)]
  · rw [if_neg hs, if_pos ((highByte_bad_iff hv).mpr hs)]

/-! ## loop の全体 -/

/-- 成功した loop の値は、読み始めの値に続けて読んだ byte の値を、`2 ^ 32` で巻き戻したものである。 -/
theorem asn1IntegerLoop_ok (buf : Bytes) :
    ∀ (ds rest : Bytes) (value : Int) (c : Asn1Cursor) {v : Int}, buf.drop c.data = ds ++ rest →
      FitsInt value → asn1IntegerLoop buf ds.length value c = .ok v →
      v = Int.bmod (hornerInt 256 value (ds.map UInt8.toNat)) (2 ^ 32)
  | [], _, value, _, v, _, hv, h => by
    rw [List.length_nil, asn1IntegerLoop] at h
    cases h
    rw [List.map_nil, hornerInt_nil, bmod_of_fitsInt hv]
  | d :: ds, rest, value, c, v, hbuf, hv, h => by
    rw [List.length_cons, asn1IntegerLoop_succ buf _ hv, byte_of_drop_eq hbuf] at h
    split at h
    · -- 巻き戻した値から読み続けても、最後に巻き戻せば同じである
      rw [asn1IntegerLoop_ok buf ds rest _ c.next (drop_succ_of_drop_eq hbuf) (fitsInt_bmod _) h,
        bmod_hornerInt, List.map_cons, hornerInt_cons]
      rfl
    · cases h

/-- 途中の値がどれも `[-2 ^ 24, 2 ^ 24)` にあれば、loop は最後まで読み、巻き戻した値を返す。 -/
theorem asn1IntegerLoop_of_small (buf : Bytes) :
    ∀ (ds rest : Bytes) (value : Int) (c : Asn1Cursor), buf.drop c.data = ds ++ rest →
      (∀ k < ds.length, -2 ^ 24 ≤ hornerInt 256 value ((ds.map UInt8.toNat).take k) ∧
        hornerInt 256 value ((ds.map UInt8.toNat).take k) < 2 ^ 24) →
      asn1IntegerLoop buf ds.length (Int.bmod value (2 ^ 32)) c =
        .ok (Int.bmod (hornerInt 256 value (ds.map UInt8.toNat)) (2 ^ 32))
  | [], _, value, _, _, _ => by
    rw [List.length_nil, asn1IntegerLoop, List.map_nil, hornerInt_nil]
  | d :: ds, rest, value, c, hbuf, hsmall => by
    -- 最初の途中の値は読み始めの値そのもので、`int` に収まるので巻き戻しても変わらない
    have h0 := hsmall 0 (by simp)
    simp only [List.take_zero, hornerInt_nil] at h0
    have hfit : FitsInt value := ⟨by omega, by omega⟩
    rw [bmod_of_fitsInt hfit, List.length_cons, asn1IntegerLoop_succ buf _ hfit, if_pos h0,
      byte_of_drop_eq hbuf, asn1IntegerLoop_of_small buf ds rest _ c.next (drop_succ_of_drop_eq hbuf) ?_,
      List.map_cons, hornerInt_cons]
    · rfl
    · intro k hk
      simpa [List.take_succ_cons] using hsmall (k + 1) (by simpa using hk)

/-! ## `asn1_integer` -/

/-- `int8_t` として読んだ byte は、符号付きの一桁である。 -/
theorem schar_eq_signedDigit (d : UInt8) : schar d = signedDigit 256 d.toNat := by
  have := d.toNat_lt
  unfold schar signedDigit
  split <;> split <;> push_cast <;> omega

theorem fitsInt_schar (d : UInt8) : FitsInt (schar d) := by
  have := d.toNat_lt
  unfold schar
  constructor <;> split <;> omega

/-- 中身が `buf` の中にあり空でなければ、cursor の先は最初の byte と残りの `len - 1` byte である。 -/
theorem drop_eq_of_within {buf : Bytes} {c : Asn1Cursor} (hin : c.data + c.len ≤ buf.length) (hlen : 1 ≤ c.len) :
    ∃ d ds rest, buf.drop c.data = d :: (ds ++ rest) ∧ ds.length = c.len - 1 ∧
      c.bytes buf = d.toNat :: ds.map UInt8.toNat := by
  have ht : ((buf.drop c.data).take c.len).length = c.len := by
    rw [List.length_take, List.length_drop]
    omega
  obtain ⟨d, ds, hds⟩ : ∃ d ds, (buf.drop c.data).take c.len = d :: ds := by
    cases htake : (buf.drop c.data).take c.len with
    | nil => rw [htake, List.length_nil] at ht; omega
    | cons d ds => exact ⟨d, ds, rfl⟩
  refine ⟨d, ds, (buf.drop c.data).drop c.len, ?_, ?_, ?_⟩
  · rw [← List.cons_append, ← hds, List.take_append_drop]
  · rw [hds, List.length_cons] at ht
    omega
  · rw [Asn1Cursor.bytes, hds, List.map_cons]

/-- `asn1_enter` が中身に入れば、`asn1_integer` は最初の byte を符号付きで読んで loop に入る。 -/
theorem asn1Integer_of_enter {buf : Bytes} {c contents : Asn1Cursor}
    (henter : asn1Enter buf c asn1IntegerType = (some contents, .ok ())) (hlen : 1 ≤ contents.len) :
    asn1Integer buf c =
      asn1IntegerLoop buf (contents.len - 1) (schar (buf.getD contents.data 0)) contents.next := by
  simp only [asn1Integer, henter]
  exact if_neg (by omega)

/-- 成功した `asn1_integer` の値は、中身を 2 の補数として読んだ値を `int` に巻き戻したものである。 -/
theorem asn1Integer_eq_bmod {buf : Bytes} {c : Asn1Cursor} {v : Int} (hc : c.data + c.len ≤ buf.length)
    (h : asn1Integer buf c = .ok v) :
    ∃ contents, asn1Enter buf c asn1IntegerType = (some contents, .ok ()) ∧ 1 ≤ contents.len ∧
      v = Int.bmod (twosComplement 256 (contents.bytes buf)) (2 ^ 32) := by
  -- `asn1_enter` は成功して中身を残した
  obtain ⟨contents, henter⟩ : ∃ contents, asn1Enter buf c asn1IntegerType = (some contents, .ok ()) := by
    rcases henter : asn1Enter buf c asn1IntegerType with ⟨_ | contents, _ | ⟨⟩⟩ <;>
      simp only [asn1Integer, henter, reduceCtorEq] at h
    exact ⟨contents, rfl⟩
  have hlen : 1 ≤ contents.len := by
    by_contra hlt
    simp only [asn1Integer, henter, if_pos (show contents.len < 1 by omega), reduceCtorEq] at h
  have hin : contents.data + contents.len ≤ buf.length := by
    have := (asn1Enter_within henter).2
    omega
  obtain ⟨d, ds, rest, hbuf, hds, hbytes⟩ := drop_eq_of_within hin hlen
  rw [asn1Integer_of_enter henter hlen, getD_of_drop_eq hbuf, ← hds] at h
  refine ⟨contents, henter, hlen, ?_⟩
  rw [asn1IntegerLoop_ok buf ds rest _ contents.next (drop_succ_of_drop_eq hbuf) (fitsInt_schar d) h,
    hbytes, twosComplement_cons, schar_eq_signedDigit]

/-- 読み終えた値が `int` に収まれば、途中の値は `[-2 ^ 24, 2 ^ 24)` にある。 -/
theorem small_of_fitsInt {value : Int} {ds : List Nat} (hds : ∀ d ∈ ds, d < 256)
    (hfit : FitsInt (hornerInt 256 value ds)) :
    ∀ k < ds.length, -2 ^ 24 ≤ hornerInt 256 value (ds.take k) ∧ hornerInt 256 value (ds.take k) < 2 ^ 24 := by
  intro k hk
  -- 途中の値の後には、少なくとも一つ byte が残る
  obtain ⟨e, es, hdrop⟩ : ∃ e es, ds.drop k = e :: es := by
    cases hd : ds.drop k with
    | nil => rw [List.drop_eq_nil_iff] at hd; omega
    | cons e es => exact ⟨e, es, rfl⟩
  have hsplit := @hornerInt_append 256 value (ds.take k) (ds.drop k)
  rw [List.take_append_drop, hdrop, hornerInt_cons] at hsplit
  rw [hsplit] at hfit
  have hes : ∀ d ∈ es, d < 256 := fun d hd' =>
    hds d (List.mem_of_mem_drop (hdrop ▸ List.mem_cons_of_mem e hd'))
  obtain ⟨hlo, hhi⟩ := fits_of_hornerInt (by decide) (by decide) (by decide) hes hfit.1 hfit.2
  push_cast at hlo hhi
  have he : e < 256 := hds e (List.mem_of_mem_drop (hdrop ▸ List.mem_cons_self))
  omega

/-- 中身の 2 の補数の値が `int` に収まれば、`asn1_integer` はその値を返す。 -/
theorem asn1Integer_of_fits {buf : Bytes} {c contents : Asn1Cursor} (hc : c.data + c.len ≤ buf.length)
    (henter : asn1Enter buf c asn1IntegerType = (some contents, .ok ())) (hlen : 1 ≤ contents.len)
    (hfit : FitsInt (twosComplement 256 (contents.bytes buf))) :
    asn1Integer buf c = .ok (twosComplement 256 (contents.bytes buf)) := by
  have hin : contents.data + contents.len ≤ buf.length := by
    have := (asn1Enter_within henter).2
    omega
  obtain ⟨d, ds, rest, hbuf, hds, hbytes⟩ := drop_eq_of_within hin hlen
  rw [hbytes, twosComplement_cons, ← schar_eq_signedDigit] at hfit ⊢
  rw [asn1Integer_of_enter henter hlen, getD_of_drop_eq hbuf, ← hds]
  calc asn1IntegerLoop buf ds.length (schar d) contents.next
      = asn1IntegerLoop buf ds.length (Int.bmod (schar d) (2 ^ 32)) contents.next := by
        rw [bmod_of_fitsInt (fitsInt_schar d)]
    _ = .ok (Int.bmod (hornerInt 256 (schar d) (ds.map UInt8.toNat)) (2 ^ 32)) :=
        asn1IntegerLoop_of_small buf ds rest _ contents.next (drop_succ_of_drop_eq hbuf)
          (fun k hk => small_of_fitsInt (by simpa using fun (a : UInt8) _ => a.toNat_lt) hfit k
            (by simpa using hk))
    _ = .ok (hornerInt 256 (schar d) (ds.map UInt8.toNat)) := by rw [bmod_of_fitsInt hfit]

/-- `2 ^ 31` から `2 ^ 32 - 1` までの 5 byte の INTEGER `00 b1 b2 b3 b4` は、途中の値が 3 byte に
収まるので検査を通り、`2 ^ 32` を引いた負の値として返る。 -/
theorem asn1Integer_wraps_above_int_max (b1 b2 b3 b4 : UInt8) (hb : 0x80 ≤ b1.toNat) :
    2 ^ 31 ≤ twosComplement 256 [0, b1.toNat, b2.toNat, b3.toNat, b4.toNat] ∧
      asn1Integer [0x02, 0x05, 0x00, b1, b2, b3, b4] ⟨0, 7⟩ =
        .ok (twosComplement 256 [0, b1.toNat, b2.toNat, b3.toNat, b4.toNat] - 2 ^ 32) := by
  have h1 := b1.toNat_lt
  have h2 := b2.toNat_lt
  have h3 := b3.toNat_lt
  have h4 := b4.toNat_lt
  have hval : twosComplement 256 [0, b1.toNat, b2.toNat, b3.toNat, b4.toNat] =
      hornerInt 256 0 [b1.toNat, b2.toNat, b3.toNat, b4.toNat] := by
    rw [twosComplement_cons]
    rfl
  have hsum : hornerInt 256 0 [b1.toNat, b2.toNat, b3.toNat, b4.toNat] =
      ((b1.toNat * 256 + b2.toNat) * 256 + b3.toNat) * 256 + b4.toNat := by
    simp [hornerInt]
  have henter : asn1Enter [0x02, 0x05, 0x00, b1, b2, b3, b4] ⟨0, 7⟩ asn1IntegerType = (some ⟨2, 5⟩, .ok ()) := by
    unfold asn1Enter
    rw [asn1Start_short
      (show [0x02, 0x05, 0x00, b1, b2, b3, b4].drop 0 = 0x02 :: 0x05 :: [0x00, b1, b2, b3, b4] from rfl)
      (.inr (show asn1IntegerType = (0x02 : UInt8).toNat by rfl)) (by decide) (by decide)]
    rfl
  refine ⟨by rw [hval, hsum]; omega, ?_⟩
  rw [asn1Integer_of_enter henter (by decide)]
  -- 途中の値は `0`、`b1`、`b1 b2`、`b1 b2 b3` で、どれも 3 byte に収まる
  have hloop := asn1IntegerLoop_of_small [0x02, 0x05, 0x00, b1, b2, b3, b4] [b1, b2, b3, b4] [] 0 ⟨3, 4⟩ rfl
    (by
      intro k hk
      simp only [List.length_cons, List.length_nil] at hk
      interval_cases k <;> simp [hornerInt] <;> omega)
  change asn1IntegerLoop [0x02, 0x05, 0x00, b1, b2, b3, b4] [b1, b2, b3, b4].length (Int.bmod 0 (2 ^ 32))
    ⟨3, 4⟩ = _
  simp only [List.map_cons, List.map_nil] at hloop
  rw [hloop, hval, hsum, Int.bmod_def]
  -- `2 ^ 31` 以上の値は `2 ^ 32` を引いて巻き戻る
  refine congrArg Except.ok ?_
  push_cast
  split <;> omega

/-- `00 80 00 00 00` は `2 ^ 31` だが、`asn1_integer` は `-2 ^ 31` を返す。 -/
theorem asn1Integer_wraps_two_pow_31 :
    twosComplement 256 [0x00, 0x80, 0x00, 0x00, 0x00] = 2 ^ 31 ∧
      asn1Integer [0x02, 0x05, 0x00, 0x80, 0x00, 0x00, 0x00] ⟨0, 7⟩ = .ok (-2 ^ 31) := by
  have hval : twosComplement 256 [0x00, 0x80, 0x00, 0x00, 0x00] = 2 ^ 31 := by decide
  refine ⟨hval, ?_⟩
  rw [(asn1Integer_wraps_above_int_max 0x80 0x00 0x00 0x00 (by decide)).2]
  exact congrArg Except.ok (by rw [show ((0x80 : UInt8).toNat) = 0x80 by rfl]; decide)

end FlexBoot.Asn1
