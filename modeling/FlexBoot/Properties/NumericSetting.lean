import FlexBoot.Properties.Settings
import FlexBoot.Core.SettingsTree

/-!
# 数値の setting の読み取り（`fetch_numeric_setting`）

`fetch_numeric_setting` は値を `unsigned long tmp` に `sizeof ( tmp )` byte まで写し、値の長さ
`len` を `numeric_setting_value` に渡す。読むのは `tmp` の `len` byte である。

* `len` が `sizeof ( tmp )` 以下なら、読むのは写した byte だけで、値は見つけた値を
  `numeric_setting_value` で読んだものに等しい（`fetchNumericSetting_of_le`）。その値は符号なしなら
  上の byte から読んだ数、符号付きなら 2 の補数の数である。
* `len` がそれより長ければ、loop は上の byte が `pad` である限り進み、`tmp` の終わりの次の byte を
  読む（`numericSettingValueLoopAt_outOfBounds`）。上の byte が 0 の値は `unsigned long` に入るが、
  それでも `tmp` の外を読む。

## 領域の上の loop

`numericSettingValueLoopAt` は `numeric_setting_value` の loop を、大きさの決まった領域の上で回す。
読む byte が領域の中にある限り、列の上の loop `numericSettingValueLoop` と同じである
（`numericSettingValueLoopAt_of_le`）。
-/

namespace FlexBoot.Settings

open Infra FlexBoot

/-! ## 領域の上の loop -/

section LoopAt

variable {bits len : Nat} {pad : UInt8} {buf : Bytes}

-- loop の一回の式。以下の証明は `numericSettingValueLoopAt` を開かず、この二つで一 byte 進める
theorem numericSettingValueLoopAt_succ {i : Nat} (hi : i < buf.length) (n value : Nat) :
    numericSettingValueLoopAt bits len pad buf (n + 1) i value =
      if i + bits / 8 < len ∧ buf[i] ≠ pad then .ok (.error .erange)
      else numericSettingValueLoopAt bits len pad buf n (i + 1) ((value * 256 + buf[i].toNat) % 2 ^ bits) := by
  simp only [numericSettingValueLoopAt, List.getElem?_eq_getElem hi]

theorem numericSettingValueLoopAt_outside {i : Nat} (hi : buf.length ≤ i) (n value : Nat) :
    numericSettingValueLoopAt bits len pad buf (n + 1) i value = .error (.outOfBounds (i + 1) buf.length) := by
  simp only [numericSettingValueLoopAt, List.getElem?_eq_none hi]

/-- 読む byte がどれも領域の中にあれば、領域の上の loop は列の上の loop と同じである。 -/
theorem numericSettingValueLoopAt_of_le : ∀ (n i value : Nat), i + n ≤ buf.length →
    numericSettingValueLoopAt bits len pad buf n i value =
      .ok (numericSettingValueLoop bits len pad i value ((buf.drop i).take n))
  | 0, i, value, _ => by
    rw [List.take_zero]
    rfl
  | n + 1, i, value, h => by
    have hi : i < buf.length := by omega
    rw [numericSettingValueLoopAt_succ hi, List.drop_eq_getElem_cons hi, List.take_succ_cons,
      numericSettingValueLoop_cons]
    by_cases hc : i + bits / 8 < len ∧ buf[i] ≠ pad
    · rw [if_pos hc, if_pos hc]
    · rw [if_neg hc, if_neg hc, numericSettingValueLoopAt_of_le n (i + 1) _ (by omega)]

/-- 領域の終わりを越えて読む loop は、その手前で `pad` でない上の byte に出会わなければ、領域の
終わりの次の byte で止まる。 -/
theorem numericSettingValueLoopAt_outOfBounds : ∀ (n i value : Nat), i ≤ buf.length →
    buf.length < i + n → (∀ j (hj : j < buf.length), i ≤ j → ¬(j + bits / 8 < len ∧ buf[j] ≠ pad)) →
    numericSettingValueLoopAt bits len pad buf n i value = .error (.outOfBounds (buf.length + 1) buf.length)
  | 0, i, _, _, h, _ => absurd h (by omega)
  | n + 1, i, value, hi, h, hpad => by
    rcases Nat.lt_or_ge i buf.length with hlt | hge
    · rw [numericSettingValueLoopAt_succ hlt, if_neg (hpad i hlt le_rfl)]
      exact numericSettingValueLoopAt_outOfBounds n (i + 1) _ hlt (by omega)
        fun j hj hij => hpad j hj (by omega)
    · obtain rfl : i = buf.length := by omega
      exact numericSettingValueLoopAt_outside le_rfl n value

end LoopAt

/-- 領域の中の `len` byte を読む `numeric_setting_value` は、その `len` byte の列を読むのと同じで
ある。 -/
theorem numericSettingValueAt_of_le (arch : Arch) (isSigned : Bool) {buf : Bytes} {len : Nat}
    (h : len ≤ buf.length) :
    numericSettingValueAt arch isSigned buf len = .ok (numericSettingValue arch isSigned (buf.take len)) := by
  unfold numericSettingValueAt numericSettingValue
  by_cases h0 : len = 0
  · subst h0
    cases isSigned <;> rfl
  have hpos : 0 < buf.length := by omega
  have hne : buf.take len ≠ [] := List.ne_nil_of_length_pos (by rw [List.length_take_of_le h]; omega)
  -- 先頭の byte は `signed_bytes[0]`
  have hhead : (buf.take len).headD 0 = buf[0] := by
    rw [List.headD_eq_head?_getD, List.head?_take, if_neg h0, List.head?_eq_getElem?,
      List.getElem?_eq_getElem hpos]
    rfl
  rw [if_neg h0, List.getElem?_eq_getElem hpos, hhead, List.length_take_of_le h]
  dsimp only
  rw [numericSettingValueLoopAt_of_le len 0 _ (by omega), List.drop_zero]
  simp only [ne_eq, hne, not_false_eq_true, true_and]

/-! ## `fetch_numeric_setting` -/

section Fetch

variable (arch : Arch) (isSigned : Bool)

/-- `unsigned long` より長くない値では、`tmp` から読む値は見つけた値を読んだものである。 -/
theorem fetchNumericSetting_of_le {raw : Bytes} (h : raw.length ≤ arch.longBits / 8) :
    fetchNumericSetting arch isSigned (some raw) =
      .ok ((numericSettingValue arch isSigned raw).map fun value => (raw.length, value)) := by
  have htmp : raw.take (arch.longBits / 8) ++ List.replicate (arch.longBits / 8 - raw.length) 0 =
      raw ++ List.replicate (arch.longBits / 8 - raw.length) 0 := by
    rw [List.take_of_length_le h]
  unfold fetchNumericSetting
  dsimp only
  rw [htmp, numericSettingValueAt_of_le arch isSigned (by simp), List.take_left]
  rfl

/-- `unsigned long` より長い値で上の byte が 0 なら、loop は `tmp` の終わりまで進み、その次の byte を
読む。 -/
theorem fetchNumericSetting_of_lt {raw : Bytes} (h : arch.longBits / 8 < raw.length)
    (hzero : ∀ b ∈ raw.take (raw.length - arch.longBits / 8), b = 0) :
    fetchNumericSetting arch isSigned (some raw) =
      .error (.outOfBounds (arch.longBits / 8 + 1) (arch.longBits / 8)) := by
  have hsize : 4 ≤ arch.longBits / 8 := by
    have := Arch.longBits_ge arch
    omega
  -- `tmp` は値の先頭の `sizeof ( tmp )` byte である
  have htmp : raw.take (arch.longBits / 8) ++ List.replicate (arch.longBits / 8 - raw.length) 0 =
      raw.take (arch.longBits / 8) := by
    rw [Nat.sub_eq_zero_of_le h.le, List.replicate_zero, List.append_nil]
  have hlen : (raw.take (arch.longBits / 8)).length = arch.longBits / 8 := List.length_take_of_le h.le
  -- `tmp` の中で検べる上の byte は、どれも値の上の byte なので 0 である
  have hhigh : ∀ j (hj : j < (raw.take (arch.longBits / 8)).length),
      j + arch.longBits / 8 < raw.length → (raw.take (arch.longBits / 8))[j] = 0 := by
    intro j hj hjl
    have hj' : j < (raw.take (raw.length - arch.longBits / 8)).length := by
      simp only [List.length_take] at hj ⊢
      omega
    have hmem : (raw.take (raw.length - arch.longBits / 8))[j] ∈ raw.take (raw.length - arch.longBits / 8) :=
      List.getElem_mem _
    rw [List.getElem_take] at hmem ⊢
    exact hzero _ hmem
  have h0 : 0 < (raw.take (arch.longBits / 8)).length := by omega
  have hfirst : (raw.take (arch.longBits / 8))[0] = 0 := hhigh 0 h0 (by omega)
  unfold fetchNumericSetting numericSettingValueAt
  dsimp only
  have hstart : (if isSigned = true ∧ 128 ≤ (0 : UInt8).toNat then 2 ^ arch.longBits - 1 else 0) = 0 :=
    if_neg (by simp)
  rw [htmp, if_neg (by omega), List.getElem?_eq_getElem (by omega), hfirst]
  dsimp only
  rw [hstart, numericSettingValueLoopAt_outOfBounds _ 0 _ (Nat.zero_le _) (by omega)
    fun j hj _ hc => hc.2 (by rw [hhigh j hj hc.1]; decide), hlen]
  rfl

end Fetch

/-! ## 値 -/

section Value

variable (arch : Arch)

/-- `unsigned long` に入る長さの byte 列の値は、`unsigned long` の幅に収まる。 -/
theorem two_pow_length_le {raw : Bytes} (hlen : raw.length ≤ arch.longBits / 8) :
    256 ^ raw.length ≤ 2 ^ arch.longBits := by
  rw [show (256 : Nat) = 2 ^ 8 from rfl, ← Nat.pow_mul]
  exact Nat.pow_le_pow_right (by decide) (by omega)

theorem horner_bytes_lt (raw : Bytes) : horner 256 0 (raw.map UInt8.toNat) < 256 ^ raw.length := by
  have h : horner 256 0 (raw.map UInt8.toNat) < 256 ^ (raw.map UInt8.toNat).length :=
    horner_lt fun d hd => by
      obtain ⟨b, -, rfl⟩ := List.mem_map.mp hd
      exact b.toNat_lt
  rwa [List.length_map] at h

/-- 符号なしの値は、上の byte から読んだ数そのものである。 -/
theorem numericSettingValue_unsigned {raw : Bytes} (hlen : raw.length ≤ arch.longBits / 8) :
    numericSettingValue arch false raw = .ok (horner 256 0 (raw.map UInt8.toNat)) := by
  rw [numericSettingValue_of_le arch false hlen, if_neg (by simp),
    Nat.mod_eq_of_lt (Nat.lt_of_lt_of_le (horner_bytes_lt raw) (two_pow_length_le arch hlen))]

/-- `-1L` から読み始めると、`unsigned long` の幅で `2^w - 256^k` だけずれる。 -/
theorem mod_start_minus_one {B P H : Nat} (hP : 0 < P) (hPB : P ≤ B) (hH : H < P) :
    ((B - 1) * P + H) % B = B - P + H := by
  obtain ⟨E, rfl⟩ : ∃ E, B = P + E := ⟨B - P, by omega⟩
  obtain ⟨Q, rfl⟩ : ∃ Q, P = Q + 1 := ⟨P - 1, by omega⟩
  have hsplit : (Q + 1 + E - 1) * (Q + 1) + H = (E + H) + Q * (Q + 1 + E) := by
    rw [show Q + 1 + E - 1 = Q + E by omega]
    ring
  rw [hsplit, Nat.add_mul_mod_self_right, Nat.mod_eq_of_lt (by omega)]
  omega

/-- 符号付きの値を `long` として読むと、2 の補数の数である。 -/
theorem numericSettingValue_signed {raw : Bytes} (hlen : raw.length ≤ arch.longBits / 8) :
    ∃ v, numericSettingValue arch true raw = .ok v ∧
      signedLong arch v = twosComplement 256 (raw.map UInt8.toNat) := by
  refine ⟨_, numericSettingValue_of_le arch true hlen, ?_⟩
  have hB : 2 ^ arch.longBits = 2 * 2 ^ (arch.longBits - 1) := by
    rw [← Nat.pow_succ']
    congr 1
    have := Arch.longBits_ge arch
    omega
  have hcast : (2 : Int) ^ arch.longBits = ((2 ^ arch.longBits : Nat) : Int) := by push_cast; rfl
  cases raw with
  | nil =>
    simp [signedLong, twosComplement]
  | cons b rest =>
    have hlt := horner_bytes_lt rest
    have hP : 256 * 256 ^ rest.length ≤ 2 ^ arch.longBits := by
      have := two_pow_length_le arch hlen
      rwa [List.length_cons, Nat.pow_succ, Nat.mul_comm] at this
    have hbl : b.toNat < 256 := b.toNat_lt
    -- 上の byte `b` と残りの値 `Hr` に分ける。`b * 256^r` は一つの数として扱う
    have hH : horner 256 0 (b.toNat :: rest.map UInt8.toNat) =
        b.toNat * 256 ^ rest.length + horner 256 0 (rest.map UInt8.toNat) := by
      rw [horner_cons, horner_eq_mul_add, List.length_map, Nat.zero_mul, Nat.zero_add]
    have hbR : b.toNat * 256 ^ rest.length ≤ 255 * 256 ^ rest.length := Nat.mul_le_mul_right _ (by omega)
    have hneg : 128 ≤ b.toNat → 128 * 256 ^ rest.length ≤ b.toNat * 256 ^ rest.length :=
      fun h => Nat.mul_le_mul_right _ h
    have hpos : b.toNat < 128 → b.toNat * 256 ^ rest.length ≤ 127 * 256 ^ rest.length :=
      fun h => Nat.mul_le_mul_right _ (by omega)
    -- `unsigned long` の値の閉じた形
    have hv : horner 256 (if 128 ≤ b.toNat then 2 ^ arch.longBits - 1 else 0) (b.toNat :: rest.map UInt8.toNat) %
          2 ^ arch.longBits =
        if 128 ≤ b.toNat then 2 ^ arch.longBits - 256 * 256 ^ rest.length + horner 256 0 (b.toNat :: rest.map UInt8.toNat)
        else horner 256 0 (b.toNat :: rest.map UInt8.toNat) := by
      have hlen' : (b.toNat :: rest.map UInt8.toNat).length = rest.length + 1 := by simp
      split
      · rw [horner_eq_mul_add, hlen', Nat.pow_succ, Nat.mul_comm (256 ^ _) 256,
          mod_start_minus_one (by positivity) hP (by omega)]
      · rw [Nat.mod_eq_of_lt (by omega)]
    simp only [signedLong, twosComplement, List.map_cons, List.headD_cons, List.length_cons, ne_eq,
      reduceCtorEq, not_false_eq_true, true_and, List.length_map]
    rw [hv, hH, hcast, show ((256 : Nat) : Int) ^ (rest.length + 1) = ((256 * 256 ^ rest.length : Nat) : Int) by
      push_cast; ring]
    generalize 256 ^ rest.length = R at *
    generalize horner 256 0 (rest.map UInt8.toNat) = Hr at *
    generalize b.toNat * R = bR at *
    generalize 2 ^ (arch.longBits - 1) = half at *
    generalize 2 ^ arch.longBits = B at *
    split_ifs <;> omega

end Value

/-! ## `fetch_numeric_setting` の読む範囲 -/

/-- **`fetch_numeric_setting` は、`unsigned long` より長い値では `tmp` の外を読む。** 長さが
`sizeof ( tmp )` 以下の値なら、長さと、符号なしなら上の byte から読んだ数、符号付きなら `long` として
2 の補数の数を返す。それより長い値は、上の byte が 0 で値が `unsigned long` に入るものでも、`tmp` の
終わりの次の byte を読む。 -/
theorem fetchNumericSetting_reads_past_tmp (arch : Arch) :
    (∀ raw : Bytes, raw.length ≤ arch.longBits / 8 →
      fetchNumericSetting arch false (some raw) = .ok (.ok (raw.length, horner 256 0 (raw.map UInt8.toNat))) ∧
      ∃ v, fetchNumericSetting arch true (some raw) = .ok (.ok (raw.length, v)) ∧
        signedLong arch v = twosComplement 256 (raw.map UInt8.toNat)) ∧
    ∀ (isSigned : Bool) (raw : Bytes), arch.longBits / 8 < raw.length →
      (∀ b ∈ raw.take (raw.length - arch.longBits / 8), b = 0) →
      horner 256 0 (raw.map UInt8.toNat) < 2 ^ arch.longBits ∧
        fetchNumericSetting arch isSigned (some raw) =
          .error (.outOfBounds (arch.longBits / 8 + 1) (arch.longBits / 8)) := by
  refine ⟨fun raw hlen => ⟨?_, ?_⟩, fun isSigned raw hlt hzero => ⟨?_, fetchNumericSetting_of_lt arch isSigned hlt hzero⟩⟩
  · rw [fetchNumericSetting_of_le arch false hlen, numericSettingValue_unsigned arch hlen]
    rfl
  · obtain ⟨v, hv, hs⟩ := numericSettingValue_signed arch hlen
    refine ⟨v, ?_, hs⟩
    rw [fetchNumericSetting_of_le arch true hlen, hv]
    rfl
  · -- 上の byte が 0 なので、値は下の `sizeof ( tmp )` byte の値である
    have htake : raw.take (raw.length - arch.longBits / 8) = List.replicate (raw.length - arch.longBits / 8) 0 :=
      List.eq_replicate_iff.mpr ⟨by rw [List.length_take]; omega, hzero⟩
    have hlow : (raw.drop (raw.length - arch.longBits / 8)).length ≤ arch.longBits / 8 := by
      rw [List.length_drop]; omega
    rw [← List.take_append_drop (raw.length - arch.longBits / 8) raw, htake, List.map_append, List.map_replicate,
      UInt8.toNat_zero, horner_replicate_zero]
    exact Nat.lt_of_lt_of_le (horner_bytes_lt _) (two_pow_length_le arch hlow)

theorem fetchNumericSetting_nine_zero_bytes :
    fetchNumericSetting .x86_64 false (some (List.replicate 9 0)) = .error (.outOfBounds 9 8) :=
  ((fetchNumericSetting_reads_past_tmp .x86_64).2 false (List.replicate 9 0) (by decide)
    fun _ hb => List.eq_of_mem_replicate (List.mem_of_mem_take hb)).2

end FlexBoot.Settings
