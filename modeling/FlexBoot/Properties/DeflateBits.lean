import Mathlib.Data.Nat.Bitwise
import FlexBoot.Crypto.Deflate
import FlexBoot.Infra.BitString

/-!
# DEFLATE の bit の流れ

入力は byte の下の bit から順に読む bit の列である。`deflate_accumulate` が溜めた bit と、入力に
残る byte の bit をつないだものが、これから読む bit の列 `stream` である。

* `Deflate.Wf` — `accumulator` は溜めた `bits` bit を読む順に下から持ち、`rotalumucca` は同じ
  bit を読む順に上から持つ
* `deflateReverse_eq` — `deflate_reverse[]` は byte の bit を逆に並べた値
* `deflateAccumulate_spec` — 溜めても `stream` は変わらず、`target` bit そろうか入力が尽きる
* `deflateConsume_spec` — 捨てると `stream` の先頭 `count` bit が落ち、取り出した値はその bit を
  下から並べたもの
* `deflateExtract_spec` — 取り出しは二つを合わせたもの
-/

namespace FlexBoot.Inflate

open Infra

/-! ## bit の列 -/

/-- 溜めた bit。読む順に並べる。 -/
def pendingBits (d : Deflate) : List Bool := lsbBits d.bits d.accumulator

/-- 入力に残る byte の bit。読む順に並べる。 -/
def chunkBits (inp : DeflateChunk) : List Bool :=
  (List.range' inp.offset (inp.len - inp.offset)).flatMap fun i => lsbBits 8 (inp.data.getD i 0).toNat

/-- これから読む bit の列。 -/
def stream (d : Deflate) (inp : DeflateChunk) : List Bool := pendingBits d ++ chunkBits inp

@[simp] theorem length_pendingBits (d : Deflate) : (pendingBits d).length = d.bits := by
  simp [pendingBits]

theorem chunkBits_of_le {inp : DeflateChunk} (h : inp.len ≤ inp.offset) : chunkBits inp = [] := by
  simp [chunkBits, Nat.sub_eq_zero_of_le h]

/-- 入力が残っていれば、次の byte の bit が先に来る。 -/
theorem chunkBits_of_lt {inp : DeflateChunk} (h : inp.offset < inp.len) :
    chunkBits inp =
      lsbBits 8 (inp.data.getD inp.offset 0).toNat ++ chunkBits { inp with offset := inp.offset + 1 } := by
  have e : inp.len - inp.offset = inp.len - (inp.offset + 1) + 1 := by omega
  rw [chunkBits, e, List.range'_succ, List.flatMap_cons]
  rfl

@[simp] theorem length_chunkBits (inp : DeflateChunk) : (chunkBits inp).length = 8 * (inp.len - inp.offset) := by
  simp [chunkBits, List.length_flatMap, Nat.mul_comm]

/-- 残りの bit の数は、溜めた bit と入力に残る byte の bit の和。 -/
theorem length_stream (d : Deflate) (inp : DeflateChunk) :
    (stream d inp).length = d.bits + 8 * (inp.len - inp.offset) := by
  simp [stream]

/-- 読み出しの状態の不変条件。 -/
structure Deflate.Wf (d : Deflate) : Prop where
  bits_le : d.bits ≤ 32
  acc_lt : d.accumulator < 2 ^ d.bits
  rot_eq : d.rotalumucca = bitsVal (pendingBits d) * 2 ^ (32 - d.bits)

/-- 何も溜めていない状態。`deflate_init` はここから始める。 -/
theorem wf_zero : (⟨0, 0, 0⟩ : Deflate).Wf :=
  ⟨by decide, by decide, by simp [pendingBits, lsbBits]⟩

/-- 何も溜めていなければ、二つの register も 0 である。 -/
theorem Deflate.Wf.eq_zero {d : Deflate} (hd : d.Wf) (h0 : d.bits = 0) : d = ⟨0, 0, 0⟩ := by
  obtain ⟨acc, rot, bits⟩ := d
  obtain ⟨-, hacc, hrot⟩ := hd
  dsimp only at h0 hacc hrot
  subst h0
  have hacc0 : acc = 0 := by simpa using hacc
  subst hacc0
  simp only [pendingBits, lsbBits, List.range_zero, List.map_nil, bitsVal_nil, Nat.zero_mul] at hrot
  rw [hrot]

/-! ## `deflate_reverse[]` -/

/-- `deflate_reverse[]` を作る loop は、`k` 回りで下の `k` bit を逆に並べる。 -/
theorem reverseLoop_eq (i : Nat) {k : Nat} (hk : k ≤ 8) :
    ((List.range k).map (1 <<< ·)).foldl
        (fun byte bit => (byte <<< 1) % 256 ||| if i &&& bit ≠ 0 then 1 else 0) 0 =
      bitsVal (lsbBits k i) := by
  induction k with
  | zero => rfl
  | succ k ih =>
    rw [List.range_succ, List.map_append, List.foldl_append, ih (by omega), List.map_singleton,
      List.foldl_cons, List.foldl_nil, lsbBits_succ, bitsVal_concat]
    have hv : bitsVal (lsbBits k i) < 2 ^ k := by
      have h := bitsVal_lt (lsbBits k i)
      rwa [length_lsbBits] at h
    have hk' : 2 ^ k ≤ 2 ^ 7 := Nat.pow_le_pow_right (by decide) (by omega)
    -- 左へ送っても 256 に届かないので `% 256` は効かない
    have hmod : (bitsVal (lsbBits k i) <<< 1) % 256 = bitsVal (lsbBits k i) <<< 1 := by
      rw [Nat.shiftLeft_eq]
      exact Nat.mod_eq_of_lt (by omega)
    have hbit : (if i &&& 1 <<< k ≠ 0 then 1 else 0) = (i.testBit k).toNat := by
      rw [Nat.one_shiftLeft, Nat.and_two_pow]
      cases i.testBit k <;> simp
    rw [hmod, hbit, ← Nat.shiftLeft_add_eq_or_of_lt (Bool.toNat_lt _), Nat.shiftLeft_eq, pow_one,
      Nat.mul_comm]

/-- `deflate_reverse[i]` は `i` の 8 bit を逆に並べた値。 -/
theorem deflateReverse_eq (i : Nat) : deflateReverse i = bitsVal (lsbBits 8 i) :=
  reverseLoop_eq i (Nat.le_refl 8)

/-! ## 溜める -/

section Accumulate

variable {d : Deflate}

/-- byte を足すと、その 8 bit が溜めた bit の後ろにつく。 -/
theorem pendingBits_accumulateByte (hd : d.Wf) (hb : d.bits ≤ 24) {byte : Nat} (hbyte : byte < 256) :
    pendingBits (accumulateByte d byte) = pendingBits d ++ lsbBits 8 byte := by
  have hacc := hd.acc_lt
  -- 溜めた bit の上に重ねるので、`|` は和
  have hor : d.accumulator ||| byte <<< d.bits = d.accumulator + 2 ^ d.bits * byte := by
    rw [Nat.lor_comm, ← Nat.shiftLeft_add_eq_or_of_lt hacc, Nat.shiftLeft_eq]
    ring
  have hlt : d.accumulator + 2 ^ d.bits * byte < 2 ^ (d.bits + 8) := by
    rw [Nat.pow_add]
    nlinarith
  have h32 : 2 ^ (d.bits + 8) ≤ 2 ^ 32 := Nat.pow_le_pow_right (by decide) (by omega)
  have hdiv : (d.accumulator + 2 ^ d.bits * byte) / 2 ^ d.bits = byte := by
    rw [Nat.add_mul_div_left _ _ (Nat.two_pow_pos _), Nat.div_eq_of_lt hacc, Nat.zero_add]
  unfold pendingBits accumulateByte
  dsimp only
  rw [hor, Nat.mod_eq_of_lt (by omega), lsbBits_add, lsbBits_add_two_pow_mul, hdiv]

/-- byte を足しても不変条件は保たれる。`24 - bits` の送りが負にならない所まで。 -/
theorem wf_accumulateByte (hd : d.Wf) (hb : d.bits ≤ 24) {byte : Nat} (hbyte : byte < 256) :
    (accumulateByte d byte).Wf := by
  have hp := pendingBits_accumulateByte hd hb hbyte
  have hacc := hd.acc_lt
  refine ⟨by simp [accumulateByte]; omega, ?_, ?_⟩
  · have h := lsbBits_mod_two_pow (d.bits + 8) (accumulateByte d byte).accumulator
    have hl := bitsVal_lt (pendingBits (accumulateByte d byte))
    -- 長さ `bits + 8` の列なので、読み直した値は `2 ^ (bits + 8)` より小さい
    have hv : (accumulateByte d byte).accumulator < 2 ^ (d.bits + 8) := by
      unfold accumulateByte
      dsimp only
      rw [Nat.lor_comm, ← Nat.shiftLeft_add_eq_or_of_lt hacc, Nat.shiftLeft_eq]
      have h32 : 2 ^ (d.bits + 8) ≤ 2 ^ 32 := Nat.pow_le_pow_right (by decide) (by omega)
      have hlt : byte * 2 ^ d.bits + d.accumulator < 2 ^ (d.bits + 8) := by
        rw [Nat.pow_add]
        nlinarith
      rw [Nat.mod_eq_of_lt (by omega)]
      exact hlt
    exact hv
  · -- `rotalumucca` の下 `32 - bits` bit は 0 なので、反転した byte を重ねるのは和
    have hrev := deflateReverse_eq byte
    have hrl : deflateReverse byte < 2 ^ 8 := by
      have h := bitsVal_lt (lsbBits 8 byte)
      rw [length_lsbBits] at h
      rw [hrev]
      exact h
    have e32 : 32 - d.bits = 24 - d.bits + 8 := by omega
    have hsh : deflateReverse byte <<< (24 - d.bits) < 2 ^ (32 - d.bits) := by
      rw [Nat.shiftLeft_eq, e32, Nat.pow_add, Nat.mul_comm (2 ^ (24 - d.bits))]
      exact Nat.mul_lt_mul_of_pos_right hrl (Nat.two_pow_pos _)
    have hor := Nat.two_pow_add_eq_or_of_lt hsh (bitsVal (pendingBits d))
    have hval : bitsVal (pendingBits d) * 2 ^ (32 - d.bits) + deflateReverse byte <<< (24 - d.bits) =
        bitsVal (pendingBits d ++ lsbBits 8 byte) * 2 ^ (32 - (d.bits + 8)) := by
      rw [bitsVal_append, length_lsbBits, ← hrev, Nat.shiftLeft_eq, e32, Nat.pow_add,
        show 32 - (d.bits + 8) = 24 - d.bits by omega]
      ring
    have hbound : bitsVal (pendingBits d ++ lsbBits 8 byte) * 2 ^ (32 - (d.bits + 8)) < 2 ^ 32 := by
      have h := bitsVal_lt (pendingBits d ++ lsbBits 8 byte)
      rw [List.length_append, length_pendingBits, length_lsbBits] at h
      calc bitsVal (pendingBits d ++ lsbBits 8 byte) * 2 ^ (32 - (d.bits + 8))
          < 2 ^ (d.bits + 8) * 2 ^ (32 - (d.bits + 8)) := Nat.mul_lt_mul_of_pos_right h (Nat.two_pow_pos _)
        _ = 2 ^ 32 := by rw [← Nat.pow_add]; congr 1; omega
    rw [hp]
    show (d.rotalumucca ||| deflateReverse byte <<< (24 - d.bits)) % 2 ^ 32 = _
    rw [hd.rot_eq, Nat.mul_comm, ← hor, Nat.mul_comm, hval, Nat.mod_eq_of_lt hbound]
    rfl

/-- `deflate_accumulate` の後の状態：不変条件と残りの bit の列を保ち、`target` bit そろうか
入力が尽きている。 -/
structure Accumulated (target : Nat) (d : Deflate) (inp : DeflateChunk) (d' : Deflate) (inp' : DeflateChunk) :
    Prop where
  wf : d'.Wf
  stream_eq : stream d' inp' = stream d inp
  enough : target ≤ d'.bits ∨ chunkBits inp' = []

/-- byte を足す一回りは、残りの bit の列を変えない。 -/
theorem stream_accumulateByte (hd : d.Wf) (hb : d.bits ≤ 24) {inp : DeflateChunk} (h : inp.offset < inp.len) :
    stream (accumulateByte d (inp.data.getD inp.offset 0).toNat) { inp with offset := inp.offset + 1 } =
      stream d inp := by
  rw [stream, stream, pendingBits_accumulateByte hd hb (UInt8.toNat_lt _), chunkBits_of_lt h, List.append_assoc]

/-- **溜める loop。** 入力に残る byte の数だけ fuel があれば、`Accumulated` で止まる。
fuel についての帰納法で、一回りごとに `stream_accumulateByte` と `wf_accumulateByte` を使う。 -/
theorem accumulateLoop_spec {target : Nat} (ht : target ≤ 25) :
    ∀ (fuel : Nat) (d : Deflate) (inp : DeflateChunk), d.Wf → inp.len - inp.offset ≤ fuel →
      Accumulated target d inp (accumulateLoop target fuel d inp).1 (accumulateLoop target fuel d inp).2
  | 0, d, inp, hd, hf => ⟨hd, rfl, .inr (@chunkBits_of_le inp (by omega))⟩
  | fuel + 1, d, inp, hd, hf => by
    rw [accumulateLoop_succ]
    by_cases hbt : d.bits < target
    · rw [if_pos hbt]
      by_cases hend : inp.offset ≥ inp.len
      · rw [if_pos hend]
        exact ⟨hd, rfl, .inr (chunkBits_of_le hend)⟩
      · rw [if_neg hend]
        have hlt : inp.offset < inp.len := by omega
        have hwf := wf_accumulateByte hd (by omega) (UInt8.toNat_lt (inp.data.getD inp.offset 0))
        obtain ⟨hw, hs, he⟩ := accumulateLoop_spec ht fuel _ { inp with offset := inp.offset + 1 } hwf
          (show inp.len - (inp.offset + 1) ≤ fuel by omega)
        exact ⟨hw, hs.trans (stream_accumulateByte hd (by omega) hlt), he⟩
    · rw [if_neg hbt]
      exact ⟨hd, rfl, .inl (show target ≤ d.bits by omega)⟩

theorem deflateAccumulate_spec (hd : d.Wf) (inp : DeflateChunk) {target : Nat} (ht : target ≤ 25) :
    Accumulated target d inp (deflateAccumulate d inp target).1 (deflateAccumulate d inp target).2.1 :=
  accumulateLoop_spec ht _ d inp hd (Nat.le_refl _)

end Accumulate

/-! ## 溜めても bit の数は変わらない

不変条件がなくても言える。`deflate_inflate` が止まることはこれだけから示す。
-/

/-- 溜める loop は入力の byte を溜めた bit に移すだけで、残りの bit の数も入力の領域も変えない。 -/
theorem accumulateLoop_length (target : Nat) :
    ∀ (fuel : Nat) (d : Deflate) (inp : DeflateChunk),
      (stream (accumulateLoop target fuel d inp).1 (accumulateLoop target fuel d inp).2).length =
          (stream d inp).length ∧
        (accumulateLoop target fuel d inp).2.len = inp.len ∧ (accumulateLoop target fuel d inp).2.data = inp.data
  | 0, d, inp => ⟨rfl, rfl, rfl⟩
  | fuel + 1, d, inp => by
    rw [accumulateLoop_succ]
    by_cases hbt : d.bits < target
    · rw [if_pos hbt]
      by_cases hend : inp.offset ≥ inp.len
      · rw [if_pos hend]
        exact ⟨rfl, rfl, rfl⟩
      · rw [if_neg hend]
        obtain ⟨hl, hlen, hdata⟩ := accumulateLoop_length target fuel
          (accumulateByte d (inp.data.getD inp.offset 0).toNat) { inp with offset := inp.offset + 1 }
        refine ⟨?_, hlen, hdata⟩
        rw [hl, length_stream, length_stream]
        simp only [accumulateByte]
        omega
    · rw [if_neg hbt]
      exact ⟨rfl, rfl, rfl⟩

theorem deflateAccumulate_length (d : Deflate) (inp : DeflateChunk) (target : Nat) :
    (stream (deflateAccumulate d inp target).1 (deflateAccumulate d inp target).2.1).length = (stream d inp).length ∧
      (deflateAccumulate d inp target).2.1.len = inp.len ∧ (deflateAccumulate d inp target).2.1.data = inp.data :=
  accumulateLoop_length target _ d inp

/-- 溜める loop は `target` に届いた所で止まる：一 byte でも読めば溜めた bit は `target + 8` 未満で、
入力の offset は `len` を越えない。 -/
theorem accumulateLoop_bound (target : Nat) :
    ∀ (fuel : Nat) (d : Deflate) (inp : DeflateChunk), inp.offset ≤ inp.len →
      ((accumulateLoop target fuel d inp).1.bits = d.bits ∨ (accumulateLoop target fuel d inp).1.bits < target + 8) ∧
        (accumulateLoop target fuel d inp).2.offset ≤ inp.len
  | 0, d, inp, h => ⟨.inl rfl, h⟩
  | fuel + 1, d, inp, h => by
    rw [accumulateLoop_succ]
    by_cases hbt : d.bits < target
    · rw [if_pos hbt]
      by_cases hend : inp.offset ≥ inp.len
      · rw [if_pos hend]
        exact ⟨.inl rfl, h⟩
      · rw [if_neg hend]
        obtain ⟨hb, ho⟩ := accumulateLoop_bound target fuel (accumulateByte d (inp.data.getD inp.offset 0).toNat)
          { inp with offset := inp.offset + 1 } (show inp.offset + 1 ≤ inp.len by omega)
        have h8 : (accumulateByte d (inp.data.getD inp.offset 0).toNat).bits = d.bits + 8 := rfl
        rw [h8] at hb
        exact ⟨.inr (by omega), ho⟩
    · rw [if_neg hbt]
      exact ⟨.inl rfl, h⟩

/-- 取り出しは、そろえば `target` bit、そろわなければ 0 bit 読む。 -/
theorem deflateExtract_length (d : Deflate) (inp : DeflateChunk) (target : Nat) :
    (stream (deflateExtract d inp target).2.1 (deflateExtract d inp target).2.2).length +
        (if (deflateExtract d inp target).1 < 0 then 0 else target) = (stream d inp).length ∧
      (deflateExtract d inp target).2.2.len = inp.len ∧ (deflateExtract d inp target).2.2.data = inp.data := by
  unfold deflateExtract
  by_cases h0 : target = 0
  · subst h0
    exact ⟨by simp, rfl, rfl⟩
  rw [if_neg h0]
  obtain ⟨hl, hlen, hdata⟩ := deflateAccumulate_length d inp target
  have hrc : (deflateAccumulate d inp target).2.2 = ((deflateAccumulate d inp target).1.bits : Int) - target := rfl
  generalize deflateAccumulate d inp target = r at hrc hl hlen hdata
  obtain ⟨d', inp', rc⟩ := r
  dsimp only at hrc hl hlen hdata ⊢
  subst hrc
  by_cases hlt : (d'.bits : Int) - target < 0
  · rw [if_pos hlt, if_pos hlt]
    exact ⟨by rw [Nat.add_zero, hl], hlen, hdata⟩
  · rw [if_neg hlt]
    have hv : ¬((deflateConsume d' target).1 : Int) < 0 := by omega
    rw [if_neg hv]
    refine ⟨?_, hlen, hdata⟩
    rw [← hl, length_stream, length_stream]
    simp only [deflateConsume]
    omega

/-- 取り出せた後に溜めに残るのは、前から溜めてあった bit の残りか、8 bit 未満。 -/
theorem deflateExtract_bound (d : Deflate) (inp : DeflateChunk) (target : Nat) (ho : inp.offset ≤ inp.len)
    (h : 0 ≤ (deflateExtract d inp target).1) :
    ((deflateExtract d inp target).2.1.bits ≤ d.bits ∨ (deflateExtract d inp target).2.1.bits < 8) ∧
      (deflateExtract d inp target).2.2.offset ≤ inp.len := by
  unfold deflateExtract at h ⊢
  by_cases h0 : target = 0
  · rw [if_pos h0]
    exact ⟨.inl (Nat.le_refl _), ho⟩
  rw [if_neg h0] at h ⊢
  obtain ⟨hb, hoff⟩ := accumulateLoop_bound target (inp.len - inp.offset) d inp ho
  unfold deflateAccumulate at h ⊢
  generalize accumulateLoop target (inp.len - inp.offset) d inp = r at h hb hoff ⊢
  obtain ⟨d', inp'⟩ := r
  dsimp only at h hb hoff ⊢
  by_cases hlt : (d'.bits : Int) - target < 0
  · rw [if_pos hlt] at h
    omega
  · rw [if_neg hlt]
    refine ⟨?_, hoff⟩
    simp only [deflateConsume]
    omega

/-! ## 捨てる -/

section Consume

variable {d : Deflate} {count : Nat}

/-- 捨てた後に溜めた bit は、前の列から先頭 `count` bit を落としたもの。 -/
theorem pendingBits_deflateConsume (hc : count ≤ d.bits) :
    pendingBits (deflateConsume d count).2 = (pendingBits d).drop count := by
  unfold pendingBits deflateConsume
  dsimp only
  rw [Nat.shiftRight_eq_div_pow, lsbBits_drop hc]

/-- 取り出した値の下 `count` bit は、列の先頭 `count` bit。 -/
theorem lsbBits_deflateConsume (hc : count ≤ d.bits) :
    lsbBits count (deflateConsume d count).1 = (pendingBits d).take count := by
  unfold pendingBits deflateConsume
  dsimp only
  rw [Nat.one_shiftLeft, Nat.and_two_pow_sub_one_eq_mod, lsbBits_mod_two_pow, lsbBits_take hc]

theorem deflateConsume_lt (d : Deflate) (count : Nat) : (deflateConsume d count).1 < 2 ^ count := by
  unfold deflateConsume
  dsimp only
  rw [Nat.one_shiftLeft, Nat.and_two_pow_sub_one_eq_mod]
  exact Nat.mod_lt _ (Nat.two_pow_pos _)

/-- 捨てても不変条件は保たれる。 -/
theorem wf_deflateConsume (hd : d.Wf) (hc : count ≤ d.bits) : (deflateConsume d count).2.Wf := by
  have hb := hd.bits_le
  have hacc := hd.acc_lt
  refine ⟨by simp [deflateConsume]; omega, ?_, ?_⟩
  · show d.accumulator >>> count < 2 ^ (d.bits - count)
    rw [Nat.shiftRight_eq_div_pow, Nat.div_lt_iff_lt_mul (Nat.two_pow_pos _), ← Nat.pow_add,
      Nat.sub_add_cancel hc]
    exact hacc
  · -- 列を先頭 `count` bit と残りに分け、先頭の分は左へ送ると 32 bit からあふれる
    show (d.rotalumucca <<< count) % 2 ^ 32 =
      bitsVal (pendingBits (deflateConsume d count).2) * 2 ^ (32 - (d.bits - count))
    rw [pendingBits_deflateConsume hc]
    have hsplit := bitsVal_append ((pendingBits d).take count) ((pendingBits d).drop count)
    rw [List.take_append_drop, List.length_drop, length_pendingBits] at hsplit
    have hrest := bitsVal_lt ((pendingBits d).drop count)
    rw [List.length_drop, length_pendingBits] at hrest
    have e : 32 - (d.bits - count) = 32 - d.bits + count := by omega
    have e32 : d.bits - count + (32 - d.bits + count) = 32 := by omega
    rw [Nat.shiftLeft_eq, hd.rot_eq, hsplit, e, Nat.mul_assoc, ← Nat.pow_add, Nat.add_mul, Nat.mul_assoc,
      ← Nat.pow_add, e32, Nat.mul_comm, Nat.mul_add_mod_self_left]
    refine Nat.mod_eq_of_lt ?_
    calc bitsVal ((pendingBits d).drop count) * 2 ^ (32 - d.bits + count)
        < 2 ^ (d.bits - count) * 2 ^ (32 - d.bits + count) := Nat.mul_lt_mul_of_pos_right hrest (Nat.two_pow_pos _)
      _ = 2 ^ 32 := by rw [← Nat.pow_add, e32]

/-- `rotalumucca` の上 16 bit をさらに `16 - c` bit 右へ送った値は、これから読む先頭 `c` bit を
読む順に上から並べた値。`deflate_decode` はこの値で符号を引く。 -/
theorem Deflate.Wf.window {d : Deflate} (hd : d.Wf) {c : Nat} (hc : c ≤ d.bits) (hc16 : c ≤ 16) :
    (d.rotalumucca >>> 16) % 2 ^ 16 / 2 ^ (16 - c) = bitsVal ((pendingBits d).take c) := by
  have hb := hd.bits_le
  have hB := bitsVal_lt (pendingBits d)
  rw [length_pendingBits] at hB
  have hrot : d.rotalumucca < 2 ^ 16 * 2 ^ 16 := by
    rw [hd.rot_eq, ← Nat.pow_add]
    calc bitsVal (pendingBits d) * 2 ^ (32 - d.bits)
        < 2 ^ d.bits * 2 ^ (32 - d.bits) := Nat.mul_lt_mul_of_pos_right hB (Nat.two_pow_pos _)
      _ = 2 ^ (16 + 16) := by rw [← Nat.pow_add]; congr 1; omega
  -- 上 16 bit は 16 bit に収まるので `% 2 ^ 16` は効かない
  rw [Nat.shiftRight_eq_div_pow, Nat.mod_eq_of_lt (Nat.div_lt_of_lt_mul hrot), Nat.div_div_eq_div_mul,
    ← Nat.pow_add, hd.rot_eq, show 16 + (16 - c) = (32 - d.bits) + (d.bits - c) by omega, Nat.pow_add,
    ← Nat.div_div_eq_div_mul, Nat.mul_div_cancel _ (Nat.two_pow_pos _), bitsVal_take, length_pendingBits]

/-- 捨てると、残りの bit の列から先頭 `count` bit が落ちる。 -/
theorem stream_deflateConsume (hc : count ≤ d.bits) (inp : DeflateChunk) :
    stream (deflateConsume d count).2 inp = (stream d inp).drop count := by
  rw [stream, stream, pendingBits_deflateConsume hc,
    List.drop_append_of_le_length (by rw [length_pendingBits]; exact hc)]

end Consume

/-! ## 取り出す -/

/-- **取り出し。** `target` bit が残っていれば、その `target` bit を下から並べた値を返して捨てる。
足りなければ負の数を返し、どの bit も失わない。どちらでも不変条件は保たれる。 -/
theorem deflateExtract_spec {d : Deflate} (hd : d.Wf) (inp : DeflateChunk) {target : Nat} (ht : target ≤ 25) :
    (deflateExtract d inp target).2.1.Wf ∧
    (target ≤ (stream d inp).length →
      ∃ v : Nat, (deflateExtract d inp target).1 = v ∧ v < 2 ^ target ∧
        lsbBits target v = (stream d inp).take target ∧
        stream (deflateExtract d inp target).2.1 (deflateExtract d inp target).2.2 = (stream d inp).drop target) ∧
    ((stream d inp).length < target →
      (deflateExtract d inp target).1 < 0 ∧
        stream (deflateExtract d inp target).2.1 (deflateExtract d inp target).2.2 = stream d inp) := by
  unfold deflateExtract
  by_cases h0 : target = 0
  · subst h0
    refine ⟨hd, fun _ => ⟨0, rfl, by decide, by simp [lsbBits], rfl⟩, fun h => absurd h (Nat.not_lt_zero _)⟩
  rw [if_neg h0]
  obtain ⟨hw, hs, he⟩ := deflateAccumulate_spec hd inp ht
  have hrc : (deflateAccumulate d inp target).2.2 = ((deflateAccumulate d inp target).1.bits : Int) - target :=
    rfl
  -- 溜めた後の状態に名前をつける
  generalize deflateAccumulate d inp target = r at hw hs he hrc
  obtain ⟨d', inp', rc⟩ := r
  dsimp only at hw hs he hrc ⊢
  subst hrc
  by_cases hlt : d'.bits < target
  · -- 足りない：入力は尽きていて、列は溜めた bit だけ
    have hend : chunkBits inp' = [] := he.resolve_left (by omega)
    rw [if_pos (by omega)]
    refine ⟨hw, fun hle => ?_, fun _ => ⟨by omega, hs⟩⟩
    rw [← hs, stream, hend, List.append_nil, length_pendingBits] at hle
    omega
  · have hc : target ≤ d'.bits := by omega
    rw [if_neg (by omega)]
    refine ⟨wf_deflateConsume hw hc, fun _ => ⟨_, rfl, deflateConsume_lt d' target, ?_, ?_⟩, fun hlt' => ?_⟩
    · rw [lsbBits_deflateConsume hc, ← hs, stream,
        List.take_append_of_le_length (by rw [length_pendingBits]; exact hc)]
    · rw [stream_deflateConsume hc, hs]
    · rw [← hs, stream, List.length_append, length_pendingBits] at hlt'
      omega

end FlexBoot.Inflate
