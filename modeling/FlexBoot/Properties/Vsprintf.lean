import Mathlib.Data.List.TakeWhile
import Mathlib.Data.Nat.Digits.Defs
import FlexBoot.Core.Vsprintf

/-!
# `vsnprintf` の整数の変換

一つの変換 `%[#][0][幅][長さ]変換` を、その型の値を一つ積んで書き出したときの文字列を、
C の書式の意味と比べる。

* `vcprintf_len` — どの書式、どの引数でも、返す長さは `cputchar` で渡した文字の数である
* `vcprintf_hex` — `%x` と `%X` は、どの build でも `int`、`long`、`long long`、`size_t` の
  値の 16 進の数字を幅まで詰め、`#` なら前に `0x` を付ける
* `vcprintf_decimal` — `%d` と `%i` は、`signed long` の最小の値でなく、`0` の flag で負の値を
  数字の数以下の幅に書くのでなければ、十進の表記を書く
* `vcprintf_decimal_zpad_narrow` — `0` の flag の負の値は、幅が数字の数以下なら先頭の数字を `-` で
  上書きする
* `vcprintf_decimal_min` — `signed long` の最小の値は `num = -num` であふれる
* `vcprintf_lld_i386` — i386 の `%lld` は `signed long` の一語だけを読む

## 書式を読む

`%` から変換の文字までを、flag、幅、長さの修飾子の三つに分けて進める。それぞれの部分は段を
変えるだけで、引数も出力も変えない。変換の文字は、どの段からでも `lengthStep` の最後の
枝に届く。
-/

namespace FlexBoot.Vsprintf

open Infra

variable {arch : Arch} {mem : Memory}

/-! ## 一歩でできること -/

@[simp] theorem Printf.puts_out (p : Printf) (s : Bytes) : (p.puts s).out = p.out ++ s := rfl

@[simp] theorem Printf.puts_len (p : Printf) (s : Bytes) : (p.puts s).len = p.len + s.length := rfl

/-- `p'` は `p` の後に文字 `s` を `cputchar` で渡した状態である。 -/
def Printf.Extends (p p' : Printf) : Prop := ∃ s, p'.out = p.out ++ s ∧ p'.len = p.len + s.length

theorem Printf.Extends.trans {p q r : Printf} (hpq : p.Extends q) (hqr : q.Extends r) : p.Extends r := by
  obtain ⟨s, hs, hl⟩ := hpq
  obtain ⟨t, ht, hl'⟩ := hqr
  exact ⟨s ++ t, by rw [ht, hs, List.append_assoc], by rw [hl', hl, List.length_append, Nat.add_assoc]⟩

theorem Printf.extends_phase (p : Printf) (ph : Phase) : p.Extends { p with phase := ph } :=
  ⟨[], by simp, by simp⟩

theorem Printf.extends_puts (p : Printf) (ph : Phase) (ap : VaList) (s : Bytes) :
    p.Extends ({ p with phase := ph, args := ap }.puts s) :=
  ⟨s, rfl, rfl⟩

theorem lengthStep_extends {p p' : Printf} {flags width : Nat} {length : Int} {c : UInt8}
    (h : lengthStep arch mem p flags width length c = .ok p') : p.Extends p' := by
  unfold lengthStep at h
  split_ifs at h
  iterate 3 (cases h; exact p.extends_phase _)
  obtain ⟨⟨s, ap⟩, -, h⟩ := bind_eq_ok.mp h
  cases h
  exact p.extends_puts _ _ _

theorem widthStep_extends {p p' : Printf} {flags width : Nat} {c : UInt8}
    (h : widthStep arch mem p flags width c = .ok p') : p.Extends p' := by
  unfold widthStep at h
  dsimp only at h
  split_ifs at h
  · cases h
    exact p.extends_phase _
  · exact lengthStep_extends h

theorem flagsStep_extends {p p' : Printf} {flags : Nat} {c : UInt8}
    (h : flagsStep arch mem p flags c = .ok p') : p.Extends p' := by
  unfold flagsStep at h
  split_ifs at h
  iterate 2 (cases h; exact p.extends_phase _)
  exact widthStep_extends h

/-- 一歩は `cputchar` で文字を渡すか、何も渡さないかである。 -/
theorem printfStep_extends {p p' : Printf} {c : UInt8} (h : printfStep arch mem p c = .ok p') :
    p.Extends p' := by
  unfold printfStep at h
  split at h
  · split_ifs at h
    · cases h
      exact p.extends_phase _
    · cases h
      exact ⟨[c], rfl, rfl⟩
  · exact flagsStep_extends h
  · exact widthStep_extends h
  · exact lengthStep_extends h

/-- **返す長さは、`cputchar` で渡した文字の数である。** どの書式、どの引数でも。 -/
theorem vcprintf_len {fmt : Bytes} {words : List Nat} {out : Bytes} {len : Nat}
    (h : vcprintf arch mem fmt words = .ok (out, len)) : len = out.length := by
  unfold vcprintf at h
  obtain ⟨p, hrun, h⟩ := bind_eq_ok.mp h
  have hext : Printf.Extends ⟨.text, ⟨words, 0⟩, [], 0⟩ p :=
    foldlM_invariant (P := Printf.Extends ⟨.text, ⟨words, 0⟩, [], 0⟩)
      (fun _ _ _ hq hstep => hq.trans (printfStep_extends hstep)) _ (Printf.extends_phase _ .text) hrun
  obtain ⟨s, hs, hl⟩ := hext
  split at h
  · cases h
    simp only [List.nil_append, Nat.zero_add] at hs hl
    rw [hs, hl]
  · cases h

/-! ## 書式を読む段 -/

/-- `%` の後で変換の文字が来たときに使う flag、幅、`type_sizes` の添字。 -/
def Phase.pending : Phase → Option (Nat × Nat × Int)
  | .text => none
  | .flags f => some (f, 0, intLen)
  | .width f w => some (f, w, intLen)
  | .length f w l => some (f, w, l)

/-- 十進の数字の文字。 -/
def IsDigit (c : UInt8) : Prop := 0x30 ≤ c.toNat ∧ c.toNat < 0x3A

instance (c : UInt8) : Decidable (IsDigit c) := inferInstanceAs (Decidable (_ ∧ _))

/-- `#` でも数字でもない文字は、どの段からも長さの修飾子の段に届く。 -/
theorem printfStep_of_pending {p : Printf} {flags width : Nat} {length : Int} {c : UInt8}
    (hp : p.phase.pending = some (flags, width, length)) (hsharp : c ≠ 0x23) (hdigit : ¬IsDigit c) :
    printfStep arch mem p c = lengthStep arch mem p flags width length c := by
  have hzero : c ≠ 0x30 := by rintro rfl; exact hdigit ⟨by decide, by decide⟩
  have hdigit : ¬(0x30 ≤ c.toNat ∧ c.toNat < 0x3A) := hdigit
  unfold printfStep
  cases hph : p.phase with
  | text => rw [hph, Phase.pending] at hp; cases hp
  | flags f =>
    rw [hph, Phase.pending, Option.some.injEq, Prod.mk.injEq, Prod.mk.injEq] at hp
    obtain ⟨rfl, rfl, rfl⟩ := hp
    dsimp only
    rw [flagsStep, if_neg hsharp, if_neg hzero, widthStep, if_neg hdigit]
  | width f w =>
    rw [hph, Phase.pending, Option.some.injEq, Prod.mk.injEq, Prod.mk.injEq] at hp
    obtain ⟨rfl, rfl, rfl⟩ := hp
    dsimp only
    rw [widthStep, if_neg hdigit]
  | length f w l =>
    rw [hph, Phase.pending, Option.some.injEq, Prod.mk.injEq, Prod.mk.injEq] at hp
    obtain ⟨rfl, rfl, rfl⟩ := hp
    rfl

/-- 変換の文字は、読んだ引数から書いた文字を渡して、普通の文字の段に戻る。 -/
theorem lengthStep_convert {p : Printf} {flags width : Nat} {length : Int} {c : UInt8}
    (hh : c ≠ 0x68) (hl : c ≠ 0x6C) (hz : c ≠ 0x7A) :
    lengthStep arch mem p flags width length c =
      (convert arch mem flags width length c p.args).map fun r => { p with phase := .text, args := r.2 }.puts r.1 := by
  rw [lengthStep, if_neg hh, if_neg hl, if_neg hz]
  cases convert arch mem flags width length c p.args <;> rfl

theorem printfStep_percent {p : Printf} (hp : p.phase = .text) :
    printfStep arch mem p 0x25 = .ok { p with phase := .flags 0 } := by
  rw [printfStep, hp]
  rfl

/-- 数字の一文字は幅を十倍して足す。`flags` の段では、`0` でない数字だけが幅の始まりになる。 -/
theorem printfStep_digit {p : Printf} {flags width d : Nat} (hd : d < 10) (hw : width * 10 + d < 2 ^ 31)
    (hp : p.phase = .width flags width ∨ (p.phase = .flags flags ∧ width = 0 ∧ 0 < d)) :
    printfStep arch mem p (UInt8.ofNat (48 + d)) = .ok { p with phase := .width flags (width * 10 + d) } := by
  have hc : (UInt8.ofNat (48 + d)).toNat = 48 + d := by simp; omega
  have hdigit : 0x30 ≤ (UInt8.ofNat (48 + d)).toNat ∧ (UInt8.ofNat (48 + d)).toNat < 0x3A := by omega
  rcases hp with hp | ⟨hp, rfl, hpos⟩
  · rw [printfStep, hp]
    dsimp only
    rw [widthStep, if_pos hdigit]
    simp only [hc, Nat.add_sub_cancel_left, if_pos hw]
  · have hsharp : UInt8.ofNat (48 + d) ≠ 0x23 := fun h => by rw [h] at hc; simp at hc; omega
    have hzero : UInt8.ofNat (48 + d) ≠ 0x30 := fun h => by rw [h] at hc; simp at hc; omega
    rw [printfStep, hp]
    dsimp only
    rw [flagsStep, if_neg hsharp, if_neg hzero, widthStep, if_pos hdigit]
    simp only [hc, Nat.add_sub_cancel_left, if_pos hw]

/-! ## 一つの変換の書式 -/

/-- 変換の引数の型。 -/
inductive IntType
  | int
  | long
  | longLong
  | sizeT
  deriving DecidableEq, Repr

/-- 型を選ぶ長さの修飾子。 -/
def IntType.modifier : IntType → Bytes
  | .int => []
  | .long => [0x6C]
  | .longLong => [0x6C, 0x6C]
  | .sizeT => [0x7A]

/-- その型の `sizeof`。 -/
def IntType.size (arch : Arch) : IntType → Nat
  | .int => 4
  | .long => arch.longBits / 8
  | .longLong => 8
  | .sizeT => arch.longBits / 8

/-- 修飾子を読んだ後の `type_sizes` の添字。 -/
def IntType.lengthIndex : IntType → Int
  | .int => intLen
  | .long => longLen
  | .longLong => 4
  | .sizeT => sizeTLen

/-- flag の文字。 -/
def flagChars (alt zero : Bool) : Bytes := (if alt then [0x23] else []) ++ (if zero then [0x30] else [])

/-- flag の文字が作る `flags`。 -/
def flagBits (alt zero : Bool) : Nat := (if alt then altForm else 0) ||| (if zero then zpad else 0)

/-- 幅の数字。幅 0 は書かない。 -/
def widthChars (width : Nat) : Bytes := if width = 0 then [] else decimalDigits width

/-- `%`、flag、幅、長さの修飾子、変換の文字を並べた書式。 -/
def convFormat (alt zero : Bool) (width : Nat) (t : IntType) (c : UInt8) : Bytes :=
  0x25 :: (flagChars alt zero ++ widthChars width ++ t.modifier ++ [c])

/-- 変換の文字になる文字：flag でも数字でも長さの修飾子でもない。 -/
def IsConv (c : UInt8) : Prop := c ≠ 0x23 ∧ ¬IsDigit c ∧ c ≠ 0x68 ∧ c ≠ 0x6C ∧ c ≠ 0x7A

instance (c : UInt8) : Decidable (IsConv c) := inferInstanceAs (Decidable (_ ∧ _ ∧ _ ∧ _ ∧ _))

theorem foldlM_flagChars (p : Printf) (hp : p.phase = .flags 0) (alt zero : Bool) :
    (flagChars alt zero).foldlM (printfStep arch mem) p = .ok { p with phase := .flags (flagBits alt zero) } := by
  obtain ⟨ph, ap, out, len⟩ := p
  dsimp only at hp
  subst hp
  cases alt <;> cases zero <;> rfl

/-- 正の数の十進の数字を読むと、幅はその数になる。最初の数字は `0` でないので flag にならない。 -/
theorem foldlM_digits_width {flags : Nat} : ∀ (fuel n : Nat), 0 < n → n < 2 ^ 31 → n < 10 ^ fuel →
    ∀ p : Printf, (p.phase = .flags flags ∨ p.phase = .width flags 0) →
      (digitsMsb 10 (fun d => UInt8.ofNat (48 + d)) fuel n).foldlM (printfStep arch mem) p =
        .ok { p with phase := .width flags n }
  | 0, n, _, _, hf, _, _ => by rw [Nat.pow_zero] at hf; omega
  | fuel + 1, n, hn, hlt, hf, p, hp => by
    rw [digitsMsb_succ, List.foldlM_append]
    by_cases hq : n / 10 = 0
    · -- 一桁：`flags` の段か幅 0 の段で読む
      rw [if_pos hq, List.foldlM_nil]
      have h : printfStep arch mem p (UInt8.ofNat (48 + n % 10)) =
          .ok { p with phase := .width flags (0 * 10 + n % 10) } :=
        printfStep_digit (Nat.mod_lt _ (by decide)) (by omega) (hp.symm.imp id fun h => ⟨h, rfl, by omega⟩)
      simp only [pure, Except.pure, ok_bind, List.foldlM_cons, h, List.foldlM_nil]
      congr 3
      omega
    · -- 上の桁を読んで幅 `n / 10` にし、最後の桁を足す
      rw [if_neg hq, foldlM_digits_width fuel (n / 10) (by omega) (by omega)
        (by rw [Nat.pow_succ] at hf; omega) p hp, ok_bind]
      have h : printfStep arch mem { p with phase := .width flags (n / 10) } (UInt8.ofNat (48 + n % 10)) =
          .ok { p with phase := .width flags (n / 10 * 10 + n % 10) } :=
        printfStep_digit (Nat.mod_lt _ (by decide)) (by omega) (.inl rfl)
      simp only [List.foldlM_cons, h, ok_bind, List.foldlM_nil]
      congr 3
      omega

theorem foldlM_widthChars {flags width : Nat} (hw : width < 2 ^ 31) (p : Printf) (hp : p.phase = .flags flags) :
    ∃ ph, (widthChars width).foldlM (printfStep arch mem) p = .ok { p with phase := ph } ∧
      ph.pending = some (flags, width, intLen) := by
  by_cases h0 : width = 0
  · subst h0
    exact ⟨p.phase, rfl, by rw [hp]; rfl⟩
  · refine ⟨.width flags width, ?_, rfl⟩
    rw [widthChars, if_neg h0, decimalDigits, decimalDigitsAux_eq]
    exact foldlM_digits_width _ _ (Nat.pos_of_ne_zero h0) hw (lt_ten_pow_succ width) p (.inl hp)

/-- 長さの修飾子は、`type_sizes` の添字をその型の位置に動かす。 -/
theorem foldlM_modifier {flags width : Nat} (t : IntType) (p : Printf)
    (hp : p.phase.pending = some (flags, width, intLen)) :
    ∃ ph, t.modifier.foldlM (printfStep arch mem) p = .ok { p with phase := ph } ∧
      ph.pending = some (flags, width, t.lengthIndex) := by
  have hl : ∀ (q : Printf) (l : Int), q.phase.pending = some (flags, width, l) →
      printfStep arch mem q 0x6C = .ok { q with phase := .length flags width (l + 1) } := by
    intro q l hq
    rw [printfStep_of_pending hq (by decide) (by decide), lengthStep, if_neg (by decide), if_pos rfl]
  cases t with
  | int => exact ⟨p.phase, rfl, hp⟩
  | long => exact ⟨_, by simp only [IntType.modifier, List.foldlM_cons, hl p _ hp, List.foldlM_nil]; rfl, rfl⟩
  | longLong =>
    refine ⟨.length flags width (intLen + 1 + 1), ?_, rfl⟩
    simp only [IntType.modifier, List.foldlM_cons, hl p _ hp, ok_bind,
      hl { p with phase := .length flags width (intLen + 1) } _ rfl, List.foldlM_nil]
    rfl
  | sizeT =>
    refine ⟨.length flags width sizeTLen, ?_, rfl⟩
    simp only [IntType.modifier, List.foldlM_cons, List.foldlM_nil]
    rw [printfStep_of_pending hp (by decide) (by decide), lengthStep, if_neg (by decide), if_neg (by decide),
      if_pos rfl]
    rfl

/-- 一つの変換の書式を読むと、`convert` の書いた文字を渡して普通の文字の段に戻る。 -/
theorem foldlM_convFormat {alt zero : Bool} {width : Nat} {c : UInt8} (hw : width < 2 ^ 31) (hc : IsConv c)
    (t : IntType) (p : Printf) (hp : p.phase = .text) :
    (convFormat alt zero width t c).foldlM (printfStep arch mem) p =
      (convert arch mem (flagBits alt zero) width t.lengthIndex c p.args).map
        fun r => { p with phase := .text, args := r.2 }.puts r.1 := by
  obtain ⟨hsharp, hdigit, hh, hl, hz⟩ := hc
  rw [convFormat, List.foldlM_cons, printfStep_percent hp, ok_bind, List.foldlM_append, List.foldlM_append,
    List.foldlM_append, foldlM_flagChars _ rfl, ok_bind]
  obtain ⟨ph, hwidth, hph⟩ :=
    @foldlM_widthChars arch mem (flagBits alt zero) width hw { p with phase := .flags (flagBits alt zero) } rfl
  rw [hwidth, ok_bind]
  obtain ⟨ph', hmod, hph'⟩ :=
    @foldlM_modifier arch mem (flagBits alt zero) width t { { p with phase := .flags (flagBits alt zero) } with phase := ph } hph
  rw [hmod, ok_bind, List.foldlM_cons, printfStep_of_pending hph' hsharp hdigit, lengthStep_convert hh hl hz]
  cases convert arch mem (flagBits alt zero) width t.lengthIndex c p.args <;> rfl

theorem ne_zero_of_mem_convFormat {alt zero : Bool} {width : Nat} {t : IntType} {c : UInt8} (hc0 : c ≠ 0)
    {x : UInt8} (hx : x ∈ convFormat alt zero width t c) : x ≠ 0 := by
  simp only [convFormat, List.mem_cons, List.mem_append, List.not_mem_nil, or_false] at hx
  rcases hx with rfl | (((hf | hw) | hm) | rfl)
  · decide
  · simp only [flagChars, List.mem_append] at hf
    rcases hf with hf | hf <;> split at hf <;> simp at hf <;> rw [hf] <;> decide
  · rw [widthChars] at hw
    split at hw
    · simp at hw
    · obtain ⟨d, hd, rfl⟩ := mem_decimalDigits hw
      intro h
      have := congrArg UInt8.toNat h
      simp at this
      omega
  · cases t <;> simp [IntType.modifier] at hm <;> rw [hm] <;> decide
  · exact hc0

/-- 一つの変換だけの書式では、`vcprintf` は `convert` の書いた文字を渡し、その数を返す。 -/
theorem vcprintf_convFormat {alt zero : Bool} {width : Nat} {c : UInt8} (hw : width < 2 ^ 31) (hc : IsConv c)
    (hc0 : c ≠ 0) (t : IntType) (words : List Nat) :
    vcprintf arch mem (convFormat alt zero width t c) words =
      (convert arch mem (flagBits alt zero) width t.lengthIndex c ⟨words, 0⟩).map fun r => (r.1, r.1.length) := by
  have hnz : (convFormat alt zero width t c).takeWhile (· ≠ 0) = convFormat alt zero width t c :=
    List.takeWhile_eq_self_iff.mpr fun x hx => decide_eq_true (ne_zero_of_mem_convFormat hc0 hx)
  rw [vcprintf, hnz, foldlM_convFormat hw hc t _ rfl]
  rcases convert arch mem (flagBits alt zero) width t.lengthIndex c ⟨words, 0⟩ with e | ⟨s, ap⟩
  · rfl
  · simp [Except.map, Printf.puts]
    rfl

/-! ## 引数を読む -/

/-- 呼び出し側が積んだ 8 byte 以下の整数は、同じ大きさの `va_arg` でそのまま読める。 -/
theorem vaArg_pushArg {size v : Nat} (hsize : size ≤ 8) (hv : v < 2 ^ (8 * size)) (rest : List Nat) :
    vaArg arch size ⟨pushArg arch size v ++ rest, 0⟩ =
      .ok (v, ⟨pushArg arch size v ++ rest, (pushArg arch size v).length⟩) := by
  unfold vaArg pushArg
  by_cases h : 8 * size ≤ arch.longBits
  · simp [h, VaList.next, Nat.mod_eq_of_lt hv]
  · -- i386 の 8 byte の型：下の語と上の語に分けて積み、二語を読んで組み立てる
    have h32 : arch.longBits = 32 := by
      cases arch <;> simp only [Arch.longBits] at h ⊢
      omega
    have hhi : v / 2 ^ 32 < 2 ^ 32 := by
      rw [Nat.div_lt_iff_lt_mul (by decide), ← Nat.pow_add]
      exact Nat.lt_of_lt_of_le hv (Nat.pow_le_pow_right (by decide) (by omega))
    rw [h32] at h ⊢
    simp [h, VaList.next]
    omega

theorem typeSize_lengthIndex (t : IntType) : typeSize arch t.lengthIndex = .ok (t.size arch) := by
  cases t <;> cases arch <;> rfl

/-- `%x` の三つの `va_arg` のうち、選ばれるのはその型の大きさのものである。 -/
theorem hexRead_eq {β : Type} (t : IntType) (ap : VaList) (k : Nat × VaList → Except Fault β) :
    (if 8 ≤ t.size arch then vaArg arch 8 ap >>= k
      else if arch.longBits / 8 ≤ t.size arch then vaArg arch (arch.longBits / 8) ap >>= k
      else vaArg arch 4 ap >>= k) = vaArg arch (t.size arch) ap >>= k := by
  cases t <;> cases arch <;> rfl

/-- `%d` の `va_arg` は、i386 の `long long` でなければその型の大きさで読み、その幅で符号を付ける。 -/
theorem decimalRead_eq {β : Type} (t : IntType) (ht : t ≠ .longLong ∨ arch = .x86_64) (ap : VaList)
    (k : Int × VaList → Except Fault β) :
    (if arch.longBits / 8 ≤ t.size arch then
        ((fun r => (toSigned arch.longBits r.1, r.2)) <$> vaArg arch (arch.longBits / 8) ap) >>= k
      else ((fun r => (toSigned 32 r.1, r.2)) <$> vaArg arch 4 ap) >>= k) =
      ((fun r => (toSigned (8 * t.size arch) r.1, r.2)) <$> vaArg arch (t.size arch) ap) >>= k := by
  cases t <;> cases arch <;> first | rfl | simp at ht

/-! ## C の書式の意味 -/

/-- `%x` の書くべき文字列：値の 16 進の数字を幅まで `0` か空白で詰め、`#` なら前に `0x` を付ける。
`%X` は数字も `0X` も大文字で書く。 -/
def hexSpec (alt zero upper : Bool) (width v : Nat) : Bytes :=
  let digits := (Nat.toDigits 16 v).map fun ch => UInt8.ofNat (if upper then ch.toUpper else ch).toNat
  let lead : Bytes := if alt then [0x30, if upper then 0x58 else 0x78] else []
  lead ++ List.replicate (width - digits.length) (if zero then 0x30 else 0x20) ++ digits

/-- `%d` の書くべき文字列：十進の表記を幅まで詰める。空白なら符号の前に、`0` なら符号の後に詰める。 -/
def decimalSpec (zero : Bool) (width : Nat) (s : Int) : Bytes :=
  let digits := (Nat.toDigits 10 s.natAbs).map fun ch => UInt8.ofNat ch.toNat
  let sign : Bytes := if s < 0 then [0x2D] else []
  let fill := width - (sign.length + digits.length)
  if zero then sign ++ List.replicate fill 0x30 ++ digits else List.replicate fill 0x20 ++ sign ++ digits

/-- 符号付きの値 `s` の `bits` bit の bit 列。呼び出し側はこれを積む。 -/
def ofSigned (bits : Nat) (s : Int) : Nat := (s % ((2 ^ bits : Nat) : Int)).toNat

/-! ## 数の書き出し -/

theorem decimalDigits_eq_toDigits (n : Nat) :
    decimalDigits n = (Nat.toDigits 10 n).map fun ch => UInt8.ofNat ch.toNat := by
  rw [decimalDigits, decimalDigitsAux_eq]
  exact digitsMsb_eq_map_toDigits (by decide) (by decide) n

/-- 表 `"0123456789ABCDEF"` の文字に `case_mod` を足すと、`Nat.toDigits` の文字のそれぞれの大きさになる。 -/
theorem hexDigits_case (upper : Bool) (v : Nat) :
    digitsMsb 16 (fun d => hexChars.getD d 0 ||| UInt8.ofNat (if upper then 0 else 0x20)) (v + 1) v =
      (Nat.toDigits 16 v).map fun ch => UInt8.ofNat (if upper then ch.toUpper else ch).toNat := by
  apply digitsMsb_eq_map_toDigits (by decide)
  cases upper <;> decide

/-- `format_hex` の flag は、`#` と `0` の flag と変換の文字の大きさから来る。 -/
theorem formatHex_eq_hexSpec (alt zero upper : Bool) (width v : Nat) :
    formatHex v width (flagBits alt zero ||| ((if upper then 0x58 else 0x78 : UInt8).toNat &&& 0x20)) =
      hexSpec alt zero upper width v := by
  generalize hF : flagBits alt zero ||| ((if upper then 0x58 else 0x78 : UInt8).toNat &&& 0x20) = F
  have hcase : UInt8.ofNat (F &&& lcase) = UInt8.ofNat (if upper then 0 else 0x20) := by
    subst hF
    cases alt <;> cases zero <;> cases upper <;> rfl
  have hpad : UInt8.ofNat ((F &&& zpad) ||| 0x20) = if zero then 0x30 else 0x20 := by
    subst hF
    cases alt <;> cases zero <;> cases upper <;> rfl
  have halt : (F &&& altForm ≠ 0) = (alt = true) := by
    subst hF
    cases alt <;> cases zero <;> cases upper <;> decide
  have hX : (0x58 : UInt8) ||| UInt8.ofNat (if upper then 0 else 0x20) = if upper then 0x58 else 0x78 := by
    cases upper <;> rfl
  simp only [formatHex, hexSpec, hcase, hpad, halt, hexDigits_case, hX]
  cases alt <;> rfl

theorem zpad_flagBits (alt zero : Bool) : flagBits alt zero &&& zpad = if zero then zpad else 0 := by
  cases alt <;> cases zero <;> rfl

theorem pad_flagBits (alt zero : Bool) :
    UInt8.ofNat ((flagBits alt zero &&& zpad) ||| 0x20) = if zero then 0x30 else 0x20 := by
  cases alt <;> cases zero <;> rfl

/-- `0` の flag で負の値を数字の数より広い幅に書くか、そうでなければ、`format_decimal` は C の書式の
意味どおりに書く。 -/
theorem formatDecimal_eq_decimalSpec {bits : Nat} {s : Int} (hmin : s ≠ -2 ^ (bits - 1)) (alt zero : Bool)
    (width : Nat) (hnarrow : ¬(zero = true ∧ s < 0 ∧ width ≤ (Nat.toDigits 10 s.natAbs).length)) :
    formatDecimal bits s width (flagBits alt zero) = .ok (decimalSpec zero width s) := by
  have hk : (Nat.toDigits 10 s.natAbs).length = (decimalDigits s.natAbs).length := by
    rw [decimalDigits_eq_toDigits, List.length_map]
  rw [hk] at hnarrow
  rw [formatDecimal, if_neg hmin, decimalSpec, ← decimalDigits_eq_toDigits]
  dsimp only
  rw [pad_flagBits, zpad_flagBits]
  generalize decimalDigits s.natAbs = ds at hnarrow ⊢
  by_cases hs : s < 0 <;> cases zero
  · -- 負の値を空白で詰める
    simp [hs]
    omega
  · -- 負の値を `0` で詰める：詰めた `0` の最初の一つを `-` が上書きする
    simp only [hs, true_and, not_le] at hnarrow
    have hfill : width - ds.length = width - (1 + ds.length) + 1 := by omega
    simp [hs, zpad, hfill, List.replicate_succ]
  · simp [hs]
  · simp [hs]

/-- `0` の flag で負の値を数字の数以下の幅に書くと、先頭の数字を `-` で上書きする。 -/
theorem formatDecimal_zpad_narrow {bits : Nat} {s : Int} (hmin : s ≠ -2 ^ (bits - 1)) (hs : s < 0) (alt : Bool)
    {width : Nat} (hnarrow : width ≤ (Nat.toDigits 10 s.natAbs).length) :
    formatDecimal bits s width (flagBits alt true) =
      .ok (0x2D :: ((Nat.toDigits 10 s.natAbs).map fun ch => UInt8.ofNat ch.toNat).tail) := by
  rw [formatDecimal, if_neg hmin, ← decimalDigits_eq_toDigits]
  dsimp only
  rw [pad_flagBits, zpad_flagBits]
  rw [← List.length_map (f := fun ch => UInt8.ofNat ch.toNat), ← decimalDigits_eq_toDigits] at hnarrow
  simp [hs, zpad, Nat.sub_eq_zero_of_le hnarrow]

/-- `signed long` の最小の値は `num = -num` であふれる。 -/
theorem formatDecimal_min (bits width flags : Nat) :
    formatDecimal bits (-2 ^ (bits - 1)) width flags = .error .signedOverflow := by
  rw [formatDecimal, if_pos rfl]

/-- 型の範囲の値は、bit 列にして符号付きで読むと元に戻る。 -/
theorem toSigned_ofSigned {bits : Nat} (hb : 0 < bits) {s : Int} (hlo : -2 ^ (bits - 1) ≤ s)
    (hhi : s < 2 ^ (bits - 1)) : toSigned bits (ofSigned bits s) = s := by
  obtain ⟨Q, hQ⟩ : ∃ Q, Q = 2 ^ (bits - 1) := ⟨_, rfl⟩
  have hPQ : 2 ^ bits = 2 * Q := by rw [hQ, ← Nat.pow_succ', Nat.succ_eq_add_one, Nat.sub_add_cancel hb]
  have hQpos : 0 < Q := hQ ▸ Nat.two_pow_pos _
  have hQi : (2 : Int) ^ (bits - 1) = (Q : Int) := by rw [hQ]; push_cast; rfl
  have hPi : (2 : Int) ^ bits = 2 * (Q : Int) := by rw [← Nat.cast_ofNat, ← Nat.cast_pow, hPQ]; push_cast; rfl
  rw [hQi] at hlo hhi
  unfold toSigned ofSigned
  rw [hPQ, ← hQ, hPi]
  by_cases hs : 0 ≤ s
  · have hmod : s % ((2 * Q : Nat) : Int) = s := Int.emod_eq_of_lt hs (by push_cast; omega)
    rw [hmod, if_pos (by omega)]
    omega
  · -- 負の値は `2 ^ bits` を足した bit 列になる
    have hmod : s % ((2 * Q : Nat) : Int) = s + 2 * Q := by
      rw [Int.emod_eq_add_self_emod]
      exact Int.emod_eq_of_lt (by push_cast; omega) (by push_cast; omega)
    rw [hmod, if_neg (by omega)]
    omega

theorem ofSigned_lt (bits : Nat) (s : Int) : ofSigned bits s < 2 ^ bits := by
  have hpos : (0 : Int) < ((2 ^ bits : Nat) : Int) := by exact_mod_cast Nat.two_pow_pos bits
  have hlt := Int.emod_lt_of_pos s hpos
  have hnn := Int.emod_nonneg s (Int.ne_of_gt hpos)
  unfold ofSigned
  omega

/-! ## `tmp_buf` に収まる -/

theorem length_hexSpec_le {alt zero upper : Bool} {width v : Nat} (hw : width ≤ 20) (hv : v < 2 ^ 64) :
    (hexSpec alt zero upper width v).length ≤ 31 := by
  have hk : (Nat.toDigits 16 v).length ≤ 16 := Nat.toDigits_length 16 v 16 (by decide) (by simpa using hv)
  simp only [hexSpec, List.length_append, List.length_replicate, List.length_map]
  split <;> simp only [List.length_cons, List.length_nil] <;> omega

theorem length_decimalSpec_le {zero : Bool} {width : Nat} {s : Int} (hw : width ≤ 20) (hs : s.natAbs < 10 ^ 19) :
    (decimalSpec zero width s).length ≤ 31 := by
  have hk : (Nat.toDigits 10 s.natAbs).length ≤ 19 := Nat.toDigits_length 10 _ 19 (by decide) hs
  simp only [decimalSpec, List.length_map]
  split <;> split <;>
    simp only [List.length_append, List.length_replicate, List.length_cons, List.length_nil, List.length_map] <;>
    omega

/-- 8 byte 以下の型の値は、十進で 19 桁に収まる。 -/
theorem natAbs_lt_of_range {t : IntType} {s : Int} (hlo : -2 ^ (8 * t.size arch - 1) ≤ s)
    (hhi : s < 2 ^ (8 * t.size arch - 1)) : s.natAbs < 10 ^ 19 := by
  have hbits : (2 : Int) ^ (8 * t.size arch - 1) ≤ 2 ^ 63 :=
    pow_le_pow_right₀ (by decide) (by cases t <;> cases arch <;> decide)
  omega

/-! ## 一つの変換の書き出し -/

/-- **`%x` と `%X` は、その型の値の 16 進の数字を書く。** どの build でも、`int`、`long`、`long long`、
`size_t` のどれでも、幅 20 までの `#` と `0` の flag の組み合わせのどれでも。 -/
theorem vcprintf_hex {alt zero upper : Bool} {width : Nat} (hw : width ≤ 20) (t : IntType) {v : Nat}
    (hv : v < 2 ^ (8 * t.size arch)) (rest : List Nat) :
    vcprintf arch mem (convFormat alt zero width t (if upper then 0x58 else 0x78)) (pushArg arch (t.size arch) v ++ rest) =
      .ok (hexSpec alt zero upper width v, (hexSpec alt zero upper width v).length) := by
  have hsize : t.size arch ≤ 8 := by cases t <;> cases arch <;> decide
  have hv64 : v < 2 ^ 64 := Nat.lt_of_lt_of_le hv (Nat.pow_le_pow_right (by decide) (by omega))
  have hbuf : tmpBuf (hexSpec alt zero upper width v) = .ok (hexSpec alt zero upper width v) :=
    if_pos (length_hexSpec_le hw hv64)
  have hconv : convert arch mem (flagBits alt zero) width t.lengthIndex (if upper then 0x58 else 0x78)
      ⟨pushArg arch (t.size arch) v ++ rest, 0⟩ =
      .ok (hexSpec alt zero upper width v, ⟨pushArg arch (t.size arch) v ++ rest, (pushArg arch (t.size arch) v).length⟩) := by
    -- `'x'` と `'X'` は `c`、`s`、`p` の枝を通り過ぎ、`( *fmt & ~0x20 ) == 'X'` の枝に入る
    have hbranch : ∀ c : UInt8, c = (if upper then 0x58 else 0x78) →
        c ≠ 0x63 ∧ c ≠ 0x73 ∧ c ≠ 0x70 ∧ c &&& ~~~0x20 = 0x58 := by
      rintro c rfl
      cases upper <;> decide
    obtain ⟨h1, h2, h3, h4⟩ := hbranch _ rfl
    rw [convert, if_neg h1, if_neg h2, if_neg h3, if_pos h4]
    simp only [typeSize_lengthIndex, ok_bind, hexRead_eq, vaArg_pushArg hsize hv, formatHex_eq_hexSpec, hbuf]
    rfl
  have hc : IsConv (if upper then 0x58 else 0x78 : UInt8) := by cases upper <;> decide
  have hc0 : (if upper then 0x58 else 0x78 : UInt8) ≠ 0 := by cases upper <;> decide
  rw [vcprintf_convFormat (by omega) hc hc0, hconv]
  rfl

/-- `'d'` と `'i'` は `c`、`s`、`p`、`x` の枝を通り過ぎ、`%d` の枝に入る。 -/
theorem convert_decimal {c : UInt8} (hc : c = 0x64 ∨ c = 0x69) (flags width : Nat) (length : Int) (ap : VaList) :
    convert arch mem flags width length c ap = do
      let size ← typeSize arch length
      let (decimal, ap) ←
        if arch.longBits / 8 ≤ size then (fun r => (toSigned arch.longBits r.1, r.2)) <$> vaArg arch (arch.longBits / 8) ap
        else (fun r => (toSigned 32 r.1, r.2)) <$> vaArg arch 4 ap
      let s ← formatDecimal arch.longBits decimal width flags
      let s ← tmpBuf s
      return (s, ap) := by
  have h1 : c ≠ 0x63 := by rcases hc with rfl | rfl <;> decide
  have h2 : c ≠ 0x73 := by rcases hc with rfl | rfl <;> decide
  have h3 : c ≠ 0x70 := by rcases hc with rfl | rfl <;> decide
  have h4 : ¬(c &&& ~~~0x20 = 0x58) := by rcases hc with rfl | rfl <;> decide
  rw [convert, if_neg h1, if_neg h2, if_neg h3, if_neg h4, if_pos hc]

theorem isConv_decimal {c : UInt8} (hc : c = 0x64 ∨ c = 0x69) : IsConv c ∧ c ≠ 0 := by
  rcases hc with rfl | rfl <;> decide

/-- **`%d` と `%i` は十進の表記を書く。** 値が `signed long` の最小の値でなく、`0` の flag で負の値を
数字の数以下の幅に書くのでもなければ。i386 の `long long` は除く。 -/
theorem vcprintf_decimal {alt zero : Bool} {width : Nat} {c : UInt8} (hc : c = 0x64 ∨ c = 0x69) (hw : width ≤ 20)
    (t : IntType) (ht : t ≠ .longLong ∨ arch = .x86_64) {s : Int}
    (hlo : -2 ^ (8 * t.size arch - 1) ≤ s) (hhi : s < 2 ^ (8 * t.size arch - 1))
    (hmin : s ≠ -2 ^ (arch.longBits - 1))
    (hnarrow : ¬(zero = true ∧ s < 0 ∧ width ≤ (Nat.toDigits 10 s.natAbs).length)) (rest : List Nat) :
    vcprintf arch mem (convFormat alt zero width t c)
        (pushArg arch (t.size arch) (ofSigned (8 * t.size arch) s) ++ rest) =
      .ok (decimalSpec zero width s, (decimalSpec zero width s).length) := by
  have hsize : t.size arch ≤ 8 := by cases t <;> cases arch <;> decide
  have hpos : 0 < 8 * t.size arch := by cases t <;> cases arch <;> decide
  have hbuf : tmpBuf (decimalSpec zero width s) = .ok (decimalSpec zero width s) :=
    if_pos (length_decimalSpec_le hw (natAbs_lt_of_range hlo hhi))
  obtain ⟨hconv, hc0⟩ := isConv_decimal hc
  rw [vcprintf_convFormat (by omega) hconv hc0, convert_decimal hc, typeSize_lengthIndex, ok_bind]
  dsimp only
  rw [decimalRead_eq t ht, vaArg_pushArg hsize (ofSigned_lt _ s)]
  simp only [Functor.map, Except.map, ok_bind, toSigned_ofSigned hpos hlo hhi,
    formatDecimal_eq_decimalSpec hmin alt zero width hnarrow, hbuf]
  rfl

/-- **`0` の flag の負の値は、幅が数字の数以下なら先頭の数字を失う。** `format_decimal` は `-` を
詰めた文字の先頭に上書きするが、詰めた文字がなければ最初の数字に上書きする。 -/
theorem vcprintf_decimal_zpad_narrow {alt : Bool} {width : Nat} {c : UInt8} (hc : c = 0x64 ∨ c = 0x69)
    (t : IntType) (ht : t ≠ .longLong ∨ arch = .x86_64) {s : Int}
    (hlo : -2 ^ (8 * t.size arch - 1) ≤ s) (hhi : s < 2 ^ (8 * t.size arch - 1))
    (hmin : s ≠ -2 ^ (arch.longBits - 1)) (hs : s < 0)
    (hnarrow : width ≤ (Nat.toDigits 10 s.natAbs).length) (rest : List Nat) :
    vcprintf arch mem (convFormat alt true width t c)
        (pushArg arch (t.size arch) (ofSigned (8 * t.size arch) s) ++ rest) =
      .ok (0x2D :: ((Nat.toDigits 10 s.natAbs).map fun ch => UInt8.ofNat ch.toNat).tail,
        (Nat.toDigits 10 s.natAbs).length) := by
  have hsize : t.size arch ≤ 8 := by cases t <;> cases arch <;> decide
  have hpos : 0 < 8 * t.size arch := by cases t <;> cases arch <;> decide
  have hk : (Nat.toDigits 10 s.natAbs).length ≤ 19 :=
    Nat.toDigits_length 10 _ 19 (by decide) (natAbs_lt_of_range hlo hhi)
  have hk0 : 0 < (Nat.toDigits 10 s.natAbs).length := List.length_pos_of_ne_nil (Nat.toDigits_ne_nil)
  have hbuf : tmpBuf (0x2D :: ((Nat.toDigits 10 s.natAbs).map fun ch => UInt8.ofNat ch.toNat).tail) =
      .ok (0x2D :: ((Nat.toDigits 10 s.natAbs).map fun ch => UInt8.ofNat ch.toNat).tail) :=
    if_pos (by simp; omega)
  obtain ⟨hconv, hc0⟩ := isConv_decimal hc
  rw [vcprintf_convFormat (by omega) hconv hc0, convert_decimal hc, typeSize_lengthIndex, ok_bind]
  dsimp only
  rw [decimalRead_eq t ht, vaArg_pushArg hsize (ofSigned_lt _ s)]
  simp only [Functor.map, Except.map, ok_bind, toSigned_ofSigned hpos hlo hhi,
    formatDecimal_zpad_narrow hmin hs alt hnarrow, hbuf]
  simp only [pure, Except.pure, List.length_cons, List.length_tail, List.length_map]
  congr 2
  omega

/-- **`signed long` の最小の値は、`format_decimal` の `num = -num` であふれる。** `long` と `size_t` で、
64 bit の build の `long long` で、i386 の `int` で。 -/
theorem vcprintf_decimal_min {alt zero : Bool} {width : Nat} {c : UInt8} (hc : c = 0x64 ∨ c = 0x69)
    (hw : width < 2 ^ 31) (t : IntType) (ht : t ≠ .longLong ∨ arch = .x86_64)
    (hfit : arch.longBits ≤ 8 * t.size arch) (rest : List Nat) :
    vcprintf arch mem (convFormat alt zero width t c)
        (pushArg arch (t.size arch) (ofSigned (8 * t.size arch) (-2 ^ (arch.longBits - 1))) ++ rest) =
      .error .signedOverflow := by
  have hsize : t.size arch ≤ 8 := by cases t <;> cases arch <;> decide
  have hpos : 0 < 8 * t.size arch := by cases t <;> cases arch <;> decide
  have hle : (2 : Int) ^ (arch.longBits - 1) ≤ 2 ^ (8 * t.size arch - 1) :=
    pow_le_pow_right₀ (by decide) (by omega)
  have hmin : (0 : Int) < 2 ^ (arch.longBits - 1) := by positivity
  have hsigned : toSigned (8 * t.size arch) (ofSigned (8 * t.size arch) (-2 ^ (arch.longBits - 1))) =
      -2 ^ (arch.longBits - 1) := toSigned_ofSigned hpos (by omega) (by omega)
  obtain ⟨hconv, hc0⟩ := isConv_decimal hc
  rw [vcprintf_convFormat hw hconv hc0, convert_decimal hc, typeSize_lengthIndex, ok_bind]
  dsimp only
  rw [decimalRead_eq t ht, vaArg_pushArg hsize (ofSigned_lt _ _)]
  simp only [Functor.map, Except.map, ok_bind, hsigned, formatDecimal_min]
  rfl

/-- **i386 の `%lld` は `%d` と同じく 4 byte の一語だけを読む。** `*length >= sizeof ( signed long )` は
`long long` でも成り立ち、`va_arg ( args, signed long )` を読む。 -/
theorem vcprintf_lld_i386 {alt zero : Bool} {width : Nat} {c : UInt8} (hc : c = 0x64 ∨ c = 0x69)
    (hw : width < 2 ^ 31) (words : List Nat) :
    vcprintf .i386 mem (convFormat alt zero width .longLong c) words =
      vcprintf .i386 mem (convFormat alt zero width .int c) words := by
  obtain ⟨hconv, hc0⟩ := isConv_decimal hc
  rw [vcprintf_convFormat hw hconv hc0, vcprintf_convFormat hw hconv hc0, convert_decimal hc, convert_decimal hc]
  rfl

example : vsnprintf .i386 ⟨fun _ => [], fun _ => []⟩ 32 (convFormat false false 0 .longLong 0x64)
    (pushArg .i386 8 (2 ^ 32)) = .ok (some (ascii "0"), 1) := by decide

/-! ## `vsnprintf` -/

/-- `vsnprintf` は `vcprintf` の書いた文字のうち `size - 1` 文字を `buf` に残し、`vcprintf` の長さを返す。 -/
theorem vsnprintf_of_vcprintf {size : Nat} (hsize : 0 < size) {fmt : Bytes} {words : List Nat} {out : Bytes}
    (h : vcprintf arch mem fmt words = .ok (out, out.length)) :
    vsnprintf arch mem size fmt words = .ok (some (out.take (size - 1)), out.length) := by
  have htake : out.take (min out.length (size - 1)) = out.take (size - 1) := by
    rcases le_total out.length (size - 1) with hle | hle
    · rw [Nat.min_eq_left hle, List.take_of_length_le le_rfl, List.take_of_length_le hle]
    · rw [Nat.min_eq_right hle]
  rw [vsnprintf, h, ok_bind]
  dsimp only
  rw [if_neg (by omega), htake]
  rfl

/-- `vsnprintf` の整数の変換。返す長さはいつも渡した文字の数で、`%x` と `%X` はどの型でも C の書式の
意味どおりに書く。`%d` と `%i` もそうだが、三つの場合が違う：`0` の flag の負の値を数字の数以下の幅に
書くと先頭の数字を失い、`signed long` の最小の値では `num = -num` があふれ、i386 の `%lld` は
`%d` と同じく一語だけを読む。 -/
theorem vsnprintf_renders_integers_except_three_cases :
    (∀ (arch : Arch) (mem : Memory) (fmt : Bytes) (words : List Nat) (out : Bytes) (len : Nat),
      vcprintf arch mem fmt words = .ok (out, len) → len = out.length) ∧
    (∀ (arch : Arch) (mem : Memory) (size : Nat) (alt zero upper : Bool) (width : Nat) (t : IntType) (v : Nat)
      (rest : List Nat), 0 < size → width ≤ 20 → v < 2 ^ (8 * t.size arch) →
      vsnprintf arch mem size (convFormat alt zero width t (if upper then 0x58 else 0x78))
          (pushArg arch (t.size arch) v ++ rest) =
        .ok (some ((hexSpec alt zero upper width v).take (size - 1)), (hexSpec alt zero upper width v).length)) ∧
    (∀ (arch : Arch) (mem : Memory) (size : Nat) (alt zero : Bool) (width : Nat) (c : UInt8) (t : IntType) (s : Int)
      (rest : List Nat), 0 < size → (c = 0x64 ∨ c = 0x69) → width ≤ 20 → (t ≠ .longLong ∨ arch = .x86_64) →
      -2 ^ (8 * t.size arch - 1) ≤ s → s < 2 ^ (8 * t.size arch - 1) → s ≠ -2 ^ (arch.longBits - 1) →
      ¬(zero = true ∧ s < 0 ∧ width ≤ (Nat.toDigits 10 s.natAbs).length) →
      vsnprintf arch mem size (convFormat alt zero width t c)
          (pushArg arch (t.size arch) (ofSigned (8 * t.size arch) s) ++ rest) =
        .ok (some ((decimalSpec zero width s).take (size - 1)), (decimalSpec zero width s).length)) ∧
    (∀ (arch : Arch) (mem : Memory) (size : Nat) (alt : Bool) (width : Nat) (c : UInt8) (t : IntType) (s : Int)
      (rest : List Nat), 0 < size → (c = 0x64 ∨ c = 0x69) → (t ≠ .longLong ∨ arch = .x86_64) →
      -2 ^ (8 * t.size arch - 1) ≤ s → s < 2 ^ (8 * t.size arch - 1) → s ≠ -2 ^ (arch.longBits - 1) → s < 0 →
      width ≤ (Nat.toDigits 10 s.natAbs).length →
      vsnprintf arch mem size (convFormat alt true width t c)
          (pushArg arch (t.size arch) (ofSigned (8 * t.size arch) s) ++ rest) =
        .ok (some ((0x2D :: ((Nat.toDigits 10 s.natAbs).map fun ch => UInt8.ofNat ch.toNat).tail).take (size - 1)),
          (Nat.toDigits 10 s.natAbs).length)) ∧
    (∀ (arch : Arch) (mem : Memory) (size : Nat) (alt zero : Bool) (width : Nat) (c : UInt8) (t : IntType)
      (rest : List Nat), (c = 0x64 ∨ c = 0x69) → width ≤ 20 → (t ≠ .longLong ∨ arch = .x86_64) →
      arch.longBits ≤ 8 * t.size arch →
      vsnprintf arch mem size (convFormat alt zero width t c)
          (pushArg arch (t.size arch) (ofSigned (8 * t.size arch) (-2 ^ (arch.longBits - 1))) ++ rest) =
        .error .signedOverflow) ∧
    (∀ (mem : Memory) (size : Nat) (alt zero : Bool) (width : Nat) (c : UInt8) (words : List Nat),
      (c = 0x64 ∨ c = 0x69) → width ≤ 20 →
      vsnprintf .i386 mem size (convFormat alt zero width .longLong c) words =
        vsnprintf .i386 mem size (convFormat alt zero width .int c) words) := by
  refine ⟨fun _ _ _ _ _ _ h => vcprintf_len h, ?_, ?_, ?_, ?_, ?_⟩
  · intro arch mem size alt zero upper width t v rest hsize hw hv
    exact vsnprintf_of_vcprintf hsize (vcprintf_hex hw t hv rest)
  · intro arch mem size alt zero width c t s rest hsize hc hw ht hlo hhi hmin hnarrow
    exact vsnprintf_of_vcprintf hsize (vcprintf_decimal hc hw t ht hlo hhi hmin hnarrow rest)
  · intro arch mem size alt width c t s rest hsize hc ht hlo hhi hmin hs hnarrow
    have h := @vcprintf_decimal_zpad_narrow arch mem alt width c hc t ht s hlo hhi hmin hs hnarrow rest
    have hlen : (Nat.toDigits 10 s.natAbs).length =
        (0x2D :: ((Nat.toDigits 10 s.natAbs).map fun ch => UInt8.ofNat ch.toNat).tail).length := by
      have hk0 : 0 < (Nat.toDigits 10 s.natAbs).length := List.length_pos_of_ne_nil Nat.toDigits_ne_nil
      simp only [List.length_cons, List.length_tail, List.length_map]
      omega
    rw [hlen] at h ⊢
    exact vsnprintf_of_vcprintf hsize h
  · intro arch mem size alt zero width c t rest hc hw ht hfit
    rw [vsnprintf, vcprintf_decimal_min hc (by omega) t ht hfit rest]
    rfl
  · intro mem size alt zero width c words hc hw
    rw [vsnprintf, vsnprintf, vcprintf_lld_i386 hc (by omega)]

/-- `"%02d"` で −72 を書くと、C の書式の `"-72"` でなく `"-2"` になる。 -/
theorem vsnprintf_zero_padded_minus_seventy_two :
    vsnprintf .x86_64 ⟨fun _ => [], fun _ => []⟩ 16 (convFormat false true 2 .int 0x64)
        (pushArg .x86_64 4 (ofSigned 32 (-72)) ++ []) = .ok (some (ascii "-2"), 2) ∧
      decimalSpec true 2 (-72) = ascii "-72" := by
  refine ⟨(vsnprintf_renders_integers_except_three_cases.2.2.2.1 .x86_64 _ 16 false 2 0x64 .int (-72) []
    (by decide) (.inl rfl) (.inl (by decide)) (by decide) (by decide) (by decide) (by decide) (by decide)).trans
    (by decide), by decide⟩

end FlexBoot.Vsprintf
