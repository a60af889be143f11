import FlexBoot.Core.String
import FlexBoot.Infra.Buffer
import FlexBoot.Infra.Positional
import FlexBoot.Infra.Run

/-!
# `strtoul` と build ごとの整数の幅（`core/misc.c`, `include/stdlib.h`）

FlexBoot は i386 と x86_64 の二つで build される。`unsigned int` はどちらも 32 bit、
`unsigned long` と `size_t` は i386 で 32 bit、x86_64 で 64 bit である。
桁あふれが意味を持つ計算では、その幅で剰余を取って書く。

## `strtoul` の読み方

1. 先頭の空白を飛ばす。
2. `-` があれば覚えて飛ばす。
3. `strtoul_base`：`base = 0` なら `0x` で 16 進、`0` で 8 進、それ以外で 10 進。
4. 桁の値が `base` 以上の文字で止まる。`ret = ret * base + charval` は
   `unsigned long` で計算するので、桁あふれの検査はない。
5. `-` があったなら `ret = -ret`（これも `unsigned long`）。

桁の値 `strtoul_charval` は `unsigned int` で計算する。`'0'` より小さい文字
（NUL を含む）は引き算が巻き戻って巨大な値になり、そこで止まる。
-/

namespace FlexBoot

open Infra

/-! ## build -/

/-- FlexBoot の build。 -/
inductive Arch
  | i386
  | x86_64
  deriving DecidableEq, Repr

/-- `unsigned long` と `size_t` の bit 幅。 -/
def Arch.longBits : Arch → Nat
  | .i386 => 32
  | .x86_64 => 64

theorem Arch.longBits_ge (arch : Arch) : 32 ≤ arch.longBits := by
  cases arch <;> decide

/-- C の未定義動作。起きたらそこで実行は止まる。 -/
inductive Fault
  /-- 0 での割り算（x86 では #DE 例外）。 -/
  | divideByZero
  /-- 配列の外の語 `index` を読み書きした。配列は `words` 語ある。 -/
  | outOfBounds (index words : Nat)
  /-- 確保した領域の先頭より前の byte（`data[-1]`）を読んだ。 -/
  | bufferUnderrun
  /-- 符号付き整数の演算があふれた（`-LONG_MIN` など）。 -/
  | signedOverflow
  /-- 重なる二つの範囲の間の `memcpy`。 -/
  | overlappingCopy
  /-- `NULL` の指す構造体の field を読んだ。 -/
  | nullDereference
  deriving DecidableEq, Repr

/-! ## 領域の読み書き

確保した領域 `b` の中を読み書きする。範囲の外に触れると `Fault.outOfBounds` で止まる。
長さ 0 の読み書きはどこも指さない。
-/

/-- 領域の `i` から `n` byte を読む。長さ 0 の読み出しは何にも触れない。 -/
def rd (b : Bytes) (i n : Nat) : Except Fault Bytes :=
  if n = 0 then .ok []
  else match sliceAt b i n with
    | some s => .ok s
    | none => .error (.outOfBounds (i + n) b.length)

/-- 領域の `i` に `d` を書く。 -/
def wr (b : Bytes) (i : Nat) (d : Bytes) : Except Fault Bytes :=
  if d = [] then .ok b
  else match writeAt b i d with
    | some b' => .ok b'
    | none => .error (.outOfBounds (i + d.length) b.length)

/-- 同じ領域の中の `memcpy ( dst, src, n )`。 -/
def memcpyIn (b : Bytes) (dst src n : Nat) : Except Fault Bytes :=
  if overlaps dst src n then .error .overlappingCopy
  else do
    let s ← rd b src n
    wr b dst s

theorem rd_ok {b : Bytes} {i n : Nat} (h : i + n ≤ b.length) :
    rd b i n = .ok ((b.drop i).take n) := by
  unfold rd
  split
  · next hn => subst hn; rfl
  · rw [sliceAt_eq_some h]

theorem wr_ok {b d : Bytes} {i : Nat} (h : i + d.length ≤ b.length) :
    wr b i d = .ok (splice b i d) := by
  unfold wr
  split
  · next hd => subst hd; rw [splice_nil]
  · rw [writeAt_eq_some h]

/-- 読み出しが止まらないのは、長さ 0 か、範囲が領域に収まるときだけ。 -/
theorem rd_isOk_iff {b : Bytes} {i n : Nat} :
    (∃ s, rd b i n = .ok s) ↔ n = 0 ∨ i + n ≤ b.length := by
  unfold rd
  by_cases hn : n = 0
  · simp [hn]
  rw [if_neg hn]
  by_cases hl : i + n ≤ b.length
  · simp [sliceAt_eq_some hl, hl]
  · simp [sliceAt_eq_none (Nat.lt_of_not_le hl), hn, hl]

/-- 書き込みが止まらないのは、空の列か、範囲が領域に収まるときだけ。 -/
theorem wr_isOk_iff {b d : Bytes} {i : Nat} :
    (∃ b', wr b i d = .ok b') ↔ d = [] ∨ i + d.length ≤ b.length := by
  unfold wr
  by_cases hd : d = []
  · simp [hd]
  rw [if_neg hd]
  by_cases hl : i + d.length ≤ b.length
  · simp [writeAt_eq_some hl, hl]
  · simp [writeAt_eq_none (Nat.lt_of_not_le hl), hd, hl]

theorem memcpyIn_ok {b : Bytes} {dst src n : Nat} (hov : overlaps dst src n = false)
    (hs : src + n ≤ b.length) (hd : dst + n ≤ b.length) :
    memcpyIn b dst src n = .ok (splice b dst ((b.drop src).take n)) := by
  unfold memcpyIn
  rw [if_neg (by simp [hov]), rd_ok hs, ok_bind, wr_ok (by simp; omega)]

/-! ## `strtoul` -/

/-- `char` を `unsigned int` に変換した値。符号拡張される。 -/
def ucharval (c : UInt8) : Nat := if c.toNat < 128 then c.toNat else c.toNat + (2 ^ 32 - 256)

/-- `strtoul_charval`。`unsigned int` の計算である。 -/
def strtoulCharval (charval : Nat) : Nat :=
  if charval ≥ 0x61 then (charval - 0x61 + 10) % 2 ^ 32
  else if charval ≥ 0x41 then charval - 0x41 + 10
  else if charval ≤ 0x39 then (charval + 2 ^ 32 - 0x30) % 2 ^ 32
  else charval

/-- `strtoul_base`。読み進めた後の位置と、決まった基数を返す。 -/
def strtoulBase (p : Bytes) (base : Nat) : Bytes × Nat :=
  if base = 0 then
    match p with
    | 0x30 :: q => if (q.headD 0 ||| 0x20) = 0x78 then (q.drop 1, 16) else (q, 8)
    | _ => (p, 10)
  else (p, base)

/-- 桁の列を読む。`unsigned long` の幅 `bits` で剰余を取る。 -/
def strtoulDigits (bits base : Nat) : Nat → Bytes → Nat × Bytes
  | ret, [] => (ret, [])
  | ret, c :: cs =>
    if strtoulCharval (ucharval c) ≥ base then (ret, c :: cs)
    else strtoulDigits bits base ((ret * base + strtoulCharval (ucharval c)) % 2 ^ bits) cs

/--
`strtoul`。値と `*endp`（読み終えた位置から後ろ）を返す。

空白と符号を読んだ後で `strtoul_base` を呼ぶ。
-/
def strtoul (arch : Arch) (p : Bytes) (base : Nat) : Nat × Bytes :=
  let p := p.dropWhile isspace
  let neg := p.headD 0 == 0x2D
  let p := if neg then p.drop 1 else p
  let (p, base) := strtoulBase p base
  let (ret, endp) := strtoulDigits arch.longBits base 0 p
  ((if neg then (2 ^ arch.longBits - ret) % 2 ^ arch.longBits else ret), endp)

/-! ## 基本性質 -/

/-- 桁を読んだ結果は `unsigned long` に収まる。 -/
theorem strtoulDigits_lt (bits base : Nat) :
    ∀ (ret : Nat) (p : Bytes), ret < 2 ^ bits → (strtoulDigits bits base ret p).1 < 2 ^ bits
  | ret, [], h => h
  | ret, c :: cs, h => by
    unfold strtoulDigits
    split
    · exact h
    · exact strtoulDigits_lt bits base _ cs (Nat.mod_lt _ (Nat.two_pow_pos bits))

theorem strtoul_lt (arch : Arch) (p : Bytes) (base : Nat) :
    (strtoul arch p base).1 < 2 ^ arch.longBits := by
  unfold strtoul
  simp only
  split
  · exact Nat.mod_lt _ (Nat.two_pow_pos _)
  · exact strtoulDigits_lt _ _ 0 _ (Nat.two_pow_pos _)

/-- 読み終えた位置は、入力の後ろの部分である。 -/
theorem strtoulDigits_suffix (bits base : Nat) :
    ∀ (ret : Nat) (p : Bytes), (strtoulDigits bits base ret p).2 <:+ p
  | ret, [] => List.suffix_refl _
  | ret, c :: cs => by
    unfold strtoulDigits
    split
    · exact List.suffix_refl _
    · exact (strtoulDigits_suffix bits base _ cs).trans (List.suffix_cons c cs)

theorem strtoulBase_suffix (p : Bytes) (base : Nat) : (strtoulBase p base).1 <:+ p := by
  unfold strtoulBase
  split
  · split
    · split
      · exact (List.drop_suffix _ _).trans (List.suffix_cons _ _)
      · exact List.suffix_cons _ _
    · exact List.suffix_refl _
  · exact List.suffix_refl _

/-- `strtoul` の `*endp` は入力の後ろの部分である。空白、符号、`0x` を読み飛ばしても同じ。 -/
theorem strtoul_suffix (arch : Arch) (p : Bytes) (base : Nat) : (strtoul arch p base).2 <:+ p := by
  have hs : p.dropWhile isspace <:+ p := List.dropWhile_suffix _
  unfold strtoul
  dsimp only
  generalize p.dropWhile isspace = q at hs
  have hq : (if (q.headD 0 == 0x2D) = true then q.drop 1 else q) <:+ p := by
    split
    · exact (List.drop_suffix 1 q).trans hs
    · exact hs
  generalize (if (q.headD 0 == 0x2D) = true then q.drop 1 else q) = r at hq
  rcases hb : strtoulBase r base with ⟨r', b⟩
  have hr' : r' <:+ p := by
    have := strtoulBase_suffix r base
    rw [hb] at this
    exact this.trans hq
  exact (strtoulDigits_suffix _ _ _ _).trans hr'

/-! ## 十進の書き出し（`core/vsprintf.c`） -/

/-- `format_decimal` の `do { *(--ptr) = '0' + ( num % 10 ); num /= 10; } while ( num )`。
`fuel` は桁数の上限である。 -/
def decimalDigitsAux : Nat → Nat → Bytes
  | 0, _ => []
  | fuel + 1, n =>
    (if n / 10 = 0 then [] else decimalDigitsAux fuel (n / 10)) ++ [UInt8.ofNat (48 + n % 10)]

/-- 負でない値の十進の数字。 -/
def decimalDigits (n : Nat) : Bytes := decimalDigitsAux (n + 1) n

/-- `%ld` / `%d`。負なら `-` を付ける。 -/
def formatDecimal (v : Int) : Bytes :=
  if v < 0 then ascii "-" ++ decimalDigits v.natAbs else decimalDigits v.natAbs

/-- `%ld`。`unsigned long` の値 `value` を `signed long` として `format_decimal` に渡す。
最小の負の値では `num = -num` があふれる。 -/
def formatLd (arch : Arch) (value : Nat) : Except Fault Bytes :=
  let w := arch.longBits
  if value < 2 ^ (w - 1) then .ok (decimalDigits value)
  else if value = 2 ^ (w - 1) then .error .signedOverflow
  else .ok (ascii "-" ++ decimalDigits (2 ^ w - value))

/-- `ssnprintf ( buf + used, len - used, ... )` で一つの片 `piece` を長さの決まった `buf` に
書いた後の中身。大きさ `len - used` は `ssize_t` で、負なら 0 として扱う。`printf_sputc` は
大きさの分まで書き、`vsnprintf` は最後に `min ( len, size - 1 )` の位置に NUL を置く。 -/
def ssnprintfAt (buf : Bytes) (used : Nat) (piece : Bytes) : Bytes :=
  let size := buf.length - used
  if size = 0 then buf
  else splice (splice buf used (piece.take size)) (used + min piece.length (size - 1)) [0]

/-! ## `inet_aton` -/

/-- `inet_aton` の一区切りずつの読み取り。`j` は残りの区切りの数である。
`p == digits_start` は `strtoul` が一文字も読まなかったことで、残りの長さで比べる。 -/
def inetAtonLoop (arch : Arch) : Nat → Nat → Bytes → Option (Nat × Bytes)
  | 0, ip, p => some (ip, p)
  | j + 1, ip, p =>
    let (val, q) := strtoul arch p 10
    if q.length = p.length ∨ val > 255 then none
    else if j ≠ 0 then
      match q with
      | 0x2E :: r => inetAtonLoop arch j (ip * 256 + val) r
      | _ => none
    else some (ip * 256 + val, q)

/-- `inet_aton`。成功すれば host byte order の 32 bit 値を返す。 -/
def inetAton (arch : Arch) (cp : Bytes) : Option Nat :=
  match inetAtonLoop arch 4 0 cp with
  | some (ip, []) => some ip
  | _ => none

/-! ## 書いた数字の読み戻し

`format_decimal` の書いた数字を `strtoul` が読むと元の値に戻る。数字の後に続くのが
数字でない文字か終わりなら、そこで止まる。
-/

/-- `strtoulDigits` は、桁の値が `base` より小さい文字の列を Horner 法で読み進める。 -/
theorem strtoulDigits_append {bits base ret : Nat} {cs : Bytes} (rest : Bytes)
    (hcs : ∀ c ∈ cs, strtoulCharval (ucharval c) < base) (hret : ret < 2 ^ bits) :
    strtoulDigits bits base ret (cs ++ rest) =
      strtoulDigits bits base
        (horner base ret (cs.map fun c => strtoulCharval (ucharval c)) % 2 ^ bits) rest := by
  induction cs generalizing ret with
  | nil => simp [Nat.mod_eq_of_lt hret]
  | cons c cs ih =>
    have hc := hcs c (by simp)
    simp only [List.cons_append, strtoulDigits]
    rw [if_neg (by omega), ih (fun d hd => hcs d (by simp [hd])) (Nat.mod_lt _ (Nat.two_pow_pos bits)),
      List.map_cons, horner_cons, horner_mod]

/-- 終わりか、桁の値が `base` 以上の文字で `strtoulDigits` は止まる。 -/
theorem strtoulDigits_of_stop {bits base ret : Nat} {rest : Bytes}
    (h : rest = [] ∨ base ≤ strtoulCharval (ucharval (rest.headD 0))) :
    strtoulDigits bits base ret rest = (ret, rest) := by
  rcases rest with _ | ⟨c, rest⟩
  · rfl
  · simp only [List.headD_cons, reduceCtorEq, false_or] at h
    simp only [strtoulDigits, if_pos h]

/-- 上の桁から書いた `base` 進の数字を、`strtoulDigits` は `unsigned long` の幅で読み戻す。 -/
theorem strtoulDigits_digitsMsb {bits base fuel n : Nat} {digit : Nat → UInt8} {rest : Bytes}
    (hb : 0 < base) (hdigit : ∀ d < base, strtoulCharval (ucharval (digit d)) = d)
    (hf : n < base ^ fuel) (hrest : rest = [] ∨ base ≤ strtoulCharval (ucharval (rest.headD 0))) :
    strtoulDigits bits base 0 (digitsMsb base digit fuel n ++ rest) = (n % 2 ^ bits, rest) := by
  have hval : (digitsMsb base digit fuel n).map (fun c => strtoulCharval (ucharval c)) =
      digitsMsb base id fuel n := by
    rw [digitsMsb_eq_map, List.map_map]
    conv_rhs => rw [← List.map_id (digitsMsb base id fuel n)]
    exact List.map_congr_left fun d hd => hdigit d (lt_of_mem_digitsMsb hb hd)
  have hcs : ∀ c ∈ digitsMsb base digit fuel n, strtoulCharval (ucharval c) < base := by
    intro c hc
    rw [digitsMsb_eq_map, List.mem_map] at hc
    obtain ⟨d, hd, rfl⟩ := hc
    rw [hdigit d (lt_of_mem_digitsMsb hb hd)]
    exact lt_of_mem_digitsMsb hb hd
  rw [strtoulDigits_append rest hcs (Nat.two_pow_pos bits), hval, horner_digitsMsb hf,
    strtoulDigits_of_stop hrest]

/-- 十進の一桁 `'0' + d`。 -/
theorem decimalDigitsAux_eq (fuel n : Nat) :
    decimalDigitsAux fuel n = digitsMsb 10 (fun d => UInt8.ofNat (48 + d)) fuel n := by
  induction fuel generalizing n with
  | zero => rfl
  | succ fuel ih => rw [decimalDigitsAux, digitsMsb_succ, ih]

theorem decimalDigit_charval : ∀ d < 10, strtoulCharval (ucharval (UInt8.ofNat (48 + d))) = d := by
  have hall : ∀ d ∈ List.range 10, strtoulCharval (ucharval (UInt8.ofNat (48 + d))) = d := by decide
  exact fun d hd => hall d (List.mem_range.mpr hd)

theorem lt_ten_pow_succ (n : Nat) : n < 10 ^ (n + 1) :=
  Nat.lt_of_lt_of_le (Nat.lt_pow_self (by decide)) (Nat.pow_le_pow_right (by decide) (by omega))

/-- 十進の数字の後が終わりか数字でない文字なら、`strtoulDigits` は数字だけを読む。 -/
theorem strtoulDigits_decimalDigits (bits n : Nat) {rest : Bytes}
    (hrest : rest = [] ∨ 10 ≤ strtoulCharval (ucharval (rest.headD 0))) :
    strtoulDigits bits 10 0 (decimalDigits n ++ rest) = (n % 2 ^ bits, rest) := by
  rw [decimalDigits, decimalDigitsAux_eq]
  exact strtoulDigits_digitsMsb (by decide) decimalDigit_charval (lt_ten_pow_succ n) hrest

/-- 十進の数字の先頭は数字 `'0' + d` で、正の数なら `d` は 0 でない。 -/
theorem headD_decimalDigits (n : Nat) :
    ∃ d < 10, (decimalDigits n).headD 0 = UInt8.ofNat (48 + d) ∧ (0 < n → 0 < d) := by
  have hne : digitsMsb 10 id (n + 1) n ≠ [] := digitsMsb_ne_nil (Nat.succ_pos n) n
  obtain ⟨d, ds, hds⟩ := List.exists_cons_of_ne_nil hne
  have hd : d < 10 := lt_of_mem_digitsMsb (by decide) (hds ▸ List.mem_cons_self)
  refine ⟨d, hd, ?_, fun hn => ?_⟩
  · rw [decimalDigits, decimalDigitsAux_eq, digitsMsb_eq_map, hds]
    rfl
  · have := headD_digitsMsb_pos (by decide) hn (lt_ten_pow_succ n)
    rwa [hds] at this

/-- 十進の数字はどれも `'0' + d` である。 -/
theorem mem_decimalDigits {n : Nat} {x : UInt8} (h : x ∈ decimalDigits n) : ∃ d < 10, x = UInt8.ofNat (48 + d) := by
  rw [decimalDigits, decimalDigitsAux_eq, digitsMsb_eq_map, List.mem_map] at h
  obtain ⟨d, hd, rfl⟩ := h
  exact ⟨d, lt_of_mem_digitsMsb (by decide) hd, rfl⟩

/-- 空白でも `-` でもない文字で始まる列では、`strtoul` は `strtoul_base` の後の数字を読むだけである。 -/
theorem strtoul_of_head {arch : Arch} {p q : Bytes} {base b : Nat}
    (hs : isspace (p.headD 0) = false) (hm : p.headD 0 ≠ 0x2D) (hb : strtoulBase p base = (q, b)) :
    strtoul arch p base = strtoulDigits arch.longBits b 0 q := by
  have hd : p.dropWhile isspace = p := by
    rcases p with _ | ⟨c, p⟩
    · rfl
    · simp only [List.headD_cons] at hs
      simp [hs]
  simp only [strtoul, hd, beq_iff_eq, hm, if_false, hb]

/-- `-` で始まる列では、`strtoul` は続く数字を読んでから符号を反転する。 -/
theorem strtoul_minus {arch : Arch} {p q : Bytes} {base b : Nat} (hb : strtoulBase p base = (q, b)) :
    strtoul arch (0x2D :: p) base =
      ((2 ^ arch.longBits - (strtoulDigits arch.longBits b 0 q).1) % 2 ^ arch.longBits,
        (strtoulDigits arch.longBits b 0 q).2) := by
  simp [strtoul, isspace, hb]

theorem strtoulBase_of_ne_zero {p : Bytes} {base : Nat} (h : base ≠ 0) :
    strtoulBase p base = (p, base) := by
  simp [strtoulBase, h]

/-- 基数 0 で、`'0'` で始まらない列は十進として読む。 -/
theorem strtoulBase_zero_of_head {p : Bytes} (h : p.headD 0 ≠ 0x30) : strtoulBase p 0 = (p, 10) := by
  rcases p with _ | ⟨c, p⟩
  · rfl
  · simp only [List.headD_cons] at h
    simp [strtoulBase, h]

/-- 十進の数字の後が終わりか数字でない文字なら、`strtoul ( p, &endp, 10 )` は数字を読み切る。 -/
theorem strtoul_decimalDigits (arch : Arch) (n : Nat) {rest : Bytes}
    (hrest : rest = [] ∨ 10 ≤ strtoulCharval (ucharval (rest.headD 0))) :
    strtoul arch (decimalDigits n ++ rest) 10 = (n % 2 ^ arch.longBits, rest) := by
  obtain ⟨d, hd, hhead, -⟩ := headD_decimalDigits n
  have hne : decimalDigits n ≠ [] := by
    rw [decimalDigits, decimalDigitsAux_eq]
    exact digitsMsb_ne_nil (Nat.succ_pos n) n
  have hhead' : (decimalDigits n ++ rest).headD 0 = UInt8.ofNat (48 + d) := by
    obtain ⟨c, cs, hc⟩ := List.exists_cons_of_ne_nil hne
    rw [hc] at hhead ⊢
    exact hhead
  have hdig : ∀ e < 10, isspace (UInt8.ofNat (48 + e)) = false ∧ UInt8.ofNat (48 + e) ≠ 0x2D := by
    have hall : ∀ e ∈ List.range 10, isspace (UInt8.ofNat (48 + e)) = false ∧
        UInt8.ofNat (48 + e) ≠ 0x2D := by decide
    exact fun e he => hall e (List.mem_range.mpr he)
  rw [strtoul_of_head (hhead' ▸ (hdig d hd).1) (hhead' ▸ (hdig d hd).2)
    (strtoulBase_of_ne_zero (by decide)), strtoulDigits_decimalDigits _ n hrest]

/-- **`%ld` で書いた値は、`strtoul ( value, &endp, 0 )` で元に戻る。** 負の値は `-` と
絶対値で書かれ、`strtoul` は絶対値を読んでから `unsigned long` で符号を反転する。 -/
theorem strtoul_formatLd (arch : Arch) {value : Nat} {s : Bytes} (hv : value < 2 ^ arch.longBits)
    (h : formatLd arch value = .ok s) : strtoul arch s 0 = (value, []) := by
  have hw := Arch.longBits_ge arch
  have hdig : ∀ e < 10, isspace (UInt8.ofNat (48 + e)) = false ∧ UInt8.ofNat (48 + e) ≠ 0x2D ∧
      (0 < e → UInt8.ofNat (48 + e) ≠ 0x30) := by
    have hall : ∀ e ∈ List.range 10, isspace (UInt8.ofNat (48 + e)) = false ∧
        UInt8.ofNat (48 + e) ≠ 0x2D ∧ (0 < e → UInt8.ofNat (48 + e) ≠ 0x30) := by decide
    exact fun e he => hall e (List.mem_range.mpr he)
  -- 正の数は `'0'` で始まらないので、基数 0 でも十進として読まれる
  have hpos : ∀ m, 0 < m → m < 2 ^ arch.longBits →
      strtoulBase (decimalDigits m) 0 = (decimalDigits m, 10) ∧
        strtoulDigits arch.longBits 10 0 (decimalDigits m) = (m, []) := by
    intro m hm hlt
    obtain ⟨d, hd, hhead, hd0⟩ := headD_decimalDigits m
    refine ⟨strtoulBase_zero_of_head (hhead ▸ (hdig d hd).2.2 (hd0 hm)), ?_⟩
    have := @strtoulDigits_decimalDigits arch.longBits m [] (.inl rfl)
    rwa [List.append_nil, Nat.mod_eq_of_lt hlt] at this
  unfold formatLd at h
  by_cases hlt : value < 2 ^ (arch.longBits - 1)
  · rw [if_pos hlt] at h
    cases h
    rcases Nat.eq_zero_or_pos value with rfl | hv0
    · cases arch <;> decide
    · obtain ⟨d, hd, hhead, -⟩ := headD_decimalDigits value
      rw [strtoul_of_head (hhead ▸ (hdig d hd).1) (hhead ▸ (hdig d hd).2.1) (hpos value hv0 hv).1,
        (hpos value hv0 hv).2]
  · rw [if_neg hlt] at h
    by_cases heq : value = 2 ^ (arch.longBits - 1)
    · rw [if_pos heq] at h
      cases h
    · rw [if_neg heq] at h
      cases h
      have hpow : 2 ^ arch.longBits = 2 * 2 ^ (arch.longBits - 1) := by
        rw [← Nat.pow_succ']
        congr 1
        omega
      have hm : 0 < 2 ^ arch.longBits - value := by omega
      have hread := hpos _ hm (by omega)
      rw [show ascii "-" ++ decimalDigits (2 ^ arch.longBits - value) =
        0x2D :: decimalDigits (2 ^ arch.longBits - value) from rfl, strtoul_minus hread.1, hread.2]
      simp only [Prod.mk.injEq, and_true]
      rw [Nat.mod_eq_of_lt (by omega)]
      omega

end FlexBoot
