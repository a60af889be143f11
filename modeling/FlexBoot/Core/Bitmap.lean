import FlexBoot.Core.Misc
import Mathlib.Logic.Relation

/-!
# 受信済み block の bitmap（`core/bitmap.c`）

`struct bitmap` は `unsigned long` の配列 `blocks`、bit 数 `length`、最初の空き
`first_gap` からなる。配列の一語は `BITMAP_BLKSIZE = sizeof(unsigned long) * 8` bit で、
i386 では 32、x86_64 では 64 である。

## 三つの関数

* `bitmap_resize` — 必要な語数 `(new_length + BITMAP_BLKSIZE - 1) / BITMAP_BLKSIZE` を
  **`unsigned int` で**計算し、語数が変わるときだけ `realloc` する。
* `bitmap_test` — `length` 以上の bit は 0 と答える。それ以外は配列を読む。
* `bitmap_set` — 範囲の検査をせずに配列に書き、`first_gap` を進める。

## 配列の外への書き込み

`bitmap_set` は検査をしない。配列の外への読み書きは `Fault.outOfBounds` として返す。
`realloc` が失敗すると `bitmap_resize` は `-ENOMEM` を返し、bitmap は変わらない。
`realloc` の成否は呼ぶ側から `allocOk` として与える（heap の状態はここでは見ない）。
-/

namespace FlexBoot

open Infra

/-- `struct bitmap`。`blocks` の長さが確保されている語数である。 -/
structure Bitmap where
  blocks : List Nat
  length : Nat
  firstGap : Nat
  deriving DecidableEq, Repr

/-- 空の bitmap（`zalloc` した直後、`memset` した直後）。 -/
def Bitmap.empty : Bitmap := { blocks := [], length := 0, firstGap := 0 }

/-- `BITMAP_BLKSIZE`。 -/
def Arch.bitmapBlksize (arch : Arch) : Nat := arch.longBits

theorem Arch.bitmapBlksize_pos (arch : Arch) : 0 < arch.bitmapBlksize := by
  cases arch <;> decide

/-- `bitmap_resize` が計算する語数 `BITMAP_INDEX ( n + BITMAP_BLKSIZE - 1 )`。
和は `unsigned int` で巻き戻る。 -/
def numBlocks (arch : Arch) (n : Nat) : Nat :=
  ((n + arch.bitmapBlksize - 1) % 2 ^ 32) / arch.bitmapBlksize

/-- `realloc` で `n` 語にした配列。前の内容は先頭から残る。`n = 0` の `realloc` は
いつも成功する（`NOWHERE` を返す）。 -/
def reallocWords (allocOk : Bool) (blocks : List Nat) (n : Nat) : Option (List Nat) :=
  if n = 0 then some []
  else if allocOk then some (blocks.take n ++ List.replicate (n - blocks.length) 0)
  else none

/-- `while ( old_num_blocks < new_num_blocks ) bitmap->blocks[old_num_blocks++] = 0;` -/
def zeroBlocks (blocks : List Nat) (lo hi : Nat) : List Nat :=
  (List.range (hi - lo)).foldl (fun ws k => ws.set (lo + k) 0) blocks

/-- `bitmap_resize`。`none` は `-ENOMEM` である。 -/
def bitmapResize (arch : Arch) (allocOk : Bool) (b : Bitmap) (newLength : Nat) :
    Option Bitmap :=
  let oldNum := numBlocks arch b.length
  let newNum := numBlocks arch newLength
  let blocks := if oldNum ≠ newNum then reallocWords allocOk b.blocks newNum else some b.blocks
  blocks.map fun ws => { b with blocks := zeroBlocks ws oldNum newNum, length := newLength }

/-- `bitmap_test`。`length` 以上の bit は読まずに 0 と答える。 -/
def bitmapTest (arch : Arch) (b : Bitmap) (bit : Nat) : Except Fault Bool :=
  if b.length ≤ bit then .ok false
  else
    match b.blocks[bit / arch.bitmapBlksize]? with
    | some w => .ok (w.testBit (bit % arch.bitmapBlksize))
    | none => .error (.outOfBounds (bit / arch.bitmapBlksize) b.blocks.length)

/-- `bitmap_set` の後半。`while ( bitmap_test ( bitmap, bitmap->first_gap ) ) first_gap++;`

`first_gap` は `length` に達すると `bitmap_test` が 0 を返して止まるので、繰り返しは
高々 `length - first_gap` 回である。`advanceGap` はちょうどその回数を上限として渡す。 -/
def advanceGapLoop (arch : Arch) : Nat → Bitmap → Except Fault Bitmap
  | 0, b => .ok b
  | n + 1, b =>
    match bitmapTest arch b b.firstGap with
    | .error f => .error f
    | .ok false => .ok b
    | .ok true => advanceGapLoop arch n { b with firstGap := b.firstGap + 1 }

def advanceGap (arch : Arch) (b : Bitmap) : Except Fault Bitmap :=
  advanceGapLoop arch (b.length - b.firstGap) b

/-- `bitmap_set`。`blocks[index] |= mask` は検査なしの書き込みである。 -/
def bitmapSet (arch : Arch) (b : Bitmap) (bit : Nat) : Except Fault Bitmap :=
  match b.blocks[bit / arch.bitmapBlksize]? with
  | none => .error (.outOfBounds (bit / arch.bitmapBlksize) b.blocks.length)
  | some w =>
    advanceGap arch
      { b with blocks := b.blocks.set (bit / arch.bitmapBlksize) (w ||| 2 ^ (bit % arch.bitmapBlksize)) }

/-- `bitmap_full`。 -/
def bitmapFull (b : Bitmap) : Bool := b.firstGap == b.length

/-! ## 語数の不変条件

確保されている語数は、いつも `numBlocks length` に等しい。空の bitmap で成り立ち、
`bitmap_resize` が保つ。`bitmap_set` は語数も `length` も変えない。
-/

/-- 配列の語数が `length` から計算した語数に一致する。 -/
def Bitmap.Sized (arch : Arch) (b : Bitmap) : Prop := b.blocks.length = numBlocks arch b.length

theorem Bitmap.sized_empty (arch : Arch) : Bitmap.empty.Sized arch := by
  cases arch <;> rfl

theorem length_zeroBlocks (blocks : List Nat) (lo hi : Nat) :
    (zeroBlocks blocks lo hi).length = blocks.length := by
  unfold zeroBlocks
  generalize List.range (hi - lo) = ks
  induction ks generalizing blocks with
  | nil => rfl
  | cons k ks ih => simp [ih]

theorem length_reallocWords {allocOk : Bool} {blocks ws : List Nat} {n : Nat}
    (h : reallocWords allocOk blocks n = some ws) : ws.length = n := by
  unfold reallocWords at h
  split at h
  · cases h; simp [*]
  · split at h
    · cases h; simp; omega
    · cases h

/-- `bitmap_resize` が成功すれば、語数は新しい `length` から計算した語数になる。 -/
theorem bitmapResize_sized {arch : Arch} {allocOk : Bool} {b b' : Bitmap} {n : Nat}
    (hs : b.Sized arch) (h : bitmapResize arch allocOk b n = some b') : b'.Sized arch := by
  unfold bitmapResize at h
  simp only [Option.map_eq_some_iff] at h
  obtain ⟨ws, hws, rfl⟩ := h
  unfold Bitmap.Sized
  simp only [length_zeroBlocks]
  split at hws
  · exact length_reallocWords hws
  · cases hws
    unfold Bitmap.Sized at hs
    omega

/-- `bitmap_resize` が失敗しても、成功しても、`first_gap` は変わらない。 -/
theorem bitmapResize_firstGap {arch : Arch} {allocOk : Bool} {b b' : Bitmap} {n : Nat}
    (h : bitmapResize arch allocOk b n = some b') : b'.firstGap = b.firstGap ∧ b'.length = n := by
  unfold bitmapResize at h
  simp only [Option.map_eq_some_iff] at h
  obtain ⟨ws, -, rfl⟩ := h
  exact ⟨rfl, rfl⟩

theorem advanceGapLoop_frame {arch : Arch} :
    ∀ {n : Nat} {b b' : Bitmap}, advanceGapLoop arch n b = .ok b' →
      b'.blocks = b.blocks ∧ b'.length = b.length ∧ b.firstGap ≤ b'.firstGap
  | 0, b, b', h => by cases h; exact ⟨rfl, rfl, Nat.le_refl _⟩
  | n + 1, b, b', h => by
    unfold advanceGapLoop at h
    split at h
    · cases h
    · cases h; exact ⟨rfl, rfl, Nat.le_refl _⟩
    · obtain ⟨h1, h2, h3⟩ := advanceGapLoop_frame h
      exact ⟨h1, h2, by simp at h3; omega⟩

theorem advanceGap_frame {arch : Arch} {b b' : Bitmap} (h : advanceGap arch b = .ok b') :
    b'.blocks = b.blocks ∧ b'.length = b.length ∧ b.firstGap ≤ b'.firstGap :=
  advanceGapLoop_frame h

/-- `bitmap_set` は語数と `length` を変えない。 -/
theorem bitmapSet_frame {arch : Arch} {b b' : Bitmap} {bit : Nat}
    (h : bitmapSet arch b bit = .ok b') : b'.blocks.length = b.blocks.length ∧ b'.length = b.length := by
  unfold bitmapSet at h
  split at h
  · cases h
  · obtain ⟨h1, h2, -⟩ := advanceGap_frame h
    simp [h1, h2]

/-- 語が足りていれば、`bitmap_test` は配列の外を読まない。 -/
theorem bitmapTest_ok {arch : Arch} {b : Bitmap} {bit : Nat}
    (hcov : b.length ≤ b.blocks.length * arch.bitmapBlksize) :
    ∃ v, bitmapTest arch b bit = .ok v := by
  unfold bitmapTest
  split
  · exact ⟨_, rfl⟩
  · have hB := arch.bitmapBlksize_pos
    have hidx : bit / arch.bitmapBlksize < b.blocks.length := by
      rw [Nat.div_lt_iff_lt_mul hB]; omega
    rw [List.getElem?_eq_getElem hidx]
    exact ⟨_, rfl⟩

theorem advanceGapLoop_ok {arch : Arch} :
    ∀ {n : Nat} {b : Bitmap}, b.length ≤ b.blocks.length * arch.bitmapBlksize →
      ∃ b', advanceGapLoop arch n b = .ok b'
  | 0, b, _ => ⟨b, rfl⟩
  | n + 1, b, hcov => by
    unfold advanceGapLoop
    obtain ⟨v, hv⟩ := @bitmapTest_ok arch b b.firstGap hcov
    rw [hv]
    cases v with
    | false => exact ⟨_, rfl⟩
    | true => exact advanceGapLoop_ok hcov

/-- `first_gap` の走査が止まるのは、配列の外を読むときだけである。 -/
theorem advanceGapLoop_error {arch : Arch} :
    ∀ {n : Nat} {b : Bitmap} {f : Fault}, advanceGapLoop arch n b = .error f →
      ∃ i w, f = .outOfBounds i w
  | 0, b, f, h => by cases h
  | n + 1, b, f, h => by
    unfold advanceGapLoop at h
    split at h
    · next f' ht =>
      cases h
      unfold bitmapTest at ht
      split at ht
      · cases ht
      · split at ht
        · cases ht
        · cases ht; exact ⟨_, _, rfl⟩
    · cases h
    · exact advanceGapLoop_error h

/--
**語が足りていれば `bitmap_set` は配列の外に書かない。**

書く語は `bit / BITMAP_BLKSIZE` で、`first_gap` の走査が読む語は `length` 未満の bit の語である。
-/
theorem bitmapSet_ok {arch : Arch} {b : Bitmap} {bit : Nat}
    (hbit : bit / arch.bitmapBlksize < b.blocks.length)
    (hcov : b.length ≤ b.blocks.length * arch.bitmapBlksize) :
    ∃ b', bitmapSet arch b bit = .ok b' := by
  unfold bitmapSet
  rw [List.getElem?_eq_getElem hbit]
  exact advanceGapLoop_ok (by simpa using hcov)

/-- `bitmap_set` した bit は、`length` の中なら `bitmap_test` で 1 と読める。 -/
theorem bitmapTest_bitmapSet {arch : Arch} {b b' : Bitmap} {bit : Nat} (h : bitmapSet arch b bit = .ok b')
    (hlen : bit < b.length) : bitmapTest arch b' bit = .ok true := by
  unfold bitmapSet at h
  split at h
  · cases h
  · next w hw =>
    -- `first_gap` の走査は語も `length` も変えない
    obtain ⟨hblocks, hlength, -⟩ := advanceGap_frame h
    have hl : b'.length = b.length := hlength
    have hidx : bit / arch.bitmapBlksize < b.blocks.length := (List.getElem?_eq_some_iff.mp hw).1
    unfold bitmapTest
    rw [if_neg (by omega), hblocks]
    simp [hidx, Nat.testBit_or, Nat.testBit_two_pow_self]

/-! ## bitmap に起きうる変化

呼ぶ側が bitmap にすることは三つしかない。`bitmap_resize`、`bitmap_set`、そして
捨てて空にすること（`bitmap_free` の後の `memset`）。語数の不変条件はその三つで保たれる。
-/

/-- bitmap の一回の変化。 -/
inductive BitmapStep (arch : Arch) : Bitmap → Bitmap → Prop
  | resize {b b' : Bitmap} {allocOk : Bool} {n : Nat} :
      bitmapResize arch allocOk b n = some b' → BitmapStep arch b b'
  | set {b b' : Bitmap} {bit : Nat} : bitmapSet arch b bit = .ok b' → BitmapStep arch b b'
  | reset {b : Bitmap} : BitmapStep arch b Bitmap.empty

/-- 何回かの変化。 -/
abbrev BitmapSteps (arch : Arch) : Bitmap → Bitmap → Prop := Relation.ReflTransGen (BitmapStep arch)

theorem BitmapStep.sized {arch : Arch} {b b' : Bitmap} (h : BitmapStep arch b b')
    (hs : b.Sized arch) : b'.Sized arch := by
  cases h with
  | resize h => exact bitmapResize_sized hs h
  | set h =>
    obtain ⟨h1, h2⟩ := bitmapSet_frame h
    unfold Bitmap.Sized at *
    rw [h1, h2]; exact hs
  | reset => exact Bitmap.sized_empty arch

/-- **語数の不変条件は、bitmap に起きるどの変化でも保たれる。** -/
theorem BitmapSteps.sized {arch : Arch} {b b' : Bitmap} (h : BitmapSteps arch b b')
    (hs : b.Sized arch) : b'.Sized arch := by
  induction h with
  | refl => exact hs
  | tail _ hstep ih => exact hstep.sized ih

/-- 語数が `length` から計算したとおりなら、和 `length + BITMAP_BLKSIZE - 1` が
`unsigned int` で巻き戻らない限り、確保した語は `length` bit を覆う。 -/
theorem Bitmap.covers_of_sized {arch : Arch} {b : Bitmap} (hs : b.Sized arch)
    (hn : b.length + arch.bitmapBlksize ≤ 2 ^ 32) :
    b.length ≤ b.blocks.length * arch.bitmapBlksize := by
  unfold Bitmap.Sized numBlocks at hs
  rw [hs]
  -- 語の大きさを定数にすれば、割り算は `omega` が扱える
  cases arch <;> simp only [Arch.bitmapBlksize, Arch.longBits] at hn ⊢ <;> omega

/-- 巻き戻ると覆わない。`2 ^ 32 - 1` bit の bitmap に語は一つも確保されない。 -/
theorem numBlocks_wrap (arch : Arch) : numBlocks arch (2 ^ 32 - 1) = 0 := by
  cases arch <;> rfl

end FlexBoot
