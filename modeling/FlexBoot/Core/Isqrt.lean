import FlexBoot.Core.Misc
import Mathlib.Tactic.NormNum
import Mathlib.Tactic.Ring

/-!
# 整数の平方根（`core/isqrt.c`）

`isqrt` は二つの loop からなる。

* `bit` を `unsigned long` の上から二つめの bit `1UL << ( 8 * sizeof ( bit ) - 2 )` から始め、
  `value` 以下になるまで 2 bit ずつ右へずらす（`isqrtStart`）
* 根を上の桁から一桁ずつ決める。`value >= result + bit` なら引いて
  `result = ( result >> 1 ) + bit`、そうでなければ `result >>= 1`。`bit` を 2 bit 右へずらし、
  0 になれば終わる（`isqrtStep`, `isqrtLoop`）

`unsigned long` の足し算 `result + bit` と `( result >> 1 ) + bit` は `2 ^ longBits` で回す。
どちらの loop も `bit` が減るので止まる。
-/

namespace FlexBoot

/-- 一桁ずつ決める loop の変数。 -/
structure IsqrtState where
  value : Nat
  result : Nat
  bit : Nat
  deriving DecidableEq, Repr

/-- `while ( bit > value ) bit >>= 2;`。 -/
def isqrtStart (value bit : Nat) : Nat :=
  if value < bit then isqrtStart value (bit / 4) else bit
termination_by bit
decreasing_by omega

/-- `while ( bit )` の本体の一回。 -/
def isqrtStep (arch : Arch) (s : IsqrtState) : IsqrtState :=
  let t := (s.result + s.bit) % 2 ^ arch.longBits
  if t ≤ s.value then ⟨s.value - t, (s.result / 2 + s.bit) % 2 ^ arch.longBits, s.bit / 4⟩
  else ⟨s.value, s.result / 2, s.bit / 4⟩

theorem isqrtStep_bit (arch : Arch) (s : IsqrtState) : (isqrtStep arch s).bit = s.bit / 4 := by
  unfold isqrtStep
  dsimp only
  split <;> rfl

/-- `while ( bit ) { ... }`。終わった時の `result` を返す。 -/
def isqrtLoop (arch : Arch) (s : IsqrtState) : Nat :=
  if s.bit = 0 then s.result else isqrtLoop arch (isqrtStep arch s)
termination_by s.bit
decreasing_by rw [isqrtStep_bit]; omega

/-- 一桁ずつの loop を始める時の変数。 -/
def isqrtInit (arch : Arch) (value : Nat) : IsqrtState :=
  ⟨value, 0, isqrtStart value (2 ^ (arch.longBits - 2))⟩

/-- `isqrt ( value )`。 -/
def isqrt (arch : Arch) (value : Nat) : Nat := isqrtLoop arch (isqrtInit arch value)

theorem isqrtStart_of_lt {value bit : Nat} (h : value < bit) : isqrtStart value bit = isqrtStart value (bit / 4) := by
  rw [isqrtStart, if_pos h]

theorem isqrtStart_of_le {value bit : Nat} (h : bit ≤ value) : isqrtStart value bit = bit := by
  rw [isqrtStart, if_neg (Nat.not_lt.mpr h)]

theorem isqrtLoop_of_zero (arch : Arch) {s : IsqrtState} (h : s.bit = 0) : isqrtLoop arch s = s.result := by
  rw [isqrtLoop, if_pos h]

theorem isqrtLoop_of_ne (arch : Arch) {s : IsqrtState} (h : s.bit ≠ 0) :
    isqrtLoop arch s = isqrtLoop arch (isqrtStep arch s) := by
  rw [isqrtLoop, if_neg h]

end FlexBoot
