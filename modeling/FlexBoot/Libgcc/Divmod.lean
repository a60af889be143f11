import FlexBoot.Infra.Run
import Mathlib.Tactic.NormNum
import Mathlib.Tactic.Ring

/-!
# 64 bit の割り算（`libgcc/__udivmoddi4.c`, `libgcc/__divdi3.c`, `libgcc/__moddi3.c`）

32 bit の build では、gcc は `uint64_t` と `int64_t` の割り算をこれらの関数の呼び出しにする。
`__udivmoddi4` は引き戻し法の割り算で、二つの loop からなる。

* 正規化：`den` の最上位 bit が立つまで、`den` と `qbit` を左へずらす
* 引き戻し：`qbit` が 0 になるまで、引けるなら `num` から `den` を引いて `quot` に `qbit` を
  足し、`den` と `qbit` を右へずらす

どちらの loop も `whileSome` で書き、燃料が尽きれば `none` とする。`den = 0` では C は
`1 / ( unsigned ) den` で 0 除算の例外を起こす。この model ではそれも `none` である。

`__divdi3` と `__moddi3` は負の引数を `int64_t` のまま符号反転し（`INT64_MIN` は
`INT64_MIN` に回る）、`__udivmoddi4` の結果に一つの符号 `minus` を付ける。`minus` は二つの
引数の符号の排他的論理和で、商にも余りにも同じものを使う。
-/

namespace FlexBoot.Libgcc

open Infra

/-! ## `__udivmoddi4` -/

/-- 正規化の一回：`( int64_t ) den >= 0` なら `den <<= 1; qbit <<= 1;`。 -/
def udivmoddi4Normalise (s : Nat × Nat) : Option (Nat × Nat) :=
  if s.1 < 2 ^ 63 then some (s.1 * 2 % 2 ^ 64, s.2 * 2 % 2 ^ 64) else none

/-- 引き戻しの loop の変数。 -/
structure Udivmod where
  num : Nat
  den : Nat
  quot : Nat
  qbit : Nat
  deriving DecidableEq, Repr

/-- 引き戻しの一回：`while ( qbit )` の本体。 -/
def udivmoddi4Restore (s : Udivmod) : Option Udivmod :=
  if s.qbit = 0 then none
  else
    let s := if s.den ≤ s.num then { s with num := s.num - s.den, quot := (s.quot + s.qbit) % 2 ^ 64 }
      else s
    some { s with den := s.den / 2, qbit := s.qbit / 2 }

/-- `__udivmoddi4 ( num, den, rem_p )`。`rem_p` は `none` が `NULL`、`some x` が今 `x` を持つ
場所を指す。結果は商と、呼び出しの後にその場所が持つ値である。 -/
def udivmoddi4 (fuel num den : Nat) (remP : Option Nat) : Option (Nat × Option Nat) :=
  if den = 0 then none
  else
    (whileSome udivmoddi4Normalise fuel (den, 1)).bind fun n =>
      (whileSome udivmoddi4Restore fuel ⟨num, n.1, 0, n.2⟩).map fun s =>
        (s.quot, remP.map fun _ => s.num)

theorem udivmoddi4Normalise_of_lt {d q : Nat} (h : d < 2 ^ 63) :
    udivmoddi4Normalise (d, q) = some (d * 2 % 2 ^ 64, q * 2 % 2 ^ 64) := by
  rw [udivmoddi4Normalise, if_pos h]

theorem udivmoddi4Normalise_of_ge {d q : Nat} (h : 2 ^ 63 ≤ d) : udivmoddi4Normalise (d, q) = none := by
  rw [udivmoddi4Normalise, if_neg (Nat.not_lt.mpr h)]

theorem udivmoddi4Restore_of_zero (s : Udivmod) (h : s.qbit = 0) : udivmoddi4Restore s = none := by
  simp [udivmoddi4Restore, h]

theorem udivmoddi4Restore_of_le {num den quot qbit : Nat} (hq : qbit ≠ 0) (h : den ≤ num) :
    udivmoddi4Restore ⟨num, den, quot, qbit⟩ =
      some ⟨num - den, den / 2, (quot + qbit) % 2 ^ 64, qbit / 2⟩ := by
  simp [udivmoddi4Restore, hq, h]

theorem udivmoddi4Restore_of_lt {num den quot qbit : Nat} (hq : qbit ≠ 0) (h : num < den) :
    udivmoddi4Restore ⟨num, den, quot, qbit⟩ = some ⟨num, den / 2, quot, qbit / 2⟩ := by
  simp [udivmoddi4Restore, hq, Nat.not_le.mpr h]

/-! ## `__divdi3` と `__moddi3` -/

/-- 整数を 64 bit の 2 の補数に回す。 -/
def wrapInt64 (v : Int) : Int := v.bmod (2 ^ 64)

/-- `uint64_t` の値を `int64_t` として読む。 -/
def toInt64 (n : Nat) : Int := wrapInt64 n

/-- `int64_t` の値を `uint64_t` として読む。 -/
def toUint64 (v : Int) : Nat := (v % 2 ^ 64).toNat

/-- `int64_t` の `-v`。`INT64_MIN` は `INT64_MIN` に回る。 -/
def neg64 (v : Int) : Int := wrapInt64 (-v)

/-- `__divdi3` と `__moddi3` に共通の前半。負の引数を符号反転して `uint64_t` で渡し、
符号を `minus` に集める（`minus ^= 1`）。 -/
def divdi3Operands (num den : Int) : Nat × Nat × Bool :=
  let minus := decide (num < 0)
  let num := if num < 0 then neg64 num else num
  let minus := if den < 0 then !minus else minus
  let den := if den < 0 then neg64 den else den
  (toUint64 num, toUint64 den, minus)

/-- `if ( minus ) v = -v;`。 -/
def applyMinus (minus : Bool) (v : Int) : Int := if minus then neg64 v else v

/-- `__divdi3 ( num, den )`。 -/
def divdi3 (fuel : Nat) (num den : Int) : Option Int :=
  let o := divdi3Operands num den
  (udivmoddi4 fuel o.1 o.2.1 none).map fun r => applyMinus o.2.2 (toInt64 r.1)

/-- `__moddi3 ( num, den )`。余りは `( uint64_t * ) &v` に書かれる。書く前の `v` の値は
結果に効かないので 0 とする。 -/
def moddi3 (fuel : Nat) (num den : Int) : Option Int :=
  let o := divdi3Operands num den
  (udivmoddi4 fuel o.1 o.2.1 (some 0)).bind fun r => r.2.map fun v => applyMinus o.2.2 (toInt64 v)

end FlexBoot.Libgcc
