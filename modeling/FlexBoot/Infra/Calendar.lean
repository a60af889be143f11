import Mathlib

/-!
# グレゴリオ暦

年は西暦の整数、月は 1 月を 0 とする番号、日は 1 からの番号で書く。閏年は 4 で割り切れ、
100 で割り切れないか 400 で割り切れる年である（`gregorianLeap`）。

* `dayOfYear` — 年の始めからの日数（1 月 1 日が 0）。前の月の日数を足したもの
* `daysOfYears` — ある年の始めから `n` 年分の日数
* `weekdayOfDays` — 1970 年 1 月 1 日（木曜日）からの日数から曜日を出す（日曜日が 0）

## 閏年の数

`leapCount y = y / 4 - y / 100 + y / 400` は 1 年から `y` 年までの閏年の数である。一年ごとの
増え方が閏年かどうかに一致する（`daysInYear_eq_leapCount`）ので、何年分かの日数は
`365 * n` にその差を足したものになる（`daysOfYears_eq`）。
-/

namespace Infra

/-- グレゴリオ暦の閏年。 -/
def gregorianLeap (year : Int) : Bool :=
  year % 4 = 0 ∧ (year % 100 ≠ 0 ∨ year % 400 = 0)

/-- 一年の日数。 -/
def daysInYear (year : Int) : Int := if gregorianLeap year then 366 else 365

/-- 月 `mon`（1 月が 0）の日数。 -/
def daysInMonth (year : Int) (mon : Nat) : Int :=
  if mon = 1 then (if gregorianLeap year then 29 else 28)
  else if mon = 3 ∨ mon = 5 ∨ mon = 8 ∨ mon = 10 then 30
  else 31

/-- `mon` 月 `mday` 日の、年の始めからの日数（1 月 1 日が 0）。 -/
def dayOfYear (year : Int) (mon : Nat) (mday : Int) : Int :=
  ((List.range mon).map (daysInMonth year)).sum + (mday - 1)

/-- `start` 年の始めから `start + n` 年の始めまでの日数。 -/
def daysOfYears (start : Int) (n : Nat) : Int :=
  ((List.range n).map fun i : Nat => daysInYear (start + (i : Int))).sum

/-- 1970 年 1 月 1 日から `year` 年 `mon` 月 `mday` 日までの日数。 -/
def daysSinceEpoch (year : Int) (mon : Nat) (mday : Int) : Int :=
  daysOfYears 1970 (year - 1970).toNat + dayOfYear year mon mday

/-- 1970 年 1 月 1 日からの日数の曜日（日曜日が 0）。その日は木曜日である。 -/
def weekdayOfDays (days : Int) : Int := (days + 4) % 7

/-- 1 年から `year` 年までの閏年の数。 -/
def leapCount (year : Int) : Int := year / 4 - year / 100 + year / 400

/-- 一年の日数は、閏年の数の増え方で決まる。 -/
theorem daysInYear_eq_leapCount (year : Int) :
    daysInYear year = 365 + (leapCount year - leapCount (year - 1)) := by
  unfold daysInYear gregorianLeap leapCount
  by_cases h4 : year % 4 = 0 <;> by_cases h100 : year % 100 = 0 <;> by_cases h400 : year % 400 = 0 <;>
    simp only [h4, h100, h400, ne_eq, not_true_eq_false, not_false_eq_true, or_true, or_false, and_true,
      and_false, decide_true, decide_false, if_true, if_false, Bool.false_eq_true] <;> omega

/-- `n` 年分の日数。 -/
theorem daysOfYears_eq (start : Int) (n : Nat) :
    daysOfYears start n = 365 * n + (leapCount (start + n - 1) - leapCount (start - 1)) := by
  -- 年の数についての帰納法。一年足すごとに `daysInYear_eq_leapCount` を使う
  induction n with
  | zero => simp [daysOfYears]
  | succ n ih =>
    rw [daysOfYears, List.range_succ, List.map_append, List.sum_append, ← daysOfYears, ih,
      List.map_singleton, List.sum_singleton, daysInYear_eq_leapCount]
    have hlast : start + ((n + 1 : Nat) : Int) - 1 = start + (n : Int) := by omega
    rw [hlast]
    omega

/-- その月の中の日は、年の日数より前にある。 -/
theorem dayOfYear_lt_daysInYear (year : Int) {mon : Nat} (hmon : mon < 12) {mday : Int}
    (hmday : 1 ≤ mday ∧ mday ≤ daysInMonth year mon) :
    0 ≤ dayOfYear year mon mday ∧ dayOfYear year mon mday < daysInYear year := by
  unfold dayOfYear daysInYear
  unfold daysInMonth at hmday
  interval_cases mon <;> cases hleap : gregorianLeap year <;>
    simp [hleap, daysInMonth, List.range_succ] at hmday ⊢ <;> omega

end Infra
