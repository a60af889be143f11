import Mathlib

/-!
# `mktime`（`core/time.c`）

`mktime` は `struct tm` から年の始めからの日数 `tm_yday` と曜日 `tm_wday` を埋め、
1970 年からの秒を返す。閏年は `is_leap_year`、1900 年からの閏年の数は `leap_years_to_end`、
曜日は月ごとの `offset` の表を使う式（`day_of_week`）で求める。

## model

* `struct tm` の field は `int` で、ここでは `Int` で持つ。`tm_isdst` は `mktime` が読まないので
  持たない。
* C の `/` と `%` は 0 に向かって丸めるので、`Int.tdiv` と `Int.tmod` で書く。
* `int` の計算の桁あふれは書かない。`tm_year` が `100000` までなら、日数も一日の中の秒も
  `int` に収まる（`Properties/Time`）。
* 表 `days_to_month_start[ tm_mon ]` と `offset[ tm_mon ]` の範囲の外を読むことは、
  `none` で表す。
-/

namespace FlexBoot.Time

/-- `struct tm` のうち `mktime` が読み書きするもの。 -/
structure Tm where
  tmSec : Int
  tmMin : Int
  tmHour : Int
  tmMday : Int
  tmMon : Int
  tmYear : Int
  tmWday : Int
  tmYday : Int
  deriving DecidableEq, Repr

/-- 表 `table` の `i` 番目を読む。範囲の外なら `none`。 -/
def tableAt (table : List Int) (i : Int) : Option Int :=
  if 0 ≤ i then table[i.toNat]? else none

/-- `is_leap_year ( tm_year )`。`tm_year` は 1900 年からの年で、`tm_year % 400 == 100` が
西暦の 400 の倍数にあたる。 -/
def isLeapYear (tmYear : Int) : Bool :=
  let leapYear := tmYear.tmod 4 = 0
  let leapYear := if tmYear.tmod 100 = 0 then false else leapYear
  if tmYear.tmod 400 = 100 then true else leapYear

/-- `leap_years_to_end ( tm_year )`：1901 年から `1900 + tm_year` 年までの閏年の数。 -/
def leapYearsToEnd (tmYear : Int) : Int :=
  tmYear.tdiv 4 - tmYear.tdiv 100 + (tmYear + 300).tdiv 400

/-- `day_of_week` の `offset[12]`。 -/
def dayOfWeekOffset : List Int := [1, 4, 3, 6, 1, 4, 6, 2, 5, 0, 3, 5]

/-- `day_of_week ( tm_year, tm_mon, tm_mday )`。1 月と 2 月は前の年として数える。 -/
def dayOfWeek (tmYear tmMon tmMday : Int) : Option Int := do
  let pseudoYear := if tmMon < 2 then tmYear - 1 else tmYear
  let offset ← tableAt dayOfWeekOffset tmMon
  pure ((pseudoYear + leapYearsToEnd pseudoYear + offset + tmMday).tmod 7)

/-- `days_to_month_start[]`（閏年でない年）。 -/
def daysToMonthStart : List Int := [0, 31, 59, 90, 120, 151, 181, 212, 243, 273, 304, 334]

/-- `mktime ( tm )`。`tm_yday` と `tm_wday` を埋めた `tm` と、1970 年からの秒を返す。 -/
def mktime (tm : Tm) : Option (Tm × Int) := do
  let monthStart ← tableAt daysToMonthStart tm.tmMon
  let tmYday := (tm.tmMday - 1) + monthStart
  let tmYday := if tm.tmMon ≥ 2 ∧ isLeapYear tm.tmYear then tmYday + 1 else tmYday
  let tmWday ← dayOfWeek tm.tmYear tm.tmMon tm.tmMday
  -- 25567 は 1900 年 1 月 1 日から 1970 年 1 月 1 日までの日数
  let daysSinceEpoch := tmYday + 365 * tm.tmYear - 25567 + leapYearsToEnd (tm.tmYear - 1)
  let secondsSinceDay := ((tm.tmHour * 60) + tm.tmMin) * 60 + tm.tmSec
  pure ({ tm with tmYday := tmYday, tmWday := tmWday }, daysSinceEpoch * 86400 + secondsSinceDay)

end FlexBoot.Time
