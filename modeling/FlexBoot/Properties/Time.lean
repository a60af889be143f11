import FlexBoot.Core.Time
import FlexBoot.Infra.Calendar
import Mathlib.Tactic.IntervalCases

/-!
# `mktime` は POSIX の式である

POSIX:2008 4.15 は「1970 年からの秒」を

`tm_sec + tm_min*60 + tm_hour*3600 + tm_yday*86400 + (tm_year-70)*31536000 +
((tm_year-69)/4)*86400 - ((tm_year-1)/100)*86400 + ((tm_year+299)/400)*86400`

と書く（`posixSeconds`）。`mktime` の `tm_yday` がグレゴリオ暦の年の始めからの日数、`tm_wday`
が本当の曜日であることは、`Infra/Calendar` の暦の上で言う。

1. `is_leap_year` は西暦 `1900 + tm_year` 年の閏年で、`leap_years_to_end` は 1900 年の後の閏年の
   数である（`isLeapYear_eq`、`leapYearsToEnd_eq`）。
2. `days_to_month_start` に閏年の一日を足すと、前の月の日数の和になる
   （`daysToMonthStart_add_leap`）。`offset` はそれを 7 で割った余りに、1 月と 2 月を前の年の
   13 月、14 月として数えたずれを足したものである（`dayOfWeekOffset_sub`）。
3. 月が 0 から 11 なら `mktime` は表の中を読む（`mktime_of_mon`）。`tm_yday` は年の始めからの日数、
   `tm_wday` は 1970 年 1 月 1 日からの日数の曜日で（`mktime_yday_eq`、`mktime_wday_eq`）、
   25567 は 1900 年から 1970 年までの日数なので、秒は POSIX の式になる（`mktime_seconds_eq`）。
4. 秒の計算は `time_t` に直してから掛けるので、`int` で計算するのは日数と一日の中の秒だけであり、
   年が 100000 までならそれは `int` に収まる（`mktime_int_range`）。
-/

namespace FlexBoot.Time

open Infra

/-- POSIX:2008 4.15 の式。 -/
def posixSeconds (tm : Tm) : Int :=
  tm.tmSec + tm.tmMin * 60 + tm.tmHour * 3600 + tm.tmYday * 86400 + (tm.tmYear - 70) * 31536000 +
    (tm.tmYear - 69).tdiv 4 * 86400 - (tm.tmYear - 1).tdiv 100 * 86400 + (tm.tmYear + 299).tdiv 400 * 86400

/-! ## 閏年 -/

/-- `tm_year` が 0 以上なら、`is_leap_year` は西暦 `1900 + tm_year` 年の閏年である。 -/
theorem isLeapYear_eq {tmYear : Int} (h : 0 ≤ tmYear) : isLeapYear tmYear = gregorianLeap (1900 + tmYear) := by
  unfold isLeapYear gregorianLeap
  rw [Int.tmod_eq_emod_of_nonneg h, Int.tmod_eq_emod_of_nonneg h, Int.tmod_eq_emod_of_nonneg h]
  by_cases h4 : tmYear % 4 = 0 <;> by_cases h100 : tmYear % 100 = 0 <;> by_cases h400 : tmYear % 400 = 100 <;>
    simp only [h4, h100, h400, if_true, if_false, decide_true, decide_false] <;>
    first
    | (rw [eq_comm, decide_eq_true_iff]; omega)
    | (rw [eq_comm, decide_eq_false_iff_not]; omega)

/-- `leap_years_to_end` は 1901 年から `1900 + tm_year` 年までの閏年の数である。 -/
theorem leapYearsToEnd_eq {tmYear : Int} (h : 0 ≤ tmYear) :
    leapYearsToEnd tmYear = leapCount (1900 + tmYear) - leapCount 1900 := by
  unfold leapYearsToEnd leapCount
  rw [Int.tdiv_eq_ediv_of_nonneg h, Int.tdiv_eq_ediv_of_nonneg h, Int.tdiv_eq_ediv_of_nonneg (by omega)]
  omega

/-! ## 月の表 -/

/-- 月の始めの日数に閏年の一日を足すと、前の月の日数の和になる。 -/
theorem daysToMonthStart_add_leap (year : Int) {mon : Nat} (h : mon < 12) :
    daysToMonthStart.getD mon 0 + (if 2 ≤ mon ∧ gregorianLeap year then 1 else 0) =
      ((List.range mon).map (daysInMonth year)).sum := by
  interval_cases mon <;> cases hleap : gregorianLeap year <;>
    simp [daysInMonth, hleap, List.range_succ, daysToMonthStart]

/-- `offset` は月の始めの日数と、7 を法として 1 月と 2 月だけ一日ずれる。 -/
theorem dayOfWeekOffset_sub {mon : Nat} (h : mon < 12) :
    (dayOfWeekOffset.getD mon 0 - daysToMonthStart.getD mon 0 - (if mon < 2 then 1 else 0)) % 7 = 0 := by
  interval_cases mon <;> decide

/-! ## `mktime` -/

theorem tableAt_natCast (table : List Int) {n : Nat} (hn : n < table.length) :
    tableAt table n = some (table.getD n 0) := by
  simp [tableAt, List.getD_eq_getElem?_getD, List.getElem?_eq_getElem hn]

/-- 月が 0 から 11 なら、`mktime` は表を範囲の中で読み、次の値を返す。 -/
theorem mktime_of_mon {tm : Tm} {m : Nat} (hm : tm.tmMon = m) (h12 : m < 12) :
    mktime tm =
      let tmYday := tm.tmMday - 1 + daysToMonthStart.getD m 0
      let tmYday := if tm.tmMon ≥ 2 ∧ isLeapYear tm.tmYear then tmYday + 1 else tmYday
      let pseudoYear := if tm.tmMon < 2 then tm.tmYear - 1 else tm.tmYear
      some ({ tm with
          tmYday := tmYday,
          tmWday := (pseudoYear + leapYearsToEnd pseudoYear + dayOfWeekOffset.getD m 0 + tm.tmMday).tmod 7 },
        (tmYday + 365 * tm.tmYear - 25567 + leapYearsToEnd (tm.tmYear - 1)) * 86400 +
          ((tm.tmHour * 60 + tm.tmMin) * 60 + tm.tmSec)) := by
  have hstart : tableAt daysToMonthStart tm.tmMon = some (daysToMonthStart.getD m 0) :=
    hm ▸ tableAt_natCast daysToMonthStart (by simp [daysToMonthStart]; omega)
  have hoff : tableAt dayOfWeekOffset tm.tmMon = some (dayOfWeekOffset.getD m 0) :=
    hm ▸ tableAt_natCast dayOfWeekOffset (by simp [dayOfWeekOffset]; omega)
  simp only [mktime, dayOfWeek, hstart, hoff, Option.bind_eq_bind, Option.bind_some, Option.pure_def]

/-- 月が 0 から 11 の外なら、`mktime` は `days_to_month_start[]` の外を読む。 -/
theorem mktime_of_mon_out {tm : Tm} (h : tm.tmMon < 0 ∨ 12 ≤ tm.tmMon) : mktime tm = none := by
  have hstart : tableAt daysToMonthStart tm.tmMon = none := by
    unfold tableAt
    split
    · exact List.getElem?_eq_none (by simp [daysToMonthStart]; omega)
    · rfl
  simp only [mktime, hstart, Option.bind_eq_bind, Option.bind_none]

/-! ## 日数と曜日 -/

theorem leapCount_1900 : leapCount 1900 = 460 := by decide

theorem leapCount_1969 : leapCount 1969 = 477 := by decide

/-- 閏年の数は閏年で一つ増える。 -/
theorem leapCount_succ (year : Int) :
    leapCount year = leapCount (year - 1) + (if gregorianLeap year then 1 else 0) := by
  have h := daysInYear_eq_leapCount year
  unfold daysInYear at h
  split at h <;> simp only [*, if_true, if_false, Bool.false_eq_true] <;> omega

/-- 1970 年 1 月 1 日からの日数を、1969 年までの閏年の数で書く。 -/
theorem daysSinceEpoch_eq {year : Int} (h : 1970 ≤ year) (mon : Nat) (mday : Int) :
    daysSinceEpoch year mon mday =
      365 * (year - 1970) + (leapCount (year - 1) - leapCount 1969) + dayOfYear year mon mday := by
  rw [daysSinceEpoch, daysOfYears_eq, Int.toNat_of_nonneg (by omega)]
  have hlast : (1970 : Int) + (year - 1970) - 1 = year - 1 := by omega
  rw [hlast, show (1970 : Int) - 1 = 1969 by rfl]

/-- `mktime` の `tm_yday` は、年の始めからの日数である。 -/
theorem mktime_yday_eq {tm : Tm} {m : Nat} (hm : tm.tmMon = m) (h12 : m < 12) (hyear : 0 ≤ tm.tmYear) :
    (if tm.tmMon ≥ 2 ∧ isLeapYear tm.tmYear then tm.tmMday - 1 + daysToMonthStart.getD m 0 + 1
      else tm.tmMday - 1 + daysToMonthStart.getD m 0) = dayOfYear (1900 + tm.tmYear) m tm.tmMday := by
  rw [dayOfYear, ← daysToMonthStart_add_leap (1900 + tm.tmYear) h12, isLeapYear_eq hyear]
  by_cases h2 : 2 ≤ m <;> cases hleap : gregorianLeap (1900 + tm.tmYear) <;>
    simp [h2, hm] <;> omega

theorem leapYearsToEnd_nonneg {tmYear : Int} (h : 0 ≤ tmYear) : 0 ≤ leapYearsToEnd tmYear := by
  unfold leapYearsToEnd
  rw [Int.tdiv_eq_ediv_of_nonneg h, Int.tdiv_eq_ediv_of_nonneg h, Int.tdiv_eq_ediv_of_nonneg (by omega)]
  omega

theorem dayOfWeekOffset_nonneg {mon : Nat} (h : mon < 12) : 0 ≤ dayOfWeekOffset.getD mon 0 := by
  interval_cases mon <;> decide

/-- `day_of_week` の値は、1970 年 1 月 1 日からの日数の曜日である。 -/
theorem mktime_wday_eq {tm : Tm} {m : Nat} (hm : tm.tmMon = m) (h12 : m < 12) (hyear : 70 ≤ tm.tmYear)
    (hmday : 1 ≤ tm.tmMday) :
    ((if tm.tmMon < 2 then tm.tmYear - 1 else tm.tmYear) +
        leapYearsToEnd (if tm.tmMon < 2 then tm.tmYear - 1 else tm.tmYear) + dayOfWeekOffset.getD m 0 +
        tm.tmMday).tmod 7 =
      weekdayOfDays (daysSinceEpoch (1900 + tm.tmYear) m tm.tmMday) := by
  set pseudoYear := if tm.tmMon < 2 then tm.tmYear - 1 else tm.tmYear
  have hp : 0 ≤ pseudoYear := by
    simp only [pseudoYear]
    split <;> omega
  have hlye := leapYearsToEnd_nonneg hp
  have hoff := dayOfWeekOffset_sub h12
  have hstep := leapCount_succ (1900 + tm.tmYear)
  rw [Int.tmod_eq_emod_of_nonneg (by have := dayOfWeekOffset_nonneg h12; omega), leapYearsToEnd_eq hp,
    weekdayOfDays, daysSinceEpoch_eq (by omega), dayOfYear, ← daysToMonthStart_add_leap _ h12,
    leapCount_1969, leapCount_1900]
  -- 1 月と 2 月は前の年として数え、`offset` がその一日のずれを埋める
  by_cases h2 : m < 2
  · have hpy : pseudoYear = tm.tmYear - 1 := if_pos (by omega)
    have hsub : 1900 + (tm.tmYear - 1) = 1900 + tm.tmYear - 1 := by omega
    rw [if_pos h2] at hoff
    rw [hpy, hsub, if_neg (by omega)]
    omega
  · have hpy : pseudoYear = tm.tmYear := if_neg (by omega)
    rw [if_neg h2] at hoff
    have h2' : 2 ≤ m := by omega
    rw [hpy]
    cases hleap : gregorianLeap (1900 + tm.tmYear) <;>
      simp only [hleap, h2', if_true, if_false, true_and, Bool.false_eq_true] at hstep ⊢ <;> omega

/-- `mktime` の日数 `days_since_epoch` は、1970 年 1 月 1 日からの日数である。 -/
theorem mktime_days_eq {tm : Tm} {m : Nat} (hyear : 70 ≤ tm.tmYear) :
    dayOfYear (1900 + tm.tmYear) m tm.tmMday + 365 * tm.tmYear - 25567 + leapYearsToEnd (tm.tmYear - 1) =
      daysSinceEpoch (1900 + tm.tmYear) m tm.tmMday := by
  have hsub : 1900 + (tm.tmYear - 1) = 1900 + tm.tmYear - 1 := by omega
  rw [daysSinceEpoch_eq (by omega), leapYearsToEnd_eq (by omega), hsub, leapCount_1900, leapCount_1969]
  omega

/-- 月が 0 から 11 なら、`mktime` の返す秒は 1970 年 1 月 1 日からの日数と一日の中の秒である。 -/
theorem mktime_snd {tm : Tm} {m : Nat} (hm : tm.tmMon = m) (h12 : m < 12) (hyear : 70 ≤ tm.tmYear) :
    (mktime tm).map Prod.snd =
      some (daysSinceEpoch (1900 + tm.tmYear) m tm.tmMday * 86400 + ((tm.tmHour * 60 + tm.tmMin) * 60 + tm.tmSec)) := by
  rw [mktime_of_mon hm h12]
  dsimp only
  rw [mktime_yday_eq hm h12 (by omega), Option.map_some, mktime_days_eq hyear]

/-- `mktime` の秒は、`tm_yday` を入れた `tm` の POSIX の式である。 -/
theorem mktime_seconds_eq {tm : Tm} (hyear : 70 ≤ tm.tmYear) (tmYday tmWday : Int) :
    (tmYday + 365 * tm.tmYear - 25567 + leapYearsToEnd (tm.tmYear - 1)) * 86400 +
        ((tm.tmHour * 60 + tm.tmMin) * 60 + tm.tmSec) =
      posixSeconds { tm with tmYday := tmYday, tmWday := tmWday } := by
  unfold posixSeconds leapYearsToEnd
  -- 25567 = 70 * 365 + 17 で、17 は 1900 年から 1969 年までの閏年の数
  simp (disch := omega) only [Int.tdiv_eq_ediv_of_nonneg]
  omega

/-- 年が 70 から 100000 までなら、`mktime` の `int` の日数と一日の中の秒は `int` に収まる。 -/
theorem mktime_int_range {tm : Tm} (hyear : 70 ≤ tm.tmYear ∧ tm.tmYear ≤ 100000) {tmYday : Int}
    (hyday : 0 ≤ tmYday ∧ tmYday ≤ 365) (hhour : 0 ≤ tm.tmHour ∧ tm.tmHour ≤ 23)
    (hmin : 0 ≤ tm.tmMin ∧ tm.tmMin ≤ 59) (hsec : 0 ≤ tm.tmSec ∧ tm.tmSec ≤ 60) :
    0 ≤ tmYday + 365 * tm.tmYear - 25567 + leapYearsToEnd (tm.tmYear - 1) ∧
      tmYday + 365 * tm.tmYear - 25567 + leapYearsToEnd (tm.tmYear - 1) < 2 ^ 31 ∧
      0 ≤ (tm.tmHour * 60 + tm.tmMin) * 60 + tm.tmSec ∧ (tm.tmHour * 60 + tm.tmMin) * 60 + tm.tmSec < 2 ^ 31 := by
  unfold leapYearsToEnd
  simp (disch := omega) only [Int.tdiv_eq_ediv_of_nonneg]
  omega

/-- `mktime` は POSIX の式の秒を返し、`tm_yday` に年の始めからの日数を、`tm_wday` に本当の曜日を
書く。途中の `int` の日数 `days_since_epoch` と一日の中の秒 `seconds_since_day` は `int` に収まる。 -/
theorem mktime_eq_posix (tm : Tm) (hyear : 70 ≤ tm.tmYear ∧ tm.tmYear ≤ 100000)
    (hmon : 0 ≤ tm.tmMon ∧ tm.tmMon ≤ 11)
    (hmday : 1 ≤ tm.tmMday ∧ tm.tmMday ≤ daysInMonth (1900 + tm.tmYear) tm.tmMon.toNat)
    (hhour : 0 ≤ tm.tmHour ∧ tm.tmHour ≤ 23) (hmin : 0 ≤ tm.tmMin ∧ tm.tmMin ≤ 59)
    (hsec : 0 ≤ tm.tmSec ∧ tm.tmSec ≤ 60) :
    let tm' := { tm with
      tmYday := dayOfYear (1900 + tm.tmYear) tm.tmMon.toNat tm.tmMday,
      tmWday := weekdayOfDays (daysSinceEpoch (1900 + tm.tmYear) tm.tmMon.toNat tm.tmMday) }
    mktime tm = some (tm', posixSeconds tm') ∧
      0 ≤ tm'.tmYday + 365 * tm.tmYear - 25567 + leapYearsToEnd (tm.tmYear - 1) ∧
      tm'.tmYday + 365 * tm.tmYear - 25567 + leapYearsToEnd (tm.tmYear - 1) < 2 ^ 31 ∧
      0 ≤ (tm.tmHour * 60 + tm.tmMin) * 60 + tm.tmSec ∧ (tm.tmHour * 60 + tm.tmMin) * 60 + tm.tmSec < 2 ^ 31 := by
  intro tm'
  obtain ⟨m, hm⟩ : ∃ m : Nat, tm.tmMon = m := ⟨tm.tmMon.toNat, by omega⟩
  have h12 : m < 12 := by omega
  have hmon' : tm.tmMon.toNat = m := by omega
  have hyday := dayOfYear_lt_daysInYear (1900 + tm.tmYear) h12 (hmon' ▸ hmday)
  have h366 : daysInYear (1900 + tm.tmYear) ≤ 366 := by
    unfold daysInYear
    split <;> omega
  refine ⟨?_, mktime_int_range hyear (by simp only [tm', hmon']; omega) hhour hmin hsec⟩
  rw [mktime_of_mon hm h12]
  dsimp only
  rw [mktime_yday_eq hm h12 (by omega), mktime_wday_eq hm h12 hyear.1 hmday.1,
    mktime_seconds_eq hyear.1 _ (weekdayOfDays (daysSinceEpoch (1900 + tm.tmYear) m tm.tmMday))]
  simp only [tm', hmon']

/-- iPXE の生まれた日（2010 年 4 月 19 日 20:15:01、月曜日、年の 108 日目）。 -/
theorem mktime_eq_posix_ipxe :
    mktime ⟨1, 15, 20, 19, 3, 110, 0, 0⟩ = some (⟨1, 15, 20, 19, 3, 110, 1, 108⟩, 1271708101) := by
  rw [(mktime_eq_posix ⟨1, 15, 20, 19, 3, 110, 0, 0⟩ (by decide) (by decide) (by decide) (by decide)
    (by decide) (by decide)).1]
  decide

end FlexBoot.Time