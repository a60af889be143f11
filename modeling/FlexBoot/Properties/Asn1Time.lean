import FlexBoot.Properties.Asn1
import FlexBoot.Properties.Time

/-!
# `asn1_generalized_time` の時刻

`asn1_generalized_time` は UTCTime（`YYMMDDHHMMSSZ`）と GeneralizedTime（`YYYYMMDDHHMMSSZ`）の
数字を二桁ずつ読み、`struct tm` に入れて `mktime` に渡す。二桁が数字であることと最後の `Z` は
確かめるが、月、日、時、分、秒の範囲は確かめない。

1. 数字の二桁は、その十進の値として `pairs.raw` に入る（`asn1TimePairs_twoDigits`）。
2. そのため、どの二桁の数字の列についても、`asn1_generalized_time` は `mktime` に月から 1 を
   引いた `tm_mon` を渡し、その秒を返す（`asn1GeneralizedTime_utcTime`、
   `asn1GeneralizedTime_generalizedTime`）。
3. 月が 1 から 12 で年が 1970 年より後なら、返す秒は 1970 年 1 月 1 日からの日数と一日の中の秒で
   ある（`asn1GeneralizedTime_utcTime_valid`）。
4. 月が `00` か `13` 以上なら `tm_mon` は表の外にあり、`mktime` は `days_to_month_start[]` の外を
   読む（`asn1GeneralizedTime_reads_outside_tables`）。
-/

namespace FlexBoot.Asn1

open Infra FlexBoot Time

/-- `n` を二桁の十進数字で書いた byte。 -/
def twoDigits (n : Nat) : Bytes := [UInt8.ofNat (0x30 + n / 10), UInt8.ofNat (0x30 + n % 10)]

/-- UTCTime の中身 `YYMMDDHHMMSSZ`。 -/
def utcTimeDigits (yy mm dd hh mi ss : Nat) : Bytes :=
  twoDigits yy ++ twoDigits mm ++ twoDigits dd ++ twoDigits hh ++ twoDigits mi ++ twoDigits ss ++ [0x5A]

/-- GeneralizedTime の中身 `CCYYMMDDHHMMSSZ`。 -/
def generalizedTimeDigits (cc yy mm dd hh mi ss : Nat) : Bytes :=
  twoDigits cc ++ utcTimeDigits yy mm dd hh mi ss

/-! ## 二桁ずつの loop -/

/-- 二桁の数字を一組読むと、その値が `pairs.raw[i]` に入り、cursor は二つ進む。 -/
theorem asn1TimePairs_twoDigits {buf rest : Bytes} {c : Asn1Cursor} {n : Nat}
    (hbuf : buf.drop c.data = twoDigits n ++ rest) (hn : n < 100) (hlen : 2 ≤ c.len) (k i : Nat) (raw : List Nat) :
    asn1TimePairs buf (k + 1) i c raw = asn1TimePairs buf k (i + 1) c.next.next (raw.set i n) := by
  have htens : c.byte buf = 0x30 + n / 10 := by
    rw [byte_of_drop_eq hbuf, UInt8.toNat_ofNat']
    omega
  have hunits : c.next.byte buf = 0x30 + n % 10 := by
    rw [byte_of_drop_eq (drop_succ_of_drop_eq hbuf), UInt8.toNat_ofNat']
    omega
  have hdigits : isdigit (0x30 + n / 10) ∧ isdigit (0x30 + n % 10) := by
    simp only [isdigit, decide_eq_true_eq]
    omega
  rw [asn1TimePairs, if_neg (by omega), htens, hunits, if_neg (not_not.mpr hdigits)]
  congr 2
  omega

/-- 数字の組を読み終えた cursor は、最後の `Z` の上にある。 -/
theorem asn1TimePairs_done (buf : Bytes) (i : Nat) (c : Asn1Cursor) (raw : List Nat) :
    asn1TimePairs buf 0 i c raw = .ok (c, raw) := rfl

/-! ## `mktime` に渡す `struct tm` -/

/-- `asn1_generalized_time` が `mktime` に渡す `struct tm`。 -/
def pairsTm (century yy mm dd hh mi ss : Nat) : Tm :=
  { tmSec := ss, tmMin := mi, tmHour := hh, tmMday := dd, tmMon := (mm : Int) - 1,
    tmYear := ((century : Int) - 19) * 100 + yy, tmWday := 0, tmYday := 0 }

/-- UTCTime の二桁の数字の列は、どれもそのまま `mktime` に渡される。年は 50 以上なら 1900 年代、
それより前なら 2000 年代である。 -/
theorem asn1GeneralizedTime_utcTime {yy mm dd hh mi ss : Nat}
    (hd : yy < 100 ∧ mm < 100 ∧ dd < 100 ∧ hh < 100 ∧ mi < 100 ∧ ss < 100) :
    asn1GeneralizedTime ([0x17, 13] ++ utcTimeDigits yy mm dd hh mi ss) ⟨0, 15⟩ =
      (mktime (pairsTm (if yy ≥ 50 then 19 else 20) yy mm dd hh mi ss)).map fun r => .ok r.2 := by
  obtain ⟨hyy, hmm, hdd, hhh, hmi, hss⟩ := hd
  set buf := [0x17, 13] ++ utcTimeDigits yy mm dd hh mi ss
  have htype : (⟨0, 15⟩ : Asn1Cursor).byte buf = asn1UtcTimeType := rfl
  have henter : asn1Enter buf ⟨0, 15⟩ asn1UtcTimeType = (some ⟨2, 13⟩, .ok ()) := by
    unfold asn1Enter
    rw [asn1Start_short (show buf.drop 0 = 0x17 :: 13 :: utcTimeDigits yy mm dd hh mi ss from rfl)
      (.inr (show asn1UtcTimeType = (0x17 : UInt8).toNat by rfl)) (by decide) (by decide)]
    rfl
  -- 六組の数字を順に読む
  have hpairs : asn1TimePairs buf 6 1 ⟨2, 13⟩ (List.replicate 7 0) =
      .ok (⟨14, 1⟩, [0, yy, mm, dd, hh, mi, ss]) := by
    rw [asn1TimePairs_twoDigits (n := yy) rfl hyy (by decide),
      asn1TimePairs_twoDigits (n := mm) rfl hmm (by decide),
      asn1TimePairs_twoDigits (n := dd) rfl hdd (by decide),
      asn1TimePairs_twoDigits (n := hh) rfl hhh (by decide),
      asn1TimePairs_twoDigits (n := mi) rfl hmi (by decide),
      asn1TimePairs_twoDigits (n := ss) rfl hss (by decide), asn1TimePairs_done]
    rfl
  have hz : (⟨14, 1⟩ : Asn1Cursor).byte buf = 0x5A := rfl
  unfold asn1GeneralizedTime
  rw [htype, if_neg (by decide)]
  simp only [henter, show asn1UtcTimeType ≠ asn1GeneralizedTimeType by decide, if_false]
  rw [show 7 - 1 = 6 from rfl, hpairs]
  dsimp only
  -- 最後の一 byte は `Z` である
  rw [if_neg (by rw [hz]; decide)]
  rfl

/-- GeneralizedTime の二桁の数字の列も、どれもそのまま `mktime` に渡される。 -/
theorem asn1GeneralizedTime_generalizedTime {cc yy mm dd hh mi ss : Nat}
    (hd : cc < 100 ∧ yy < 100 ∧ mm < 100 ∧ dd < 100 ∧ hh < 100 ∧ mi < 100 ∧ ss < 100) :
    asn1GeneralizedTime ([0x18, 15] ++ generalizedTimeDigits cc yy mm dd hh mi ss) ⟨0, 17⟩ =
      (mktime (pairsTm cc yy mm dd hh mi ss)).map fun r => .ok r.2 := by
  obtain ⟨hcc, hyy, hmm, hdd, hhh, hmi, hss⟩ := hd
  set buf := [0x18, 15] ++ generalizedTimeDigits cc yy mm dd hh mi ss
  have htype : (⟨0, 17⟩ : Asn1Cursor).byte buf = asn1GeneralizedTimeType := rfl
  have henter : asn1Enter buf ⟨0, 17⟩ asn1GeneralizedTimeType = (some ⟨2, 15⟩, .ok ()) := by
    unfold asn1Enter
    rw [asn1Start_short (show buf.drop 0 = 0x18 :: 15 :: generalizedTimeDigits cc yy mm dd hh mi ss from rfl)
      (.inr (show asn1GeneralizedTimeType = (0x18 : UInt8).toNat by rfl)) (by decide) (by decide)]
    rfl
  -- 七組の数字を順に読む
  have hpairs : asn1TimePairs buf 7 0 ⟨2, 15⟩ (List.replicate 7 0) =
      .ok (⟨16, 1⟩, [cc, yy, mm, dd, hh, mi, ss]) := by
    rw [asn1TimePairs_twoDigits (n := cc) rfl hcc (by decide),
      asn1TimePairs_twoDigits (n := yy) rfl hyy (by decide),
      asn1TimePairs_twoDigits (n := mm) rfl hmm (by decide),
      asn1TimePairs_twoDigits (n := dd) rfl hdd (by decide),
      asn1TimePairs_twoDigits (n := hh) rfl hhh (by decide),
      asn1TimePairs_twoDigits (n := mi) rfl hmi (by decide),
      asn1TimePairs_twoDigits (n := ss) rfl hss (by decide), asn1TimePairs_done]
    rfl
  have hz : (⟨16, 1⟩ : Asn1Cursor).byte buf = 0x5A := rfl
  unfold asn1GeneralizedTime
  rw [htype, if_neg (by decide)]
  simp only [henter, if_true]
  rw [show 7 - 0 = 7 from rfl, hpairs]
  dsimp only
  -- 最後の一 byte は `Z` である
  rw [if_neg (by rw [hz]; decide)]
  rfl

/-- `mktime` の秒を返すことは、`mktime` の秒の `Option` を `Except` に入れることである。 -/
theorem map_ok_snd (tm : Tm) :
    ((mktime tm).map fun r => (.ok r.2 : Except Asn1Error Int)) = ((mktime tm).map Prod.snd).map .ok := by
  rw [Option.map_map]
  rfl

/-- 月が 1 から 12 で年が 1970 年より後の UTCTime は、1970 年 1 月 1 日からの日数と一日の中の秒を
返す。 -/
theorem asn1GeneralizedTime_utcTime_valid {yy mm dd hh mi ss : Nat}
    (hd : yy < 100 ∧ mm < 100 ∧ dd < 100 ∧ hh < 100 ∧ mi < 100 ∧ ss < 100) (hmon : 1 ≤ mm ∧ mm ≤ 12)
    (hyear : yy < 50 ∨ 70 ≤ yy) :
    asn1GeneralizedTime ([0x17, 13] ++ utcTimeDigits yy mm dd hh mi ss) ⟨0, 15⟩ =
      some (.ok (daysSinceEpoch (if 50 ≤ yy then 1900 + yy else 2000 + yy) (mm - 1) dd * 86400 +
        ((hh * 60 + mi) * 60 + ss))) := by
  rw [asn1GeneralizedTime_utcTime hd, map_ok_snd]
  have hm : (pairsTm (if yy ≥ 50 then 19 else 20) yy mm dd hh mi ss).tmMon = ((mm - 1 : Nat) : Int) := by
    simp only [pairsTm]
    omega
  have hy : 70 ≤ (pairsTm (if yy ≥ 50 then 19 else 20) yy mm dd hh mi ss).tmYear := by
    simp only [pairsTm]
    split <;> omega
  rw [mktime_snd hm (by omega) hy, Option.map_some]
  -- 世紀を足した年が西暦である
  have hcent : 1900 + (pairsTm (if yy ≥ 50 then 19 else 20) yy mm dd hh mi ss).tmYear =
      if 50 ≤ yy then 1900 + (yy : Int) else 2000 + yy := by
    simp only [pairsTm]
    split <;> omega
  rw [hcent]
  rfl

/-- 月が `00` か `13` 以上の UTCTime では、`tm_mon` が表の外にあり、`mktime` は
`days_to_month_start[]` の外を読む。 -/
theorem asn1GeneralizedTime_reads_outside_tables {yy mm dd hh mi ss : Nat}
    (hd : yy < 100 ∧ mm < 100 ∧ dd < 100 ∧ hh < 100 ∧ mi < 100 ∧ ss < 100) (hmon : mm = 0 ∨ 13 ≤ mm) :
    asn1GeneralizedTime ([0x17, 13] ++ utcTimeDigits yy mm dd hh mi ss) ⟨0, 15⟩ = none := by
  rw [asn1GeneralizedTime_utcTime hd, mktime_of_mon_out (by simp only [pairsTm]; omega)]
  rfl

/-- `700001000000Z`（1970 年 0 月 1 日）は `tm_mon = -1` を `mktime` に渡す。 -/
theorem asn1GeneralizedTime_month_00 :
    utcTimeDigits 70 0 1 0 0 0 = ascii "700001000000Z" ∧
      asn1GeneralizedTime ([0x17, 13] ++ utcTimeDigits 70 0 1 0 0 0) ⟨0, 15⟩ = none :=
  ⟨by decide, asn1GeneralizedTime_reads_outside_tables (by decide) (.inl rfl)⟩

end FlexBoot.Asn1
