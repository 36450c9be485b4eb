import Mathlib.Tactic.IntervalCases
import Vpsman.Lib.Text
import Vpsman.Policy.Cycle

/-! # Dates of object store requests

The date of a request is computed from the days since 1970 in eras of 400 years, with years
that begin in March.
-/

namespace Vpsman.ObjectStore

open Vpsman.Lib Vpsman.Policy

/-- `i64` does not overflow up to 2⁶² days; its division truncates. -/
def civilFromDays (daysSinceUnixEpoch : Int) : Int × Nat × Nat :=
  let z := daysSinceUnixEpoch + 719468
  let era := (if z ≥ 0 then z else z - 146096).tdiv 146097
  let doe := z - era * 146097
  let yoe := (doe - doe.tdiv 1460 + doe.tdiv 36524 - doe.tdiv 146096).tdiv 365
  let y := yoe + era * 400
  let doy := doe - (365 * yoe + yoe.tdiv 4 - yoe.tdiv 100)
  let mp := (5 * doy + 2).tdiv 153
  let day := doy - (153 * mp + 2).tdiv 5 + 1
  let month := mp + if mp < 10 then 3 else -9
  let year := y + if month ≤ 2 then 1 else 0
  (year, month.toNat, day.toNat)

/-- A number with leading zeros. -/
def padded (width n : Nat) : Text := (Nat.toDigits 10 n).leftpad width '0'

def amzDates (unixSecs : Nat) : Text × Text :=
  let days := unixSecs / 86400
  let secondsOfDay := unixSecs % 86400
  let (year, month, day) := civilFromDays days
  let hour := secondsOfDay / 3600
  let minute := secondsOfDay % 3600 / 60
  let second := secondsOfDay % 60
  let date := padded 4 year.toNat ++ padded 2 month ++ padded 2 day
  (date, date ++ 'T' :: padded 2 hour ++ padded 2 minute ++ padded 2 second ++ ['Z'])

theorem january_valid : 1 ≤ 1 ∧ 1 ≤ 12 := by decide

/-- The calendar: the date that many days after 1970-01-01. -/
def dateAfter : Nat → Month × Nat
  | 0 => (⟨1970, 1, january_valid⟩, 1)
  | days + 1 =>
    let (month, day) := dateAfter days
    if day < month.length then (month, day + 1) else (month.next, 1)

/-- Days from 1970-01-01 to the first of the month, by the year that began in March. -/
def daysBefore (current : Month) : Int :=
  let year := if current.month ≤ 2 then current.year - 1 else current.year
  let march : Int := (current.month + 9) % 12
  365 * year + year / 4 - year / 100 + year / 400 + (153 * march + 2) / 5 - 719468

theorem daysBefore_next (current : Month) :
    daysBefore current.next = daysBefore current + current.length := by
  obtain ⟨year, month, first, last⟩ := current
  interval_cases month <;> simp [daysBefore, Month.next, Month.length] <;> omega

theorem dateAfter_spec (date : dateAfter days = (month, day)) : 1 ≤ day ∧ day ≤ month.length ∧
    1970 ≤ month.year ∧ (days : Int) = daysBefore month + day - 1 := by
  induction days generalizing month day with
  | zero => cases date; decide
  | succ days ih =>
    obtain ⟨first, last, late, count⟩ := @ih (dateAfter days).1 _ rfl
    have bounds := (dateAfter days).1.next.length_bounds
    have next := daysBefore_next (dateAfter days).1
    unfold dateAfter at date
    grind [Month.next]

/-- The year of the era from the day of the era; the last year of an era is one day longer. -/
theorem yoe_of_doe {yoe doy doe : Int} (first : 0 ≤ yoe) (last : yoe < 400) (low : 0 ≤ doy)
    (high : doy ≤ 365) (leap : doy = 365 → (yoe + 1) % 4 = 0 ∧ ((yoe + 1) % 100 ≠ 0 ∨ yoe = 399))
    (count : doe = 365 * yoe + yoe / 4 - yoe / 100 + doy) :
    (doe - doe / 1460 + doe / 36524 - doe / 146096) / 365 = yoe := by
  have upper : doe < 36524 * (yoe / 100 + 1) ∨ doe = 146096 ∧ yoe = 399 := by omega
  have leaps : doe / 1460 = yoe / 4 ∧ doy ≤ 364 ∨ doe / 1460 = yoe / 4 + 1 ∧ 1 ≤ doy := by omega
  rcases upper with upper | ⟨rfl, rfl⟩
  · have century : doe / 36524 = yoe / 100 := by omega
    have whole : doe / 146096 = 0 := by omega
    omega
  · omega

theorem civilFromDays_date {current : Month} {date : Nat} (first : 1 ≤ date)
    (last : date ≤ current.length) (late : 1970 ≤ current.year) :
    civilFromDays (daysBefore current + date - 1) = (current.year, current.month, date) := by
  obtain ⟨year, number, low, high⟩ := current
  change 1970 ≤ year at late
  unfold daysBefore civilFromDays
  extract_lets since march z era doe yoe y doy mp day month year'
  have since_eq : since = if number ≤ 2 then year - 1 else year := rfl
  have march_eq : march = number + if number ≤ 2 then 9 else -3 := by
    dsimp only [march]
    omega
  clear_value since march
  obtain ⟨dayOfYear, dayOfYear_eq⟩ : ∃ n, n = (153 * march + 2) / 5 + date - 1 := ⟨_, rfl⟩
  have in_month : 0 ≤ dayOfYear ∧ (5 * dayOfYear + 2) / 153 = march ∧ dayOfYear ≤ 365 ∧
      (dayOfYear = 365 → (since + 1) % 4 = 0 ∧ ((since + 1) % 100 ≠ 0 ∨ (since + 1) % 400 = 0)) := by
    interval_cases number <;> simp [Month.length] at last march_eq since_eq <;> grind
  have z_eq : z = 146097 * (since / 400) +
      (365 * (since % 400) + since % 400 / 4 - since % 400 / 100 + dayOfYear) := by
    dsimp only [z]
    omega
  have era_eq : era = since / 400 := by
    simp (disch := omega) only [era, if_pos, Int.tdiv_eq_ediv_of_nonneg]
    omega
  have doe_eq : doe = 365 * (since % 400) + since % 400 / 4 - since % 400 / 100 + dayOfYear := by
    dsimp only [doe]
    omega
  have yoe_eq : yoe = since % 400 := by
    refine .trans ?_ (yoe_of_doe (by omega) (by omega) in_month.1 in_month.2.2.1 (by omega) doe_eq)
    simp (disch := omega) only [yoe, Int.tdiv_eq_ediv_of_nonneg]
  have doy_eq : doy = dayOfYear := by
    simp (disch := omega) only [doy, yoe_eq, Int.tdiv_eq_ediv_of_nonneg]
    omega
  have mp_eq : mp = march := by
    simp (disch := omega) only [mp, doy_eq, Int.tdiv_eq_ediv_of_nonneg, in_month.2.1]
  simp (disch := omega) only [year', y, month, day, mp_eq, doy_eq, yoe_eq, era_eq,
    Int.tdiv_eq_ediv_of_nonneg, Prod.mk.injEq]
  omega

/-- The date is the one the calendar has for that day. -/
theorem request_dates_follow_calendar (days : Nat) (hour : Fin 24) (minute second : Fin 60) :
    ∃ month day, dateAfter days = (month, day) ∧ 1 ≤ day ∧ day ≤ month.length ∧
      civilFromDays days = (month.year, month.month, day) ∧
      let date := padded 4 month.year.toNat ++ padded 2 month.month ++ padded 2 day
      amzDates (((days * 24 + hour) * 60 + minute) * 60 + second) =
        (date, date ++ 'T' :: padded 2 hour ++ padded 2 minute ++ padded 2 second ++ ['Z']) := by
  obtain ⟨first, last, late, count⟩ := @dateAfter_spec days _ _ rfl
  have civil := count ▸ civilFromDays_date first last late
  refine ⟨_, _, rfl, first, last, civil, ?_⟩
  generalize time : ((days * 24 + hour) * 60 + minute) * 60 + second = unixSecs
  simp only [amzDates, show unixSecs / 86400 = days by omega, civil,
    show unixSecs % 86400 / 3600 = hour by omega, show unixSecs % 86400 % 60 = second by omega,
    show unixSecs % 86400 % 3600 / 60 = minute by omega]

end Vpsman.ObjectStore
