import Mathlib.Algebra.Order.Ring.Int

/-! # Billing cycles of traffic

A cycle runs from the reset day and hour of one month to those of the next, the day clamped
to the length of the month. Dates are those of the Gregorian calendar in both directions. The
date library has a first and a last year, and a date beyond them is a panic.
-/

namespace Vpsman.Policy

structure Month where
  year : Int
  month : Nat
  valid : 1 ≤ month ∧ month ≤ 12 := by decide
  deriving Repr, DecidableEq

namespace Month

def next (current : Month) : Month :=
  if december : current.month = 12 then ⟨current.year + 1, 1, by decide⟩
  else ⟨current.year, current.month + 1, by have := current.valid; omega⟩

def previous (current : Month) : Month :=
  if january : current.month = 1 then ⟨current.year - 1, 12, by decide⟩
  else ⟨current.year, current.month - 1, by have := current.valid; omega⟩

def length (current : Month) : Nat :=
  if current.month = 2 then
    if current.year % 4 = 0 ∧ (current.year % 100 ≠ 0 ∨ current.year % 400 = 0) then 29 else 28
  else if current.month ∈ [4, 6, 9, 11] then 30
  else 31

def Represented (current : Month) : Prop := -262143 ≤ current.year ∧ current.year ≤ 262142

instance (current : Month) : Decidable current.Represented :=
  inferInstanceAs (Decidable (_ ∧ _))

def index (current : Month) : Int := current.year * 12 + current.month

end Month

/-- A date with the second of the day; a leap second has up to 2·10⁹ nanoseconds. -/
structure DateTime where
  month : Month
  day : Nat
  second : Nat := 0
  nano : Nat := 0
  represented : month.Represented := by decide
  real : 1 ≤ day ∧ day ≤ month.length ∧ second < 86400 ∧ nano < 2000000000 := by decide
  deriving Repr, DecidableEq

/-- The order of instants: first by month, then by day, second and nanosecond. -/
def DateTime.rank (instant : DateTime) : Int :=
  ((instant.month.index * 32 + instant.day) * 86400 + instant.second) * 2000000000 + instant.nano

/-- The given hour sharp. -/
def withYmdAndHms (month : Month) (day hour : Nat) : Option DateTime :=
  if known : month.Represented ∧ 1 ≤ day ∧ day ≤ month.length ∧ hour < 24 then
    some { month, day, second := hour * 3600, represented := known.1, real := by omega }
  else none

/-- `day()` of the date before the first of a month. -/
def dayBefore (first : DateTime) : Option Nat :=
  if first.month.previous.Represented then some first.month.previous.length else none

def daysInMonth (month : Month) : Option Nat :=
  (withYmdAndHms month.next 1 0).bind dayBefore

def boundaryForMonth (resetDay resetHour : Int) (month : Month) : Option DateTime :=
  (daysInMonth month).bind fun days =>
    withYmdAndHms month (max 1 (min resetDay days)).toNat (max 0 (min resetHour 23)).toNat

/-- Nothing stands for a panic. -/
def cycleBounds (resetDay resetHour : Int) (now : DateTime) : Option (DateTime × DateTime) := do
  let currentBoundary ← boundaryForMonth resetDay resetHour now.month
  if currentBoundary.rank ≤ now.rank then
    return (currentBoundary, ← boundaryForMonth resetDay resetHour now.month.next)
  else
    return (← boundaryForMonth resetDay resetHour now.month.previous, currentBoundary)

/-- The first and the last month that have a boundary. -/
def firstMonth : Int := -262143 * 12 + 1

def lastMonth : Int := 262142 * 12 + 11

namespace Month

variable {current other : Month}

theorem eq_of_index (same : current.index = other.index) : current = other := by
  obtain ⟨year, month, valid⟩ := current
  obtain ⟨year', month', valid'⟩ := other
  simp only [index, mk.injEq] at same ⊢
  omega

theorem index_next (current : Month) : current.next.index = current.index + 1 := by
  unfold next index
  split <;> (dsimp only; omega)

theorem index_previous (current : Month) : current.previous.index = current.index - 1 := by
  have valid := current.valid
  unfold previous index
  split <;> (dsimp only; omega)

theorem previous_next (current : Month) : current.next.previous = current :=
  eq_of_index (by rw [index_previous, index_next, Int.add_sub_cancel])

theorem next_previous (current : Month) : current.previous.next = current :=
  eq_of_index (by rw [index_next, index_previous, Int.sub_add_cancel])

theorem length_bounds (current : Month) : 28 ≤ current.length ∧ current.length ≤ 31 := by
  unfold length
  split_ifs <;> decide

theorem represented (current : Month) (first : firstMonth ≤ current.index)
    (last : current.index ≤ lastMonth + 1) : current.Represented := by
  have valid := current.valid
  unfold firstMonth lastMonth index at *
  constructor <;> omega

end Month

variable {resetDay resetHour : Int} {month : Month} {start finish instant now : DateTime}

theorem DateTime.rank_lt (earlier : start.month.index < finish.month.index) :
    start.rank < finish.rank := by
  have early := start.real
  have late := finish.real
  have short := start.month.length_bounds
  unfold rank
  omega

theorem boundaryForMonth_month (found : boundaryForMonth resetDay resetHour month = some start) :
    start.month = month := by
  obtain ⟨days, -, found⟩ := Option.bind_eq_some_iff.mp found
  unfold withYmdAndHms at found
  split at found <;> cases found
  rfl

theorem boundaryForMonth_exists (resetDay resetHour : Int) (month : Month)
    (first : firstMonth ≤ month.index) (last : month.index ≤ lastMonth) :
    ∃ start, boundaryForMonth resetDay resetHour month = some start := by
  have next := month.index_next
  have here := month.represented first (by omega)
  have following := month.next.represented (by omega) (by omega)
  have long := month.length_bounds
  have days : daysInMonth month = some month.length := by
    unfold daysInMonth withYmdAndHms
    rw [dif_pos ⟨following, by decide, by have := month.next.length_bounds; omega, by decide⟩]
    simp [dayBefore, Month.previous_next, here]
  unfold boundaryForMonth withYmdAndHms
  rw [days, Option.bind_some, dif_pos ⟨here, by omega, by omega, by omega⟩]
  exact ⟨_, rfl⟩

/-- The instants between the boundaries of two successive months are in one cycle. -/
theorem cycleBounds_between (first : boundaryForMonth resetDay resetHour month = some start)
    (second : boundaryForMonth resetDay resetHour month.next = some finish)
    (reached : start.rank ≤ instant.rank) (before : instant.rank < finish.rank) :
    cycleBounds resetDay resetHour instant = some (start, finish) := by
  obtain rfl := boundaryForMonth_month first
  have following := boundaryForMonth_month second
  have next := start.month.index_next
  have not_earlier : ¬ instant.month.index < start.month.index := fun earlier =>
    absurd (DateTime.rank_lt earlier) (by omega)
  have not_later : ¬ finish.month.index < instant.month.index := fun later =>
    absurd (DateTime.rank_lt later) (by omega)
  rw [following] at not_later
  by_cases same : instant.month.index = start.month.index
  · rw [← Month.eq_of_index same] at first second
    simp [cycleBounds, first, second, reached]
  · have same : instant.month = start.month.next := Month.eq_of_index (by omega)
    simp [cycleBounds, same, second, Month.previous_next, first, before]

theorem cycleBounds_boundaries
    (bounds : cycleBounds resetDay resetHour now = some (start, finish)) :
    boundaryForMonth resetDay resetHour start.month = some start ∧
      boundaryForMonth resetDay resetHour start.month.next = some finish ∧
      start.rank ≤ now.rank ∧ now.rank < finish.rank := by
  obtain ⟨current, found, bounds⟩ := Option.bind_eq_some_iff.mp bounds
  have here := boundaryForMonth_month found
  split at bounds
  case isTrue reached =>
    obtain ⟨next, following, same⟩ := Option.bind_eq_some_iff.mp bounds
    cases same
    have later : now.month.index < finish.month.index := by
      rw [boundaryForMonth_month following, Month.index_next]
      omega
    rw [here]
    exact ⟨found, following, reached, DateTime.rank_lt later⟩
  case isFalse missed =>
    obtain ⟨previous, preceding, same⟩ := Option.bind_eq_some_iff.mp bounds
    cases same
    have earlier : start.month.index < now.month.index := by
      rw [boundaryForMonth_month preceding, Month.index_previous]
      omega
    rw [boundaryForMonth_month preceding, Month.next_previous]
    exact ⟨preceding, found, (DateTime.rank_lt earlier).le, not_le.mp missed⟩

/-- From the second month to the last but one the cycle exists. Every cycle that exists holds
    the instant, is the cycle of all the instants in it, and is followed by the one that starts
    at its end. -/
theorem cycleBounds_tile (resetDay resetHour : Int) (now : DateTime) :
    (firstMonth < now.month.index → now.month.index < lastMonth →
      ∃ start finish, cycleBounds resetDay resetHour now = some (start, finish)) ∧
    ∀ start finish, cycleBounds resetDay resetHour now = some (start, finish) →
      start.rank ≤ now.rank ∧ now.rank < finish.rank ∧
      (∀ instant, start.rank ≤ instant.rank → instant.rank < finish.rank →
        cycleBounds resetDay resetHour instant = some (start, finish)) ∧
      (finish.month.index < lastMonth →
        ∃ later, cycleBounds resetDay resetHour finish = some (finish, later)) := by
  have exists_ := boundaryForMonth_exists resetDay resetHour
  refine ⟨fun first last => ?_, fun start finish bounds => ?_⟩
  · have next := now.month.index_next
    have previous := now.month.index_previous
    obtain ⟨current, found⟩ := exists_ now.month first.le last.le
    obtain ⟨following, after⟩ := exists_ now.month.next (by omega) (by omega)
    obtain ⟨preceding, before⟩ := exists_ now.month.previous (by omega) (by omega)
    by_cases reached : current.rank ≤ now.rank
    · exact ⟨current, following, by simp [cycleBounds, found, reached, after]⟩
    · exact ⟨preceding, current, by simp [cycleBounds, found, reached, before]⟩
  · obtain ⟨first, second, reached, before⟩ := cycleBounds_boundaries bounds
    refine ⟨reached, before, fun _ => cycleBounds_between first second, fun last => ?_⟩
    have here := boundaryForMonth_month second
    have next := finish.month.index_next
    have represented := finish.represented.1
    have valid := finish.month.valid
    obtain ⟨later, after⟩ := exists_ finish.month.next
      (by unfold firstMonth; unfold Month.index at *; omega) (by omega)
    exact ⟨later, by simp [cycleBounds, here ▸ second, after]⟩

/-- In the last December the next month does not exist. -/
theorem cycleBounds_last_december :
    cycleBounds 1 0 { month := { year := 262142, month := 12 }, day := 1 } = none := by
  decide

end Vpsman.Policy
