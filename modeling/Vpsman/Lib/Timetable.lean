import Mathlib

/-! # Timetables

A set of instants with a way to find the next one. Going from one instant to the next
uses up the instants of a period one by one.
-/

namespace Vpsman.Lib

structure Timetable where
  occurs : Int → Bool
  nextAfter : Int → Option Int
  nextAfter_eq_some : ∀ start time, nextAfter start = some time ↔
    IsLeast {other | occurs other = true ∧ start < other} time

namespace Timetable

variable (table : Timetable)

/-- How many instants there are in a period, without its start. -/
noncomputable def count (start finish : Int) : Nat :=
  ((Finset.Ioc start finish).filter fun time => table.occurs time = true).card

/-- The instant so many instants later. -/
def advance : Nat → Int → Option Int
  | 0, start => some start
  | steps + 1, start => (table.nextAfter start).bind (advance steps)

variable {table}

theorem lt_of_nextAfter (next : table.nextAfter start = some time) : start < time :=
  ((table.nextAfter_eq_some start time).mp next).1.2

theorem occurs_of_nextAfter (next : table.nextAfter start = some time) : table.occurs time = true :=
  ((table.nextAfter_eq_some start time).mp next).1.1

theorem le_of_occurs (next : table.nextAfter start = some time)
    (occurs : table.occurs other = true) (later : start < other) : time ≤ other :=
  ((table.nextAfter_eq_some start time).mp next).2 ⟨occurs, later⟩

theorem nextAfter_isSome_iff :
    (table.nextAfter start).isSome ↔ ∃ time, table.occurs time = true ∧ start < time := by
  constructor
  · intro found
    obtain ⟨time, next⟩ := Option.isSome_iff_exists.mp found
    exact ⟨time, occurs_of_nextAfter next, lt_of_nextAfter next⟩
  · intro exists_
    obtain ⟨least, member, minimal⟩ := Int.exists_least_of_bdd
      (P := fun time => table.occurs time = true ∧ start < time)
      ⟨start, fun _ later => later.2.le⟩ exists_
    exact Option.isSome_iff_exists.mpr
      ⟨least, (table.nextAfter_eq_some start least).mpr ⟨member, fun other => minimal other⟩⟩

theorem nextAfter_isSome_mono (le : start ≤ later)
    (found : (table.nextAfter later).isSome) : (table.nextAfter start).isSome := by
  obtain ⟨time, occurs, after⟩ := nextAfter_isSome_iff.mp found
  exact nextAfter_isSome_iff.mpr ⟨time, occurs, le.trans_lt after⟩

theorem count_eq_zero (next : table.nextAfter start = some time)
    (lt : finish < time) : table.count start finish = 0 := by
  rw [count, Finset.card_eq_zero, Finset.filter_eq_empty_iff]
  intro other within occurs
  obtain ⟨later, le⟩ := Finset.mem_Ioc.mp within
  have first := le_of_occurs next occurs later
  omega

theorem count_eq_zero_of_none (ended : table.nextAfter start = none) :
    table.count start finish = 0 := by
  rw [count, Finset.card_eq_zero, Finset.filter_eq_empty_iff]
  intro other within occurs
  have found := nextAfter_isSome_iff.mpr ⟨other, occurs, (Finset.mem_Ioc.mp within).1⟩
  simp [ended] at found

theorem count_of_nextAfter (next : table.nextAfter start = some time)
    (le : time ≤ finish) : table.count start finish = table.count time finish + 1 := by
  have split : (Finset.Ioc start finish).filter (fun other => table.occurs other = true) =
      insert time ((Finset.Ioc time finish).filter fun other => table.occurs other = true) := by
    ext other
    simp only [Finset.mem_filter, Finset.mem_Ioc, Finset.mem_insert]
    have later := lt_of_nextAfter next
    constructor
    · rintro ⟨⟨after, before⟩, occurs⟩
      have first := le_of_occurs next occurs after
      by_cases same : other = time
      · exact .inl same
      · exact .inr ⟨by omega, occurs⟩
    · rintro (rfl | ⟨⟨after, before⟩, occurs⟩)
      · exact ⟨⟨later, le⟩, occurs_of_nextAfter next⟩
      · exact ⟨by omega, occurs⟩
  rw [count, split, Finset.card_insert_of_notMem (by simp)]
  rfl

/-- Going on by as many instants as are left in a period uses up that many, and by one more
    it leaves the period. -/
theorem advance_eq_some :
    ∀ {start : Int}, 0 < steps → steps ≤ table.count start finish + 1 →
      (table.nextAfter (max start finish)).isSome →
      ∃ time, table.advance steps start = some time ∧ table.occurs time = true ∧
        ((time ≤ finish ∧ table.count time finish + steps = table.count start finish) ∨
          (finish < time ∧ steps = table.count start finish + 1)) := by
  induction steps with
  | zero => exact fun positive => absurd positive (lt_irrefl 0)
  | succ steps ih =>
    intro start _ enough future
    obtain ⟨time, next⟩ := Option.isSome_iff_exists.mp
      (nextAfter_isSome_mono (le_max_left start finish) future)
    rw [advance, next, Option.bind_some]
    by_cases within : time ≤ finish
    · have used := count_of_nextAfter next within
      by_cases last : steps = 0
      · subst last
        exact ⟨time, rfl, occurs_of_nextAfter next, .inl ⟨within, by omega⟩⟩
      have further : (table.nextAfter (max time finish)).isSome := by
        refine nextAfter_isSome_mono ?_ future
        omega
      obtain ⟨reached, advanced, occurs, rest⟩ := ih (Nat.pos_of_ne_zero last) (by omega) further
      refine ⟨reached, advanced, occurs, rest.imp ?_ ?_⟩
      · intro inside
        exact ⟨inside.1, by omega⟩
      · intro past
        exact ⟨past.1, by omega⟩
    · have unused := count_eq_zero next (lt_of_not_ge within)
      have last : steps = 0 := by omega
      subst last
      exact ⟨time, rfl, occurs_of_nextAfter next, .inr ⟨lt_of_not_ge within, by omega⟩⟩

end Timetable

end Vpsman.Lib
