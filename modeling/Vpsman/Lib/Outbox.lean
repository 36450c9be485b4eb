import Vpsman.Lib.Machine

/-! # A numbered outbox

Items are numbered from zero in the order in which they are queued, and are sent in that
order over a connection that may fail. An item whose sending failed is sent again; the
other side is told from time to time which number comes next. Once the sender is through
and everything was written, the outbox is closed. `step` says which event may come when.
-/

namespace Vpsman.Lib.Outbox

inductive Event where
  | opened
  | queued
  /-- There are no more items to come, and what was queued is remembered elsewhere. -/
  | completed
  | announced (number : Int)
  | attempted (number : Int) (written : Bool)
  | closed
  deriving Repr, DecidableEq

/-- The first `written` of the `queued` items were written; the next number is `written`. -/
structure Progress where
  written : Nat
  queued : Nat
  completed : Bool
  deriving Repr, DecidableEq

def step : Option Progress → Event → Option (Option Progress)
  | none, .opened => some (some ⟨0, 0, false⟩)
  | none, _ => none
  | some _, .opened => none
  | some box, .queued => some (some { box with queued := box.queued + 1 })
  | some box, .completed => some (some { box with completed := true })
  | some box, .announced number => if number = box.written then some (some box) else none
  | some box, .attempted number written =>
    if number = box.written ∧ box.written < box.queued then
      some (some { box with written := if written then box.written + 1 else box.written })
    else none
  | some box, .closed =>
    if box.completed = true ∧ box.written = box.queued then some none else none

/-- How many items were queued since the outbox was opened. -/
def queuedSoFar : Option Progress → Nat
  | none => 0
  | some box => box.queued

theorem queuedSoFar_step (stepped : step box event = some next) :
    queuedSoFar next ≤ queuedSoFar box + [event].count .queued := by
  cases box with
  | none =>
    cases event with
    | opened =>
      cases stepped
      exact Nat.zero_le _
    | queued | completed | announced | attempted | closed => cases stepped
  | some =>
    cases event with
    | opened => cases stepped
    | queued | completed =>
      cases stepped
      exact Nat.le_refl _
    | announced number | attempted number written | closed =>
      obtain ⟨_, rfl⟩ := guard_some stepped
      simp [queuedSoFar]

theorem queuedSoFar_run (runs : run step box events = some final) :
    queuedSoFar final ≤ queuedSoFar box + events.count .queued := by
  induction events generalizing box with
  | nil =>
    obtain rfl := Option.some_inj.mp runs
    exact Nat.le_refl _
  | cons _ _ ih =>
    obtain ⟨next, stepped, runs⟩ := run_cons_some runs
    have first := queuedSoFar_step stepped
    have later := ih runs
    rw [← List.singleton_append, List.count_append]
    omega

theorem run_queued :
    run step (some box) (List.replicate count .queued) =
      some (some { box with queued := box.queued + count }) := by
  induction count generalizing box with
  | zero => rfl
  | succ _ ih =>
    rw [List.replicate_succ, run_cons, step, Option.bind_some, ih]
    simp [Nat.add_assoc, Nat.add_comm 1]

/-! ## Waiting items -/

/-- The numbers run from `first` up to but not including `last`. -/
def Numbered (first : Nat) : List Int → Nat → Prop
  | [], last => first = last
  | number :: rest, last => number = first ∧ Numbered (first + 1) rest last

theorem Numbered.le (numbered : Numbered first numbers last) : first ≤ last := by
  induction numbers generalizing first with
  | nil => exact Nat.le_of_eq numbered
  | cons _ _ ih => exact Nat.le_of_succ_le (ih numbered.2)

theorem Numbered.concat
    (numbered : Numbered first numbers last) : Numbered first (numbers ++ [(last : Int)]) (last + 1) := by
  induction numbers generalizing first with
  | nil =>
    obtain rfl : first = last := numbered
    exact ⟨rfl, rfl⟩
  | cons _ _ ih => exact ⟨numbered.1, ih numbered.2⟩

/-- The waiting items and the next free number fit the progress. -/
structure Backs (waiting : List Int) (free : Int) (box : Progress) : Prop where
  numbered : Numbered box.written waiting box.queued
  free : free = box.queued

theorem Backs.opened : Backs [] 0 ⟨0, 0, false⟩ := ⟨rfl, rfl⟩

variable {box : Progress} {free : Int}

theorem Backs.queued (backs : Backs waiting free box) :
    Backs (waiting ++ [free]) (free + 1) { box with queued := box.queued + 1 } := by
  refine ⟨?_, ?_⟩
  · rw [backs.free]
    exact backs.numbered.concat
  · rw [backs.free]
    rfl

theorem Backs.announced (backs : Backs waiting free box) :
    step (some box) (.announced (waiting.head?.getD free)) = some (some box) := by
  refine if_pos ?_
  cases waiting with
  | nil =>
    have all : box.written = box.queued := backs.numbered
    rw [List.head?_nil, Option.getD_none, backs.free, all]
  | cons => exact backs.numbered.1

theorem Backs.attempted (backs : Backs (number :: rest) free box) :
    step (some box) (.attempted number written) =
      some (some { box with written := if written then box.written + 1 else box.written }) := by
  exact if_pos ⟨backs.numbered.1, backs.numbered.2.le⟩

theorem Backs.written (backs : Backs (number :: rest) free box) :
    Backs rest free { box with written := box.written + 1 } :=
  ⟨backs.numbered.2, backs.free⟩

theorem Backs.closed (backs : Backs [] free box) (completed : box.completed = true) :
    step (some box) .closed = some none :=
  if_pos ⟨completed, backs.numbered⟩

end Vpsman.Lib.Outbox
