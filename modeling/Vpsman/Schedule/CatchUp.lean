import Vpsman.Schedule.Due

/-! # Catching up

Each pass takes the next missed runs and continues after the last of them, so passes at
one time work through everything that was missed by then. Only skipping leaves the missed
runs behind.
-/

namespace Vpsman.Schedule

open Vpsman.Lib

variable {fromStr : String → Option Cron} {cron : Cron} {now : Int} {row : ScheduleRow}

/-! ## Backlogs -/

/-- The occurrences up to this time that have not been run: the stored one and those after it. -/
noncomputable def missed (cron : Cron) (now : Int) (row : ScheduleRow) : Nat :=
  cron.count row.current now + 1

noncomputable def backlog (cron : Cron) (now : Int) (row : ScheduleRow) : Nat :=
  if row.nextRunAt ≤ now then missed cron now row else 0

/-- The most runs that a pass materializes. -/
def runsPerPass (row : ScheduleRow) : Nat :=
  match row.catchUpPolicy with
  | .runAllLimited => (max 1 (min row.catchUpLimit 25)).toNat
  | .runOnce => 1
  | .skipMissed => 1

theorem countDue_eq : countDue cron now budget cursor = min budget (cron.count cursor now) := by
  induction budget generalizing cursor with
  | zero => simp [countDue]
  | succ _ ih =>
    unfold countDue
    cases next : cron.nextAfter cursor with
    | none => simp [Timetable.count_eq_zero_of_none next]
    | some run =>
      dsimp only
      by_cases later : now < run
      · simp [if_pos later, Timetable.count_eq_zero next later]
      · rw [if_neg later, ih, Timetable.count_of_nextAfter next (le_of_not_gt later)]
        omega

theorem calculateDueOccurrences_eq (parsed : fromStr row.cronExpr = some cron) :
    ∃ due, calculateDueOccurrences fromStr row now = .ok due ∧
      (row.catchUpPolicy ≠ .skipMissed →
        (catchUpRunCount row due).toNat = min (runsPerPass row) (missed cron now row)) ∧
      1 ≤ catchUpRunCount row due := by
  have read : parseCron fromStr row = .ok cron := by rw [parseCron, parsed]
  unfold calculateDueOccurrences
  cases policy : row.catchUpPolicy with
  | skipMissed => exact ⟨1, rfl, fun other => absurd rfl other, by simp [catchUpRunCount, policy]⟩
  | runOnce =>
    refine ⟨1, rfl, fun _ => ?_, by simp [catchUpRunCount, policy]⟩
    simp only [catchUpRunCount, policy, runsPerPass, missed]
    omega
  | runAllLimited =>
    refine ⟨1 + countDue cron now (clamp 1 25 row.catchUpLimit - 1).toNat row.current, ?_, ?_, ?_⟩
    · rw [if_neg (by simp), read]
      rfl
    · intro _
      simp only [catchUpRunCount, policy, runsPerPass, missed, countDue_eq, clamp]
      omega
    · simp only [catchUpRunCount, policy, clamp]
      omega

theorem current_of_whole (whole : row.nextRunAt % 1000000 = 0) : row.current = row.nextRunAt := by
  unfold ScheduleRow.current epochSeconds ofUnix
  split_ifs <;> omega

theorem ofUnix_timestamp (occurs : cron.occurs time = true) : ofUnix (timestamp time) = time := by
  have whole := cron.whole time occurs
  unfold ofUnix timestamp
  omega

/-! ## One pass -/

/-- Nothing keeps the worker from running the schedule but the time: the expression still has
    times to come. -/
structure Ready (fromStr : String → Option Cron) (cron : Cron) (now : Int) (row : ScheduleRow) :
    Prop where
  parsed : fromStr row.cronExpr = some cron
  enabled : row.enabled = true
  kept : row.deletedAt = none
  released : row.deferredUntil.all (· ≤ now) = true
  future : row.nextRunAt ≤ now → (cron.nextAfter (max row.current now)).isSome

/-- The pass takes place at this time and everything it tries comes through. -/
structure Pass.Succeeds (now : Int) (pass : Pass) : Prop where
  time : pass.now = now
  operationDecodes : pass.operationDecodes = true
  actorAuthorized : pass.actorAuthorized = true
  materializes : ∀ index, pass.materializeDueSchedule index = .ok ()

theorem Ready.isDue_iff (ready : Ready fromStr cron now row) :
    row.isDue now = true ↔ row.nextRunAt ≤ now := by
  simp [ScheduleRow.isDue, ready.enabled, ready.kept, ready.released]

variable {pass : Pass}

theorem processDueSchedule_idle (ready : Ready fromStr cron now row) (succeeds : pass.Succeeds now)
    (ahead : now < row.nextRunAt) : processDueSchedule fromStr pass row = (row, 0) := by
  have notDue : row.isDue now = false := by
    rw [← Bool.not_eq_true, ready.isDue_iff]
    omega
  rw [processDueSchedule, succeeds.time, if_pos notDue]

theorem Ready.processed (ready : Ready fromStr cron now row) (succeeds : pass.Succeeds now)
    (due : row.nextRunAt ≤ now)
    (counted : ∃ occurrences, calculateDueOccurrences fromStr row now = .ok occurrences ∧
      catchUpRunCount row occurrences = runs)
    (found : nextRunAfterSuccess fromStr row runs now = .ok next)
    (occurs : cron.occurs next = true) :
    processDueSchedule fromStr pass row =
      ({ row with lastRunAt := some now, nextRunAt := next }, runs.toNat) := by
  obtain ⟨occurrences, calculated, rfl⟩ := counted
  have isDue := ready.isDue_iff.mpr due
  have cadence : scheduleCadenceError fromStr row.cronExpr now = none := by
    have later := Timetable.nextAfter_isSome_mono (le_max_right row.current now) (ready.future due)
    rw [scheduleCadenceError, ready.parsed]
    exact if_neg (by simpa using Option.isSome_iff_ne_none.mp later)
  have materialized : (List.range (catchUpRunCount row occurrences).toNat).forM
      pass.materializeDueSchedule = .ok () :=
    forM_ok.mpr fun index _ => succeeds.materializes index
  rw [processDueSchedule, succeeds.time, if_neg (by simp [isDue]),
    if_neg (by simp [succeeds.operationDecodes]), if_neg (by simp [succeeds.actorAuthorized]), cadence]
  have committed : materializeRuns fromStr pass row =
      .ok ({ row with lastRunAt := some now, nextRunAt := next },
        (catchUpRunCount row occurrences).toNat) := by
    rw [materializeRuns, succeeds.time, calculated]
    simp only [bind, Except.bind, materialized, found, ofUnix_timestamp occurs]
    rfl
  rw [committed]

theorem nextRunAfterSuccess_of_advance (now : Int) (parsed : fromStr row.cronExpr = some cron)
    (catching : row.catchUpPolicy ≠ .skipMissed) (positive : 1 ≤ runCount)
    (advanced : cron.advance runCount.toNat row.current = some next) :
    nextRunAfterSuccess fromStr row runCount now = .ok next := by
  have steps : max runCount 1 = runCount := max_eq_left positive
  simp [nextRunAfterSuccess, parseCron, parsed, catching, steps, advanced, bind, Except.bind]

/-- A pass of a schedule that does not skip takes as many of the missed runs as it may. -/
theorem Ready.catchesUp (ready : Ready fromStr cron now row) (succeeds : pass.Succeeds now)
    (catching : row.catchUpPolicy ≠ .skipMissed) :
    ∃ last next, processDueSchedule fromStr pass row =
        ({ row with lastRunAt := last, nextRunAt := next },
          min (runsPerPass row) (backlog cron now row)) ∧
      Ready fromStr cron now { row with lastRunAt := last, nextRunAt := next } ∧
      backlog cron now { row with lastRunAt := last, nextRunAt := next } =
        backlog cron now row - runsPerPass row := by
  by_cases due : row.nextRunAt ≤ now
  · have left : backlog cron now row = cron.count row.current now + 1 := if_pos due
    obtain ⟨occurrences, calculated, counted, positive⟩ := calculateDueOccurrences_eq ready.parsed
    specialize counted catching
    rw [missed, ← left] at counted
    have steps : (catchUpRunCount row occurrences).toNat ≤ cron.count row.current now + 1 := by
      omega
    obtain ⟨next, advanced, occurs, reached⟩ := Timetable.advance_eq_some (by omega) steps
      (ready.future due)
    have found := nextRunAfterSuccess_of_advance now ready.parsed catching positive advanced
    have processed := ready.processed succeeds due ⟨occurrences, calculated, rfl⟩ found occurs
    have current : ({ row with lastRunAt := some now, nextRunAt := next } : ScheduleRow).current = next :=
      current_of_whole (cron.whole next occurs)
    refine ⟨some now, next, ?_, ⟨ready.parsed, ready.enabled, ready.kept, ready.released, ?_⟩, ?_⟩
    · rw [processed, counted]
    · intro again
      refine Timetable.nextAfter_isSome_mono ?_ (ready.future due)
      have again : next ≤ now := again
      omega
    · rw [backlog, missed, current]
      dsimp only
      split_ifs with again
      · omega
      · omega
  · have idle := processDueSchedule_idle ready succeeds (lt_of_not_ge due)
    have none_left : backlog cron now row = 0 := if_neg due
    refine ⟨row.lastRunAt, row.nextRunAt, ?_, ready, ?_⟩
    · rw [idle, none_left, Nat.min_zero]
    · rw [none_left, Nat.zero_sub]

/-- A pass of a schedule that skips runs it once and leaves what was missed behind. -/
theorem Ready.skips (ready : Ready fromStr cron now row) (succeeds : pass.Succeeds now)
    (skipping : row.catchUpPolicy = .skipMissed) (due : row.nextRunAt ≤ now) :
    ∃ next, processDueSchedule fromStr pass row =
        ({ row with lastRunAt := some now, nextRunAt := next }, 1) ∧ now < next := by
  obtain ⟨next, later⟩ := Option.isSome_iff_exists.mp
    (Timetable.nextAfter_isSome_mono (le_max_right row.current now) (ready.future due))
  have found : nextRunAfterSuccess fromStr row 1 now = .ok next := by
    simp [nextRunAfterSuccess, parseCron, ready.parsed, skipping, Timetable.advance, later,
      bind,
      Except.bind]
  have counted : ∃ occurrences, calculateDueOccurrences fromStr row now = .ok occurrences ∧
      catchUpRunCount row occurrences = 1 := by
    refine ⟨1, ?_, ?_⟩
    · rw [calculateDueOccurrences, if_pos (by simp [skipping])]
    · simp [catchUpRunCount, skipping]
  exact ⟨next, ready.processed succeeds due counted found (Timetable.occurs_of_nextAfter later),
    Timetable.lt_of_nextAfter later⟩

/-! ## Passes at one time -/

variable {passes : List Pass}

theorem processPasses_idle (ready : Ready fromStr cron now row)
    (succeed : ∀ pass ∈ passes, pass.Succeeds now) (ahead : now < row.nextRunAt) :
    processPasses fromStr passes row = (row, 0) := by
  induction passes with
  | nil => rfl
  | cons _ _ ih =>
    rw [List.forall_mem_cons] at succeed
    simp [processPasses, processDueSchedule_idle ready succeed.1 ahead, ih succeed.2]

/-- Passes of a schedule that does not skip take as many of the missed runs as they may. -/
theorem Ready.catchesUp_passes (succeed : ∀ pass ∈ passes, pass.Succeeds now) :
    ∀ {row : ScheduleRow}, Ready fromStr cron now row → row.catchUpPolicy ≠ .skipMissed →
      (processPasses fromStr passes row).2 =
          min (passes.length * runsPerPass row) (backlog cron now row) ∧
        backlog cron now (processPasses fromStr passes row).1 =
          backlog cron now row - passes.length * runsPerPass row := by
  induction passes with
  | nil =>
    intro row _ _
    simp [processPasses]
  | cons _ _ ih =>
    intro row ready catching
    rw [List.forall_mem_cons] at succeed
    obtain ⟨last, next, processed, continues, left⟩ := ready.catchesUp succeed.1 catching
    obtain ⟨runs, after⟩ := ih succeed.2 continues catching
    have same : runsPerPass { row with lastRunAt := last, nextRunAt := next } = runsPerPass row := rfl
    rw [processPasses, processed]
    rw [runs, after, left, same, List.length_cons, Nat.succ_mul]
    omega

theorem backlog_eq_zero_iff : backlog cron now row = 0 ↔ now < row.nextRunAt := by
  by_cases due : row.nextRunAt ≤ now
  · simp [backlog, missed]
  · simp [backlog, lt_of_not_ge due]

/-- A schedule that is due and skips missed runs is run once, however many passes there are.
    One that runs once works through everything it missed, one run a pass, and one that runs
    all within a limit does so with as many runs a pass as the limit allows; they are ahead of
    the time when all of it has been run. -/
theorem passes_work_through_missed_runs (fromStr : String → Option Cron) (cron : Cron) (now : Int)
    (row : ScheduleRow) (passes : List Pass) (parsed : fromStr row.cronExpr = some cron)
    (due : row.isDue now = true) (future : (cron.nextAfter (max row.current now)).isSome)
    (succeed : ∀ pass ∈ passes, pass.Succeeds now) (some_pass : passes ≠ []) :
    match row.catchUpPolicy with
    | .skipMissed =>
      (processPasses fromStr passes row).2 = 1 ∧
        now < (processPasses fromStr passes row).1.nextRunAt
    | .runOnce =>
      (processPasses fromStr passes row).2 = min passes.length (missed cron now row) ∧
        (now < (processPasses fromStr passes row).1.nextRunAt ↔
          missed cron now row ≤ passes.length)
    | .runAllLimited =>
      (processPasses fromStr passes row).2 =
          min (passes.length * (max 1 (min row.catchUpLimit 25)).toNat) (missed cron now row) ∧
        (now < (processPasses fromStr passes row).1.nextRunAt ↔
          missed cron now row ≤ passes.length * (max 1 (min row.catchUpLimit 25)).toNat) := by
  have facts := due
  simp only [ScheduleRow.isDue, Bool.and_eq_true, Option.isNone_iff_eq_none, decide_eq_true_eq]
    at facts
  obtain ⟨⟨⟨enabled, kept⟩, reached⟩, released⟩ := facts
  have ready : Ready fromStr cron now row := ⟨parsed, enabled, kept, released, fun _ => future⟩
  have left : backlog cron now row = missed cron now row := if_pos reached
  have worked (catching : row.catchUpPolicy ≠ .skipMissed) :
      (processPasses fromStr passes row).2 =
          min (passes.length * runsPerPass row) (missed cron now row) ∧
        (now < (processPasses fromStr passes row).1.nextRunAt ↔
          missed cron now row ≤ passes.length * runsPerPass row) := by
    obtain ⟨runs, after⟩ := Ready.catchesUp_passes succeed ready catching
    rw [left] at runs after
    rw [← backlog_eq_zero_iff, after, Nat.sub_eq_zero_iff_le]
    exact ⟨runs, Iff.rfl⟩
  cases policy : row.catchUpPolicy with
  | skipMissed =>
    cases passes with
    | nil => exact absurd rfl some_pass
    | cons _ rest =>
      rw [List.forall_mem_cons] at succeed
      obtain ⟨next, processed, ahead⟩ := ready.skips succeed.1 policy reached
      have idle : processPasses fromStr rest { row with lastRunAt := some now, nextRunAt := next } =
          (_, 0) :=
        processPasses_idle
          ⟨parsed, enabled, kept, released, fun behind => absurd ahead (not_lt.mpr behind)⟩
          succeed.2 ahead
      simp [processPasses, processed, idle, ahead]
  | runOnce =>
    have perPass : runsPerPass row = 1 := by simp [runsPerPass, policy]
    have both := worked (by simp [policy])
    rw [perPass, Nat.mul_one] at both
    exact both
  | runAllLimited =>
    have perPass : runsPerPass row = (max 1 (min row.catchUpLimit 25)).toNat := by
      simp [runsPerPass, policy]
    have both := worked (by simp [policy])
    rw [perPass] at both
    exact both

/-! ## A schedule of every minute -/

def everyMinute : Cron where
  occurs := fun time => time % 60000000 == 0
  nextAfter := fun start => some ((start / 60000000 + 1) * 60000000)
  nextAfter_eq_some := by
    intro start time
    simp only [Option.some_inj, IsLeast, mem_lowerBounds, Set.mem_ofPred_eq, beq_iff_eq]
    constructor
    · rintro rfl
      exact ⟨⟨by omega, by omega⟩, fun other later => by omega⟩
    · intro least
      have first := least.2 ((start / 60000000 + 1) * 60000000) ⟨by omega, by omega⟩
      omega
  whole := by
    intro time occurs
    simp only [beq_iff_eq] at occurs
    omega

def sampleFromStr (text : String) : Option Cron :=
  if text = "* * * * *" then some everyMinute else none

/-- A schedule that was to run at the end of the first minute. -/
def sampleRow (policy : CatchUpPolicy) : ScheduleRow where
  id := 0
  enabled := true
  deletedAt := none
  cronExpr := "* * * * *"
  nextRunAt := ofUnix 60
  lastRunAt := none
  deferredUntil := none
  catchUpPolicy := policy
  catchUpLimit := 2
  retryDelaySecs := 300
  maxFailures := 3
  failureCount := 0
  lastError := none

/-- A pass at the end of the third minute. -/
def samplePass : Pass := ⟨ofUnix 180, true, true, fun _ => .ok ()⟩

theorem samplePass_succeeds (all : ∀ pass ∈ passes, pass = samplePass) :
    ∀ pass ∈ passes, pass.Succeeds (ofUnix 180) := by
  intro pass member
  rw [all pass member]
  exact ⟨rfl, rfl, rfl, fun _ => rfl⟩

theorem two_passes_take_all_missed_runs :
    (sampleRow .runAllLimited).isDue (ofUnix 180) = true ∧
      (processPasses sampleFromStr [samplePass, samplePass] (sampleRow .runAllLimited)).2 =
        min (2 * 2) (missed everyMinute (ofUnix 180) (sampleRow .runAllLimited)) ∧
      (ofUnix 180 < (processPasses sampleFromStr [samplePass, samplePass]
          (sampleRow .runAllLimited)).1.nextRunAt ↔
        missed everyMinute (ofUnix 180) (sampleRow .runAllLimited) ≤ 2 * 2) :=
  ⟨rfl, passes_work_through_missed_runs sampleFromStr everyMinute (ofUnix 180)
    (sampleRow .runAllLimited) [samplePass, samplePass] rfl rfl rfl
    (samplePass_succeeds (by simp)) (by simp)⟩

/-- Three minutes were missed. Three passes run the schedule three times although it is to be
    run once, and two passes run it three times although the limit is two. -/
theorem missed_runs_exceed_limit :
    (sampleRow .runOnce).isDue (ofUnix 180) = true ∧
      (processPasses sampleFromStr [samplePass] (sampleRow .runOnce)).1.nextRunAt = ofUnix 120 ∧
      (processPasses sampleFromStr [samplePass, samplePass, samplePass] (sampleRow .runOnce)).2 = 3 ∧
      (sampleRow .runAllLimited).catchUpLimit = 2 ∧
      (processPasses sampleFromStr [samplePass] (sampleRow .runAllLimited)).1.nextRunAt =
        ofUnix 180 ∧
      (processPasses sampleFromStr [samplePass, samplePass] (sampleRow .runAllLimited)).2 = 3 := by
  decide

end Vpsman.Schedule
