import Vpsman.Lib.Check
import Vpsman.Lib.Timetable
import Vpsman.Lib.Word

/-! # Due schedules

A pass of the worker over one schedule: how many missed runs are materialized and where
the schedule continues. Rows are those of cron schedules, and a pass has the row locked.
Times are in microseconds since the epoch, as the database keeps them.
-/

namespace Vpsman.Schedule

open Vpsman.Lib

def ofUnix (seconds : Int) : Int := seconds * 1000000

/-- `EXTRACT(EPOCH FROM …)::BIGINT` rounds to the nearest second, halves away from zero. -/
def epochSeconds (time : Int) : Int :=
  if 0 ≤ time then (time + 500000) / 1000000 else -((500000 - time) / 1000000)

/-- `DateTime::timestamp`. -/
def timestamp (time : Int) : Int := time / 1000000

/-- The times of a parsed expression are whole seconds. -/
structure Cron extends Timetable where
  whole : ∀ time, occurs time = true → time % 1000000 = 0

inductive CatchUpPolicy where
  | skipMissed
  | runOnce
  | runAllLimited
  deriving Repr, DecidableEq

/-- The columns of `schedules` that a pass reads and writes. -/
structure ScheduleRow where
  id : Uuid
  enabled : Bool
  deletedAt : Option Int
  cronExpr : String
  nextRunAt : Int
  lastRunAt : Option Int
  deferredUntil : Option Int
  catchUpPolicy : CatchUpPolicy
  catchUpLimit : Int
  retryDelaySecs : Int
  maxFailures : Int
  failureCount : Int
  lastError : Option String
  deriving Repr, DecidableEq

/-- What a pass finds besides the row: the time, whether the operation can be decoded and its
    actor is still authorized, and how materializing the run of each index ends. -/
structure Pass where
  now : Int
  operationDecodes : Bool
  actorAuthorized : Bool
  materializeDueSchedule : Nat → Except String Unit

namespace ScheduleRow

/-- The condition under which a pass takes the row. -/
def isDue (row : ScheduleRow) (now : Int) : Bool :=
  row.enabled && row.deletedAt.isNone && row.nextRunAt ≤ now &&
    row.deferredUntil.all (· ≤ now)

/-- `next_run_at` as the worker reads it. -/
def current (row : ScheduleRow) : Int := ofUnix (epochSeconds row.nextRunAt)

def disable (row : ScheduleRow) (error : String) : ScheduleRow :=
  { row with enabled := false, lastError := some error }

end ScheduleRow

def clamp (low high value : Int) : Int := max low (min value high)

/-- How many of the times after the cursor are due, counting at most so many. -/
def countDue (cron : Cron) (now : Int) : Nat → Int → Nat
  | 0, _ => 0
  | budget + 1, cursor =>
    match cron.nextAfter cursor with
    | none => 0
    | some run => if now < run then 0 else countDue cron now budget run + 1

section Worker

variable (fromStr : String → Option Cron)

def parseCron (row : ScheduleRow) : Except String Cron :=
  match fromStr row.cronExpr with
  | none => .error ("invalid cron expression for schedule " ++ row.id.hyphenated)
  | some cron => .ok cron

def scheduleCadenceError (cronExpr : String) (now : Int) : Option String :=
  match fromStr cronExpr with
  | none => some "schedule_cron_invalid"
  | some cron =>
    if (cron.nextAfter now).isNone then some "schedule_cron_no_future_occurrence" else none

def catchUpRunCount (row : ScheduleRow) (dueOccurrences : Int) : Int :=
  let dueOccurrences := max dueOccurrences 1
  match row.catchUpPolicy with
  | .runAllLimited => clamp 1 25 (min dueOccurrences row.catchUpLimit)
  | .runOnce => 1
  | .skipMissed => 1

def calculateDueOccurrences (row : ScheduleRow) (now : Int) : Except String Int :=
  if row.catchUpPolicy ≠ .runAllLimited then .ok 1
  else do
    let cron ← parseCron fromStr row
    let maxCount := clamp 1 25 row.catchUpLimit
    return 1 + countDue cron now (maxCount - 1).toNat row.current

def nextRunAfterSuccess (row : ScheduleRow) (runCount : Int) (now : Int) :
    Except String Int := do
  let cron ← parseCron fromStr row
  let cursor := if row.catchUpPolicy = .skipMissed then now else row.current
  let steps := if row.catchUpPolicy = .skipMissed then 1 else max runCount 1
  match cron.advance steps.toNat cursor with
  | none => .error "cron expression produced no future run"
  | some next => .ok next

/-- Materialize the runs of a pass; returns their number and the row as it is committed. -/
def materializeRuns (pass : Pass) (row : ScheduleRow) : Except String (ScheduleRow × Nat) := do
  let dueOccurrences ← calculateDueOccurrences fromStr row pass.now
  let runCount := catchUpRunCount row dueOccurrences
  (List.range runCount.toNat).forM pass.materializeDueSchedule
  let nextRunAt ← nextRunAfterSuccess fromStr row runCount pass.now
  return ({ row with lastRunAt := some pass.now, nextRunAt := ofUnix (timestamp nextRunAt) },
    runCount.toNat)

def truncateScheduleError (error : String) : String := String.ofList (error.toList.take 1024)

def recordScheduleFailure (row : ScheduleRow) (now : Int) (error : String) : ScheduleRow :=
  let exhausted := decide (0 ≤ row.maxFailures ∧ row.maxFailures < row.failureCount + 1)
  { row with
    failureCount := min (row.failureCount + 1) 2147483647
    lastError := some (truncateScheduleError error)
    enabled := if exhausted then false else row.enabled
    nextRunAt := if exhausted then row.nextRunAt else now + ofUnix row.retryDelaySecs }

/-- A pass over one schedule, with the number of runs that it materialized. -/
def processDueSchedule (pass : Pass) (row : ScheduleRow) : ScheduleRow × Nat :=
  if row.isDue pass.now = false then (row, 0)
  else if pass.operationDecodes = false then (row.disable "schedule_operation_invalid", 0)
  else if pass.actorAuthorized = false then (row.disable "actor_authority_revoked", 0)
  else match scheduleCadenceError fromStr row.cronExpr pass.now with
    | some cadenceError => (row.disable cadenceError, 0)
    | none =>
      match materializeRuns fromStr pass row with
      | .ok materialized => materialized
      -- the transaction is rolled back
      | .error error => (recordScheduleFailure row pass.now error, 0)

/-- Passes one after the other, with the number of runs of all of them. -/
def processPasses : List Pass → ScheduleRow → ScheduleRow × Nat
  | [], row => (row, 0)
  | pass :: rest, row =>
    let processed := processDueSchedule fromStr pass row
    let later := processPasses rest processed.1
    (later.1, processed.2 + later.2)

end Worker

end Vpsman.Schedule
