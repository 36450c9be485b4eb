import Mathlib.Data.List.Induction

/-! # Restarting supervised processes

Each pass of the supervisor reconciles the record of a process with what it finds of the
process. A process that is gone is started again as far as its policy allows, once the
backoff has passed since the exit time in the record. A restart carries the old exit time
over, and only some of the ways to find a process gone replace it.
-/

namespace Vpsman.Agent.Supervisor

def u16Max : Nat := 65535

inductive ProcessRestartPolicy where
  | never
  | onFailure
  | always
  deriving Repr, DecidableEq

structure ProcessRunPolicy where
  restart : ProcessRestartPolicy
  restartMaxRetries : Nat
  restartBackoffSecs : Nat
  fits : restartMaxRetries ≤ u16Max := by decide
  deriving Repr, DecidableEq

inductive Status where
  | running
  | stopRequested
  | stopped
  | exited
  | failed
  | stale
  | restartPending
  | exitedNoRetriesRemaining
  | failedNoRetriesRemaining
  deriving Repr, DecidableEq

structure ProcessRecord where
  policy : ProcessRunPolicy
  status : Status := .running
  exitCode : Option Int := none
  restartAttempts : Nat := 0
  lastExitCode : Option Int := none
  lastExitUnix : Option Nat := none
  lastRestartUnix : Option Nat := none
  deriving Repr, DecidableEq

inductive RecordIdentityStatus where
  | verified
  | notRunning
  | missing
  | mismatched
  deriving Repr, DecidableEq

/-- What one call finds: the process table's answers, the clock when the process is looked at
    and when a restart is decided, and whether a new process could be started. -/
structure Observation where
  identity : RecordIdentityStatus
  reaped : Option Int := none
  running : Bool := false
  seenAt : Nat
  now : Nat
  starts : Bool := true
  deriving Repr, DecidableEq

/-- The call finds that the process is no longer running. -/
def Observation.gone (found : Observation) : Bool :=
  match found.identity with
  | .verified => found.reaped.isSome || !found.running
  | .notRunning => true
  | .missing | .mismatched => false

def startProcess (policy : ProcessRunPolicy) : ProcessRecord := { policy }

def markRecordExited (record : ProcessRecord) (exitCode : Option Int) (now : Nat) :
    ProcessRecord :=
  { record with
    status := if exitCode = some 0 then .exited else .failed
    exitCode := exitCode
    lastExitCode := exitCode
    lastExitUnix := some now }

def markRecordStale (record : ProcessRecord) : ProcessRecord :=
  { record with status := .stale, exitCode := none }

def restartPolicyMatchesExit (record : ProcessRecord) : Bool :=
  match record.policy.restart with
  | .never => false
  | .always => true
  | .onFailure => record.exitCode.getD 1 != 0

def noRetriesRemaining (record : ProcessRecord) : ProcessRecord :=
  { record with
    status := if record.exitCode = some 0 then .exitedNoRetriesRemaining
      else .failedNoRetriesRemaining }

/-- Nothing is returned when the new process could not be started. -/
def maybeRestartRecord (found : Observation) (record : ProcessRecord) : Option ProcessRecord :=
  if restartPolicyMatchesExit record = false then
    if record.policy.restart ≠ .never ∧
        record.policy.restartMaxRetries ≤ record.restartAttempts ∧
        0 < record.policy.restartMaxRetries then
      some (noRetriesRemaining record)
    else some record
  else if record.policy.restartMaxRetries ≤ record.restartAttempts then
    some (noRetriesRemaining record)
  else if found.now - record.lastExitUnix.getD found.now < record.policy.restartBackoffSecs then
    some { record with status := .restartPending }
  else if found.starts then
    some { startProcess record.policy with
      restartAttempts := min (record.restartAttempts + 1) u16Max
      lastExitCode := record.lastExitCode
      lastExitUnix := record.lastExitUnix
      lastRestartUnix := some found.now }
  else none

/-- A process found gone without an exit code is marked only if its record has no exit time. -/
def markIfUnmarked (found : Observation) (record : ProcessRecord) : ProcessRecord :=
  if (record.status = .running ∨ record.status = .restartPending) ∧
      record.lastExitUnix = none then
    markRecordExited record none found.seenAt
  else record

def reconcileRecord (found : Observation) (record : ProcessRecord) : Option ProcessRecord :=
  if record.status = .stopped ∨ record.status = .stopRequested then some record
  else
    match found.identity with
    | .verified =>
      match found.reaped with
      | some exitCode =>
        maybeRestartRecord found (markRecordExited record (some exitCode) found.seenAt)
      | none =>
        if found.running then some { record with status := .running, exitCode := none }
        else maybeRestartRecord found (markIfUnmarked found record)
    | .notRunning => maybeRestartRecord found (markIfUnmarked found record)
    | .missing | .mismatched => some (markRecordStale record)

/-! ## What one call can do -/

/-- The record of a process that nobody asked to stop. -/
def ProcessRecord.Active (record : ProcessRecord) : Prop :=
  record.status ≠ .stopped ∧ record.status ≠ .stopRequested

/-- The call collects the exit code of the process. -/
def Observation.Collects (found : Observation) : Prop :=
  found.identity = .verified ∧ found.reaped.isSome

instance (found : Observation) : Decidable found.Collects := inferInstanceAs (Decidable (_ ∧ _))

/-- At most the exit time was set, to the time of this call, and it was if the exit code was
    collected. -/
structure Marks (found : Observation) (record marked : ProcessRecord) : Prop where
  policy : marked.policy = record.policy
  attempts : marked.restartAttempts = record.restartAttempts
  exit : marked.lastExitUnix = record.lastExitUnix ∧ ¬ found.Collects ∨
    found.gone ∧ marked.lastExitUnix = some found.seenAt
  active : marked.Active

/-- The process is gone, restarts are left, and the backoff has passed since the exit time. -/
structure Due (found : Observation) (record marked : ProcessRecord) : Prop where
  gone : found.gone
  marks : Marks found record marked
  left : record.restartAttempts < record.policy.restartMaxRetries
  waited : record.policy.restartBackoffSecs ≤ found.now - marked.lastExitUnix.getD found.now

inductive Reconciled (found : Observation) (record : ProcessRecord) :
    Option ProcessRecord → Prop
  | kept : Marks found record next → Reconciled found record (some next)
  | failed : Due found record marked → Reconciled found record none
  | restarted : Due found record marked → next.policy = record.policy →
      next.restartAttempts = record.restartAttempts + 1 → next.Active →
      Reconciled found record (some next)

theorem Marks.maybeRestartRecord (marks : Marks found record marked) (gone : found.gone) :
    Reconciled found record (maybeRestartRecord found marked) := by
  have kept : ∀ status, status ≠ .stopped → status ≠ .stopRequested →
      Reconciled found record (some { marked with status }) :=
    fun _ running wanted => .kept ⟨marks.policy, marks.attempts, marks.exit, running, wanted⟩
  have spent : Reconciled found record (some (noRetriesRemaining marked)) := by
    unfold noRetriesRemaining
    split <;> exact kept _ (by decide) (by decide)
  unfold Supervisor.maybeRestartRecord
  split_ifs with _ _ exhausted early
  · exact spent
  · exact .kept marks
  · exact spent
  · exact kept _ (by decide) (by decide)
  all_goals
    have fits := record.policy.fits
    rw [marks.policy, marks.attempts] at exhausted
    rw [marks.policy] at early
    have due : Due found record marked := ⟨gone, marks, by omega, by omega⟩
  · refine .restarted due marks.policy ?_ ⟨by simp [startProcess], by simp [startProcess]⟩
    simp only [marks.attempts]
    omega
  · exact .failed due

theorem marks_markRecordExited (gone : found.gone) :
    Marks found record (markRecordExited record exitCode found.seenAt) := by
  refine ⟨rfl, rfl, .inr ⟨gone, rfl⟩, ?_⟩
  unfold ProcessRecord.Active markRecordExited
  dsimp only
  split <;> decide

section

variable {found : Observation} {record : ProcessRecord} (active : record.Active)
  (uncollected : ¬ found.Collects)
include active uncollected

theorem marks_self : Marks found record record := ⟨rfl, rfl, .inl ⟨rfl, uncollected⟩, active⟩

theorem marks_markIfUnmarked (gone : found.gone) :
    Marks found record (markIfUnmarked found record) := by
  unfold markIfUnmarked
  split
  · exact marks_markRecordExited gone
  · exact marks_self active uncollected

end

theorem reconcileRecord_cases (active : record.Active) :
    Reconciled found record (reconcileRecord found record) := by
  unfold reconcileRecord
  rw [if_neg (not_or.mpr active)]
  split
  case _ verified =>
    split
    case _ exitCode reaped =>
      have gone : found.gone := by simp [Observation.gone, verified, reaped]
      exact (marks_markRecordExited gone).maybeRestartRecord gone
    case _ unreaped =>
      have uncollected : ¬ found.Collects := by simp [Observation.Collects, unreaped]
      split
      case _ => exact .kept ⟨rfl, rfl, .inl ⟨rfl, uncollected⟩, by simp, by simp⟩
      case _ down =>
        have gone : found.gone := by simp [Observation.gone, verified, down]
        exact (marks_markIfUnmarked active uncollected gone).maybeRestartRecord gone
  case _ notRunning =>
    have gone : found.gone := by simp [Observation.gone, notRunning]
    have uncollected : ¬ found.Collects := by simp [Observation.Collects, notRunning]
    exact (marks_markIfUnmarked active uncollected gone).maybeRestartRecord gone
  all_goals
    rename_i unknown
    exact .kept ⟨rfl, rfl, .inl ⟨rfl, by simp [Observation.Collects, unknown]⟩,
      by simp [markRecordStale], by simp [markRecordStale]⟩

/-! ## Runs of calls -/

/-- A process as it is supervised: its record, when its present instance was first found gone,
    and for each restart when the replaced instance was first found gone and when it was
    replaced. -/
structure Supervised where
  record : ProcessRecord
  firstGone : Option Nat := none
  restarts : List (Option Nat × Nat) := []
  deriving Repr, DecidableEq

def Supervised.foundGone (process : Supervised) (found : Observation) : Option Nat :=
  process.firstGone.or (if found.gone then some found.seenAt else none)

/-- A call that fails leaves the stored record as it was. -/
def Supervised.reconcile (process : Supervised) (found : Observation) : Supervised :=
  match reconcileRecord found process.record with
  | none => { process with firstGone := process.foundGone found }
  | some record =>
    if record.restartAttempts = process.record.restartAttempts then
      { process with record, firstGone := process.foundGone found }
    else { record, restarts := process.restarts ++ [(process.foundGone found, found.now)] }

def supervise (policy : ProcessRunPolicy) (calls : List Observation) : Supervised :=
  calls.foldl Supervised.reconcile { record := startProcess policy }

def readings (calls : List Observation) : List Nat :=
  calls.flatMap fun found => [found.seenAt, found.now]

/-- Every reading of the clock is at least those before it. -/
def Nondecreasing (calls : List Observation) : Prop :=
  (readings calls).Pairwise (· ≤ ·)

instance : Decidable (Nondecreasing calls) :=
  inferInstanceAs (Decidable (List.Pairwise _ _))

/-- Whether the backoff counts from the right time when this call is the first to find a
    restarted instance gone: it collects the exit code, there is no older exit time to stand in,
    or it makes no difference. -/
def Supervised.ExitTimed (process : Supervised) (found : Observation) : Prop :=
  process.restarts ≠ [] → process.firstGone = none → found.gone = true →
    found.Collects ∨ process.record.lastExitUnix = none ∨
      process.record.policy.restartBackoffSecs = 0 ∨
      process.record.policy.restartMaxRetries ≤ process.record.restartAttempts

instance (process : Supervised) (found : Observation) : Decidable (process.ExitTimed found) :=
  inferInstanceAs (Decidable (_ → _ → _ → _))

def ExitsTimed : Supervised → List Observation → Prop
  | _, [] => True
  | process, found :: calls => process.ExitTimed found ∧ ExitsTimed (process.reconcile found) calls

def RespectsBackoff (policy : ProcessRunPolicy) (restarts : List (Option Nat × Nat)) : Prop :=
  ∀ restart ∈ restarts, ∃ gone, restart.1 = some gone ∧
    gone + policy.restartBackoffSecs ≤ restart.2

/-- What holds after any calls. -/
structure Counted (policy : ProcessRunPolicy) (process : Supervised) : Prop where
  ruled : process.record.policy = policy
  active : process.record.Active
  counted : process.restarts.length = process.record.restartAttempts
  bounded : process.record.restartAttempts ≤ policy.restartMaxRetries

/-- The instance that was first found gone at `gone` is not replaced before its backoff: the exit
    time is not older, the backoff has passed, or no restart is left. -/
def Waits (policy : ProcessRunPolicy) (calls : List Observation) (record : ProcessRecord)
    (gone : Nat) : Prop :=
  (∀ exit, record.lastExitUnix = some exit → gone ≤ exit) ∨
    (∃ reading ∈ readings calls, gone + policy.restartBackoffSecs ≤ reading) ∨
    policy.restartMaxRetries ≤ record.restartAttempts

/-- What holds after calls that time the exits. -/
structure Tracked (policy : ProcessRunPolicy) (calls : List Observation) (process : Supervised) :
    Prop extends Counted policy process where
  read : ∀ gone, process.firstGone = some gone → gone ∈ readings calls
  fresh : process.firstGone = none → process.record.restartAttempts = 0 →
    process.record.lastExitUnix = none
  waits : ∀ gone, process.firstGone = some gone → Waits policy calls process.record gone
  respected : RespectsBackoff policy process.restarts

theorem readings_append :
    readings (calls ++ [found]) = readings calls ++ [found.seenAt, found.now] := by
  simp [readings]

theorem Counted.reconcile (counted : Counted policy process) :
    Counted policy (process.reconcile found) := by
  unfold Supervised.reconcile
  have reconciled := @reconcileRecord_cases found process.record counted.active
  generalize reconcileRecord found process.record = result at reconciled
  cases reconciled with
  | failed => exact ⟨counted.ruled, counted.active, counted.counted, counted.bounded⟩
  | kept marks =>
    simp only [marks.attempts, if_true]
    exact ⟨marks.policy.trans counted.ruled, marks.active,
      counted.counted.trans marks.attempts.symm, marks.attempts ▸ counted.bounded⟩
  | restarted due ruled more active =>
    simp only [more, Nat.succ_ne_self, if_false]
    refine ⟨ruled.trans counted.ruled, active, ?_, ?_⟩
    · rw [List.length_append, counted.counted, more]
      rfl
    · exact more ▸ counted.ruled ▸ due.left

theorem foundGone_of_gone (process : Supervised) (gone : found.gone) :
    ∃ first, process.foundGone found = some first := by
  rw [Supervised.foundGone, if_pos gone]
  cases process.firstGone with
  | none => exact ⟨_, rfl⟩
  | some earlier => exact ⟨earlier, rfl⟩

section

variable (tracked : Tracked policy calls process) (clock : Nondecreasing (calls ++ [found]))
include tracked clock

theorem Tracked.foundGone_le (first : process.foundGone found = some gone) :
    gone ≤ found.seenAt ∧ found.seenAt ≤ found.now ∧ gone ∈ readings (calls ++ [found]) := by
  rw [Nondecreasing, readings_append, List.pairwise_append] at clock
  obtain ⟨-, last, before⟩ := clock
  refine ⟨?_, by simpa using last, ?_⟩
  all_goals rw [Supervised.foundGone, Option.or_eq_some_iff] at first
  all_goals obtain earlier | ⟨-, now⟩ := first
  · exact before gone (tracked.read gone earlier) found.seenAt List.mem_cons_self
  · split at now <;> cases now
    exact Nat.le_refl _
  · rw [readings_append]
    exact List.mem_append_left _ (tracked.read gone earlier)
  · split at now <;> cases now
    simp [readings_append]

omit tracked in
theorem reading_le (member : reading ∈ readings (calls ++ [found])) : reading ≤ found.now := by
  rw [Nondecreasing, readings_append, List.pairwise_append] at clock
  rw [readings_append, List.mem_append] at member
  obtain earlier | now := member
  · exact clock.2.2 reading earlier found.now (by simp)
  · have decided : found.seenAt ≤ found.now := by simpa using clock.2.1
    grind

section

variable (timed : process.ExitTimed found)
include timed

theorem Tracked.waits_marked (marks : Marks found process.record marked)
    (first : process.foundGone found = some gone) : Waits policy (calls ++ [found]) marked gone := by
  have seen := (tracked.foundGone_le clock first).1
  -- An exit time that was set in this call is not older.
  have timely (set : marked.lastExitUnix = some found.seenAt) :
      Waits policy (calls ++ [found]) marked gone := by
    refine .inl fun exit exits => ?_
    rw [set, Option.some_inj] at exits
    exact exits ▸ seen
  obtain ⟨same, uncollected⟩ | ⟨-, set⟩ := marks.exit
  · unfold Waits
    rw [same, marks.attempts, readings_append]
    rw [Supervised.foundGone, Option.or_eq_some_iff] at first
    obtain earlier | ⟨new, now⟩ := first
    · refine (tracked.waits gone earlier).imp_right (Or.imp_left ?_)
      exact fun ⟨reading, member, passed⟩ => ⟨reading, List.mem_append_left _ member, passed⟩
    · split at now <;> cases now
      next gone =>
      by_cases initial : process.restarts = []
      · have unset := tracked.fresh new (by rw [← tracked.counted, initial]; rfl)
        exact .inl (by simp [unset])
      · rw [← tracked.ruled]
        obtain collected | unset | immediate | spent := timed initial new gone
        · exact absurd collected uncollected
        · exact .inl (by simp [unset])
        · exact .inr (.inl ⟨found.seenAt, by simp, by simp [immediate]⟩)
        · exact .inr (.inr spent)
  · exact timely set

theorem Tracked.due_in_time (due : Due found process.record marked)
    (first : process.foundGone found = some gone) : gone + policy.restartBackoffSecs ≤ found.now := by
  obtain ⟨seen, decided, -⟩ := tracked.foundGone_le clock first
  have waited := due.waited
  have left := due.left
  rw [tracked.ruled] at waited left
  obtain later | ⟨reading, member, passed⟩ | spent := tracked.waits_marked clock timed due.marks first
  · cases exits : marked.lastExitUnix with
    | none =>
      rw [exits, Option.getD_none] at waited
      omega
    | some exit =>
      have := later exit exits
      rw [exits, Option.getD_some] at waited
      omega
  · exact Nat.le_trans passed (reading_le clock member)
  · rw [due.marks.attempts] at spent
    omega

theorem Tracked.reconcile : Tracked policy (calls ++ [found]) (process.reconcile found) := by
  have counted : Counted policy (process.reconcile found) := tracked.toCounted.reconcile
  have read (gone) (first : process.foundGone found = some gone) :=
    (tracked.foundGone_le clock first).2.2
  unfold Supervised.reconcile at counted ⊢
  have reconciled := @reconcileRecord_cases found process.record tracked.active
  generalize reconcileRecord found process.record = result at reconciled counted ⊢
  cases reconciled with
  | failed due =>
    refine { counted with read, fresh := ?_, waits := ?_, respected := tracked.respected }
    · intro unseen
      exact tracked.fresh (Option.or_eq_none_iff.mp unseen).1
    · intro gone first
      exact .inr (.inl ⟨found.now, by simp [readings_append], tracked.due_in_time clock timed due first⟩)
  | kept marks =>
    simp only [marks.attempts, if_true] at counted ⊢
    refine { counted with
      read
      fresh := ?_
      waits := fun _ => tracked.waits_marked clock timed marks
      respected := tracked.respected }
    intro unseen initial
    obtain ⟨same, -⟩ | ⟨gone, -⟩ := marks.exit
    · exact same.trans (tracked.fresh (Option.or_eq_none_iff.mp unseen).1 (marks.attempts ▸ initial))
    · obtain ⟨first, known⟩ := foundGone_of_gone process gone
      cases unseen.symm.trans known
  | restarted due _ more =>
    simp only [more, Nat.succ_ne_self, if_false] at counted ⊢
    refine { counted with read := nofun, fresh := ?_, waits := nofun, respected := ?_ }
    · simp [more]
    · intro restart member
      rw [List.mem_append, List.mem_singleton] at member
      obtain before | rfl := member
      · exact tracked.respected restart before
      · obtain ⟨first, known⟩ := foundGone_of_gone process due.gone
        exact ⟨first, known, tracked.due_in_time clock timed due known⟩

end

end

theorem Tracked.run (tracked : Tracked policy past process) (clock : Nondecreasing (past ++ calls))
    (timed : ExitsTimed process calls) :
    Tracked policy (past ++ calls) (calls.foldl Supervised.reconcile process) := by
  induction calls generalizing past process with
  | nil => simpa using tracked
  | cons found calls ih =>
    rw [List.append_cons] at clock ⊢
    have now : Nondecreasing (past ++ [found]) := by
      rw [Nondecreasing, readings, List.flatMap_append] at clock
      exact (List.pairwise_append.mp clock).1
    exact ih (tracked.reconcile now timed.1) clock timed.2

theorem supervise_counted : Counted policy (supervise policy calls) := by
  refine List.foldlRecOn calls Supervised.reconcile ?_ fun _ counted _ _ => counted.reconcile
  exact ⟨rfl, ⟨nofun, nofun⟩, rfl, Nat.zero_le _⟩

/-- No more restarts happen than the policy allows. The backoff is respected in every run in
    which each call that first finds a restarted instance gone times its exit. -/
theorem supervise_respects_backoff (policy : ProcessRunPolicy) (calls : List Observation) :
    (supervise policy calls).restarts.length ≤ policy.restartMaxRetries ∧
    (Nondecreasing calls → ExitsTimed { record := startProcess policy } calls →
      RespectsBackoff policy (supervise policy calls).restarts) := by
  have counted : Counted policy (supervise policy calls) := supervise_counted
  refine ⟨counted.counted ▸ counted.bounded, fun clock timed => ?_⟩
  have start : Tracked policy [] { record := startProcess policy } :=
    ⟨⟨rfl, ⟨nofun, nofun⟩, rfl, Nat.zero_le _⟩, nofun, fun _ _ => rfl, nofun, nofun⟩
  exact (start.run clock timed).respected

def twiceAfterFive : ProcessRunPolicy :=
  { restart := .always, restartMaxRetries := 2, restartBackoffSecs := 5 }

/-- The process is found gone at 0 and restarted after its backoff, and the new instance is found
    gone, without an exit code, in the same second. -/
def goneTwice : List Observation :=
  [{ identity := .notRunning, seenAt := 0, now := 0 },
   { identity := .notRunning, seenAt := 5, now := 5 },
   { identity := .notRunning, seenAt := 5, now := 5 }]

/-- The second instance is replaced in the second in which it is found gone. -/
theorem replaced_without_backoff :
    Nondecreasing goneTwice ∧
      (supervise twiceAfterFive goneTwice).restarts = [(some 0, 5), (some 5, 5)] := by
  decide

/-- Both times the exit code is collected. -/
def reapedTwice : List Observation :=
  [{ identity := .verified, reaped := some 1, seenAt := 0, now := 0 },
   { identity := .notRunning, seenAt := 5, now := 5 },
   { identity := .verified, running := true, seenAt := 50, now := 50 },
   { identity := .verified, reaped := some 1, seenAt := 100, now := 100 },
   { identity := .notRunning, seenAt := 105, now := 105 }]

theorem reapedTwice_respects_backoff :
    (supervise twiceAfterFive reapedTwice).restarts = [(some 0, 5), (some 100, 105)] ∧
      RespectsBackoff twiceAfterFive (supervise twiceAfterFive reapedTwice).restarts := by
  refine ⟨by decide, (supervise_respects_backoff _ _).2 (by decide) ?_⟩
  simp only [ExitsTimed, reapedTwice]
  decide

end Vpsman.Agent.Supervisor
