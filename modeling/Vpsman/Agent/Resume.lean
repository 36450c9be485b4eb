import Vpsman.Agent.Tasks
import Vpsman.Lib.Outbox

/-! # Outputs resume without gaps

The pending outputs of an active command are an outbox: they are numbered from zero, sent
in order, sent again after a failure, and the command leaves the active table once it has
ended, is remembered, and everything was written.
-/

namespace Vpsman.Agent

open Vpsman.Lib

variable {Content : Type} {jobId : Uuid}

/-- What a frame about an active command means for the outbox of the job. -/
def Attempt.event (jobId : Uuid) (attempt : Attempt) : Option Outbox.Event :=
  match attempt.message with
  | .commandOutput _ output =>
    if output.output.jobId = jobId then some (.attempted output.seq attempt.written) else none
  | .commandResume _ resumed _ _ nextOutputSeq =>
    if resumed = jobId then some (.announced nextOutputSeq) else none
  | .commandAck .. | .commandCancelAck .. => none

/-- The events of the attempts, which are listed newest first. -/
def attemptEvents (jobId : Uuid) (attempts : List Attempt) : List Outbox.Event :=
  attempts.reverse.filterMap (Attempt.event jobId)

def newAttempts (before after : AgentCommandRuntime Content) : List Attempt :=
  after.attempts.take (after.attempts.length - before.attempts.length)

section Events

variable (platform : Platform Content) (validShape : Content → Bool)

/-- How many outputs the action queues for the job. -/
def queuedBy (jobId : Uuid) (before : Supervised Content) : TaskAction Content → Nat
  | .session _ => 0
  | .output _ output => if output.jobId = jobId then 1 else 0
  | .finished conditions ended ending =>
    match before.tasks.lookup ended with
    | none => 0
    | some request =>
      if ended = jobId then
        (finalOutputs platform conditions (taskResult validShape request ending)
          before.agent).length
      else 0

/-- The action ends the job, which is then the newest in the recent cache. -/
def completedBy (jobId : Uuid) (after : Supervised Content) : TaskAction Content → Bool
  | .session _ | .output _ _ => false
  | .finished _ ended _ =>
    ended = jobId && after.agent.recentCommands.order.getLast? = some jobId

/-- What a step means for the outbox of the job: it enters the active table, outputs are
    queued, its end is remembered, frames are sent, it leaves the active table. Frames that
    replay a completed job or reject a request are not sent for an active command. -/
def outboxEvents (jobId : Uuid) (before : Supervised Content) (act : TaskAction Content)
    (after : Supervised Content) : List Outbox.Event :=
  (if jobId ∉ before.agent.activeCommands ∧ jobId ∈ after.agent.activeCommands then [.opened]
    else []) ++
  List.replicate (queuedBy platform validShape jobId before act) .queued ++
  (if completedBy jobId after act then [.completed] else []) ++
  (if act.isAboutActive platform before then
    attemptEvents jobId (newAttempts before.agent after.agent) else []) ++
  (if jobId ∈ before.agent.activeCommands ∧ jobId ∉ after.agent.activeCommands then [.closed]
    else [])

def outboxTrace (jobId : Uuid) : Supervised Content → List (TaskAction Content) → List Outbox.Event
  | _, [] => []
  | before, act :: rest =>
    match Supervised.step platform validShape before act with
    | none => []
    | some after =>
      outboxEvents platform validShape jobId before act after ++ outboxTrace jobId after rest

end Events

/-! ## The outbox of an active command -/

namespace AgentCommandRuntime

/-- Every pending output carries the job it is pending for. -/
def Sorted (agent : AgentCommandRuntime Content) : Prop :=
  ∀ key active, agent.activeCommands.lookup key = some active →
    ∀ output ∈ active.pendingOutputs, output.output.jobId = key

/-- The entry of the job in the active table backs the progress of its outbox. -/
def Tracks (jobId : Uuid) (agent : AgentCommandRuntime Content) : Option Outbox.Progress → Prop
  | none => agent.activeCommands.lookup jobId = none
  | some box => ∃ active, agent.activeCommands.lookup jobId = some active ∧
      Outbox.Backs (active.pendingOutputs.map (·.seq)) active.nextOutputSeq box ∧
      active.finished = box.completed

/-- The job was removed from the active table, and its outbox may be closed. -/
def Departed (jobId : Uuid) (agent : AgentCommandRuntime Content) (box : Option Outbox.Progress) :
    Prop :=
  agent.activeCommands.lookup jobId = none ∧ Outbox.step box .closed = some none

end AgentCommandRuntime

open AgentCommandRuntime

variable {before after agent : AgentCommandRuntime Content} {box : Option Outbox.Progress}

theorem tracks_congr (same : after.activeCommands.lookup jobId = before.activeCommands.lookup jobId)
    (tracks : Tracks jobId before box) : Tracks jobId after box := by
  cases box with
  | none => exact same.trans tracks
  | some =>
    obtain ⟨active, found, backs, completed⟩ := tracks
    exact ⟨active, same.trans found, backs, completed⟩

variable {attempt : Attempt}

theorem event_of_plain (plain : attempt.message.Plain) : attempt.event jobId = none := by
  unfold Attempt.event
  cases said : attempt.message with
  | commandAck | commandCancelAck => rfl
  | commandOutput | commandResume =>
    rw [said] at plain
    exact plain.elim

theorem sorted_of_replaced (sorted : before.Sorted)
    (table : ∀ other, after.activeCommands.lookup other =
      if other = key then some changed else before.activeCommands.lookup other)
    (own : ∀ output ∈ changed.pendingOutputs, output.output.jobId = key) : after.Sorted := by
  intro other active stored
  rw [table] at stored
  split at stored
  next same =>
    cases stored
    exact same ▸ own
  · exact sorted other active stored

theorem Change.sorted (change : Change before after) (sorted : before.Sorted) : after.Sorted := by
  intro key active stored
  cases change with
  | recorded table _ | said _ _ table _ | announced _ _ _ _ _ table _
  | undelivered _ _ _ _ _ _ _ table =>
    rw [table] at stored
    exact sorted key active stored
  | delivered sender earlier _ output _ found pending table =>
    refine sorted_of_replaced sorted table (fun later member => ?_) key active stored
    exact sorted sender earlier found later (pending ▸ List.mem_cons_of_mem output member)
  | adjusted adjusted _ work table =>
    rw [table] at stored
    by_cases same : key = adjusted
    · rw [if_pos same, Option.map_eq_some_iff] at stored
      obtain ⟨earlier, found, rfl⟩ := stored
      rw [(work earlier).pendingOutputs]
      exact sorted key earlier found
    · rw [if_neg same] at stored
      exact sorted key active stored
  | removed table =>
    rcases table key with same | ⟨gone, _⟩
    · exact sorted key active (same.symm.trans stored)
    · rw [gone] at stored
      cases stored

theorem attemptEvents_singleton : attemptEvents jobId [attempt] = (attempt.event jobId).toList := by
  cases event : attempt.event jobId <;> simp [attemptEvents, event]

/-- The frames tried since then, as events that take one progress to the other. -/
def Sends (jobId : Uuid) (before after : AgentCommandRuntime Content)
    (box next : Option Outbox.Progress) : Prop :=
  ∃ new, after.attempts = new ++ before.attempts ∧
    run Outbox.step box (attemptEvents jobId new) = some next

theorem Sends.none (attempts : after.attempts = before.attempts) : Sends jobId before after box box :=
  ⟨[], attempts, rfl⟩

theorem Sends.one (attempts : after.attempts = attempt :: before.attempts)
    (runs : run Outbox.step box (attempt.event jobId).toList = some next) :
    Sends jobId before after box next :=
  ⟨[attempt], attempts, attemptEvents_singleton ▸ runs⟩

theorem Sends.unrelated (attempts : after.attempts = attempt :: before.attempts)
    (quiet : attempt.event jobId = Option.none) : Sends jobId before after box box :=
  .one attempts (quiet ▸ rfl)

theorem Sends.trans
    (first : Sends jobId before middle box between) (second : Sends jobId middle after between next) :
    Sends jobId before after box next := by
  obtain ⟨early, earlyAttempts, earlyRuns⟩ := first
  obtain ⟨late, lateAttempts, lateRuns⟩ := second
  refine ⟨late ++ early, by rw [lateAttempts, earlyAttempts, List.append_assoc], ?_⟩
  rw [attemptEvents, List.reverse_append, List.filterMap_append, run_append]
  exact Option.bind_eq_some_iff.mpr ⟨between, earlyRuns, lateRuns⟩

theorem event_of_other (sorted : before.Sorted)
    (found : before.activeCommands.lookup key = some active)
    (pending : active.pendingOutputs = output :: rest) (other : key ≠ jobId) (seq : Nat) :
    Attempt.event jobId ⟨seq, .commandOutput active.streamId output, written⟩ = Option.none := by
  refine if_neg fun same => other ?_
  rw [← same]
  exact (sorted key active found output (pending ▸ List.mem_cons_self)).symm

theorem Change.absent (change : Change before after) (sorted : before.Sorted)
    (absent : before.activeCommands.lookup jobId = none) :
    after.activeCommands.lookup jobId = none ∧ Sends jobId before after box box := by
  have other {key : Uuid} {active : ActiveCommand}
      (found : before.activeCommands.lookup key = some active) : key ≠ jobId := by
    rintro rfl
    exact nomatch absent.symm.trans found
  cases change with
  | recorded table attempts => exact ⟨(table jobId).trans absent, .none attempts⟩
  | said _ plain table attempts =>
    exact ⟨(table jobId).trans absent, .unrelated attempts (event_of_plain plain)⟩
  | announced _ _ _ _ found table attempts =>
    exact ⟨(table jobId).trans absent, .unrelated attempts (if_neg (other found))⟩
  | undelivered _ _ seq _ _ found pending table attempts =>
    exact ⟨(table jobId).trans absent,
      .unrelated attempts (event_of_other sorted found pending (other found) seq)⟩
  | delivered _ _ seq _ _ found pending table attempts =>
    refine ⟨?_, .unrelated attempts (event_of_other sorted found pending (other found) seq)⟩
    rw [table, if_neg (other found).symm, absent]
  | adjusted _ _ _ table attempts =>
    refine ⟨?_, .none attempts⟩
    rw [table, absent, Option.map_none, ite_self]
  | removed table attempts =>
    refine ⟨?_, .none attempts⟩
    rcases table jobId with same | ⟨gone, _⟩
    · exact same.trans absent
    · exact gone

theorem Change.present (change : Change before after)
    (sorted : before.Sorted) (tracks : Tracks jobId before (some progress)) :
    ∃ next, Sends jobId before after (some progress) next ∧ next.isSome = true ∧
      (Tracks jobId after next ∨ Departed jobId after next) := by
  obtain ⟨active, found, backs, completed⟩ := id tracks
  cases change with
  | recorded table attempts =>
    exact ⟨_, .none attempts, rfl, .inl (tracks_congr (table jobId) tracks)⟩
  | said _ plain table attempts =>
    exact ⟨_, .unrelated attempts (event_of_plain plain), rfl, .inl (tracks_congr (table jobId) tracks)⟩
  | announced key command seq written stored table attempts =>
    refine ⟨some progress, .one attempts ?_, rfl, .inl (tracks_congr (table jobId) tracks)⟩
    by_cases same : key = jobId
    · subst same
      obtain rfl := Option.some_inj.mp (stored.symm.trans found)
      rw [show Attempt.event key ⟨seq, command.resumeMessage key, written⟩ = _ from if_pos rfl,
        Option.toList_some, run_cons, backs.announced]
      rfl
    · rw [show Attempt.event jobId ⟨seq, command.resumeMessage key, written⟩ = _ from if_neg same]
      rfl
  | undelivered key command seq output _ stored pending table attempts =>
    refine ⟨some progress, .one attempts ?_, rfl, .inl (tracks_congr (table jobId) tracks)⟩
    by_cases same : key = jobId
    · subst same
      obtain rfl := Option.some_inj.mp (stored.symm.trans found)
      have own : output.output.jobId = key :=
        sorted key command found output (pending ▸ List.mem_cons_self)
      rw [pending, List.map_cons] at backs
      rw [show Attempt.event key ⟨seq, .commandOutput command.streamId output, false⟩ = _ from
        if_pos own, Option.toList_some, run_cons, backs.attempted]
      rfl
    · rw [event_of_other sorted stored pending same]
      rfl
  | delivered key command seq output rest stored pending table attempts =>
    by_cases same : key = jobId
    · subst same
      obtain rfl := Option.some_inj.mp (stored.symm.trans found)
      have own : output.output.jobId = key :=
        sorted key command found output (pending ▸ List.mem_cons_self)
      rw [pending, List.map_cons] at backs
      refine ⟨some { progress with written := progress.written + 1 }, .one attempts ?_, rfl, .inl ?_⟩
      · rw [show Attempt.event key ⟨seq, .commandOutput command.streamId output, true⟩ = _ from
          if_pos own, Option.toList_some, run_cons, backs.attempted]
        rfl
      · refine ⟨{ command with pendingOutputs := rest }, ?_, backs.written, completed⟩
        rw [table, if_pos rfl]
    · refine ⟨some progress, .unrelated attempts (event_of_other sorted stored pending same seq),
        rfl, .inl (tracks_congr ?_ tracks)⟩
      rw [table, if_neg (Ne.symm same)]
  | adjusted key f work table attempts =>
    refine ⟨some progress, .none attempts, rfl, .inl ?_⟩
    by_cases same : jobId = key
    · refine ⟨f active, ?_, ?_, (work active).finished.trans completed⟩
      · rw [table, if_pos same, found, Option.map_some]
      · rw [(work active).pendingOutputs, (work active).nextOutputSeq]
        exact backs
    · refine tracks_congr ?_ tracks
      rw [table, if_neg same]
  | removed table attempts =>
    refine ⟨some progress, .none attempts, rfl, ?_⟩
    rcases table jobId with same | ⟨gone, removed, stored, finished, pending⟩
    · exact .inl (tracks_congr same tracks)
    · obtain rfl := Option.some_inj.mp (stored.symm.trans found)
      rw [pending, List.map_nil] at backs
      exact .inr ⟨gone, backs.closed (completed.symm.trans finished)⟩

theorem mem_of_tracks (tracks : Tracks jobId agent box) :
    jobId ∈ agent.activeCommands ↔ box.isSome = true := by
  rw [← AList.lookup_isSome]
  cases box with
  | none =>
    rw [show agent.activeCommands.lookup jobId = none from tracks]
    exact Iff.rfl
  | some =>
    obtain ⟨active, found, _⟩ := tracks
    rw [found]
    rfl

theorem newAttempts_of_append (attempts : after.attempts = new ++ before.attempts) :
    newAttempts before after = new := by
  rw [newAttempts, attempts, List.length_append, Nat.add_sub_cancel, List.take_left]

/-- Along the turns the outbox of the job moves in order; at the end the job may have left
    the active table. -/
theorem turns_send (turns : Relation.ReflTransGen Turn before after) (sorted : before.Sorted)
    (tracks : Tracks jobId before box) :
    after.Sorted ∧ ∃ next, Sends jobId before after box next ∧ next.isSome = box.isSome ∧
      (Tracks jobId after next ∨ Departed jobId after next) := by
  induction turns with
  | refl => exact ⟨sorted, box, .none rfl, rfl, .inl tracks⟩
  | tail _ turn ih =>
    obtain ⟨sorted, next, sends, open_, state⟩ := ih
    refine ⟨turn.change.sorted sorted, ?_⟩
    rcases state with tracks | ⟨absent, closable⟩
    · cases next with
      | none =>
        obtain ⟨absent, more⟩ := turn.change.absent sorted tracks
        exact ⟨none, sends.trans more, open_, .inl absent⟩
      | some =>
        obtain ⟨later, more, stillOpen, state⟩ := turn.change.present sorted tracks
        exact ⟨later, sends.trans more, stillOpen.trans open_, state⟩
    · obtain ⟨absent, more⟩ := turn.change.absent sorted absent
      exact ⟨next, sends.trans more, open_, .inr ⟨absent, closable⟩⟩

/-- The job is closed when it leaves the active table. -/
def closing (jobId : Uuid) (before after : AgentCommandRuntime Content) : List Outbox.Event :=
  if jobId ∈ before.activeCommands ∧ jobId ∉ after.activeCommands then [.closed] else []

theorem turns_outbox (turns : Relation.ReflTransGen Turn before after) (sorted : before.Sorted)
    (tracks : Tracks jobId before box) :
    after.Sorted ∧ (jobId ∈ after.activeCommands → jobId ∈ before.activeCommands) ∧
      ∃ final, run Outbox.step box
        (attemptEvents jobId (newAttempts before after) ++ closing jobId before after) = some final ∧
        Tracks jobId after final := by
  obtain ⟨sorted, next, ⟨new, attempts, runs⟩, same, state⟩ := turns_send turns sorted tracks
  have earlier := mem_of_tracks tracks
  rw [newAttempts_of_append attempts, run_append, runs, Option.bind_some]
  rcases state with tracks | ⟨absent, closable⟩
  · have later := mem_of_tracks tracks
    rw [same, ← earlier] at later
    refine ⟨sorted, later.mp, next, ?_, tracks⟩
    rw [closing, if_neg fun left => left.2 (later.mpr left.1)]
    rfl
  · have gone : jobId ∉ after.activeCommands := by
      rw [← AList.lookup_isSome, absent]
      exact Bool.false_ne_true
    have active : jobId ∈ before.activeCommands := by
      rw [earlier, ← same]
      cases next with
      | none => cases closable
      | some => rfl
    refine ⟨sorted, fun mem => absurd mem gone, none, ?_, absent⟩
    rw [closing, if_pos ⟨active, gone⟩, run_cons, closable]
    rfl

/-! ## Queueing -/

section Queueing

variable (platform : Platform Content)

theorem nextSeq_one {count : Nat} (few : count + 1 < 2 ^ 31) : nextSeq count 1 = count + 1 := by
  unfold nextSeq i32Max
  omega

theorem enqueueOutput_backs {active : ActiveCommand}
    (backs : Outbox.Backs (active.pendingOutputs.map (·.seq)) active.nextOutputSeq progress)
    (output : CommandOutput) (few : progress.queued + 1 < 2 ^ 31) :
    Outbox.Backs ((active.enqueueOutput platform output).pendingOutputs.map (·.seq))
      (active.enqueueOutput platform output).nextOutputSeq
      { progress with queued := progress.queued + 1 } := by
  have next : nextSeq active.nextOutputSeq 1 = active.nextOutputSeq + 1 := by
    rw [backs.free]
    exact nextSeq_one few
  obtain ⟨-, -, pending, number⟩ := enqueueOutput_effect platform active output
  rw [pending, number, List.map_append, next]
  exact backs.queued

theorem enqueueAll_backs (outputs : List CommandOutput) {active : ActiveCommand}
    (backs : Outbox.Backs (active.pendingOutputs.map (·.seq)) active.nextOutputSeq progress)
    (few : progress.queued + outputs.length < 2 ^ 31) :
    let queued := outputs.foldl (fun active output => active.enqueueOutput platform output) active
    Outbox.Backs (queued.pendingOutputs.map (·.seq)) queued.nextOutputSeq
      { progress with queued := progress.queued + outputs.length } := by
  induction outputs generalizing active progress with
  | nil => exact backs
  | cons output _ ih =>
    rw [List.length_cons] at few
    have first := enqueueOutput_backs platform backs output (by omega)
    have all := ih first (by dsimp only; omega)
    rw [Nat.add_assoc, Nat.add_comm 1] at all
    exact all

theorem enqueueAll_jobIds (outputs : List CommandOutput) {active : ActiveCommand}
    (sorted : ∀ output ∈ active.pendingOutputs, output.output.jobId = key)
    (own : ∀ output ∈ outputs, output.jobId = key) :
    ∀ output ∈ (outputs.foldl (fun active output => active.enqueueOutput platform output)
      active).pendingOutputs, output.output.jobId = key := by
  induction outputs generalizing active with
  | nil => exact sorted
  | cons output _ ih =>
    refine ih ?_ fun later member => own later (List.mem_cons_of_mem output member)
    intro pending member
    rw [(enqueueOutput_effect platform active output).2.2.1, List.mem_append, List.mem_singleton] at member
    rcases member with earlier | rfl
    · exact sorted pending earlier
    · exact own output List.mem_cons_self

theorem enqueueAll_outbox (outputs : List CommandOutput) {active : ActiveCommand}
    (found : before.activeCommands.lookup jobId = some active) (tracks : Tracks jobId before box)
    (few : Outbox.queuedSoFar box + outputs.length < 2 ^ 31) :
    ∃ progress : Outbox.Progress,
      run Outbox.step box (List.replicate outputs.length .queued) = some (some progress) ∧
      Outbox.Backs ((outputs.foldl (fun active output => active.enqueueOutput platform output)
        active).pendingOutputs.map (·.seq))
        (outputs.foldl (fun active output => active.enqueueOutput platform output)
          active).nextOutputSeq progress ∧
      active.finished = progress.completed := by
  cases box with
  | none => exact nomatch (show before.activeCommands.lookup jobId = none from tracks).symm.trans found
  | some =>
    obtain ⟨stored, same, backs, completed⟩ := tracks
    obtain rfl := Option.some_inj.mp (same.symm.trans found)
    exact ⟨_, Outbox.run_queued, enqueueAll_backs platform outputs backs few, completed⟩

theorem commandResultOutputs_jobId
    (own : ∀ outputs, result = .ok outputs → ∀ output ∈ outputs, output.jobId = key) :
    ∀ output ∈ commandResultOutputs platform key operationType maxTimeoutSecs result,
      output.jobId = key := by
  match result with
  | .ok outputs => exact own outputs rfl
  | .error (.canceled _ _) =>
    intro output member
    rw [List.mem_singleton.mp member]
    rfl
  | .error (.failed _ _) =>
    intro output member
    dsimp only [commandResultOutputs] at member
    split at member
    all_goals
      rw [List.mem_singleton.mp member]
      rfl

theorem finalOutputs_jobId (concerns : ending.concerns request.jobId = true) :
    ∀ output ∈ finalOutputs platform conditions (taskResult validShape request ending) agent,
      output.jobId = request.jobId := by
  unfold finalOutputs
  rw [taskResult_jobId]
  refine commandResultOutputs_jobId platform ?_
  have own : ∀ outputs, (taskResult validShape request ending).result = .ok outputs →
      ∀ output ∈ outputs, output.jobId = request.jobId := by
    intro outputs result
    match ending with
    | .panicked _ => cases result
    | .returned (.error _) => cases result
    | .returned (.ok _) =>
      cases result
      intro output member
      exact of_decide_eq_true (List.all_eq_true.mp concerns output member)
  unfold acceptRuntimeConfig
  cases (taskResult validShape request ending).runtimeConfigUpdate with
  | none => exact own
  | some =>
    cases conditions.storeFailure with
    | none => exact own
    | some => exact nofun

end Queueing

/-! ## Steps and runs -/

section Runs

variable (platform : Platform Content) (validShape : Content → Bool)

/-- A change of one entry followed by turns, for the outbox of any job. The events `first`
    account for the change if it concerns the job. -/
theorem replaced_outbox (first : List Outbox.Event)
    (found : before.activeCommands.lookup key = some active)
    (replaced : Replaced key changed before middle)
    (turns : Relation.ReflTransGen Turn middle after) (sorted : before.Sorted)
    (own : ∀ output ∈ changed.pendingOutputs, output.output.jobId = key)
    (tracks : Tracks jobId before box)
    (concerned : jobId = key → ∃ next, run Outbox.step box first = some next ∧ Tracks jobId middle next)
    (unconcerned : jobId ≠ key → first = []) :
    after.Sorted ∧ (jobId ∈ after.activeCommands → jobId ∈ before.activeCommands) ∧
      ∃ final, run Outbox.step box (first ++
        (attemptEvents jobId (newAttempts before after) ++ closing jobId before after)) = some final ∧
        Tracks jobId after final := by
  have sortedMiddle := sorted_of_replaced sorted replaced.table own
  have members : jobId ∈ middle.activeCommands ↔ jobId ∈ before.activeCommands := by
    rw [← AList.lookup_isSome, ← AList.lookup_isSome, replaced.table]
    by_cases same : jobId = key
    · rw [if_pos same, same, found]
      exact Iff.rfl
    · rw [if_neg same]
  obtain ⟨next, runs, tracksMiddle⟩ :
      ∃ next, run Outbox.step box first = some next ∧ Tracks jobId middle next := by
    by_cases same : jobId = key
    · exact concerned same
    · rw [unconcerned same]
      refine ⟨box, rfl, tracks_congr ?_ tracks⟩
      rw [replaced.table, if_neg same]
  obtain ⟨sortedAfter, stays, final, runsOn, tracksAfter⟩ :=
    turns_outbox turns sortedMiddle tracksMiddle
  have sameClosing : closing jobId middle after = closing jobId before after := by
    simp [closing, members]
  refine ⟨sortedAfter, fun mem => members.mp (stays mem), final, ?_, tracksAfter⟩
  rw [run_append, runs, Option.bind_some]
  rw [newAttempts, replaced.attempts, sameClosing] at runsOn
  exact runsOn

variable {before after : Supervised Content} (conditions : Conditions)

theorem outboxEvents_inactive (inactive : frame.isForActive platform before.agent = false)
    (stays : jobId ∈ before.agent.activeCommands → jobId ∈ after.agent.activeCommands) :
    outboxEvents platform validShape jobId before (.session (.commandFrame conditions frame)) after =
      if jobId ∉ before.agent.activeCommands ∧ jobId ∈ after.agent.activeCommands then [.opened]
      else [] := by
  have uncounted : (TaskAction.session (.commandFrame conditions frame)).isAboutActive platform before =
      false := inactive
  have remains : ¬ (jobId ∈ before.agent.activeCommands ∧ jobId ∉ after.agent.activeCommands) :=
    fun left => left.2 (stays left.1)
  rw [outboxEvents, uncounted, if_neg remains]
  simp [queuedBy, completedBy]

theorem untouched_outbox (inactive : frame.isForActive platform before.agent = false)
    (same : after.agent.activeCommands.lookup jobId = before.agent.activeCommands.lookup jobId)
    (tracks : Tracks jobId before.agent box) :
    ∃ final, run Outbox.step box (outboxEvents platform validShape jobId before
        (.session (.commandFrame conditions frame)) after) = some final ∧
      Tracks jobId after.agent final := by
  have members : jobId ∈ after.agent.activeCommands ↔ jobId ∈ before.agent.activeCommands := by
    rw [← AList.lookup_isSome, ← AList.lookup_isSome, same]
  refine ⟨box, ?_, tracks_congr same tracks⟩
  rw [outboxEvents_inactive platform validShape conditions inactive members.mpr,
    if_neg fun fresh => fresh.1 (members.mp fresh.2)]
  rfl

theorem admitted_outbox (inactive : frame.isForActive platform before.agent = false)
    (admits : Admits platform frame.streamId request before.agent after.agent)
    (tracks : Tracks request.jobId before.agent box) :
    ∃ final, run Outbox.step box (outboxEvents platform validShape request.jobId before
        (.session (.commandFrame conditions frame)) after) = some final ∧
      Tracks request.jobId after.agent final := by
  have entered := admits.table request.jobId
  rw [if_pos rfl] at entered
  have absent : request.jobId ∉ before.agent.activeCommands := by
    rw [← AList.lookup_isSome, admits.inactive]
    exact Bool.false_ne_true
  have present : request.jobId ∈ after.agent.activeCommands := by
    rw [← AList.lookup_isSome, entered]
    rfl
  have unopened : box = none := by
    rw [mem_of_tracks tracks, Option.isSome_iff_ne_none, not_not] at absent
    exact absent
  subst unopened
  refine ⟨some ⟨0, 0, false⟩, ?_, _, entered, .opened, rfl⟩
  rw [outboxEvents_inactive platform validShape conditions inactive fun _ => present,
    if_pos ⟨absent, present⟩]
  rfl

theorem queuedBy_le_count :
    queuedBy platform validShape jobId before act ≤
      (outboxEvents platform validShape jobId before act after).count .queued := by
  unfold outboxEvents
  rw [List.count_append, List.count_append, List.count_append, List.count_append,
    List.count_replicate_self]
  omega

/-- Every step moves the outbox of every job in order. -/
theorem outcome_outbox (tended : before.Tended)
    (sorted : before.agent.Sorted) (tracks : Tracks jobId before.agent box)
    (few : Outbox.queuedSoFar box +
      (outboxEvents platform validShape jobId before act after).count .queued < 2 ^ 31)
    (outcome : Supervised.Outcome platform validShape before act after) :
    after.agent.Sorted ∧
      ∃ final, run Outbox.step box (outboxEvents platform validShape jobId before act after) =
        some final ∧ Tracks jobId after.agent final := by
  have bounded : Outbox.queuedSoFar box + queuedBy platform validShape jobId before act < 2 ^ 31 :=
    Nat.lt_of_le_of_lt (Nat.add_le_add_left (queuedBy_le_count platform validShape) _)
      few
  cases outcome with
  | turned _ active turns =>
    obtain ⟨sortedAfter, stays, final, runs, tracksAfter⟩ := turns_outbox turns sorted tracks
    refine ⟨sortedAfter, final, ?_, tracksAfter⟩
    rw [outboxEvents, if_neg fun fresh => fresh.1 (stays fresh.2), active]
    exact runs
  | untouched conditions _ inactive leaves =>
    refine ⟨fun key active stored => sorted key active (leaves.table key ▸ stored), ?_⟩
    exact untouched_outbox platform validShape conditions inactive (leaves.table jobId) tracks
  | admitted conditions _ request inactive admits =>
    refine ⟨sorted_of_replaced sorted admits.table nofun, ?_⟩
    by_cases same : jobId = request.jobId
    · subst same
      exact admitted_outbox platform validShape conditions inactive admits tracks
    · refine untouched_outbox platform validShape conditions inactive ?_ tracks
      rw [admits.table, if_neg same]
  | queued _ output active _ found _ replaced _ turns =>
    have entry := replaced.table output.jobId
    rw [if_pos rfl] at entry
    obtain ⟨sortedAfter, stays, final, runs, tracksAfter⟩ := replaced_outbox
      (List.replicate (if output.jobId = jobId then 1 else 0) .queued) found replaced turns sorted
      (enqueueAll_jobIds platform [output] (sorted _ active found) (by simp)) tracks
      (by
        rintro rfl
        rw [queuedBy, if_pos rfl] at bounded
        rw [if_pos rfl]
        obtain ⟨progress, runs, backs, completed⟩ :=
          enqueueAll_outbox platform [output] found tracks bounded
        exact ⟨some progress, runs, _, entry, backs,
          (enqueueOutput_effect platform active output).1.trans completed⟩)
      (fun other => by rw [if_neg (Ne.symm other), List.replicate_zero])
    refine ⟨sortedAfter, final, ?_, tracksAfter⟩
    rw [outboxEvents, if_neg fun fresh => fresh.1 (stays fresh.2)]
    simpa [completedBy, queuedBy, TaskAction.isAboutActive, closing] using runs
  | ended conditions ended ending request active middle task concerns found replaced settings
      remembered turns tasks persisted =>
      obtain ⟨rfl, _⟩ := tended ended request task
      have entry := replaced.table request.jobId
      rw [if_pos rfl] at entry
      let final := finalOutputs platform conditions (taskResult validShape request ending) before.agent
      have completed : completedBy jobId after (.finished conditions request.jobId ending) =
          decide (request.jobId = jobId) := by
        rw [completedBy, recentCommands_of_turns turns, remembered]
        by_cases same : request.jobId = jobId <;> simp
      obtain ⟨sortedAfter, stays, closed, runs, tracksAfter⟩ := replaced_outbox
        (if request.jobId = jobId then List.replicate final.length .queued ++ [.completed] else [])
        found replaced turns sorted
        (enqueueAll_jobIds platform final (sorted _ active found)
          (finalOutputs_jobId platform concerns)) tracks
        (by
          rintro rfl
          rw [queuedBy, task] at bounded
          dsimp only at bounded
          rw [if_pos rfl] at bounded
          rw [if_pos rfl]
          obtain ⟨progress, runs, backs, _⟩ := enqueueAll_outbox platform final found tracks bounded
          refine ⟨some { progress with completed := true }, ?_, _, entry,
            ⟨backs.numbered, backs.free⟩, rfl⟩
          rw [run_append, runs]
          rfl)
        (fun other => if_neg (Ne.symm other))
      refine ⟨sortedAfter, closed, ?_, tracksAfter⟩
      rw [outboxEvents, if_neg fun fresh => fresh.1 (stays fresh.2), completed, queuedBy, task]
      by_cases same : request.jobId = jobId
      all_goals simpa [same, TaskAction.isAboutActive, closing] using runs

theorem run_outbox
    (tended : before.Tended) (sorted : before.agent.Sorted) (tracks : Tracks jobId before.agent box)
    (few : Outbox.queuedSoFar box +
      (outboxTrace platform validShape jobId before actions).count .queued < 2 ^ 31)
    (runs : run (Supervised.step platform validShape) before actions = some final) :
    ∃ next, run Outbox.step box (outboxTrace platform validShape jobId before actions) = some next ∧
      Tracks jobId final.agent next := by
  induction actions generalizing before box with
  | nil =>
    obtain rfl := Option.some_inj.mp runs
    exact ⟨box, rfl, tracks⟩
  | cons _ _ ih =>
    obtain ⟨after, stepped, runs⟩ := run_cons_some runs
    have outcome := Supervised.step_outcome platform validShape tended stepped
    rw [outboxTrace, stepped] at few ⊢
    rw [List.count_append] at few
    obtain ⟨sortedAfter, next, moves, tracksAfter⟩ :=
      outcome_outbox platform validShape tended sorted tracks (by omega) outcome
    have queued := Outbox.queuedSoFar_run moves
    have tendedAfter := Supervised.Tended.step platform validShape tended outcome
    obtain ⟨last, runsOn, tracksFinal⟩ := ih tendedAfter sortedAfter tracksAfter (by omega) runs
    refine ⟨last, ?_, tracksFinal⟩
    rw [run_append, moves]
    exact runsOn

/-- In every run of a process, whatever writes fail and however often the agent reconnects,
    the outputs of every job move through an outbox in order: they are attempted from number
    zero on without a gap, a number is attempted again only when its attempt failed, every
    resume message announces the number that comes next, and the job leaves the active table
    only when its end is remembered and all its outputs were written. -/
theorem outputs_resume_without_gaps (config : Content) (ledger : CommandLedger)
    (cached : Option (AgentRuntimeConfig Content)) (accepted : Option Nat)
    (actions : List (TaskAction Content)) (final : Supervised Content)
    (runs : run (Supervised.step platform validShape)
      (Supervised.boot config ledger cached accepted) actions = some final) (jobId : Uuid)
    (few : (outboxTrace platform validShape jobId (Supervised.boot config ledger cached accepted)
      actions).count .queued < 2 ^ 31) :
    ∃ box, run Outbox.step none (outboxTrace platform validShape jobId
        (Supervised.boot config ledger cached accepted) actions) = some box ∧
      (jobId ∈ final.agent.activeCommands ↔ box.isSome = true) := by
  have sorted : (Supervised.boot config ledger cached accepted).agent.Sorted :=
    fun _ _ stored => absurd stored nofun
  have absent : Tracks jobId (Supervised.boot config ledger cached accepted).agent none := rfl
  obtain ⟨box, moves, tracks⟩ := run_outbox platform validShape
    (Supervised.Tended.boot config) sorted absent
    (by rw [Outbox.queuedSoFar, Nat.zero_add]; exact few) runs
  exact ⟨box, moves, mem_of_tracks tracks⟩

end Runs

/-! ## A sample run -/

/-- The first output of job 0 cannot be written, which ends the session. The next session
    sends it, the job ends, and the connection breaks again before its last output. -/
def resumedRun : List (TaskAction Unit) :=
  [.session (.connect calm 2), .session (userSessionsFrame 0),
    .output { calm with writable := 0 } ⟨0, .stdout, [], none, false⟩,
    .session (.connect { calm with order := [0] } 2),
    .finished { calm with writable := 0 } 0 (.returned (.ok [⟨0, .status, [], some 0, true⟩])),
    .session (.connect { calm with order := [0] } 2)]

/-- What becomes of the outbox of job 0. -/
def resumedEvents : List Outbox.Event :=
  [.opened, .queued, .attempted 0 false, .announced 0, .attempted 0 true, .queued, .completed,
    .attempted 1 false, .announced 1, .attempted 1 true, .closed]

theorem resumedRun_in_order :
    outboxTrace samplePlatform (fun _ => true) 0 (Supervised.boot () ∅ none none) resumedRun =
        resumedEvents ∧
      ∃ final, run (Supervised.step samplePlatform fun _ => true)
          (Supervised.boot () ∅ none none) resumedRun = some final ∧
        ∃ box, run Outbox.step none (outboxTrace samplePlatform (fun _ => true) 0
            (Supervised.boot () ∅ none none) resumedRun) = some box ∧
          (0 ∈ final.agent.activeCommands ↔ box.isSome = true) := by
  have trace : outboxTrace samplePlatform (fun _ => true) 0 (Supervised.boot () ∅ none none)
      resumedRun = resumedEvents := by decide +kernel
  have enabled : (run (Supervised.step samplePlatform fun _ => true)
      (Supervised.boot () ∅ none none) resumedRun).isSome = true := by decide +kernel
  obtain ⟨final, runs⟩ := Option.isSome_iff_exists.mp enabled
  refine ⟨trace, final, runs, outputs_resume_without_gaps samplePlatform (fun _ => true) () ∅ none
    none resumedRun final runs 0 ?_⟩
  rw [trace]
  decide

end Vpsman.Agent
