import Vpsman.Agent.Turns

/-! # The tasks of the commands

A started command runs as a task of its own, which may send outputs and then reports its
end exactly once. The runtime so far takes these events from anywhere; here they come
from the tasks that were started, and a task that applies a runtime configuration brings
the configuration of its own request.
-/

namespace Vpsman.Agent

open Vpsman.Lib

variable {Content : Type}

/-- How the task of a command ends. -/
inductive TaskEnd where
  /-- With the result of its work, which may have failed, timed out or been canceled. -/
  | returned (result : Except CommandFailure (List CommandOutput))
  /-- It panicked, which `supervise_command_task` reports. -/
  | panicked (chain : String)

/-- The outputs a task hands over at its end are outputs of its job. -/
def TaskEnd.concerns (jobId : Uuid) : TaskEnd → Bool
  | .returned (.ok outputs) => outputs.all fun output => output.jobId = jobId
  | .returned (.error _) | .panicked _ => true

def jobCommandTypeLabel : JobCommand Content → String
  | .configRead => "config_read"
  | .runtimeConfigSync _ _ _ => "runtime_config_sync"
  | .operation operation => operation.label

/-- The runtime part of the candidate configuration, if it is valid. `validShape` tells
    whether the configuration of the agent is well-formed with a given runtime part. -/
def runtimeConfigCandidate (validShape : Content → Bool) (runtimeConfig : AgentRuntimeConfig Content)
    (desiredVersion : Nat) : Option Content :=
  if runtimeConfig.version = desiredVersion ∧ validShape runtimeConfig.content = true then
    some runtimeConfig.content
  else none

/-- The runtime configuration a task leaves behind. A valid document is taken over whether
    or not it could be applied. -/
def candidateOf (validShape : Content → Bool) : JobCommand Content → Option (AgentRuntimeConfig Content)
  | .runtimeConfigSync desiredVersion _ runtimeConfig =>
    (runtimeConfigCandidate validShape runtimeConfig desiredVersion).map fun _ => runtimeConfig
  | .configRead | .operation _ => none

/-- What the task of the request reports at its end. -/
def taskResult (validShape : Content → Bool) (request : JobRequest Content) :
    TaskEnd → CommandExecutionResult Content
  | .returned result =>
    { jobId := request.jobId
      operationType := jobCommandTypeLabel request.command
      maxTimeoutSecs := max 1 (min request.maxTimeoutSecs maxConfigurableJobTimeoutSecs)
      result := result
      configUpdate := (candidateOf validShape request.command).map (·.content)
      runtimeConfigUpdate := candidateOf validShape request.command }
  | .panicked chain =>
    { jobId := request.jobId
      operationType := jobCommandTypeLabel request.command
      maxTimeoutSecs := max 1 (min request.maxTimeoutSecs maxConfigurableJobTimeoutSecs)
      result := .error (.failed ("command consumer failed: " ++ chain)
        ("command consumer failed: " ++ chain))
      configUpdate := none
      runtimeConfigUpdate := none }

@[simp] theorem taskResult_jobId (validShape : Content → Bool) :
    (taskResult validShape request ending).jobId = request.jobId := by
  cases ending <;> rfl

structure Supervised (Content : Type) where
  agent : AgentCommandRuntime Content
  /-- The requests of the tasks that have not reported their end. -/
  tasks : HashMap Uuid (JobRequest Content) := ∅
  /-- The runtime configurations that were accepted and stored, newest first. -/
  persisted : List (AgentRuntimeConfig Content) := []

inductive TaskAction (Content : Type) where
  /-- Anything but an event of a task. -/
  | session (action : Action Content)
  | output (conditions : Conditions) (output : CommandOutput)
  | finished (conditions : Conditions) (jobId : Uuid) (ending : TaskEnd)

namespace Supervised

variable (platform : Platform Content) (validShape : Content → Bool)

/-- What the runtime sees of an action; events need a task that sends them. -/
def action (system : Supervised Content) : TaskAction Content → Option (Action Content)
  | .session (.output _ _) | .session (.finished _ _) => none
  | .session action => some action
  | .output conditions output =>
    if output.jobId ∈ system.tasks then some (.output conditions output) else none
  | .finished conditions jobId ending =>
    match system.tasks.lookup jobId with
    | none => none
    | some request =>
      if ending.concerns jobId then
        some (.finished conditions (taskResult validShape request ending))
      else none

/-- A command that enters the active table got a task; a task that reported its end is
    gone. -/
def tasksAfter (system : Supervised Content) (agent : AgentCommandRuntime Content) :
    TaskAction Content → HashMap Uuid (JobRequest Content)
  | .session (.commandFrame _ ⟨_, some (.supported request)⟩) =>
    if request.jobId ∉ system.agent.activeCommands ∧ request.jobId ∈ agent.activeCommands then
      system.tasks.insert request.jobId request
    else system.tasks
  | .finished _ jobId _ => system.tasks.erase jobId
  | .session _ | .output _ _ => system.tasks

def persistedAfter (system : Supervised Content) :
    TaskAction Content → List (AgentRuntimeConfig Content)
  | .finished conditions jobId ending =>
    match system.tasks.lookup jobId, conditions.storeFailure with
    | some request, none =>
      (taskResult validShape request ending).runtimeConfigUpdate.toList ++ system.persisted
    | _, _ => system.persisted
  | .session _ | .output _ _ => system.persisted

def step (system : Supervised Content) (act : TaskAction Content) : Option (Supervised Content) := do
  let action ← system.action validShape act
  let agent ← Agent.step platform system.agent action
  some ⟨agent, system.tasksAfter agent act, system.persistedAfter validShape act⟩

/-- Every task is that of an active command which has not ended. -/
def Tended (system : Supervised Content) : Prop :=
  ∀ jobId request, system.tasks.lookup jobId = some request → request.jobId = jobId ∧
    ∃ active, system.agent.activeCommands.lookup jobId = some active ∧ active.finished = false ∧
      active.safety = jobCommandSafety request.command

end Supervised

/-- The frames that a handler sends about active commands only come from the active table. -/
def TaskAction.isAboutActive (platform : Platform Content) (system : Supervised Content) :
    TaskAction Content → Bool
  | .session (.commandFrame _ frame) => frame.isForActive platform system.agent
  | .session _ | .output _ _ | .finished _ _ _ => true

/-! ## Outcomes of a step -/

namespace Supervised

variable (platform : Platform Content) (validShape : Content → Bool) {before after : Supervised Content}

inductive Outcome (before : Supervised Content) :
    TaskAction Content → Supervised Content → Prop where
  | turned {after : Supervised Content} (action : Action Content)
      (active : (TaskAction.session action).isAboutActive platform before = true)
      (turns : Relation.ReflTransGen Turn before.agent after.agent)
      (tasks : after.tasks = before.tasks) (persisted : after.persisted = before.persisted) :
      Outcome before (.session action) after
  | untouched {after : Supervised Content} (conditions : Conditions) (frame : CommandFrame Content)
      (inactive : frame.isForActive platform before.agent = false)
      (leaves : Leaves before.agent after.agent)
      (tasks : after.tasks = before.tasks) (persisted : after.persisted = before.persisted) :
      Outcome before (.session (.commandFrame conditions frame)) after
  | admitted {after : Supervised Content} (conditions : Conditions) (frame : CommandFrame Content)
      (request : JobRequest Content)
      (inactive : frame.isForActive platform before.agent = false)
      (admits : Admits platform frame.streamId request before.agent after.agent)
      (tasks : after.tasks = before.tasks.insert request.jobId request)
      (persisted : after.persisted = before.persisted) :
      Outcome before (.session (.commandFrame conditions frame)) after
  | queued {after : Supervised Content} (conditions : Conditions) (output : CommandOutput)
      (active : ActiveCommand) (middle : AgentCommandRuntime Content)
      (found : before.agent.activeCommands.lookup output.jobId = some active)
      (unfinished : active.finished = false)
      (replaced : Replaced output.jobId (active.enqueueOutput platform output) before.agent middle)
      (settings : middle.settings = before.agent.settings)
      (turns : Relation.ReflTransGen Turn middle after.agent)
      (tasks : after.tasks = before.tasks) (persisted : after.persisted = before.persisted) :
      Outcome before (.output conditions output) after
  | ended {after : Supervised Content} (conditions : Conditions) (jobId : Uuid) (ending : TaskEnd)
      (request : JobRequest Content) (active : ActiveCommand) (middle : AgentCommandRuntime Content)
      (task : before.tasks.lookup jobId = some request)
      (concerns : ending.concerns jobId = true)
      (found : before.agent.activeCommands.lookup jobId = some active)
      (replaced : Replaced jobId (active.finish platform (finalOutputs platform conditions
        (taskResult validShape request ending) before.agent)) before.agent middle)
      (settings : middle.settings =
        (taskResult validShape request ending).settingsAfter conditions before.agent.settings)
      (remembered : middle.recentCommands.order.getLast? = some jobId)
      (turns : Relation.ReflTransGen Turn middle after.agent)
      (tasks : after.tasks = before.tasks.erase jobId)
      (persisted : after.persisted = before.persistedAfter validShape (.finished conditions jobId ending)) :
      Outcome before (.finished conditions jobId ending) after

theorem finalOutputs_writable (agent : AgentCommandRuntime Content) :
    finalOutputs platform conditions result { agent with writable := writable } =
      finalOutputs platform conditions result agent := by
  unfold finalOutputs acceptRuntimeConfig
  cases result.runtimeConfigUpdate with
  | none => rfl
  | some => cases conditions.storeFailure <;> rfl

theorem step_eq_some (stepped : step platform validShape before act = some after) :
    ∃ action agent, before.action validShape act = some action ∧
      Agent.step platform before.agent action = some agent ∧
      after = ⟨agent, before.tasksAfter agent act, before.persistedAfter validShape act⟩ := by
  obtain ⟨action, enabled, stepped⟩ := Option.bind_eq_some_iff.mp stepped
  obtain ⟨agent, stepped, same⟩ := Option.bind_eq_some_iff.mp stepped
  exact ⟨action, agent, enabled, stepped, (Option.some_inj.mp same).symm⟩

/-- A frame gets a task exactly when it enters its command into the active table. -/
theorem frame_outcome {agent : AgentCommandRuntime Content}
    (outcome : FrameOutcome platform frame before.agent agent) :
    Outcome platform validShape before (.session (.commandFrame conditions frame))
      ⟨agent, before.tasksAfter agent (.session (.commandFrame conditions frame)),
        before.persisted⟩ := by
  obtain ⟨streamId, decoded⟩ := frame
  cases outcome with
  | answered active turns =>
    refine .turned _ active turns ?_ rfl
    match decoded with
    | none | some (.unsupported _) => rfl
    | some (.supported request) =>
      obtain ⟨_, found⟩ := Bool.and_eq_true_iff.mp active
      exact if_neg fun fresh => fresh.1 (AList.lookup_isSome.mp found)
  | untouched inactive leaves =>
    refine .untouched conditions _ inactive leaves ?_ rfl
    match decoded with
    | none | some (.unsupported _) => rfl
    | some (.supported request) =>
      refine if_neg fun fresh => fresh.1 ?_
      rw [← AList.lookup_isSome, ← leaves.table, AList.lookup_isSome]
      exact fresh.2
  | admitted request carried inactive admits =>
    subst carried
    refine .admitted conditions _ request inactive admits (if_pos ⟨?_, ?_⟩) rfl
    · rw [← AList.lookup_isSome, admits.inactive]
      exact Bool.false_ne_true
    · rw [← AList.lookup_isSome, admits.table, if_pos rfl]
      rfl

/-- Outside of frames and events the runtime only takes turns. -/
theorem step_turns {action : Action Content} {before after : AgentCommandRuntime Content}
    (stepped : Agent.step platform before action = some after)
    (quiet : match action with
      | .connect _ _ | .cancelFrame _ _ | .disconnect | .cleanup _ _ _ => True
      | .commandFrame _ _ | .output _ _ | .finished _ _ => False) :
    Relation.ReflTransGen Turn before after := by
  cases action with
  | commandFrame | output | finished => exact quiet.elim
  | connect conditions seq =>
    obtain ⟨-, rfl⟩ := guard_some stepped
    have opened : Turn before { before with connected := true, seq := seq } :=
      .recorded rfl rfl rfl rfl
    exact .head opened (inSession_turns resumeActiveCommands_turns)
  | cancelFrame _ request =>
    obtain ⟨-, rfl⟩ := guard_some stepped
    exact inSession_turns handleCommandCancelFrame_turns
  | disconnect =>
    obtain ⟨-, rfl⟩ := guard_some stepped
    exact .single (.recorded rfl rfl rfl rfl)
  | cleanup =>
    cases stepped
    exact .single (.recorded rfl rfl rfl rfl)

theorem step_outcome (tended : before.Tended)
    (stepped : step platform validShape before act = some after) :
    Outcome platform validShape before act after := by
  obtain ⟨action, agent, enabled, moved, rfl⟩ := step_eq_some platform validShape stepped
  cases act with
  | session action =>
    cases action with
    | output | finished => cases enabled
    | connect | cancelFrame | disconnect | cleanup =>
      cases enabled
      exact .turned _ rfl (step_turns platform moved trivial) rfl rfl
    | commandFrame =>
      cases enabled
      obtain ⟨-, rfl⟩ := guard_some moved
      exact frame_outcome platform validShape (handleCommandFrame_outcome platform)
  | output conditions output =>
    obtain ⟨task, rfl⟩ := guard_some enabled
    obtain ⟨request, task⟩ := Option.isSome_iff_exists.mp (AList.lookup_isSome.mpr task)
    obtain ⟨_, active, found, unfinished, _⟩ := tended _ request task
    obtain ⟨-, rfl⟩ := guard_some moved
    obtain ⟨middle, replaced, settings, turns⟩ := queueActiveCommandOutput_outcome platform found
    exact .queued conditions output active middle found unfinished replaced settings turns rfl rfl
  | finished conditions jobId ending =>
    dsimp only [Supervised.action] at enabled
    cases task : before.tasks.lookup jobId with
    | none =>
      rw [task] at enabled
      cases enabled
    | some request =>
      rw [task] at enabled
      obtain ⟨concerns, rfl⟩ := guard_some enabled
      obtain ⟨rfl, active, found, _, _⟩ := tended jobId request task
      obtain ⟨-, rfl⟩ := guard_some moved
      have looked : before.agent.activeCommands.lookup
          (taskResult validShape request ending).jobId = some active := by
        rw [taskResult_jobId]
        exact found
      obtain ⟨middle, replaced, settings, remembered, turns⟩ :=
        handleFinished_outcome platform looked
      rw [taskResult_jobId, finalOutputs_writable] at replaced
      rw [taskResult_jobId] at remembered
      exact .ended conditions _ ending request active middle task concerns found replaced
        settings remembered turns rfl rfl

/-! ## Tending -/

/-- The command of the job is active and has not ended. -/
def RunsWith (agent : AgentCommandRuntime Content) (jobId : Uuid) (safety : JobCommandSafety) : Prop :=
  ∃ active, agent.activeCommands.lookup jobId = some active ∧ active.finished = false ∧
    active.safety = safety

theorem RunsWith.kept
    {before after : AgentCommandRuntime Content} (runs : RunsWith before jobId safety)
    (kept : EntryKept jobId before after) : RunsWith after jobId safety := by
  obtain ⟨active, found, unfinished, same⟩ := runs
  rcases kept with ⟨_, ended⟩ | ⟨earlier, later, stored, kept, finished, safe⟩
  · rw [ended active found] at unfinished
    cases unfinished
  · obtain rfl := Option.some_inj.mp (found.symm.trans stored)
    exact ⟨later, kept, finished.trans unfinished, safe.trans same⟩

theorem Tended.step (tended : before.Tended)
    (outcome : Outcome platform validShape before act after) : after.Tended := by
  intro jobId request task
  cases outcome with
  | turned _ _ turns tasks =>
    rw [tasks] at task
    obtain ⟨keyed, runs⟩ := tended jobId request task
    exact ⟨keyed, RunsWith.kept runs (entryKept_of_turns turns)⟩
  | untouched _ _ _ leaves tasks =>
    rw [tasks] at task
    obtain ⟨keyed, runs⟩ := tended jobId request task
    exact ⟨keyed, RunsWith.kept runs (.of_same (leaves.table jobId))⟩
  | admitted _ _ admitted _ admits tasks =>
    rw [tasks, HashMap.lookup_insert_eq] at task
    by_cases same : jobId = admitted.jobId
    · rw [if_pos same, Option.some_inj] at task
      subst task
      have entered := admits.table jobId
      rw [if_pos same] at entered
      exact ⟨same.symm, _, entered, rfl, rfl⟩
    · rw [if_neg same] at task
      obtain ⟨keyed, runs⟩ := tended jobId request task
      refine ⟨keyed, RunsWith.kept runs (.of_same ?_)⟩
      rw [admits.table, if_neg same]
  | queued _ output active _ found _ replaced _ turns tasks =>
    rw [tasks] at task
    obtain ⟨keyed, runs⟩ := tended jobId request task
    refine ⟨keyed, RunsWith.kept ?_ (entryKept_of_turns turns)⟩
    by_cases same : jobId = output.jobId
    · obtain ⟨finished, safety, -⟩ := enqueueOutput_effect platform active output
      refine RunsWith.kept runs (.inr ⟨active, _, ?_, ?_, finished, safety⟩)
      · exact same ▸ found
      · rw [replaced.table, if_pos same]
    · refine RunsWith.kept runs (.of_same ?_)
      rw [replaced.table, if_neg same]
  | ended _ _ _ _ _ _ _ _ _ replaced _ _ turns tasks =>
    rw [tasks] at task
    obtain ⟨other, task⟩ := HashMap.lookup_of_erase task
    obtain ⟨keyed, runs⟩ := tended jobId request task
    refine ⟨keyed, RunsWith.kept (RunsWith.kept runs (.of_same ?_)) (entryKept_of_turns turns)⟩
    rw [replaced.table, if_neg other]

def boot (config : Content) (ledger : CommandLedger) (cached : Option (AgentRuntimeConfig Content))
    (accepted : Option Nat) : Supervised Content where
  agent := Agent.boot config ledger cached accepted

theorem Tended.boot (config : Content) : (boot config ledger cached accepted).Tended :=
  fun _ _ task => absurd task nofun

end Supervised
end Vpsman.Agent
