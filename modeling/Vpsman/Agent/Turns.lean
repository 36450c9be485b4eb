import Vpsman.Agent.AtMostOnce

/-! # What a handler does to the active table

Every handler is a sequence of turns. A turn sends one frame, or changes the entry of one
active command, or takes finished commands out of the table; the outputs of a command are
only ever taken from the front of its queue, once they are written. Invariants of the
active table follow from this case by case, without looking at the handlers again.
-/

namespace Vpsman.Agent

open Vpsman.Lib Fallible

variable {Content : Type} {before after agent : AgentCommandRuntime Content}

/-- The frame says nothing about the outputs of an active command. -/
def Message.Plain : Message → Prop
  | .commandAck .. | .commandCancelAck .. => True
  | .commandOutput .. | .commandResume .. => False

/-- What a resume message announces for the command. -/
def ActiveCommand.resumeMessage (active : ActiveCommand) (jobId : Uuid) : Message :=
  .commandResume active.streamId jobId active.commandVersion active.payloadHash
    ((active.pendingOutputs.map (·.seq)).head?.getD active.nextOutputSeq)

/-- The commands differ at most in the stream they answer on and in being canceled. -/
structure ActiveCommand.SameWork (active other : ActiveCommand) : Prop where
  pendingOutputs : other.pendingOutputs = active.pendingOutputs
  nextOutputSeq : other.nextOutputSeq = active.nextOutputSeq
  finished : other.finished = active.finished
  safety : other.safety = active.safety

/-- The change of the active table and of the frames sent in one turn. -/
inductive Change (before after : AgentCommandRuntime Content) : Prop where
  | recorded (table : ∀ key, after.activeCommands.lookup key = before.activeCommands.lookup key)
      (attempts : after.attempts = before.attempts)
  | said (attempt : Attempt) (plain : attempt.message.Plain)
      (table : ∀ key, after.activeCommands.lookup key = before.activeCommands.lookup key)
      (attempts : after.attempts = attempt :: before.attempts)
  | announced (jobId : Uuid) (active : ActiveCommand) (seq : Nat) (written : Bool)
      (found : before.activeCommands.lookup jobId = some active)
      (table : ∀ key, after.activeCommands.lookup key = before.activeCommands.lookup key)
      (attempts : after.attempts = ⟨seq, active.resumeMessage jobId, written⟩ :: before.attempts)
  | undelivered (jobId : Uuid) (active : ActiveCommand) (seq : Nat)
      (output : SequencedCommandOutput) (rest : List SequencedCommandOutput)
      (found : before.activeCommands.lookup jobId = some active)
      (pending : active.pendingOutputs = output :: rest)
      (table : ∀ key, after.activeCommands.lookup key = before.activeCommands.lookup key)
      (attempts : after.attempts =
        ⟨seq, .commandOutput active.streamId output, false⟩ :: before.attempts)
  | delivered (jobId : Uuid) (active : ActiveCommand) (seq : Nat)
      (output : SequencedCommandOutput) (rest : List SequencedCommandOutput)
      (found : before.activeCommands.lookup jobId = some active)
      (pending : active.pendingOutputs = output :: rest)
      (table : ∀ key, after.activeCommands.lookup key =
        if key = jobId then some { active with pendingOutputs := rest }
        else before.activeCommands.lookup key)
      (attempts : after.attempts =
        ⟨seq, .commandOutput active.streamId output, true⟩ :: before.attempts)
  | adjusted (jobId : Uuid) (f : ActiveCommand → ActiveCommand)
      (same : ∀ active : ActiveCommand, active.SameWork (f active))
      (table : ∀ key, after.activeCommands.lookup key =
        if key = jobId then (before.activeCommands.lookup key).map f
        else before.activeCommands.lookup key)
      (attempts : after.attempts = before.attempts)
  | removed
      (table : ∀ key, after.activeCommands.lookup key = before.activeCommands.lookup key ∨
        after.activeCommands.lookup key = none ∧
          ∃ active, before.activeCommands.lookup key = some active ∧ active.finished = true ∧
            active.pendingOutputs = [])
      (attempts : after.attempts = before.attempts)

def AgentCommandRuntime.settings (agent : AgentCommandRuntime Content) : Content × Option Nat :=
  (agent.config, agent.acceptedRuntimeConfigVersion)

structure Turn (before after : AgentCommandRuntime Content) : Prop where
  change : Change before after
  settings : after.settings = before.settings
  recent : after.recentCommands = before.recentCommands

/-! ## Single turns -/

theorem Turn.recorded (table : after.activeCommands = before.activeCommands)
    (attempts : after.attempts = before.attempts) (settings : after.settings = before.settings)
    (recent : after.recentCommands = before.recentCommands) : Turn before after :=
  ⟨.recorded (fun _ => by rw [table]) attempts, settings, recent⟩

theorem sendPlain_turns (plain : message.Plain) : Performs Turn (sendJsonFrame message) agent := by
  refine .single ?_
  unfold sendJsonFrame
  split <;> exact ⟨.said _ plain (fun _ => rfl) rfl, rfl, rfl⟩

theorem lookup_modifyActive_of_found (found : agent.activeCommands.lookup jobId = some active)
    (key : Uuid) : (agent.modifyActive jobId f).activeCommands.lookup key =
      if key = jobId then some (f active) else agent.activeCommands.lookup key := by
  rw [AgentCommandRuntime.lookup_modifyActive]
  split
  next same =>
    rw [same, found, Option.map_some]
  · rfl

theorem modifyActive_turn (same : ∀ active : ActiveCommand, active.SameWork (f active)) :
    Turn agent (agent.modifyActive jobId f) := by
  refine ⟨.adjusted jobId f same (agent.lookup_modifyActive jobId f) ?_, ?_, ?_⟩ <;>
    unfold AgentCommandRuntime.modifyActive <;> split <;> rfl

theorem removeIfFlushed_turn : Turn agent (agent.removeIfFlushed jobId) := by
  unfold AgentCommandRuntime.removeIfFlushed
  cases found : agent.activeCommands.lookup jobId with
  | none => exact .recorded rfl rfl rfl rfl
  | some active =>
    dsimp only
    split
    next flushed =>
      rw [Bool.and_eq_true, List.isEmpty_iff] at flushed
      refine ⟨.removed (fun key => ?_) rfl, rfl, rfl⟩
      rw [HashMap.lookup_erase_eq]
      split
      next same =>
        exact .inr ⟨rfl, active, same ▸ found, flushed⟩
      · exact .inl rfl
    · exact .recorded rfl rfl rfl rfl

theorem removeFinishedFlushedCommands_turn : Turn agent agent.removeFinishedFlushedCommands := by
  refine ⟨.removed (fun key => ?_) rfl, rfl, rfl⟩
  rw [AgentCommandRuntime.removeFinishedFlushedCommands, HashMap.lookup_retain]
  cases found : agent.activeCommands.lookup key with
  | none => exact .inl rfl
  | some active =>
    rw [Option.filter_some]
    split
    · exact .inl rfl
    next flushed =>
      rw [Bool.not_eq_true, Bool.not_eq_false', Bool.and_eq_true, List.isEmpty_iff] at flushed
      exact .inr ⟨rfl, active, rfl, flushed⟩

/-- The entry of a job stays as far as its state and safety go, or a finished one is gone. -/
def EntryKept (jobId : Uuid) (before after : AgentCommandRuntime Content) : Prop :=
  (after.activeCommands.lookup jobId = none ∧
    ∀ active, before.activeCommands.lookup jobId = some active → active.finished = true) ∨
  ∃ earlier later, before.activeCommands.lookup jobId = some earlier ∧
    after.activeCommands.lookup jobId = some later ∧ later.finished = earlier.finished ∧
    later.safety = earlier.safety

theorem EntryKept.of_same
    (same : after.activeCommands.lookup jobId = before.activeCommands.lookup jobId) :
    EntryKept jobId before after := by
  cases found : before.activeCommands.lookup jobId with
  | none => exact .inl ⟨same.trans found, fun _ stored => nomatch found.symm.trans stored⟩
  | some active => exact .inr ⟨active, active, found, same.trans found, rfl, rfl⟩

theorem Change.entryKept (change : Change before after) : EntryKept jobId before after := by
  cases change with
  | recorded table => exact .of_same (table jobId)
  | said _ _ table => exact .of_same (table jobId)
  | announced _ _ _ _ _ table => exact .of_same (table jobId)
  | undelivered _ _ _ _ _ _ _ table => exact .of_same (table jobId)
  | delivered key active _ _ rest found _ table =>
    by_cases same : jobId = key
    · subst same
      refine .inr ⟨active, { active with pendingOutputs := rest }, found, ?_, rfl, rfl⟩
      rw [table, if_pos rfl]
    · exact .of_same (by rw [table, if_neg same])
  | adjusted key f work table =>
    by_cases same : jobId = key
    · subst same
      specialize table jobId
      rw [if_pos rfl] at table
      cases found : before.activeCommands.lookup jobId with
      | none =>
        rw [found] at table
        exact .inl ⟨table, fun _ stored => nomatch found.symm.trans stored⟩
      | some active =>
        rw [found] at table
        exact .inr ⟨active, f active, found, table, (work active).finished, (work active).safety⟩
    · exact .of_same (by rw [table, if_neg same])
  | removed table =>
    rcases table jobId with same | ⟨gone, active, found, finished, _⟩
    · exact .of_same same
    · refine .inl ⟨gone, fun other stored => ?_⟩
      obtain rfl := Option.some_inj.mp (found.symm.trans stored)
      exact finished

variable {middle : AgentCommandRuntime Content}

theorem EntryKept.trans (first : EntryKept jobId before middle)
    (second : EntryKept jobId middle after) : EntryKept jobId before after := by
  rcases first with ⟨gone, ended⟩ | ⟨earlier, between, found, kept, finished, safety⟩
  · rcases second with ⟨stillGone, _⟩ | ⟨_, _, found, _⟩
    · exact .inl ⟨stillGone, ended⟩
    · rw [gone] at found
      cases found
  · rcases second with ⟨gone, ended⟩ | ⟨same, later, keptToo, stored, finishedToo, safetyToo⟩
    · refine .inl ⟨gone, fun active stored => ?_⟩
      obtain rfl := Option.some_inj.mp (found.symm.trans stored)
      exact finished ▸ ended between kept
    · obtain rfl := Option.some_inj.mp (kept.symm.trans keptToo)
      exact .inr ⟨earlier, later, found, stored, finishedToo.trans finished, safetyToo.trans safety⟩

section

variable (turns : Relation.ReflTransGen Turn before after)
include turns

theorem entryKept_of_turns : EntryKept jobId before after := by
  induction turns with
  | refl => exact .of_same rfl
  | tail _ turn ih => exact ih.trans turn.change.entryKept

theorem settings_of_turns : after.settings = before.settings := by
  induction turns with
  | refl => rfl
  | tail _ turn ih => exact turn.settings.trans ih

theorem recentCommands_of_turns : after.recentCommands = before.recentCommands := by
  induction turns with
  | refl => rfl
  | tail _ turn ih => exact turn.recent.trans ih

end

/-! ## Sending what is pending -/

theorem flushOutputs_turns :
    ∀ (pending : List SequencedCommandOutput) (active : ActiveCommand)
      (agent : AgentCommandRuntime Content), agent.activeCommands.lookup jobId = some active →
      active.pendingOutputs = pending →
      Performs Turn (flushOutputs jobId active.streamId pending) agent := by
  intro pending
  induction pending with
  | nil =>
    intro active agent _ _
    exact .pure ()
  | cons output rest ih =>
    intro active agent found waiting
    unfold Performs
    rw [flushOutputs, bind_apply]
    by_cases broken : agent.writable = 0
    · rw [sendJsonFrame, if_pos broken]
      exact .single ⟨.undelivered jobId active _ output rest found waiting (fun _ => rfl) rfl,
        rfl, rfl⟩
    · rw [sendJsonFrame, if_neg broken]
      dsimp only
      rw [update_bind]
      -- writing the frame and taking it off the queue are one turn
      generalize sent : AgentCommandRuntime.modifyActive _ jobId _ = popped
      have table : ∀ key, popped.activeCommands.lookup key =
          if key = jobId then some { active with pendingOutputs := rest }
          else agent.activeCommands.lookup key :=
        sent ▸ lookup_modifyActive_of_found found
      have turned : Turn agent popped := by
        refine ⟨.delivered jobId active agent.seq output rest found waiting table ?_, ?_, ?_⟩ <;>
          rw [← sent] <;> unfold AgentCommandRuntime.modifyActive <;> split <;> rfl
      refine .head turned (ih { active with pendingOutputs := rest } popped ?_ rfl)
      rw [table, if_pos rfl]

theorem flushPendingCommandOutputs_turns :
    Performs Turn (flushPendingCommandOutputs jobId) agent := by
  refine .read ?_
  cases found : agent.activeCommands.lookup jobId with
  | none => exact .pure ()
  | some active => exact flushOutputs_turns active.pendingOutputs active agent found rfl

variable {active : ActiveCommand}

theorem sendResume_turn (found : agent.activeCommands.lookup jobId = some active)
    (next : number = (active.pendingOutputs.map (·.seq)).head?.getD active.nextOutputSeq) :
    Turn agent (sendJsonFrame (.commandResume active.streamId jobId active.commandVersion
      active.payloadHash number) agent).2 := by
  subst next
  unfold sendJsonFrame
  split <;> exact ⟨.announced jobId active _ _ found (fun _ => rfl) rfl, rfl, rfl⟩

theorem announceResume_turns : Performs Turn (announceResume jobId) agent := by
  refine .read ?_
  cases found : agent.activeCommands.lookup jobId with
  | none => exact .pure ()
  | some active =>
    refine .single (sendResume_turn found ?_)
    cases active.pendingOutputs <;> rfl

theorem resumeActiveCommands_turns : Performs Turn (resumeActiveCommands order) agent := by
  refine .bind (.each (fun _ _ => announceResume_turns) order agent) fun _ agent _ => ?_
  refine .bind (.each (fun _ _ => flushPendingCommandOutputs_turns) order agent) fun _ agent _ => ?_
  exact .update removeFinishedFlushedCommands_turn

theorem handleCommandCancelFrame_turns :
    Performs Turn (handleCommandCancelFrame request) agent := by
  refine .read ?_
  cases agent.activeCommands.lookup request.jobId with
  | none => exact sendPlain_turns (by trivial)
  | some =>
    refine .bind (.update (modifyActive_turn fun _ => ⟨rfl, rfl, rfl, rfl⟩)) fun _ agent _ => ?_
    split <;> exact sendPlain_turns (by trivial)

theorem answerActive_turns :
    Performs Turn (answerActive streamId jobId requestPayloadHash active) agent := by
  unfold answerActive
  split
  · refine .bind (.update (modifyActive_turn fun _ => ⟨rfl, rfl, rfl, rfl⟩)) fun _ agent _ => ?_
    refine .bind (sendPlain_turns (by trivial)) fun _ agent _ => ?_
    refine .bind flushPendingCommandOutputs_turns fun _ agent _ => ?_
    exact .update removeIfFlushed_turn
  · exact sendPlain_turns (by trivial)

variable {handler : Fallible (AgentCommandRuntime Content) Unit}

theorem inSession_turns (performs : ∀ {agent}, Performs Turn handler agent) :
    Relation.ReflTransGen Turn agent (inSession conditions handler agent) :=
  inSession_steps (.recorded rfl rfl rfl rfl) (fun _ => .recorded rfl rfl rfl rfl) performs

/-! ## Outputs and completions -/

variable (platform : Platform Content)

/-- The entry of one active command has been replaced. -/
structure Replaced (jobId : Uuid) (active : ActiveCommand) (before after : AgentCommandRuntime Content) :
    Prop where
  table : ∀ key, after.activeCommands.lookup key =
    if key = jobId then some active else before.activeCommands.lookup key
  attempts : after.attempts = before.attempts

theorem inSession_rest (rest : Fallible (AgentCommandRuntime Content) Unit)
    (handled : handler { agent with writable := conditions.writable } = rest middle)
    (performs : Performs Turn rest middle) :
    Relation.ReflTransGen Turn middle (inSession conditions handler agent) := by
  unfold inSession
  rw [handled]
  unfold Performs at performs
  cases outcome : rest middle with
  | mk result =>
    rw [outcome] at performs
    cases result with
    | some => exact performs
    | none => exact performs.tail (.recorded rfl rfl rfl rfl)

theorem flushAndRemove_turns (jobId : Uuid) : Performs Turn (do
      flushPendingCommandOutputs jobId
      .update AgentCommandRuntime.removeFinishedFlushedCommands) agent :=
  .bind flushPendingCommandOutputs_turns fun _ _ _ => .update removeFinishedFlushedCommands_turn

theorem queueActiveCommandOutput_outcome
    (found : agent.activeCommands.lookup output.jobId = some active) :
    ∃ middle, Replaced output.jobId (active.enqueueOutput platform output) agent middle ∧
      middle.settings = agent.settings ∧
      Relation.ReflTransGen Turn middle
        (inSession conditions (queueActiveCommandOutput platform output) agent) := by
  let opened := { agent with writable := conditions.writable }
  refine ⟨opened.modifyActive output.jobId fun active => active.enqueueOutput platform output,
    ⟨lookup_modifyActive_of_found found, ?_⟩, ?_, inSession_rest _ ?_ (flushAndRemove_turns output.jobId)⟩
  · unfold AgentCommandRuntime.modifyActive
    split <;> rfl
  · unfold AgentCommandRuntime.modifyActive
    split <;> rfl
  · rw [queueActiveCommandOutput, read_bind]
    rw [found]
    rfl

/-- The outputs queued when the command ends; a configuration that cannot be stored turns
    its result into an error. -/
def finalOutputs (conditions : Conditions) (result : CommandExecutionResult Content)
    (agent : AgentCommandRuntime Content) : List CommandOutput :=
  commandResultOutputs platform result.jobId result.operationType result.maxTimeoutSecs
    (acceptRuntimeConfig conditions result agent).1.result

/-- The settings once the updates of a finished command are taken over. -/
def CommandExecutionResult.settingsAfter (result : CommandExecutionResult Content)
    (conditions : Conditions) (settings : Content × Option Nat) : Content × Option Nat :=
  match result.runtimeConfigUpdate with
  | none => (result.configUpdate.getD settings.1, settings.2)
  | some runtimeConfig =>
    match conditions.storeFailure with
    | some _ => settings
    | none => (result.configUpdate.getD settings.1, some runtimeConfig.version)

theorem recordInLedger_turns :
    Performs Turn (recordInLedger platform conditions jobId payloadHash terminalOutput) agent := by
  unfold recordInLedger
  split
  · exact .update (.recorded rfl rfl rfl rfl)
  · exact .fail

/-- Taking over the updates of a command changes the settings only. -/
structure TakesOver (conditions : Conditions) (result taken : CommandExecutionResult Content)
    (before after : AgentCommandRuntime Content) : Prop where
  jobId : taken.jobId = result.jobId
  operationType : taken.operationType = result.operationType
  maxTimeoutSecs : taken.maxTimeoutSecs = result.maxTimeoutSecs
  table : after.activeCommands = before.activeCommands
  attempts : after.attempts = before.attempts
  settings : after.settings = result.settingsAfter conditions before.settings

theorem acceptRuntimeConfig_takesOver (conditions : Conditions)
    (result : CommandExecutionResult Content) (agent : AgentCommandRuntime Content) :
    TakesOver conditions result (acceptRuntimeConfig conditions result agent).1 agent
      (applyConfigUpdate (acceptRuntimeConfig conditions result agent).1
        (acceptRuntimeConfig conditions result agent).2) := by
  unfold acceptRuntimeConfig applyConfigUpdate
  cases update : result.runtimeConfigUpdate with
  | none =>
    cases config : result.configUpdate <;>
      exact ⟨rfl, rfl, rfl, rfl, rfl, by
        rw [CommandExecutionResult.settingsAfter, update, config]; rfl⟩
  | some =>
    cases failure : conditions.storeFailure with
    | some =>
      exact ⟨rfl, rfl, rfl, rfl, rfl, by
        rw [CommandExecutionResult.settingsAfter, update, failure]⟩
    | none =>
      cases config : result.configUpdate <;>
        exact ⟨rfl, rfl, rfl, rfl, rfl, by
          rw [CommandExecutionResult.settingsAfter, update, failure, config]; rfl⟩

/-- The end of an active command takes over its updates, then its last outputs, and then
    records and sends them. -/
theorem handleFinished_active (agent : AgentCommandRuntime Content)
    (found : agent.activeCommands.lookup result.jobId = some active) :
    let completed := active.finish platform (finalOutputs platform conditions result agent)
    ∃ taken applied, TakesOver conditions result taken agent applied ∧
      handleFinished platform conditions result agent = (do
        recordInLedger platform conditions result.jobId completed.payloadHash
          completed.terminalOutput
        flushPendingCommandOutputs result.jobId
        .update AgentCommandRuntime.removeFinishedFlushedCommands)
          (applied.completeActive result.jobId completed) := by
  have took := acceptRuntimeConfig_takesOver conditions result agent
  refine ⟨_, _, took, ?_⟩
  let taken := (acceptRuntimeConfig conditions result agent).1
  let applied := applyConfigUpdate taken (acceptRuntimeConfig conditions result agent).2
  have looked : applied.activeCommands.lookup taken.jobId = some active := by
    rw [took.table, took.jobId]
    exact found
  have handled : handleFinished platform conditions result agent =
      finishActiveCommand platform conditions taken applied := rfl
  rw [handled, finishActiveCommand, read_bind]
  rw [looked]
  dsimp only
  rw [update_bind, took.jobId, took.operationType, took.maxTimeoutSecs]
  rfl

theorem handleFinished_outcome (found : agent.activeCommands.lookup result.jobId = some active) :
    ∃ middle,
      Replaced result.jobId (active.finish platform (finalOutputs platform conditions result
        { agent with writable := conditions.writable })) agent middle ∧
      middle.settings = result.settingsAfter conditions agent.settings ∧
      middle.recentCommands.order.getLast? = some result.jobId ∧
      Relation.ReflTransGen Turn middle
        (inSession conditions (handleFinished platform conditions result) agent) := by
  let opened := { agent with writable := conditions.writable }
  obtain ⟨taken, applied, took, handled⟩ := handleFinished_active platform opened found
  refine ⟨applied.completeActive result.jobId _, ⟨fun key => ?_, took.attempts⟩, took.settings,
    RecentCommandCache.remember_getLast _, inSession_rest _ handled ?_⟩
  · exact (HashMap.lookup_insert_eq _).trans (by rw [took.table])
  · exact .bind (recordInLedger_turns platform) fun _ agent _ => flushAndRemove_turns _

/-! ## Command frames -/

/-- The active table and the settings are as before. -/
structure Leaves (before after : AgentCommandRuntime Content) : Prop where
  table : ∀ key, after.activeCommands.lookup key = before.activeCommands.lookup key
  settings : after.settings = before.settings

theorem Leaves.of_same (table : after.activeCommands = before.activeCommands)
    (settings : after.settings = before.settings) : Leaves before after :=
  ⟨fun _ => by rw [table], settings⟩

theorem Leaves.of_steps (steps : Relation.ReflTransGen Leaves before after) : Leaves before after := by
  induction steps with
  | refl => exact .of_same rfl rfl
  | tail _ last ih =>
    exact ⟨fun key => (last.table key).trans (ih.table key), last.settings.trans ih.settings⟩

variable {result : Option Unit}

theorem Leaves.of_handled (performs : Performs Leaves handler before)
    (handled : handler before = (result, after)) : Leaves before after := by
  have steps := Leaves.of_steps performs
  rwa [handled] at steps

theorem sendJsonFrame_leaves : Performs Leaves (sendJsonFrame message) agent := by
  refine .single ?_
  unfold sendJsonFrame
  split <;> exact .of_same rfl rfl

theorem rememberCompletedCommandOutputs_leaves :
    Performs Leaves
      (rememberCompletedCommandOutputs platform conditions jobId payloadHash outputs) agent := by
  refine .bind (.update (.of_same rfl rfl)) fun _ agent _ => ?_
  unfold recordInLedger
  split
  · exact .update (.of_same rfl rfl)
  · exact .fail

theorem rejectUnsupported_leaves :
    Performs Leaves (rejectUnsupported platform conditions streamId jobId payloadHash output)
      agent :=
  rejectUnsupported_performs platform sendJsonFrame_leaves
    (rememberCompletedCommandOutputs_leaves platform)

theorem executeConfigRead_leaves :
    Performs Leaves (executeConfigRead platform conditions streamId payloadHash request) agent := by
  refine .bind (.update (.of_same rfl rfl)) fun _ agent _ => ?_
  refine .bind (rememberCompletedCommandOutputs_leaves platform) fun _ agent _ => ?_
  exact sendSequencedCommandOutputs_performs sendJsonFrame_leaves

/-- The command of a request is entered into the active table, where it is new and fits in. -/
structure Admits (streamId : Nat) (request : JobRequest Content)
    (before after : AgentCommandRuntime Content) : Prop where
  inactive : before.activeCommands.lookup request.jobId = none
  current : runtimeConfigRejection platform before request.command = none
  fits : exclusiveConflict before (jobCommandSafety request.command) = false
  table : ∀ key, after.activeCommands.lookup key =
    if key = request.jobId then
      some (newActiveCommand streamId (commandPayloadHash platform request.command) request)
    else before.activeCommands.lookup key
  settings : after.settings = before.settings

/-- A command is entered into the table only if its acknowledgement was written. -/
theorem acknowledge_outcome (handled : (sendJsonFrame message >>= fun _ =>
      .update fun agent => agent.start key active) agent = (result, after)) :
    Leaves agent after ∨ result = some () ∧ after.settings = agent.settings ∧
      ∀ jobId, after.activeCommands.lookup jobId =
        if jobId = key then some active else agent.activeCommands.lookup jobId := by
  rw [bind_apply] at handled
  by_cases broken : agent.writable = 0
  · rw [sendJsonFrame, if_pos broken] at handled
    obtain ⟨_, rfl⟩ := Prod.mk.inj handled
    exact .inl (.of_same rfl rfl)
  · rw [sendJsonFrame, if_neg broken] at handled
    obtain ⟨rfl, rfl⟩ := Prod.mk.inj handled
    exact .inr ⟨rfl, rfl, fun jobId => HashMap.lookup_insert_eq _⟩

theorem admitCommand_outcome (inactive : agent.activeCommands.lookup request.jobId = none)
    (handled : admitCommand platform conditions streamId (commandPayloadHash platform request.command)
      request agent = (result, after)) :
    Leaves agent after ∨ result = some () ∧ Admits platform streamId request agent after := by
  rw [admitCommand, read_bind] at handled
  cases current : runtimeConfigRejection platform agent request.command with
  | some =>
    rw [current] at handled
    exact .inl (.of_handled sendJsonFrame_leaves handled)
  | none =>
    rw [current] at handled
    dsimp only at handled
    rw [read_bind] at handled
    cases fits : exclusiveConflict agent (jobCommandSafety request.command) with
    | true =>
      rw [fits, if_pos rfl] at handled
      exact .inl (.of_handled sendJsonFrame_leaves handled)
    | false =>
      rw [fits, if_neg Bool.false_ne_true] at handled
      cases command : request.command with
      | configRead =>
        rw [command] at handled
        refine .inl (.of_handled (.bind sendJsonFrame_leaves fun _ agent _ => ?_) handled)
        exact executeConfigRead_leaves platform
      | runtimeConfigSync | operation =>
        rw [command] at handled current fits
        refine (acknowledge_outcome handled).imp_right ?_
        rintro ⟨succeeds, settings, table⟩
        exact ⟨succeeds, inactive, command ▸ current, command ▸ fits,
          by rw [command]; exact table, settings⟩

theorem handleSupportedRequest_inactive
    (inactive : agent.activeCommands.lookup request.jobId = none)
    (handled : handleSupportedRequest platform conditions streamId request agent =
      (result, after)) :
    Leaves agent after ∨ result = some () ∧ Admits platform streamId request agent after := by
  rw [handleSupportedRequest, read_bind, inactive] at handled
  dsimp only at handled
  rw [read_bind] at handled
  cases recent : agent.recentCommands.get request.jobId with
  | some =>
    rw [recent] at handled
    exact .inl (.of_handled (replayRecent_performs platform sendJsonFrame_leaves) handled)
  | none =>
    rw [recent] at handled
    dsimp only at handled
    rw [bind_apply] at handled
    cases looked : lookupInLedger conditions request.jobId agent with
    | mk found same =>
      rw [looked] at handled
      obtain rfl : same = agent := (congrArg Prod.snd looked).symm.trans lookupInLedger_state
      cases found with
      | none =>
        obtain ⟨_, rfl⟩ := Prod.mk.inj handled
        exact .inl (.of_same rfl rfl)
      | some entry =>
        cases entry with
        | some =>
          exact .inl (.of_handled (replayLedger_performs platform sendJsonFrame_leaves) handled)
        | none => exact admitCommand_outcome platform inactive handled

/-- The frame is for a command in the active table. -/
def CommandFrame.isForActive (frame : CommandFrame Content) (agent : AgentCommandRuntime Content) :
    Bool :=
  match frame.request with
  | some (.supported request) =>
    commandSupportsRequestedProtocol platform request.command request.commandVersion &&
      (agent.activeCommands.lookup request.jobId).isSome
  | some (.unsupported _) | none => false

theorem handleCommandFrame_inactive (inactive : frame.isForActive platform agent = false)
    (handled : handleCommandFrame platform conditions frame agent = (result, after)) :
    Leaves agent after ∨ result = some () ∧ ∃ request, frame.request = some (.supported request) ∧
      Admits platform frame.streamId request agent after := by
  obtain ⟨streamId, decoded⟩ := frame
  match decoded with
  | none => exact .inl (.of_handled .fail handled)
  | some (.unsupported request) =>
    exact .inl (.of_handled (rejectUnsupported_leaves platform) handled)
  | some (.supported request) =>
    by_cases supported : commandSupportsRequestedProtocol platform request.command
      request.commandVersion = true
    · dsimp only [CommandFrame.isForActive] at inactive
      rw [supported, Bool.true_and, Option.isSome_eq_false_iff, Option.isNone_iff_eq_none] at inactive
      rw [handleCommandFrame_supported platform supported] at handled
      refine (handleSupportedRequest_inactive platform inactive
        handled).imp_right fun ⟨succeeds, admits⟩ => ?_
      exact ⟨succeeds, request, rfl, admits⟩
    · have rejected : handleCommandFrame platform conditions ⟨streamId, some (.supported request)⟩ =
          rejectUnsupported platform conditions streamId request.jobId
            (commandPayloadHash platform request.command)
            (unsupportedCommandVersionOutput platform request) := if_neg supported
      rw [rejected] at handled
      exact .inl (.of_handled (rejectUnsupported_leaves platform) handled)

theorem handleCommandFrame_active (active : frame.isForActive platform agent = true) :
    Performs Turn (handleCommandFrame platform conditions frame) agent := by
  obtain ⟨streamId, decoded⟩ := frame
  match decoded with
  | none | some (.unsupported _) => exact absurd active Bool.false_ne_true
  | some (.supported request) =>
    obtain ⟨supported, found⟩ := Bool.and_eq_true_iff.mp active
    obtain ⟨command, found⟩ := Option.isSome_iff_exists.mp found
    rw [handleCommandFrame_supported platform supported, handleSupportedRequest]
    refine .read ?_
    rw [found]
    exact answerActive_turns

/-- Every way in which a frame can be handled within a session. -/
inductive FrameOutcome (frame : CommandFrame Content) (before after : AgentCommandRuntime Content) :
    Prop where
  | answered (active : frame.isForActive platform before = true)
      (turns : Relation.ReflTransGen Turn before after)
  | untouched (inactive : frame.isForActive platform before = false) (leaves : Leaves before after)
  | admitted (request : JobRequest Content) (carried : frame.request = some (.supported request))
      (inactive : frame.isForActive platform before = false)
      (admits : Admits platform frame.streamId request before after)

theorem handleCommandFrame_outcome :
    FrameOutcome platform frame agent
      (inSession conditions (handleCommandFrame platform conditions frame) agent) := by
  let opened := { agent with writable := conditions.writable }
  cases active : frame.isForActive platform agent with
  | true =>
    refine .answered active (inSession_steps (.recorded rfl rfl rfl rfl)
      (fun _ => .recorded rfl rfl rfl rfl) ?_)
    exact handleCommandFrame_active platform active
  | false =>
    unfold inSession
    cases handled : handleCommandFrame platform conditions frame opened with
    | mk result =>
      have inactive : frame.isForActive platform opened = false := active
      rcases handleCommandFrame_inactive platform inactive handled with
        leaves | ⟨rfl, request, carried, admits⟩
      · cases result <;> exact .untouched active ⟨leaves.table, leaves.settings⟩
      · exact .admitted request carried active ⟨admits.inactive, admits.current, admits.fits,
          admits.table, admits.settings⟩

end Vpsman.Agent
