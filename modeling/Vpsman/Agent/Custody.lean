import Vpsman.Agent.Handler

/-! # Who holds a job

A job is held while its task runs or the recent cache or the ledger has an entry for it.
Every change a handler makes keeps a held job held, unless an eviction takes its last
entry, and a command is only started when its job is not held.
-/

namespace Vpsman.Agent

open Vpsman.Lib

variable {Content : Type} {jobId : Uuid} {before after agent : AgentCommandRuntime Content}

namespace AgentCommandRuntime

theorem Held.known (held : agent.Held jobId) :
    jobId ∈ agent.activeCommands ∨ (agent.recentCommands.get jobId).isSome ∨
      agent.commandLedger.Holds jobId := by
  rcases held with ⟨active, found, _⟩ | recent | ledger
  · exact .inl (AList.lookup_isSome.mp (found ▸ rfl))
  · exact .inr (.inl (agent.recentCommands.get_isSome.mpr recent))
  · exact .inr (.inr ledger)

end AgentCommandRuntime

/-- The job is not started, and it stays held unless it is forgotten. -/
def Keeps (jobId : Uuid) (before after : AgentCommandRuntime Content) : Prop :=
  ∃ events, after.log = events ++ before.log ∧ .started jobId ∉ events ∧
    (.forgotten jobId ∉ events → before.Held jobId → after.Held jobId)

/-- The job, which was not held, is started and then held. -/
def Starts (jobId : Uuid) (before after : AgentCommandRuntime Content) : Prop :=
  ¬ before.Held jobId ∧ after.Held jobId ∧
    ∃ events, after.log = events ++ .started jobId :: before.log ∧ .started jobId ∉ events

def Custody (jobId : Uuid) (before after : AgentCommandRuntime Content) : Prop :=
  Keeps jobId before after ∨ Starts jobId before after

theorem Keeps.quiet (sameLog : after.log = before.log)
    (held : before.Held jobId → after.Held jobId) : Keeps jobId before after :=
  ⟨[], sameLog, List.not_mem_nil, fun _ => held⟩

/-! ## Changes of the tables -/

namespace AgentCommandRuntime

theorem noteEvicted_log :
    ∃ events, (agent.noteEvicted event evicted).log = events ++ agent.log ∧
      (∀ noted ∈ events, ∃ key, noted = .forgotten key ∨ noted = event key) ∧
      ∀ key ∈ evicted, .forgotten key ∉ events → agent.Held key := by
  refine ⟨_, rfl, ?_, ?_⟩
  · intro noted member
    obtain ⟨key, _, member⟩ := List.mem_flatMap.mp member
    rcases List.mem_append.mp member with forgotten | same
    · split at forgotten
      · exact absurd forgotten List.not_mem_nil
      · exact ⟨key, .inl (List.mem_singleton.mp forgotten)⟩
    · exact ⟨key, .inr (List.mem_singleton.mp same)⟩
  · intro key member unforgotten
    by_contra unheld
    refine unforgotten (List.mem_flatMap.mpr ⟨key, member, List.mem_append_left _ ?_⟩)
    rw [if_neg unheld]
    exact List.mem_singleton_self _

/-- Evictions keep every held job that they do not name, and log those they forget. -/
theorem noteEvicted_keeps
    (sameLog : agent.log = before.log) (other : ∀ key, event key ≠ .started jobId)
    (held : before.Held jobId → agent.Held jobId ∨ jobId ∈ evicted) :
    Keeps jobId before (agent.noteEvicted event evicted) := by
  obtain ⟨events, log, noted, kept⟩ := noteEvicted_log
  refine ⟨events, sameLog ▸ log, ?_, fun unforgotten earlier => ?_⟩
  · intro started
    obtain ⟨key, forgotten | evicted⟩ := noted _ started
    · simp at forgotten
    · exact other key evicted.symm
  · rcases held earlier with still | gone
    · exact still
    · exact kept jobId gone unforgotten

theorem rememberRecent_keeps (sameLog : agent.log = before.log)
    (held : before.Held jobId → jobId = key ∨ agent.Held jobId) :
    Keeps jobId before (agent.rememberRecent key payloadHash outputs terminalOutput truncated) := by
  refine noteEvicted_keeps sameLog (fun _ => by simp) fun earlier => ?_
  rcases held earlier with rfl | running | recent | ledger
  · exact .inl (.inr (.inl (RecentCommandCache.remember_mem _)))
  · exact .inl (.inl running)
  · by_cases same : jobId = key
    · subst same
      exact .inl (.inr (.inl (RecentCommandCache.remember_mem _)))
    · rcases agent.recentCommands.remember_keeps_or_evicts recent same with kept | evicted
      · exact .inl (.inr (.inl kept))
      · exact .inr evicted
  · exact .inl (.inr (.inr ledger))

theorem rememberRecent_log :
    ∃ events, (agent.rememberRecent jobId payloadHash outputs terminalOutput truncated).log =
        events ++ agent.log ∧
      ∀ noted ∈ events, ∃ key, noted = .forgotten key ∨ noted = .evictedFromRecent key := by
  obtain ⟨events, log, noted, _⟩ := noteEvicted_log
  exact ⟨events, log, noted⟩

theorem rememberRecent_held :
    (agent.rememberRecent jobId payloadHash outputs terminalOutput truncated).Held jobId :=
  .inr (.inl (RecentCommandCache.remember_mem _))

theorem cleanupLedger_keeps :
    Keeps jobId agent (agent.cleanupLedger now unreadable undeletable) := by
  refine noteEvicted_keeps rfl (fun _ => by simp) fun earlier => ?_
  rcases earlier with running | recent | ⟨entry, found⟩
  · exact .inl (.inl running)
  · exact .inl (.inr (.inl recent))
  have swept := HashMap.lookup_retain (fun key _ => key ∉
    agent.commandLedger.surplus now unreadable ∨ key ∈ undeletable) agent.commandLedger jobId
  cases stored : agent.commandLedger.lookup jobId with
  | none => simp [CommandLedger.lookupEntry, stored] at found
  | some file =>
    rw [stored, Option.filter_some] at swept
    split at swept
    · refine .inl (.inr (.inr ⟨entry, ?_⟩))
      rw [CommandLedger.lookupEntry, stored] at found
      rw [CommandLedger.lookupEntry, CommandLedger.cleanup, swept]
      exact found
    · refine .inr (List.mem_filter.mpr ⟨?_, ?_⟩)
      · exact (HashMap.mem_keys_iff_lookup _).mpr ⟨file, stored⟩
      · rw [CommandLedger.cleanup, swept]
        rfl

/-- A change of an active command that does not touch its `finished` flag keeps all jobs. -/
theorem modifyActive_keeps (unfinished : ∀ active, (f active).finished = active.finished) :
    Keeps jobId agent (agent.modifyActive key f) := by
  unfold modifyActive
  cases found : agent.activeCommands.lookup key with
  | none => exact Keeps.quiet rfl id
  | some active =>
    refine Keeps.quiet rfl fun held => ?_
    rcases held with ⟨running, stored, ongoing⟩ | recorded
    · by_cases same : jobId = key
      · subst same
        obtain rfl := Option.some_inj.mp (found.symm.trans stored)
        exact .inl ⟨f active, AList.lookup_insert _, (unfinished active).trans ongoing⟩
      · exact .inl ⟨running, (AList.lookup_insert_ne same).trans stored, ongoing⟩
    · exact .inr recorded

theorem removeFinishedFlushedCommands_keeps :
    Keeps jobId agent agent.removeFinishedFlushedCommands := by
  refine Keeps.quiet rfl fun held => ?_
  rcases held with ⟨active, stored, ongoing⟩ | recorded
  · refine .inl ⟨active, ?_, ongoing⟩
    rw [removeFinishedFlushedCommands, HashMap.lookup_retain, stored]
    simp [ongoing]
  · exact .inr recorded

theorem removeIfFlushed_keeps : Keeps jobId agent (agent.removeIfFlushed key) := by
  unfold removeIfFlushed
  cases found : agent.activeCommands.lookup key with
  | none => exact Keeps.quiet rfl id
  | some =>
    dsimp only
    split
    next flushed =>
      refine Keeps.quiet rfl fun held => ?_
      rcases held with ⟨running, stored, ongoing⟩ | recorded
      · have other : jobId ≠ key := by
          rintro rfl
          obtain rfl := Option.some_inj.mp (found.symm.trans stored)
          simp [ongoing] at flushed
        exact .inl ⟨running, (AList.lookup_erase_ne other).trans stored, ongoing⟩
      · exact .inr recorded
    · exact Keeps.quiet rfl id

theorem completeActive_keeps : Keeps jobId agent (agent.completeActive key completed) := by
  refine rememberRecent_keeps rfl fun held => ?_
  by_cases same : jobId = key
  · exact .inl same
  · rcases held with ⟨running, stored, ongoing⟩ | recorded
    · exact .inr (.inl ⟨running, (AList.lookup_insert_ne same).trans stored, ongoing⟩)
    · exact .inr (.inr recorded)

end AgentCommandRuntime

/-! ## Handlers -/

open Fallible AgentCommandRuntime

variable (platform : Platform Content)

theorem performs_update
    (keeps : Keeps jobId agent (f agent)) : Performs (Custody jobId) (.update f) agent :=
  .update (.inl keeps)

theorem sendJsonFrame_held :
    (sendJsonFrame message agent).2.Held jobId ↔ agent.Held jobId := by
  unfold sendJsonFrame
  split <;> exact Iff.rfl

theorem sendJsonFrame_performs : Performs (Custody jobId) (sendJsonFrame message) agent := by
  refine .single (.inl (Keeps.quiet ?_ sendJsonFrame_held.mpr))
  unfold sendJsonFrame
  split <;> rfl

theorem flush_performs : Performs (Custody jobId) (flushPendingCommandOutputs key) agent :=
  flushPendingCommandOutputs_performs sendJsonFrame_performs
    (.inl (modifyActive_keeps fun _ => rfl)) agent

theorem announceResume_performs :
    Performs (Custody jobId) (announceResume key) agent := by
  refine .read ?_
  cases agent.activeCommands.lookup key with
  | none => exact .pure ()
  | some => exact sendJsonFrame_performs

theorem resumeActiveCommands_performs :
    Performs (Custody jobId) (resumeActiveCommands order) agent := by
  refine .bind (.each (fun _ _ => announceResume_performs) order agent) fun _ agent _ => ?_
  refine .bind (.each (fun _ _ => flush_performs) order agent) fun _ agent _ => ?_
  exact performs_update removeFinishedFlushedCommands_keeps

theorem enqueueOutput_effect (active : ActiveCommand) (output : CommandOutput) :
    let queued := active.enqueueOutput platform output
    queued.finished = active.finished ∧ queued.safety = active.safety ∧
      queued.pendingOutputs = active.pendingOutputs ++ [⟨active.nextOutputSeq, output⟩] ∧
      queued.nextOutputSeq = nextSeq active.nextOutputSeq 1 := by
  unfold ActiveCommand.enqueueOutput ActiveCommand.captureReplayOutput
  dsimp only
  split_ifs <;> exact ⟨rfl, rfl, rfl, rfl⟩

theorem queueActiveCommandOutput_performs :
    Performs (Custody jobId) (queueActiveCommandOutput platform output) agent := by
  refine .read ?_
  cases agent.activeCommands.lookup output.jobId with
  | none => exact .pure ()
  | some active =>
    refine .bind (performs_update (modifyActive_keeps fun active =>
      (enqueueOutput_effect platform active output).1)) fun _ agent _ => ?_
    refine .bind flush_performs fun _ agent _ => ?_
    exact performs_update removeFinishedFlushedCommands_keeps

theorem recordInLedger_performs :
    Performs (Custody jobId) (recordInLedger platform conditions key payloadHash terminalOutput)
      agent := by
  unfold recordInLedger
  split
  · refine performs_update (Keeps.quiet rfl fun held => ?_)
    rcases held with running | recent | ledger
    · exact .inl running
    · exact .inr (.inl recent)
    · exact .inr (.inr (CommandLedger.record_holds_other platform ledger))
  · exact .fail

theorem finishActiveCommand_performs :
    Performs (Custody jobId) (finishActiveCommand platform conditions result) agent := by
  refine .read ?_
  cases agent.activeCommands.lookup result.jobId with
  | none => exact .pure ()
  | some =>
    refine .bind (performs_update completeActive_keeps) fun _ agent _ => ?_
    refine .bind (recordInLedger_performs platform) fun _ agent _ => ?_
    refine .bind flush_performs fun _ agent _ => ?_
    exact performs_update removeFinishedFlushedCommands_keeps

theorem acceptRuntimeConfig_keeps :
    Keeps jobId agent (acceptRuntimeConfig conditions result agent).2 := by
  unfold acceptRuntimeConfig
  split
  · exact Keeps.quiet rfl id
  · split <;> exact Keeps.quiet rfl id

theorem applyConfigUpdate_keeps : Keeps jobId agent (applyConfigUpdate result agent) := by
  unfold applyConfigUpdate
  split <;> exact Keeps.quiet rfl id

theorem handleFinished_performs :
    Performs (Custody jobId) (handleFinished platform conditions result) agent := by
  let accepted := acceptRuntimeConfig conditions result agent
  have taken : Keeps jobId agent accepted.2 := acceptRuntimeConfig_keeps
  have applied : Keeps jobId accepted.2 (applyConfigUpdate accepted.1 accepted.2) :=
    applyConfigUpdate_keeps
  exact .head (.inl taken) (.head (.inl applied) (finishActiveCommand_performs platform))

theorem reject_performs :
    Performs (Custody jobId)
      (rejectUnsupported platform conditions streamId key payloadHash output) agent := by
  refine rejectUnsupported_performs platform sendJsonFrame_performs
    (.bind (performs_update ?_) fun _ agent _ => ?_)
  · exact rememberRecent_keeps rfl .inr
  · exact recordInLedger_performs platform

theorem answerActive_performs :
    Performs (Custody jobId) (answerActive streamId key requestPayloadHash active) agent := by
  unfold answerActive
  split
  · refine .bind (performs_update (modifyActive_keeps fun _ => rfl)) fun _ agent _ => ?_
    refine .bind sendJsonFrame_performs fun _ agent _ => ?_
    refine .bind flush_performs fun _ agent _ => ?_
    exact performs_update removeIfFlushed_keeps
  · exact sendJsonFrame_performs

theorem handleCommandCancelFrame_performs :
    Performs (Custody jobId) (handleCommandCancelFrame request) agent := by
  refine .read ?_
  cases agent.activeCommands.lookup request.jobId with
  | none => exact sendJsonFrame_performs
  | some =>
    refine .bind (performs_update (modifyActive_keeps fun _ => rfl)) fun _ agent _ => ?_
    split <;> exact sendJsonFrame_performs

/-! ## Starting a command -/

theorem start_starts (unheld : ¬ agent.Held jobId)
    (ongoing : active.finished = false) : Starts jobId agent (agent.start jobId active) :=
  ⟨unheld, .inl ⟨active, AList.lookup_insert _, ongoing⟩, [], rfl, List.not_mem_nil⟩

/-- Only the job of the request is started, and only when it is not held. -/
theorem start_custody {request : JobRequest Content} (unheld : ¬ agent.Held request.jobId) :
    Custody jobId agent
      (agent.start request.jobId (newActiveCommand streamId payloadHash request)) := by
  by_cases same : jobId = request.jobId
  · rw [same]
    exact .inr (start_starts unheld rfl)
  · refine .inl ⟨[.started request.jobId], rfl, by simpa using same, fun _ held => ?_⟩
    rcases held with ⟨running, stored, ongoing⟩ | recorded
    · exact .inl ⟨running, (AList.lookup_insert_ne same).trans stored, ongoing⟩
    · exact .inr recorded

theorem runInline_custody (unheld : ¬ agent.Held key) :
    Custody jobId agent ({ agent with log := .started key :: agent.log }.rememberRecent key
      payloadHash outputs terminalOutput truncated) := by
  let started := { agent with log := .started key :: agent.log }
  by_cases same : jobId = key
  · subst same
    obtain ⟨events, log, noted⟩ := @rememberRecent_log _ jobId started _ _ _ _
    refine .inr ⟨unheld, rememberRecent_held, events, log, fun again => ?_⟩
    obtain ⟨key, forgotten | evicted⟩ := noted _ again
    · simp at forgotten
    · simp at evicted
  · have keeps : Keeps jobId started
        (started.rememberRecent key payloadHash outputs terminalOutput truncated) :=
      rememberRecent_keeps rfl .inr
    obtain ⟨events, log, quiet, held⟩ := keeps
    refine .inl ⟨events ++ [.started key], ?_, ?_, ?_⟩
    · rw [log, List.append_assoc, List.singleton_append]
    · simp [quiet, same]
    · intro unforgotten earlier
      exact held (fun lost => unforgotten (List.mem_append_left _ lost)) earlier

theorem executeConfigRead_performs (unheld : ¬ agent.Held request.jobId) :
    Performs (Custody jobId) (executeConfigRead platform conditions streamId payloadHash request)
      agent := by
  let outputs := sequencedOutputsStartingAt 0 (commandResultOutputs platform request.jobId
    "config_read" (max 1 (min request.maxTimeoutSecs maxConfigurableJobTimeoutSecs))
    conditions.configRead)
  let terminalOutput := terminalReplayOutputFrom platform outputs
  have remembered : ∀ agent : AgentCommandRuntime Content, Performs (Custody jobId)
      (recordInLedger platform conditions request.jobId payloadHash terminalOutput >>= fun _ =>
        sendSequencedCommandOutputs streamId outputs) agent := fun agent =>
    .bind (recordInLedger_performs platform) fun _ agent _ =>
      sendSequencedCommandOutputs_performs sendJsonFrame_performs
  exact .head (runInline_custody unheld) (remembered _)

theorem admitCommand_performs (unheld : ¬ agent.Held request.jobId) :
    Performs (Custody jobId) (admitCommand platform conditions streamId payloadHash request) agent := by
  refine .read ?_
  cases runtimeConfigRejection platform agent request.command with
  | some => exact sendJsonFrame_performs
  | none =>
    refine .read ?_
    split
    · exact sendJsonFrame_performs
    refine .bind sendJsonFrame_performs fun _ acked sent => ?_
    have unheld : ¬ acked.Held request.jobId := by
      obtain rfl : (sendJsonFrame _ agent).2 = acked := congrArg Prod.snd sent
      exact sendJsonFrame_held.not.mpr unheld
    split
    · exact executeConfigRead_performs platform unheld
    all_goals exact .update (start_custody unheld)

theorem lookupInLedger_spec (found : lookupInLedger conditions key before = (some entry, after)) :
    after = before ∧ before.commandLedger.lookupEntry key = some entry := by
  rw [lookupInLedger, Fallible.read_bind] at found
  cases stored : before.commandLedger.lookupEntry key with
  | none => simp [stored, Fallible.fail] at found
  | some =>
    rw [stored] at found
    dsimp only at found
    split at found
    · obtain ⟨rfl, rfl⟩ := by simpa using found
      exact ⟨rfl, rfl⟩
    · simp [Fallible.fail] at found

theorem lookupInLedger_state : (lookupInLedger conditions key agent).2 = agent := by
  rw [lookupInLedger, Fallible.read_bind]
  cases agent.commandLedger.lookupEntry key with
  | none => rfl
  | some =>
    split <;> rfl

theorem lookupInLedger_performs :
    Performs (Custody jobId) (lookupInLedger conditions key) agent := by
  unfold Performs
  rw [lookupInLedger_state]

theorem handleSupportedRequest_performs :
    Performs (Custody jobId) (handleSupportedRequest platform conditions streamId request)
      agent := by
  refine .read ?_
  cases inactive : agent.activeCommands.lookup request.jobId with
  | some => exact answerActive_performs
  | none =>
    refine Performs.read ?_
    cases unremembered : agent.recentCommands.get request.jobId with
    | some => exact replayRecent_performs platform sendJsonFrame_performs
    | none =>
      refine Performs.bind lookupInLedger_performs fun entry same found => ?_
      obtain ⟨rfl, unrecorded⟩ := lookupInLedger_spec found
      cases entry with
      | some => exact replayLedger_performs platform sendJsonFrame_performs
      | none =>
        refine admitCommand_performs platform ?_
        rintro (⟨active, stored, _⟩ | recent | ⟨entry, stored⟩)
        · simp [inactive] at stored
        · rw [← RecentCommandCache.get_isSome, unremembered] at recent
          simp at recent
        · simp [unrecorded] at stored

theorem handleCommandFrame_performs :
    Performs (Custody jobId) (handleCommandFrame platform conditions frame) agent := by
  unfold handleCommandFrame
  split
  · exact .fail
  · exact reject_performs platform
  · split
    · exact handleSupportedRequest_performs platform
    · exact reject_performs platform

/-! ## Steps -/

theorem inSession_custody (performs : ∀ {agent}, Performs (Custody jobId) handler agent) :
    Relation.ReflTransGen (Custody jobId) agent (inSession conditions handler agent) :=
  inSession_steps (.inl (Keeps.quiet rfl id)) (fun _ => .inl (Keeps.quiet rfl id)) performs

/-- Whatever a step does to a job, it does by keeping or starting it. -/
theorem step_custody (stepped : step platform before action = some after) :
    Relation.ReflTransGen (Custody jobId) before after := by
  cases action with
  | connect conditions seq =>
    obtain ⟨-, rfl⟩ := guard_some stepped
    have connected : Custody jobId before { before with connected := true, seq := seq } :=
      .inl (Keeps.quiet rfl id)
    exact .head connected (inSession_custody resumeActiveCommands_performs)
  | commandFrame conditions frame =>
    obtain ⟨-, rfl⟩ := guard_some stepped
    exact inSession_custody (handleCommandFrame_performs platform)
  | cancelFrame _ request =>
    obtain ⟨-, rfl⟩ := guard_some stepped
    exact inSession_custody handleCommandCancelFrame_performs
  | output _ output =>
    obtain ⟨-, rfl⟩ := guard_some stepped
    exact inSession_custody (queueActiveCommandOutput_performs platform)
  | finished conditions result =>
    obtain ⟨-, rfl⟩ := guard_some stepped
    exact inSession_custody (handleFinished_performs platform)
  | disconnect =>
    obtain ⟨-, rfl⟩ := guard_some stepped
    exact .single (.inl (Keeps.quiet rfl id))
  | cleanup =>
    cases stepped
    exact .single (.inl cleanupLedger_keeps)

end Vpsman.Agent
