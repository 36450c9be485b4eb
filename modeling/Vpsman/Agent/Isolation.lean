import Vpsman.Agent.AtMostOnce

/-! # Frames for a job the agent knows

A frame that names a known job is answered from what is stored about the job: it neither
touches the records of the job nor makes up a final output for it. The exception are
frames this agent does not support, which are rejected before the tables are looked at.
-/

namespace Vpsman.Agent

open Vpsman.Lib Fallible

variable {Content : Type} {jobId : Uuid} {own : SequencedCommandOutput → Prop}
  {before middle after agent : AgentCommandRuntime Content}

namespace AgentCommandRuntime

/-- The job is in the active table, the recent cache or the ledger. -/
def Known (agent : AgentCommandRuntime Content) (jobId : Uuid) : Prop :=
  jobId ∈ agent.activeCommands ∨ (agent.recentCommands.get jobId).isSome ∨
    agent.commandLedger.Holds jobId

instance (agent : AgentCommandRuntime Content) (jobId : Uuid) : Decidable (agent.Known jobId) :=
  inferInstanceAs (Decidable (_ ∨ _ ∨ _))

/-- The output waits to be sent for the job, or is part of one of its records. -/
def Owns (agent : AgentCommandRuntime Content) (jobId : Uuid) (output : SequencedCommandOutput) :
    Prop :=
  (∃ active ∈ agent.activeCommands.lookup jobId, output ∈ active.pendingOutputs) ∨
    (∃ entry ∈ agent.recentCommands.get jobId,
      output ∈ entry.outputs ∨ output ∈ entry.terminalOutput) ∨
    ∃ entry ∈ (agent.commandLedger.lookupEntry jobId).join, output ∈ entry.terminalOutput

instance (agent : AgentCommandRuntime Content) (jobId : Uuid) (output : SequencedCommandOutput) :
    Decidable (agent.Owns jobId output) :=
  inferInstanceAs (Decidable (_ ∨ _ ∨ _))

/-- A final output is stored where the answer to a frame with this payload falls back to it:
    the acknowledgement is written, the job is not active, and it is replayed from a truncated
    cache entry or from the ledger. -/
structure KeepsFinalOutput (agent : AgentCommandRuntime Content) (conditions : Conditions)
    (jobId : Uuid) (payloadHash : String) : Prop where
  recent : agent.writable ≠ 0 → jobId ∉ agent.activeCommands →
    ∀ entry ∈ agent.recentCommands.get jobId, entry.payloadHash = payloadHash →
      entry.truncated = true → entry.terminalOutput.isSome
  ledger : agent.writable ≠ 0 → jobId ∉ agent.activeCommands → agent.recentCommands.get jobId = none →
    conditions.ledgerReadable = true →
      ∀ entry ∈ (agent.commandLedger.lookupEntry jobId).join, entry.payloadHash = payloadHash →
        entry.terminalOutput.isSome

end AgentCommandRuntime

/-- The records of the job are unchanged, and the final outputs that were tried to send are
    among its own. -/
structure Isolates (jobId : Uuid) (own : SequencedCommandOutput → Prop)
    (before after : AgentCommandRuntime Content) : Prop where
  recent : after.recentCommands.get jobId = before.recentCommands.get jobId
  ledger : after.commandLedger.lookup jobId = before.commandLedger.lookup jobId
  sent : ∃ sent, after.attempts = sent ++ before.attempts ∧
    ∀ attempt ∈ sent, ∀ streamId output, attempt.message = .commandOutput streamId output →
      output.output.done = true → own output

theorem Isolates.quiet (recent : after.recentCommands = before.recentCommands)
    (ledger : after.commandLedger = before.commandLedger)
    (attempts : after.attempts = before.attempts) : Isolates jobId own before after :=
  ⟨by rw [recent], by rw [ledger], [], attempts, fun _ member => absurd member List.not_mem_nil⟩

theorem Isolates.trans (first : Isolates jobId own before middle)
    (second : Isolates jobId own middle after) : Isolates jobId own before after := by
  obtain ⟨early, earlyAttempts, earlyOwn⟩ := first.sent
  obtain ⟨late, lateAttempts, lateOwn⟩ := second.sent
  refine ⟨second.recent.trans first.recent, second.ledger.trans first.ledger, late ++ early, ?_, ?_⟩
  · rw [lateAttempts, earlyAttempts, List.append_assoc]
  · intro attempt member
    rcases List.mem_append.mp member with new | old
    · exact lateOwn attempt new
    · exact earlyOwn attempt old

theorem Isolates.of_steps (steps : Relation.ReflTransGen (Isolates jobId own) before after) :
    Isolates jobId own before after := by
  induction steps with
  | refl => exact .quiet rfl rfl rfl
  | tail _ step ih => exact ih.trans step

/-! ## Answers -/

theorem sendJsonFrame_isolates
    (owned : ∀ streamId output, message = .commandOutput streamId output →
      output.output.done = true → own output) :
    Performs (Isolates jobId own) (sendJsonFrame message) agent := by
  refine .single ?_
  unfold sendJsonFrame
  split
  all_goals
    refine ⟨rfl, rfl, [_], rfl, fun attempt member => ?_⟩
    rw [List.mem_singleton.mp member]
    exact owned

theorem writable_of_sent (sent : sendJsonFrame message agent = (some done, after)) :
    agent.writable ≠ 0 := by
  intro closed
  rw [sendJsonFrame, if_pos closed] at sent
  cases sent

theorem sendAck_isolates :
    Performs (Isolates jobId own) (sendJsonFrame (.commandAck streamId key accepted text)) agent :=
  sendJsonFrame_isolates nofun

theorem sendSequencedCommandPayload_isolates (owned : own output) :
    Performs (Isolates jobId own) (sendSequencedCommandPayload streamId output) agent := by
  refine sendJsonFrame_isolates fun _ sent same _ => ?_
  injection same with _ same
  exact same ▸ owned

theorem modifyActive_isolates : Isolates jobId own agent (agent.modifyActive key f) := by
  unfold AgentCommandRuntime.modifyActive
  split <;> exact .quiet rfl rfl rfl

theorem removeIfFlushed_isolates : Isolates jobId own agent (agent.removeIfFlushed key) := by
  unfold AgentCommandRuntime.removeIfFlushed
  split
  · exact .quiet rfl rfl rfl
  · split <;> exact .quiet rfl rfl rfl

theorem sendSequencedCommandOutputs_isolates (streamId : Nat) :
    ∀ (outputs : List SequencedCommandOutput) (agent : AgentCommandRuntime Content),
      (∀ output ∈ outputs, own output) →
      Performs (Isolates jobId own) (sendSequencedCommandOutputs streamId outputs) agent
  | [], _, _ => .pure ()
  | output :: rest, _, owned =>
    .bind (sendSequencedCommandPayload_isolates (owned output List.mem_cons_self))
      fun _ agent _ => sendSequencedCommandOutputs_isolates streamId rest agent
        fun later member => owned later (List.mem_cons_of_mem output member)

theorem flushOutputs_isolates (key : Uuid) (streamId : Nat) :
    ∀ (pending : List SequencedCommandOutput) (agent : AgentCommandRuntime Content),
      (∀ output ∈ pending, own output) →
      Performs (Isolates jobId own) (flushOutputs key streamId pending) agent
  | [], _, _ => .pure ()
  | output :: rest, _, owned =>
    .bind (sendSequencedCommandPayload_isolates (owned output List.mem_cons_self))
      fun _ _ _ => .bind (.update modifyActive_isolates) fun _ agent _ =>
        flushOutputs_isolates key streamId rest agent
          fun later member => owned later (List.mem_cons_of_mem output member)

/-- The active command still has all its pending outputs when they are flushed. -/
theorem flushPendingCommandOutputs_isolates
    (owned : ∀ active ∈ agent.activeCommands.lookup key, ∀ output ∈ active.pendingOutputs,
      own output) : Performs (Isolates jobId own) (flushPendingCommandOutputs key) agent := by
  refine .read ?_
  cases found : agent.activeCommands.lookup key with
  | none => exact .pure ()
  | some active =>
    exact flushOutputs_isolates key active.streamId active.pendingOutputs agent (owned active found)

theorem sendJsonFrame_active (message : Message) (agent : AgentCommandRuntime Content) :
    (sendJsonFrame message agent).2.activeCommands = agent.activeCommands := by
  unfold sendJsonFrame
  split <;> rfl

theorem answerActive_isolates (found : agent.activeCommands.lookup jobId = some active)
    (owned : ∀ output ∈ active.pendingOutputs, own output) :
    Performs (Isolates jobId own) (answerActive streamId jobId requestPayloadHash active) agent := by
  unfold answerActive
  split
  · refine .bind (.update modifyActive_isolates) fun _ moved movedTo => ?_
    refine .bind sendAck_isolates fun _ acked ackedAs => ?_
    refine .bind (flushPendingCommandOutputs_isolates ?_) fun _ flushed _ => ?_
    · -- the command was only given the new stream id
      have table : acked.activeCommands.lookup jobId = some { active with streamId := streamId } := by
        have kept := sendJsonFrame_active
          (.commandAck streamId jobId true "duplicate job already active") moved
        rw [ackedAs] at kept
        obtain ⟨_, rfl⟩ := Prod.mk.inj movedTo
        rw [kept, AgentCommandRuntime.lookup_modifyActive, if_pos rfl, found, Option.map_some]
      intro stored same
      obtain rfl := Option.some_inj.mp (table.symm.trans same)
      exact owned
    · exact .update removeIfFlushed_isolates
  · exact sendAck_isolates

variable (platform : Platform Content)

theorem replayRecent_isolates
    (owned : ∀ output, output ∈ completed.outputs ∨ output ∈ completed.terminalOutput → own output)
    (final : agent.writable ≠ 0 → completed.payloadHash = requestPayloadHash →
      completed.truncated = true → completed.terminalOutput.isSome) :
    Performs (Isolates jobId own)
      (replayRecent platform streamId jobId requestPayloadHash completed) agent := by
  unfold replayRecent
  split
  next same =>
    refine .bind sendAck_isolates fun _ acked sent => ?_
    split
    next truncated =>
      obtain ⟨output, stored⟩ :=
        Option.isSome_iff_exists.mp (final (writable_of_sent sent) same truncated)
      rw [stored]
      exact sendSequencedCommandPayload_isolates (owned output (.inr stored))
    · exact sendSequencedCommandOutputs_isolates streamId completed.outputs acked
        fun output member => owned output (.inl member)
  · exact sendAck_isolates

theorem replayLedger_isolates (owned : ∀ output ∈ completed.terminalOutput, own output)
    (final : agent.writable ≠ 0 → completed.payloadHash = requestPayloadHash →
      completed.terminalOutput.isSome) :
    Performs (Isolates jobId own)
      (replayLedger platform streamId jobId requestPayloadHash completed) agent := by
  unfold replayLedger
  split
  next same =>
    refine .bind sendAck_isolates fun _ acked sent => ?_
    obtain ⟨output, stored⟩ := Option.isSome_iff_exists.mp (final (writable_of_sent sent) same)
    rw [stored]
    exact sendSequencedCommandPayload_isolates (owned output stored)
  · exact sendAck_isolates

theorem handleSupportedRequest_isolates (known : agent.Known request.jobId)
    (final : agent.KeepsFinalOutput conditions request.jobId
      (commandPayloadHash platform request.command)) :
    Performs (Isolates request.jobId (agent.Owns request.jobId))
      (handleSupportedRequest platform conditions streamId request) agent := by
  refine .read ?_
  cases active : agent.activeCommands.lookup request.jobId with
  | some command =>
    exact answerActive_isolates active fun output pending => .inl ⟨command, active, pending⟩
  | none =>
    have inactive : request.jobId ∉ agent.activeCommands := AList.lookup_eq_none.mp active
    refine .read ?_
    cases recent : agent.recentCommands.get request.jobId with
    | some completed =>
      exact replayRecent_isolates platform
        (fun output stored => .inr (.inl ⟨completed, recent, stored⟩))
        (fun written => final.recent written inactive completed recent)
    | none =>
      obtain ⟨entry, ledger⟩ : agent.commandLedger.Holds request.jobId := by
        rcases known with inTable | inCache | inLedger
        · exact absurd inTable inactive
        · rw [recent] at inCache
          cases inCache
        · exact inLedger
      have looked : lookupInLedger conditions request.jobId agent =
          if conditions.ledgerReadable then (some (some entry), agent) else (none, agent) := by
        rw [lookupInLedger, read_bind, ledger]
        split <;> rfl
      have stored : entry ∈ (agent.commandLedger.lookupEntry request.jobId).join := by
        rw [ledger]
        rfl
      refine .bind ?_ fun found same unfailing => ?_
      · unfold Performs
        rw [looked]
        split <;> exact .refl
      · rw [looked] at unfailing
        split at unfailing
        next readable =>
          obtain ⟨foundEntry, rfl⟩ := Prod.mk.inj unfailing
          obtain rfl := Option.some_inj.mp foundEntry
          exact replayLedger_isolates platform
            (fun output member => .inr (.inr ⟨entry, stored, member⟩))
            (fun written => final.ledger written inactive recent readable entry stored)
        · simp at unfailing

/-- A supported frame for a known job leaves the records of the job as they are, and every
    final output it sends is one the job left behind, given that a final output is stored where
    the answer to this frame needs one. -/
theorem known_job_isolated (conditions : Conditions) (streamId : Nat)
    (request : JobRequest Content) (agent : AgentCommandRuntime Content)
    (supported : commandSupportsRequestedProtocol platform request.command
      request.commandVersion = true)
    (known : agent.Known request.jobId)
    (final : agent.KeepsFinalOutput conditions request.jobId
      (commandPayloadHash platform request.command)) :
    Isolates request.jobId (agent.Owns request.jobId) agent
      (handleCommandFrame platform conditions ⟨streamId, some (.supported request)⟩ agent).2 := by
  rw [handleCommandFrame_supported platform supported]
  exact Isolates.of_steps (handleSupportedRequest_isolates platform known final)

/-- Job 0 ran and was recorded. -/
def recordedRun : List (Action Unit) :=
  [.connect calm 2, userSessionsFrame 0,
    .finished calm ⟨0, "user_sessions", 60, .ok [⟨0, .status, [], some 0, true⟩], none, none⟩]

def recordedAgent : AgentCommandRuntime Unit :=
  (run (step samplePlatform) (boot () ∅ none none) recordedRun).getD (boot () ∅ none none)

theorem recordedRun_reaches :
    run (step samplePlatform) (boot () ∅ none none) recordedRun = some recordedAgent := by
  have runs : (run (step samplePlatform) (boot () ∅ none none) recordedRun).isSome = true := by
    decide +kernel
  obtain ⟨agent, reached⟩ := Option.isSome_iff_exists.mp runs
  rw [recordedAgent, reached, Option.getD_some]

/-- The recorded job is asked for again and is replayed. -/
theorem recorded_job_isolated :
    run (step samplePlatform) (boot () ∅ none none) recordedRun = some recordedAgent ∧
      Isolates 0 (recordedAgent.Owns 0) recordedAgent (handleCommandFrame samplePlatform calm
          ⟨8, some (.supported ⟨0, 1, .operation userSessions, 60⟩)⟩ recordedAgent).2 := by
  refine ⟨recordedRun_reaches, known_job_isolated samplePlatform calm 8 ⟨0, 1, .operation userSessions, 60⟩
    recordedAgent (by decide) (by decide +kernel) ⟨?_, ?_⟩⟩
  · decide +kernel
  · decide +kernel

/-- A request with an unknown command that names the recorded job. -/
def recordedAgentAfterUnknownShape : AgentCommandRuntime Unit :=
  (handleCommandFrame samplePlatform calm ⟨8, some (.unsupported (unknownRequest 0))⟩
    { recordedAgent with writable := 8 }).2

/-- The request is rejected with a final output, and the rejection takes the place of both
    records of the job. -/
theorem unknown_shape_replaces_records :
    run (step samplePlatform) (boot () ∅ none none) recordedRun = some recordedAgent ∧
      recordedAgent.Known 0 ∧
      recordedAgentAfterUnknownShape.recentCommands.get 0 ≠ recordedAgent.recentCommands.get 0 ∧
      recordedAgentAfterUnknownShape.commandLedger.lookup 0 ≠ recordedAgent.commandLedger.lookup 0 ∧
      ∃ output, output.output.done = true ∧ ¬ recordedAgent.Owns 0 output ∧
        recordedAgentAfterUnknownShape.attempts.head?.map (·.message) =
          some (.commandOutput 8 output) := by
  -- the stored hash of the command tells the records apart
  have ledger : (recordedAgentAfterUnknownShape.commandLedger.lookup 0).map (fun file =>
      file.content.map (·.payloadHash)) ≠ (recordedAgent.commandLedger.lookup 0).map (fun file =>
      file.content.map (·.payloadHash)) := by decide +kernel
  have exitCodes : ∀ output, recordedAgent.Owns 0 output → output.output.exitCode ≠ some 78 := by
    have recent : ∀ entry ∈ recordedAgent.recentCommands.get 0,
        ∀ output ∈ entry.outputs ++ entry.terminalOutput.toList,
          output.output.exitCode ≠ some 78 := by decide +kernel
    have stored : ∀ entry ∈ (recordedAgent.commandLedger.lookupEntry 0).join,
        ∀ output ∈ entry.terminalOutput, output.output.exitCode ≠ some 78 := by decide +kernel
    rintro output (⟨active, found, _⟩ | ⟨entry, found, member⟩ | ⟨entry, found, member⟩)
    · cases found
    · refine recent entry found output (List.mem_append.mpr (member.imp_right ?_))
      exact Option.mem_toList.mpr
    · exact stored entry found output member
  refine ⟨recordedRun_reaches, by decide +kernel, by decide +kernel,
    fun same => ledger (by rw [same]),
    ⟨0, unsupportedCommandShapeOutput samplePlatform (unknownRequest 0)⟩, rfl, ?_, ?_⟩
  · exact fun owned => exitCodes _ owned rfl
  · rfl

end Vpsman.Agent
