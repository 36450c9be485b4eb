import Vpsman.Agent.Turns

/-! # What a replay from the ledger describes

The final output of a command is kept as a compact description from the moment it is
captured. The ledger stores a compact description of what it is given, which is that
description and not the output.
-/

namespace Vpsman.Agent

open Vpsman.Lib Vpsman.Lib.Fallible

variable {Content : Type}

/-! ## Descriptions -/

/-- The object says of the output what there is to say. -/
structure Reports (platform : Platform Content) (status : StatusObject) (output : CommandOutput) :
    Prop where
  exitCode : status.lookup "original_exit_code" = some (exitCodeScalar output.exitCode)
  size : status.lookup "original_data_size_bytes" = some (.number output.data.length)
  hash : status.lookup "original_data_sha256_hex" = some (.text (platform.payloadHash output.data))
  stream : status.lookup "original_stream" = some (.text output.stream.name)

/-- The two outputs cannot be told apart by what a description says. -/
structure Alike (platform : Platform Content) (output other : CommandOutput) : Prop where
  exitCode : output.exitCode = other.exitCode
  size : output.data.length = other.data.length
  hash : platform.payloadHash output.data = platform.payloadHash other.data
  stream : output.stream = other.stream

theorem exitCodeScalar_inj (same : exitCodeScalar left = exitCodeScalar right) : left = right := by
  cases left <;> cases right <;> simp_all [exitCodeScalar]

theorem OutputStream.name_inj {left right : OutputStream} (same : left.name = right.name) :
    left = right := by
  revert same
  cases left <;> cases right <;> decide

/-- A description of one output is right about another exactly if they are alike. -/
theorem reports_compactStatus_iff (platform : Platform Content) :
    Reports platform (compactStatus platform reason described) output ↔
      Alike platform output described.output := by
  constructor
  · intro reports
    constructor
    · apply exitCodeScalar_inj
      simpa [compactStatus, List.lookup_cons] using reports.exitCode.symm
    · simpa [compactStatus, List.lookup_cons] using reports.size.symm
    · simpa [compactStatus, List.lookup_cons] using reports.hash.symm
    · apply OutputStream.name_inj
      simpa [compactStatus, List.lookup_cons] using reports.stream.symm
  · intro alike
    constructor
    · simp [compactStatus, List.lookup_cons, alike.exitCode]
    · simp [compactStatus, List.lookup_cons, alike.size]
    · simp [compactStatus, List.lookup_cons, alike.hash]
    · simp [compactStatus, List.lookup_cons, alike.stream]

/-! ## Capturing -/

def lastDone (outputs : List CommandOutput) : Option CommandOutput := outputs.reverse.find? (·.done)

variable (platform : Platform Content)

variable (active : ActiveCommand)

theorem captureReplayOutput_terminalOutput :
    (active.captureReplayOutput platform output).terminalOutput =
      if output.output.done then some (compactTerminalReplayOutput platform output)
      else active.terminalOutput := by
  unfold ActiveCommand.captureReplayOutput
  dsimp only
  split_ifs <;> rfl

variable {final : CommandOutput}

theorem finish_terminalOutput (last : lastDone outputs = some final) :
    ∃ seq, (active.finish platform outputs).terminalOutput =
      some (compactTerminalReplayOutput platform ⟨seq, final⟩) := by
  show ∃ seq, (outputs.foldl (fun active output => active.enqueueOutput platform output)
    active).terminalOutput = some (compactTerminalReplayOutput platform ⟨seq, final⟩)
  induction outputs using List.reverseRecOn with
  | nil => cases last
  | append_singleton outputs output ih =>
    rw [List.foldl_append, List.foldl_cons, List.foldl_nil]
    generalize outputs.foldl (fun active output => active.enqueueOutput platform output) active =
      before at ih ⊢
    have captured : (before.enqueueOutput platform output).terminalOutput =
        if output.done then
          some (compactTerminalReplayOutput platform ⟨before.nextOutputSeq, output⟩)
        else before.terminalOutput :=
      captureReplayOutput_terminalOutput platform _
    rw [captured]
    cases done : output.done with
    | true =>
      have same : output = final := by simpa [lastDone, done] using last
      exact ⟨before.nextOutputSeq, by rw [if_pos rfl, same]⟩
    | false =>
      exact ih (by simpa [lastDone, done] using last)

theorem finish_payloadHash (outputs : List CommandOutput) :
    (active.finish platform outputs).payloadHash = active.payloadHash := by
  show (outputs.foldl (fun active output => active.enqueueOutput platform output)
    active).payloadHash = active.payloadHash
  induction outputs generalizing active with
  | nil => rfl
  | cons _ _ ih =>
    rw [List.foldl_cons, ih]
    unfold ActiveCommand.enqueueOutput ActiveCommand.captureReplayOutput
    dsimp only
    split_ifs <;> rfl

/-! ## The ledger while outputs are sent -/

def SameLedger (before after : AgentCommandRuntime Content) : Prop :=
  after.commandLedger = before.commandLedger

variable {before after agent : AgentCommandRuntime Content}

theorem SameLedger.of_steps (steps : Relation.ReflTransGen SameLedger before after) :
    SameLedger before after := by
  induction steps with
  | refl => rfl
  | tail _ last ih => exact last.trans ih

theorem sendJsonFrame_sameLedger : Performs SameLedger (sendJsonFrame message) agent := by
  refine .single ?_
  unfold sendJsonFrame
  split <;> rfl

theorem modifyActive_sameLedger : SameLedger agent (agent.modifyActive jobId f) := by
  unfold AgentCommandRuntime.modifyActive
  split <;> rfl

theorem flushAndRemove_sameLedger : Performs SameLedger (do
      flushPendingCommandOutputs jobId
      .update AgentCommandRuntime.removeFinishedFlushedCommands) agent :=
  .bind (flushPendingCommandOutputs_performs sendJsonFrame_sameLedger modifyActive_sameLedger agent)
    fun _ _ _ => .update rfl

/-! ## Completion and replay -/

/-- The ledger has an entry of the job with a description of the description of the output. -/
def RecordedAs (agent : AgentCommandRuntime Content) (jobId : Uuid) (payloadHash : String)
    (final : CommandOutput) : Prop :=
  ∃ entry seq, agent.commandLedger.lookupEntry jobId = some (some entry) ∧
    entry.payloadHash = payloadHash ∧
    entry.terminalOutput = some (compactOutput platform "command_ledger_replay"
      (compactTerminalReplayOutput platform ⟨seq, final⟩))

variable {conditions : Conditions}

theorem recordInLedger_recorded (writable : conditions.ledgerWritable = true) :
    ∃ after, recordInLedger platform conditions jobId payloadHash
        (some (compactTerminalReplayOutput platform ⟨seq, final⟩)) agent = (some (), after) ∧
      RecordedAs platform after jobId payloadHash final := by
  unfold recordInLedger
  rw [if_pos writable]
  refine ⟨_, rfl, ?_, seq, ?_, ?_, ?_⟩
  · exact CommandLedger.newEntry conditions.now jobId payloadHash
      (some (compactOutput platform "command_ledger_replay"
        (compactTerminalReplayOutput platform ⟨seq, final⟩))) true
  · simp only [CommandLedger.lookupEntry, CommandLedger.record, AList.lookup_insert,
      compactLedgerTerminalOutput, Option.map_some]
    exact if_neg (by simp [CommandLedger.newEntry])
  · rfl
  · rfl

variable {platform}

theorem RecordedAs.sameLedger
    (recorded : RecordedAs platform before jobId payloadHash final) (same : SameLedger before after) :
    RecordedAs platform after jobId payloadHash final := by
  unfold RecordedAs
  rw [same]
  exact recorded

theorem inSession_sameLedger : SameLedger (handler { agent with writable := conditions.writable }).2
      (inSession conditions handler agent) := by
  unfold inSession
  cases handler { agent with writable := conditions.writable } with
  | mk result => cases result <;> rfl

theorem handleFinished_recorded {active : ActiveCommand}
    (found : agent.activeCommands.lookup result.jobId = some active)
    (writable : conditions.ledgerWritable = true)
    (last : lastDone (finalOutputs platform conditions result
      { agent with writable := conditions.writable }) = some final) :
    RecordedAs platform (inSession conditions (handleFinished platform conditions result) agent)
      result.jobId active.payloadHash final := by
  let opened := { agent with writable := conditions.writable }
  refine RecordedAs.sameLedger ?_ inSession_sameLedger
  obtain ⟨taken, applied, -, handled⟩ := handleFinished_active platform opened found
  obtain ⟨seq, terminal⟩ := finish_terminalOutput platform active last
  obtain ⟨after, recorded, described⟩ := recordInLedger_recorded platform writable
  rw [handled, terminal, bind_apply, recorded,
    ← finish_payloadHash platform active (finalOutputs platform conditions result opened)]
  exact described.sameLedger (SameLedger.of_steps flushAndRemove_sameLedger)

theorem terminalReplayOutputFrom_eq (last : lastDone outputs = some final) :
    ∃ seq, terminalReplayOutputFrom platform (sequencedOutputsStartingAt 0 outputs) =
      some (compactTerminalReplayOutput platform ⟨seq, final⟩) := by
  unfold terminalReplayOutputFrom sequencedOutputsStartingAt
  induction outputs using List.reverseRecOn with
  | nil => cases last
  | append_singleton outputs output ih =>
    cases done : output.done with
    | true =>
      have same : output = final := by simpa [lastDone, done] using last
      exact ⟨nextSeq 0 outputs.length, by simp [same ▸ done, same]⟩
    | false =>
      obtain ⟨seq, terminal⟩ := ih (by simpa [lastDone, done] using last)
      exact ⟨seq, by simpa [done] using terminal⟩

/-- Ways in which a command completes with a final output that the ledger takes down: its
    task ends, or it is answered at once. -/
inductive Completes (platform : Platform Content) (before : AgentCommandRuntime Content) :
    Uuid → String → CommandOutput → AgentCommandRuntime Content → Prop
  | finished {conditions : Conditions} {result : CommandExecutionResult Content}
      {active : ActiveCommand} {final : CommandOutput}
      (found : before.activeCommands.lookup result.jobId = some active)
      (writable : conditions.ledgerWritable = true)
      (last : lastDone (finalOutputs platform conditions result
        { before with writable := conditions.writable }) = some final) :
      Completes platform before result.jobId active.payloadHash final
        (inSession conditions (handleFinished platform conditions result) before)
  | atOnce {conditions : Conditions} {jobId : Uuid} {payloadHash : String}
      {outputs : List CommandOutput} {final : CommandOutput}
      (writable : conditions.ledgerWritable = true) (last : lastDone outputs = some final) :
      Completes platform before jobId payloadHash final
        (rememberCompletedCommandOutputs platform conditions jobId payloadHash outputs before).2

theorem Completes.recorded (completes : Completes platform before jobId payloadHash final after) :
    RecordedAs platform after jobId payloadHash final := by
  cases completes with
  | finished found writable last => exact handleFinished_recorded found writable last
  | atOnce writable last =>
    obtain ⟨seq, terminal⟩ := terminalReplayOutputFrom_eq last
    unfold rememberCompletedCommandOutputs rememberCompletedReplayOutputs
    rw [update_bind, terminal]
    obtain ⟨recorded, stored, described⟩ := recordInLedger_recorded platform writable
    rw [stored]
    exact described

/-- A frame for a job that only the ledger knows is answered with what the ledger has. -/
theorem replayed_from_ledger
    (supported : commandSupportsRequestedProtocol platform request.command request.commandVersion = true)
    (inactive : agent.activeCommands.lookup request.jobId = none)
    (evicted : agent.recentCommands.get request.jobId = none)
    (found : agent.commandLedger.lookupEntry request.jobId = some (some entry))
    (readable : conditions.ledgerReadable = true)
    (samePayload : entry.payloadHash = commandPayloadHash platform request.command)
    (stored : entry.terminalOutput = some terminal) (open_ : 2 ≤ conditions.writable) :
    (inSession conditions (handleCommandFrame platform conditions
        ⟨streamId, some (.supported request)⟩) agent).attempts =
      ⟨agent.seq + 1, .commandOutput streamId terminal, true⟩ ::
        ⟨agent.seq, .commandAck streamId request.jobId true
          "duplicate completed job replayed from ledger", true⟩ :: agent.attempts := by
  have handled := handleSupportedRequest_unremembered platform streamId request
    { agent with writable := conditions.writable } inactive evicted found readable
  have first : conditions.writable ≠ 0 := by omega
  have second : conditions.writable - 1 ≠ 0 := by omega
  unfold inSession
  rw [handleCommandFrame_supported platform supported, handled]
  dsimp only
  rw [replayLedger, if_pos samePayload, stored, bind_apply]
  simp [sendSequencedCommandPayload, sendJsonFrame, first, second]

/-- What is left of a final output when it is captured. -/
def capturedData (platform : Platform Content) (final : CommandOutput) : List UInt8 :=
  platform.encodeStatus (compactStatus platform "recent_command_replay_truncated" ⟨0, final⟩)

theorem captured_output :
    (compactTerminalReplayOutput platform ⟨seq, final⟩).output =
      ⟨final.jobId, .status, capturedData platform final, some 75, true⟩ := by
  rfl

/-- A replay from the ledger describes the final output of the command exactly if that output
    cannot be told from the compact status that was captured of it: a status output with exit
    code 75 and data of the same size and hash. -/
theorem ledger_replay_describes_result_iff (platform : Platform Content)
    (before completed agent : AgentCommandRuntime Content) (conditions : Conditions) (streamId : Nat)
    (request : JobRequest Content) (final : CommandOutput)
    (completes : Completes platform before request.jobId
      (commandPayloadHash platform request.command) final completed)
    (kept : agent.commandLedger.lookupEntry request.jobId =
      completed.commandLedger.lookupEntry request.jobId)
    (supported : commandSupportsRequestedProtocol platform request.command request.commandVersion = true)
    (inactive : agent.activeCommands.lookup request.jobId = none)
    (evicted : agent.recentCommands.get request.jobId = none)
    (connected : agent.connected = true) (readable : conditions.ledgerReadable = true)
    (writable : 2 ≤ conditions.writable) :
    ∃ after replayed status,
      step platform agent (.commandFrame conditions ⟨streamId, some (.supported request)⟩) = some after ∧
      after.attempts =
        ⟨agent.seq + 1, .commandOutput streamId replayed, true⟩ ::
          ⟨agent.seq, .commandAck streamId request.jobId true
            "duplicate completed job replayed from ledger", true⟩ :: agent.attempts ∧
      replayed.output.data = platform.encodeStatus status ∧
      (Reports platform status final ↔ final.exitCode = some 75 ∧ final.stream = .status ∧
          final.data.length = (capturedData platform final).length ∧
          platform.payloadHash final.data = platform.payloadHash (capturedData platform final)) := by
  obtain ⟨entry, seq, found, samePayload, stored⟩ := completes.recorded
  refine ⟨_, _, compactStatus platform "command_ledger_replay"
    (compactTerminalReplayOutput platform ⟨seq, final⟩), if_pos connected,
    replayed_from_ledger supported inactive evicted (kept.trans found) readable samePayload stored
      writable, ?_, ?_⟩
  · rfl
  rw [reports_compactStatus_iff, captured_output]
  constructor
  · intro alike
    exact ⟨alike.exitCode, alike.stream, alike.size, alike.hash⟩
  · intro same
    exact ⟨same.1, same.2.2.1, same.2.2.2, same.2.1⟩

/-! ## A replay after a restart -/

/-- The command of job 0 prints "ok" and succeeds. -/
def sampleFinal : CommandOutput := ⟨0, .stdout, [111, 107], some 0, true⟩

def sampleRequest : JobRequest Unit := ⟨0, 1, .operation userSessions, 60⟩

def sampleResult : CommandExecutionResult Unit :=
  ⟨0, "user_sessions", 60, .ok [sampleFinal], none, none⟩

def startedRun : List (Action Unit) := [.connect calm 2, userSessionsFrame 0]

/-- A process that was started with this ledger and has connected. -/
def restarted (ledger : CommandLedger) : AgentCommandRuntime Unit :=
  { boot () ledger none none with connected := true, seq := 2, writable := 8 }

theorem sampleResult_completes :
    ∃ before completed, run (step samplePlatform) (boot () ∅ none none)
        (startedRun ++ [.finished calm sampleResult]) = some completed ∧
      Completes samplePlatform before 0 (commandPayloadHash samplePlatform sampleRequest.command)
        sampleFinal completed := by
  have observed : (run (step samplePlatform) (boot () ∅ none none) startedRun).any (fun agent =>
      agent.connected && (agent.activeCommands.lookup 0).any fun active =>
        active.payloadHash == commandPayloadHash samplePlatform sampleRequest.command) = true := by
    decide +kernel
  obtain ⟨before, runs, facts⟩ := (Option.any_eq_true _ _).mp observed
  obtain ⟨connected, facts⟩ := Bool.and_eq_true_iff.mp facts
  obtain ⟨active, found, samePayload⟩ := (Option.any_eq_true _ _).mp facts
  have occupied : before.activeCommands.entries ≠ [] := by
    intro empty
    simp [AList.lookup, empty] at found
  have completes : Completes samplePlatform before sampleResult.jobId active.payloadHash sampleFinal
      (inSession calm (handleFinished samplePlatform calm sampleResult) before) :=
    Completes.finished found rfl rfl
  rw [eq_of_beq samePayload] at completes
  refine ⟨before, _, ?_, completes⟩
  rw [run_append, runs, Option.bind_some, run_cons, step, if_pos ⟨connected, occupied⟩]
  rfl

/-- A new process answers a duplicate of the job with what its predecessor recorded. -/
theorem sampleResult_replayed :
    ∃ completed after replayed status, run (step samplePlatform) (boot () ∅ none none)
        (startedRun ++ [.finished calm sampleResult]) = some completed ∧
      run (step samplePlatform) (boot () completed.commandLedger none none) [.connect calm 2] =
        some (restarted completed.commandLedger) ∧
      step samplePlatform (restarted completed.commandLedger) (userSessionsFrame 0) = some after ∧
      after.attempts =
        [⟨3, .commandOutput 7 replayed, true⟩,
          ⟨2, .commandAck 7 0 true "duplicate completed job replayed from ledger", true⟩] ∧
      replayed.output.data = samplePlatform.encodeStatus status ∧
      (Reports samplePlatform status sampleFinal ↔
        sampleFinal.exitCode = some 75 ∧ sampleFinal.stream = .status ∧
          sampleFinal.data.length = (capturedData samplePlatform sampleFinal).length ∧
          samplePlatform.payloadHash sampleFinal.data =
            samplePlatform.payloadHash (capturedData samplePlatform sampleFinal)) := by
  obtain ⟨before, completed, runs, completes⟩ := sampleResult_completes
  obtain ⟨after, replayed, status, stepped, answered⟩ := ledger_replay_describes_result_iff
    samplePlatform before completed (restarted completed.commandLedger) calm 7 sampleRequest sampleFinal
    completes rfl (by decide) rfl rfl rfl rfl (by decide)
  exact ⟨completed, after, replayed, status, runs, rfl, stepped, answered⟩

/-- The replay of a successful command reports the exit code of the description. -/
theorem replay_reports_exit_code_75 :
    ∃ completed after replayed status, run (step samplePlatform) (boot () ∅ none none)
        (startedRun ++ [.finished calm sampleResult]) = some completed ∧
      run (step samplePlatform) (boot () completed.commandLedger none none) startedRun = some after ∧
      ⟨3, .commandOutput 7 replayed, true⟩ ∈ after.attempts ∧
      replayed.output.data = samplePlatform.encodeStatus status ∧
      status.lookup "original_exit_code" = some (.number 75) ∧
      ¬ Reports samplePlatform status sampleFinal := by
  obtain ⟨before, completed, runs, completes⟩ := sampleResult_completes
  obtain ⟨entry, seq, found, samePayload, stored⟩ := completes.recorded
  have answered : (inSession calm (handleCommandFrame samplePlatform calm
      ⟨7, some (.supported sampleRequest)⟩) (restarted completed.commandLedger)).attempts = _ :=
    replayed_from_ledger (by decide) rfl rfl found rfl samePayload stored (by decide)
  refine ⟨completed, _, compactOutput samplePlatform "command_ledger_replay"
    (compactTerminalReplayOutput samplePlatform ⟨seq, sampleFinal⟩),
    compactStatus samplePlatform "command_ledger_replay"
      (compactTerminalReplayOutput samplePlatform ⟨seq, sampleFinal⟩), runs, rfl, ?_, ?_, rfl, ?_⟩
  · exact answered ▸ List.mem_cons_self
  · rfl
  intro reports
  have success : sampleFinal.exitCode = _ := ((reports_compactStatus_iff _).mp reports).exitCode
  rw [captured_output] at success
  revert success
  decide

end Vpsman.Agent
