import Vpsman.Lib.Fallible
import Vpsman.Agent.Recent
import Vpsman.Agent.Ledger
import Mathlib.Data.List.Infix

/-! # The command runtime of the agent

The runtime answers command frames from the gateway, runs each command as a task of its
own, and sends the outputs of the tasks back. A failed write to the connection or to the
ledger ends the handler that made it, and with it the session; the tables of the runtime
stay as they are and serve the next session. Reconciliation after a reconnect, telemetry
and terminal sessions are not represented.
-/

namespace Vpsman.Agent

open Vpsman.Lib

structure ActiveCommand where
  payloadHash : String
  /-- The reason the cancel token was given, once it is canceled. -/
  canceled : Option String
  commandVersion : Nat
  safety : JobCommandSafety
  streamId : Nat
  replayOutputs : List SequencedCommandOutput
  terminalOutput : Option SequencedCommandOutput
  replayOutputBytes : Nat
  replayTruncated : Bool
  pendingOutputs : List SequencedCommandOutput
  nextOutputSeq : Int
  finished : Bool
  deriving Repr, DecidableEq

inductive Message where
  | commandAck (streamId : Nat) (jobId : Uuid) (accepted : Bool) (message : String)
  | commandOutput (streamId : Nat) (output : SequencedCommandOutput)
  | commandResume (streamId : Nat) (jobId : Uuid) (commandVersion : Nat) (payloadHash : String)
      (nextOutputSeq : Int)
  | commandCancelAck (jobId : Uuid) (accepted applied : Bool) (message : String)
  deriving Repr, DecidableEq

/-- A frame the runtime tried to write, and whether it was written. -/
structure Attempt where
  seq : Nat
  message : Message
  written : Bool
  deriving Repr, DecidableEq

/-- What happens to a job, kept for stating properties of runs. -/
inductive JobEvent where
  | started (jobId : Uuid)
  | evictedFromRecent (jobId : Uuid)
  | evictedFromLedger (jobId : Uuid)
  /-- An eviction left a job that is not running without an entry in cache and ledger. -/
  | forgotten (jobId : Uuid)
  deriving Repr, DecidableEq

structure AgentCommandRuntime (Content : Type) where
  config : Content
  activeCommands : HashMap Uuid ActiveCommand := ∅
  recentCommands : RecentCommandCache := {}
  commandLedger : CommandLedger := ∅
  runtimeConfigCache : Option (AgentRuntimeConfig Content) := none
  acceptedRuntimeConfigVersion : Option Nat := none
  connected : Bool := false
  seq : Nat := 0
  /-- How many frames the connection still takes before it breaks. -/
  writable : Nat := 0
  attempts : List Attempt := []
  log : List JobEvent := []

inductive CommandFailure where
  | canceled (operationType reason : String)
  /-- Any other error, with its own text and the text of its whole chain of causes. -/
  | failed (message chain : String)
  deriving Repr, DecidableEq

/-- How the surroundings behave while one handler runs. -/
structure Conditions where
  /-- Seconds of the wall clock. -/
  now : Nat := 0
  /-- How many frames can be written before the connection breaks. -/
  writable : Nat := 0
  ledgerReadable : Bool := true
  ledgerWritable : Bool := true
  /-- The error of the write to the runtime configuration cache, if it fails. -/
  storeFailure : Option String := none
  /-- The result of reading the redacted configuration. -/
  configRead : Except CommandFailure (List CommandOutput) := .ok []
  /-- The order in which the active table is visited. -/
  order : List Uuid := []

variable {Content : Type}

/-! ## Tables -/

namespace AgentCommandRuntime

/-- The task of the job has not reported its end. -/
def Running (agent : AgentCommandRuntime Content) (jobId : Uuid) : Prop :=
  ∃ active, agent.activeCommands.lookup jobId = some active ∧ active.finished = false

instance (agent : AgentCommandRuntime Content) (jobId : Uuid) : Decidable (agent.Running jobId) :=
  match found : agent.activeCommands.lookup jobId with
  | none => .isFalse (by simp [Running, found])
  | some active => decidable_of_iff (active.finished = false) (by simp [Running, found])

/-- The cache or the ledger has an entry for the job. -/
def Recorded (agent : AgentCommandRuntime Content) (jobId : Uuid) : Prop :=
  jobId ∈ agent.recentCommands.order ∨ agent.commandLedger.Holds jobId

instance (agent : AgentCommandRuntime Content) (jobId : Uuid) : Decidable (agent.Recorded jobId) :=
  inferInstanceAs (Decidable (_ ∨ _))

/-- The job runs or is recorded as completed. -/
def Held (agent : AgentCommandRuntime Content) (jobId : Uuid) : Prop :=
  agent.Running jobId ∨ agent.Recorded jobId

instance (agent : AgentCommandRuntime Content) (jobId : Uuid) : Decidable (agent.Held jobId) :=
  inferInstanceAs (Decidable (_ ∨ _))

/-- Log that jobs were evicted, and which of them are now forgotten. -/
def noteEvicted (agent : AgentCommandRuntime Content) (event : Uuid → JobEvent) (evicted : List Uuid) :
    AgentCommandRuntime Content :=
  { agent with
    log := evicted.flatMap (fun jobId =>
      (if agent.Held jobId then [] else [.forgotten jobId]) ++ [event jobId]) ++ agent.log }

def rememberRecent (agent : AgentCommandRuntime Content) (jobId : Uuid) (payloadHash : String)
    (outputs : List SequencedCommandOutput) (terminalOutput : Option SequencedCommandOutput)
    (truncated : Bool) : AgentCommandRuntime Content :=
  let recent := agent.recentCommands.remember jobId payloadHash outputs terminalOutput truncated
  { agent with recentCommands := recent }.noteEvicted .evictedFromRecent
    (agent.recentCommands.evictedBy jobId recent)

/-- `run_cleanup_consumer` after a notification. -/
def cleanupLedger (agent : AgentCommandRuntime Content) (now : Nat) (unreadable undeletable : List Uuid) :
    AgentCommandRuntime Content :=
  let ledger := agent.commandLedger.cleanup now unreadable undeletable
  { agent with commandLedger := ledger }.noteEvicted .evictedFromLedger
    (agent.commandLedger.keys.filter fun jobId => (ledger.lookup jobId).isNone)

def modifyActive (agent : AgentCommandRuntime Content) (jobId : Uuid) (f : ActiveCommand → ActiveCommand) :
    AgentCommandRuntime Content :=
  match agent.activeCommands.lookup jobId with
  | none => agent
  | some active => { agent with activeCommands := agent.activeCommands.insert jobId (f active) }

/-- Remove the command once it is finished and nothing is pending. -/
def removeIfFlushed (agent : AgentCommandRuntime Content) (jobId : Uuid) :
    AgentCommandRuntime Content :=
  match agent.activeCommands.lookup jobId with
  | none => agent
  | some active =>
    if active.finished && active.pendingOutputs.isEmpty then
      { agent with activeCommands := agent.activeCommands.erase jobId }
    else agent

def removeFinishedFlushedCommands (agent : AgentCommandRuntime Content) : AgentCommandRuntime Content :=
  { agent with
    activeCommands := agent.activeCommands.retain fun _ active =>
      !(active.finished && active.pendingOutputs.isEmpty) }

theorem lookup_modifyActive (agent : AgentCommandRuntime Content) (key : Uuid)
    (f : ActiveCommand → ActiveCommand) (jobId : Uuid) :
    (agent.modifyActive key f).activeCommands.lookup jobId =
      if jobId = key then (agent.activeCommands.lookup jobId).map f
      else agent.activeCommands.lookup jobId := by
  unfold modifyActive
  cases found : agent.activeCommands.lookup key with
  | none =>
    by_cases same : jobId = key
    · rw [if_pos same, same, found, Option.map_none]
    · rw [if_neg same]
  | some =>
    rw [HashMap.lookup_insert_eq]
    by_cases same : jobId = key
    · rw [if_pos same, if_pos same, same, found, Option.map_some]
    · rw [if_neg same, if_neg same]

end AgentCommandRuntime

/-! ## Writing to the connection -/

/-- Write one frame. A broken connection ends the handler. -/
def sendJsonFrame (message : Message) : Fallible (AgentCommandRuntime Content) Unit := fun agent =>
  if agent.writable = 0 then
    (none, { agent with attempts := ⟨agent.seq, message, false⟩ :: agent.attempts })
  else
    (some (), { agent with
      writable := agent.writable - 1
      seq := agent.seq + 1
      attempts := ⟨agent.seq, message, true⟩ :: agent.attempts })

def sendSequencedCommandPayload (streamId : Nat) (output : SequencedCommandOutput) :
    Fallible (AgentCommandRuntime Content) Unit :=
  sendJsonFrame (.commandOutput streamId output)

def sendSequencedCommandOutput (streamId : Nat) (outputSeq : Int) (output : CommandOutput) :
    Fallible (AgentCommandRuntime Content) Unit :=
  sendSequencedCommandPayload streamId ⟨outputSeq, output⟩

def sendSequencedCommandOutputs (streamId : Nat) (outputs : List SequencedCommandOutput) :
    Fallible (AgentCommandRuntime Content) Unit :=
  Fallible.each (sendSequencedCommandPayload streamId) outputs

def sendCommandOutputs (streamId : Nat) (outputs : List CommandOutput) :
    Fallible (AgentCommandRuntime Content) Unit :=
  sendSequencedCommandOutputs streamId (sequencedOutputsStartingAt 0 outputs)

/-! ## Outputs of active commands -/

variable (platform : Platform Content)

namespace ActiveCommand

def captureReplayOutput (active : ActiveCommand) (output : SequencedCommandOutput) :
    ActiveCommand :=
  let active :=
    if output.output.done then
      { active with terminalOutput := some (compactTerminalReplayOutput platform output) }
    else active
  if active.replayTruncated then active
  else if 1024 * 1024 < active.replayOutputBytes + output.output.data.length then
    { active with replayOutputs := [], replayOutputBytes := 0, replayTruncated := true }
  else
    { active with
      replayOutputBytes := active.replayOutputBytes + output.output.data.length
      replayOutputs := active.replayOutputs ++ [output] }

/-- `enqueue_active_command_output`. -/
def enqueueOutput (active : ActiveCommand) (output : CommandOutput) : ActiveCommand :=
  let sequenced : SequencedCommandOutput := ⟨active.nextOutputSeq, output⟩
  let captured := { active with
    nextOutputSeq := nextSeq active.nextOutputSeq 1 }.captureReplayOutput platform sequenced
  { captured with pendingOutputs := captured.pendingOutputs ++ [sequenced] }

end ActiveCommand

/-- Send the pending outputs in order, taking each off the queue once it is written. -/
def flushOutputs (jobId : Uuid) (streamId : Nat) :
    List SequencedCommandOutput → Fallible (AgentCommandRuntime Content) Unit
  | [] => pure ()
  | output :: rest => do
    sendJsonFrame (.commandOutput streamId output)
    .update fun agent => agent.modifyActive jobId fun active =>
      { active with pendingOutputs := rest }
    flushOutputs jobId streamId rest

def flushPendingCommandOutputs (jobId : Uuid) : Fallible (AgentCommandRuntime Content) Unit := do
  match ← .read fun agent => agent.activeCommands.lookup jobId with
  | none => pure ()
  | some active => flushOutputs jobId active.streamId active.pendingOutputs

def flushAllPendingCommandOutputs (order : List Uuid) : Fallible (AgentCommandRuntime Content) Unit := do
  Fallible.each flushPendingCommandOutputs order
  .update AgentCommandRuntime.removeFinishedFlushedCommands

def announceResume (jobId : Uuid) : Fallible (AgentCommandRuntime Content) Unit := do
  match ← .read fun agent => agent.activeCommands.lookup jobId with
  | none => pure ()
  | some active =>
    let nextOutputSeq := match active.pendingOutputs.head? with
      | some pending => pending.seq
      | none => active.nextOutputSeq
    sendJsonFrame (.commandResume active.streamId jobId active.commandVersion active.payloadHash
      nextOutputSeq)

/-- At the start of a session: announce every active command, then send what is pending. -/
def resumeActiveCommands (order : List Uuid) : Fallible (AgentCommandRuntime Content) Unit := do
  Fallible.each announceResume order
  flushAllPendingCommandOutputs order

def queueActiveCommandOutput (output : CommandOutput) : Fallible (AgentCommandRuntime Content) Unit := do
  match ← .read fun agent => agent.activeCommands.lookup output.jobId with
  | none => pure ()
  | some _ =>
    .update fun agent => agent.modifyActive output.jobId fun active =>
      active.enqueueOutput platform output
    flushPendingCommandOutputs output.jobId
    .update AgentCommandRuntime.removeFinishedFlushedCommands

/-! ## Completion -/

def fallbackFailedOutput (jobId : Uuid) (chain : String) : CommandOutput where
  jobId := jobId
  stream := .status
  data := ("command failed: " ++ chain).toUTF8.toList
  exitCode := some 127
  done := true

def commandResultOutputs (jobId : Uuid) (operationType : String) (maxTimeoutSecs : Nat) :
    Except CommandFailure (List CommandOutput) → List CommandOutput
  | .ok outputs => outputs
  | .error (.canceled operationType reason) =>
    [statusOutput platform jobId [("type", .text "command_canceled"),
      ("operation_type", .text operationType), ("reason", .text reason)] 130]
  | .error (.failed message chain) =>
    if "timed out".toList <:+: message.toList ∨ "elapsed".toList <:+: message.toList then
      [statusOutput platform jobId [("type", .text "command_timeout"),
        ("operation_type", .text operationType),
        ("max_timeout_secs", .number (max maxTimeoutSecs 1))] 124]
    else [fallbackFailedOutput jobId chain]

/-- Record a completion in the ledger; a failure ends the handler. -/
def recordInLedger (conditions : Conditions) (jobId : Uuid) (payloadHash : String)
    (terminalOutput : Option SequencedCommandOutput) : Fallible (AgentCommandRuntime Content) Unit :=
  if conditions.ledgerWritable then
    .update fun agent => { agent with
      commandLedger := agent.commandLedger.record platform conditions.now jobId payloadHash
        (compactLedgerTerminalOutput platform terminalOutput) true }
  else .fail

def rememberCompletedReplayOutputs (conditions : Conditions) (jobId : Uuid) (payloadHash : String)
    (replayOutputs : List SequencedCommandOutput) (terminalOutput : Option SequencedCommandOutput)
    (replayTruncated : Bool) : Fallible (AgentCommandRuntime Content) Unit := do
  .update fun agent =>
    agent.rememberRecent jobId payloadHash replayOutputs terminalOutput replayTruncated
  recordInLedger platform conditions jobId payloadHash terminalOutput

def rememberCompletedCommandOutputs (conditions : Conditions) (jobId : Uuid)
    (payloadHash : String) (outputs : List CommandOutput) : Fallible (AgentCommandRuntime Content) Unit :=
  let replayOutputs := sequencedOutputsStartingAt 0 outputs
  rememberCompletedReplayOutputs platform conditions jobId payloadHash replayOutputs
    (terminalReplayOutputFrom platform replayOutputs) false

structure CommandExecutionResult (Content : Type) where
  jobId : Uuid
  operationType : String
  maxTimeoutSecs : Nat
  result : Except CommandFailure (List CommandOutput)
  configUpdate : Option Content
  runtimeConfigUpdate : Option (AgentRuntimeConfig Content)

/-- The command with its final outputs queued and marked as finished. -/
def ActiveCommand.finish (active : ActiveCommand) (finalOutputs : List CommandOutput) :
    ActiveCommand :=
  { finalOutputs.foldl (fun active output => active.enqueueOutput platform output) active with
    finished := true }

/-- Mark the command as finished and remember it; there is no way to fail in between. -/
def AgentCommandRuntime.completeActive (agent : AgentCommandRuntime Content) (jobId : Uuid) (completed : ActiveCommand) :
    AgentCommandRuntime Content :=
  { agent with activeCommands := agent.activeCommands.insert jobId completed }.rememberRecent jobId
    completed.payloadHash completed.replayOutputs completed.terminalOutput
    (completed.replayTruncated ||
      1024 * 1024 < sequencedCommandOutputsBytes completed.replayOutputs)

def finishActiveCommand (conditions : Conditions) (result : CommandExecutionResult Content) :
    Fallible (AgentCommandRuntime Content) Unit := do
  match ← .read fun agent => agent.activeCommands.lookup result.jobId with
  | none => pure ()
  | some active =>
    let completed := active.finish platform (commandResultOutputs platform result.jobId
      result.operationType result.maxTimeoutSecs result.result)
    .update fun agent => agent.completeActive result.jobId completed
    recordInLedger platform conditions result.jobId completed.payloadHash completed.terminalOutput
    flushPendingCommandOutputs result.jobId
    .update AgentCommandRuntime.removeFinishedFlushedCommands

end Vpsman.Agent
