import Vpsman.Agent.Runtime
import Vpsman.Lib.Machine

/-! # Command frames and sessions

`handle_command_frame` first rejects what this agent does not support, then answers
duplicates from the active table, the recent cache and the ledger, in this order, and
starts a command only when none of them knows the job.
-/

namespace Vpsman.Agent

open Vpsman.Lib

variable {Content : Type} (platform : Platform Content)

structure CommandFrame (Content : Type) where
  streamId : Nat
  /-- Nothing when the payload is not a job request at all. -/
  request : Option (DecodedJobRequest Content)

def sendUnsupportedCommandVersion (streamId : Nat) (jobId : Uuid) (output : CommandOutput) :
    Fallible (AgentCommandRuntime Content) Unit := do
  sendJsonFrame (.commandAck streamId jobId true "unsupported_command_version")
  sendSequencedCommandOutput streamId 0 output

/-- Remember the rejection as the completion of the job, then send it. -/
def rejectUnsupported (conditions : Conditions) (streamId : Nat) (jobId : Uuid)
    (payloadHash : String) (output : CommandOutput) : Fallible (AgentCommandRuntime Content) Unit := do
  rememberCompletedCommandOutputs platform conditions jobId payloadHash [output]
  sendUnsupportedCommandVersion streamId jobId output

/-- A frame for a job in the active table. -/
def answerActive (streamId : Nat) (jobId : Uuid) (requestPayloadHash : String)
    (active : ActiveCommand) : Fallible (AgentCommandRuntime Content) Unit := do
  if active.payloadHash = requestPayloadHash then
    .update fun agent => agent.modifyActive jobId fun active => { active with streamId := streamId }
    sendJsonFrame (.commandAck streamId jobId true "duplicate job already active")
    flushPendingCommandOutputs jobId
    .update fun agent => agent.removeIfFlushed jobId
  else
    sendJsonFrame
      (.commandAck streamId jobId false "duplicate job id is active with different payload")

/-- A frame for a job in the recent cache. -/
def replayRecent (streamId : Nat) (jobId : Uuid) (requestPayloadHash : String)
    (completed : RecentCommandEntry) : Fallible (AgentCommandRuntime Content) Unit := do
  if completed.payloadHash = requestPayloadHash then
    sendJsonFrame (.commandAck streamId jobId true "duplicate completed job replayed")
    if completed.truncated then
      match completed.terminalOutput with
      | some output => sendSequencedCommandPayload streamId output
      | none =>
        sendSequencedCommandOutput streamId 0 (duplicateReplayUnknownTerminalOutput platform jobId)
    else sendSequencedCommandOutputs streamId completed.outputs
  else
    sendJsonFrame
      (.commandAck streamId jobId false "duplicate completed job id has different payload")

/-- A frame for a job that only the ledger knows. -/
def replayLedger (streamId : Nat) (jobId : Uuid) (requestPayloadHash : String)
    (completed : CommandLedgerEntry) : Fallible (AgentCommandRuntime Content) Unit := do
  if completed.payloadHash = requestPayloadHash then
    sendJsonFrame (.commandAck streamId jobId true "duplicate completed job replayed from ledger")
    match completed.terminalOutput with
    | some output => sendSequencedCommandPayload streamId output
    | none =>
      sendSequencedCommandOutput streamId 0 (duplicateReplayUnknownTerminalOutput platform jobId)
  else
    sendJsonFrame
      (.commandAck streamId jobId false "duplicate completed job id has different payload")

/-- `CommandLedger::lookup`; a file that cannot be read or decoded ends the handler. -/
def lookupInLedger (conditions : Conditions) (jobId : Uuid) :
    Fallible (AgentCommandRuntime Content) (Option CommandLedgerEntry) := do
  match ← .read fun agent => agent.commandLedger.lookupEntry jobId with
  | some entry => if conditions.ledgerReadable then pure entry else .fail
  | none => .fail

/-! ## Starting a command -/

def runtimeConfigSnapshotIsStale (acceptedVersion : Option Nat) (current : Content)
    (desiredVersion : Nat) (incoming : AgentRuntimeConfig Content) : Bool :=
  match acceptedVersion with
  | none => false
  | some acceptedVersion =>
    if desiredVersion < acceptedVersion then true
    else if acceptedVersion < desiredVersion then false
    else runtimeConfigContentHash platform ⟨0, current⟩ ≠
      runtimeConfigContentHash platform incoming

/-- Why a runtime configuration is not accepted, if it is not. -/
def runtimeConfigRejection (agent : AgentCommandRuntime Content) : JobCommand Content → Option String
  | .runtimeConfigSync desiredVersion _ runtimeConfig =>
    if runtimeConfig.version ≠ desiredVersion then some "runtime_config_version_mismatch"
    else if runtimeConfigSnapshotIsStale platform agent.acceptedRuntimeConfigVersion agent.config
        desiredVersion runtimeConfig then some "runtime_config_snapshot_stale"
    else none
  | .configRead | .operation _ => none

/-- An exclusive command runs alone. -/
def exclusiveConflict (agent : AgentCommandRuntime Content) (safety : JobCommandSafety) : Bool :=
  if safety = .exclusive then !agent.activeCommands.entries.isEmpty
  else agent.activeCommands.entries.any fun entry => entry.2.safety = .exclusive

def maxConfigurableJobTimeoutSecs : Nat := 7 * 24 * 60 * 60

def newActiveCommand (streamId : Nat) (payloadHash : String) (request : JobRequest Content) :
    ActiveCommand where
  payloadHash := payloadHash
  canceled := none
  commandVersion := request.commandVersion
  safety := jobCommandSafety request.command
  streamId := streamId
  replayOutputs := []
  terminalOutput := none
  replayOutputBytes := 0
  replayTruncated := false
  pendingOutputs := []
  nextOutputSeq := 0
  finished := false

namespace AgentCommandRuntime

/-- Spawn the task of a command and enter it into the active table. -/
def start (agent : AgentCommandRuntime Content) (jobId : Uuid) (active : ActiveCommand) :
    AgentCommandRuntime Content :=
  { agent with
    activeCommands := agent.activeCommands.insert jobId active
    log := .started jobId :: agent.log }

end AgentCommandRuntime

/-- Read the configuration in the handler itself and remember the outputs. -/
def executeConfigRead (conditions : Conditions) (streamId : Nat) (payloadHash : String)
    (request : JobRequest Content) : Fallible (AgentCommandRuntime Content) Unit := do
  let maxTimeoutSecs := max 1 (min request.maxTimeoutSecs maxConfigurableJobTimeoutSecs)
  let outputs :=
    commandResultOutputs platform request.jobId "config_read" maxTimeoutSecs conditions.configRead
  .update fun agent => { agent with log := .started request.jobId :: agent.log }
  rememberCompletedCommandOutputs platform conditions request.jobId payloadHash outputs
  sendCommandOutputs streamId outputs

/-- A frame for a job that none of the tables knows. -/
def admitCommand (conditions : Conditions) (streamId : Nat) (payloadHash : String)
    (request : JobRequest Content) : Fallible (AgentCommandRuntime Content) Unit := do
  match ← .read fun agent => runtimeConfigRejection platform agent request.command with
  | some message => sendJsonFrame (.commandAck streamId request.jobId false message)
  | none =>
  if ← .read fun agent => exclusiveConflict agent (jobCommandSafety request.command) then
    sendJsonFrame (.commandAck streamId request.jobId false "exclusive_command_already_active")
  else
    sendJsonFrame (.commandAck streamId request.jobId true "accepted")
    match request.command with
    | .configRead => executeConfigRead platform conditions streamId payloadHash request
    | .runtimeConfigSync _ _ _ | .operation _ =>
      .update fun agent =>
        agent.start request.jobId (newActiveCommand streamId payloadHash request)

def handleSupportedRequest (conditions : Conditions) (streamId : Nat)
    (request : JobRequest Content) : Fallible (AgentCommandRuntime Content) Unit := do
  let requestPayloadHash := commandPayloadHash platform request.command
  match ← .read fun agent => agent.activeCommands.lookup request.jobId with
  | some active => answerActive streamId request.jobId requestPayloadHash active
  | none =>
  match ← .read fun agent => agent.recentCommands.get request.jobId with
  | some completed => replayRecent platform streamId request.jobId requestPayloadHash completed
  | none =>
  match ← lookupInLedger conditions request.jobId with
  | some completed => replayLedger platform streamId request.jobId requestPayloadHash completed
  | none => admitCommand platform conditions streamId requestPayloadHash request

def handleCommandFrame (conditions : Conditions) (frame : CommandFrame Content) :
    Fallible (AgentCommandRuntime Content) Unit :=
  match frame.request with
  | none => .fail
  | some (.unsupported request) =>
    rejectUnsupported platform conditions frame.streamId request.jobId request.payloadHash
      (unsupportedCommandShapeOutput platform request)
  | some (.supported request) =>
    if commandSupportsRequestedProtocol platform request.command request.commandVersion then
      handleSupportedRequest platform conditions frame.streamId request
    else
      rejectUnsupported platform conditions frame.streamId request.jobId
        (commandPayloadHash platform request.command)
        (unsupportedCommandVersionOutput platform request)

theorem handleCommandFrame_supported
    (supported : commandSupportsRequestedProtocol platform request.command
      request.commandVersion = true) :
    handleCommandFrame platform conditions ⟨streamId, some (.supported request)⟩ =
      handleSupportedRequest platform conditions streamId request :=
  if_pos supported

structure JobCancelRequest where
  jobId : Uuid
  reason : Option String

def handleCommandCancelFrame (request : JobCancelRequest) :
    Fallible (AgentCommandRuntime Content) Unit := do
  match ← .read fun agent => agent.activeCommands.lookup request.jobId with
  | none => sendJsonFrame (.commandCancelAck request.jobId true false "command_not_active")
  | some active =>
    let reason := request.reason.getD "canceled"
    .update fun agent => agent.modifyActive request.jobId fun active =>
      { active with canceled := some reason }
    if active.finished && active.pendingOutputs.isEmpty then
      sendJsonFrame (.commandCancelAck request.jobId true true reason)
    else
      sendJsonFrame (.commandCancelAck request.jobId true false
        (reason ++ "; cancel requested, command worker still finalizing"))

/-! ## Events of the tasks -/

/-- Take over the runtime configuration a finished command brought, if it can be stored. -/
def acceptRuntimeConfig (conditions : Conditions) (result : CommandExecutionResult Content)
    (agent : AgentCommandRuntime Content) :
    CommandExecutionResult Content × AgentCommandRuntime Content :=
  match result.runtimeConfigUpdate with
  | none => (result, agent)
  | some runtimeConfig =>
    match conditions.storeFailure with
    | some chain =>
      ({ result with
          result := .error (.failed "failed to persist last accepted runtime config"
            ("failed to persist last accepted runtime config: " ++ chain))
          configUpdate := none
          runtimeConfigUpdate := none }, agent)
    | none =>
      ({ result with runtimeConfigUpdate := none },
        { agent with
          runtimeConfigCache := some runtimeConfig
          acceptedRuntimeConfigVersion := some runtimeConfig.version })

def applyConfigUpdate (result : CommandExecutionResult Content)
    (agent : AgentCommandRuntime Content) : AgentCommandRuntime Content :=
  match result.configUpdate with
  | none => agent
  | some config => { agent with config := config }

def handleFinished (conditions : Conditions) (result : CommandExecutionResult Content) :
    Fallible (AgentCommandRuntime Content) Unit := fun agent =>
  let (result, agent) := acceptRuntimeConfig conditions result agent
  finishActiveCommand platform conditions result (applyConfigUpdate result agent)

/-! ## Sessions -/

inductive Action (Content : Type) where
  /-- A handshake succeeded; the next frame of the session gets the number `seq`. -/
  | connect (conditions : Conditions) (seq : Nat)
  | commandFrame (conditions : Conditions) (frame : CommandFrame Content)
  | cancelFrame (conditions : Conditions) (request : JobCancelRequest)
  | output (conditions : Conditions) (output : CommandOutput)
  | finished (conditions : Conditions) (result : CommandExecutionResult Content)
  /-- The session ends for a reason outside the command runtime. -/
  | disconnect
  | cleanup (now : Nat) (unreadable undeletable : List Uuid)

/-- Run a handler within a session; the session ends when the handler returns early. -/
def inSession (conditions : Conditions) (handler : Fallible (AgentCommandRuntime Content) Unit)
    (agent : AgentCommandRuntime Content) : AgentCommandRuntime Content :=
  match handler { agent with writable := conditions.writable } with
  | (some _, after) => after
  | (none, after) => { after with connected := false }

/-- What opening and ending a session may do, and every change of the handler, is all that
    happens within the session. -/
theorem inSession_steps (opened : change agent { agent with writable := conditions.writable })
    (ended : ∀ final : AgentCommandRuntime Content, change final { final with connected := false })
    (performs : Fallible.Performs change handler { agent with writable := conditions.writable }) :
    Relation.ReflTransGen change agent (inSession conditions handler agent) := by
  unfold inSession
  unfold Fallible.Performs at performs
  cases outcome : handler { agent with writable := conditions.writable } with
  | mk result final =>
    rw [outcome] at performs
    cases result with
    | some => exact .head opened performs
    | none => exact .tail (.head opened performs) (ended final)

/-! ## Handlers and their parts -/

section Parts

open Fallible

variable {change : AgentCommandRuntime Content → AgentCommandRuntime Content → Prop}
  (sends : ∀ {message agent}, Performs change (sendJsonFrame message) agent)
include sends

theorem sendSequencedCommandOutputs_performs :
    Performs change (sendSequencedCommandOutputs streamId outputs) agent :=
  .each (fun _ _ => sends) outputs agent

theorem replayRecent_performs :
    Performs change (replayRecent platform streamId jobId requestPayloadHash completed) agent := by
  unfold replayRecent
  split
  · refine .bind sends fun _ agent _ => ?_
    split
    · cases completed.terminalOutput with
      | none | some => exact sends
    · exact sendSequencedCommandOutputs_performs sends
  · exact sends

theorem replayLedger_performs :
    Performs change (replayLedger platform streamId jobId requestPayloadHash completed) agent := by
  unfold replayLedger
  split
  · refine .bind sends fun _ agent _ => ?_
    cases completed.terminalOutput with
    | none | some => exact sends
  · exact sends

theorem rejectUnsupported_performs (remembers : Performs change
      (rememberCompletedCommandOutputs platform conditions jobId payloadHash [output]) agent) :
    Performs change (rejectUnsupported platform conditions streamId jobId payloadHash output)
      agent :=
  .bind remembers fun _ _ _ => .bind sends fun _ _ _ => sends

theorem flushPendingCommandOutputs_performs
    (takes : ∀ {agent rest}, change agent
      (agent.modifyActive jobId fun active => { active with pendingOutputs := rest }))
    (agent : AgentCommandRuntime Content) :
    Performs change (flushPendingCommandOutputs jobId) agent := by
  have flushes : ∀ (streamId : Nat) (pending : List SequencedCommandOutput)
      (agent : AgentCommandRuntime Content),
      Performs change (flushOutputs jobId streamId pending) agent := by
    intro streamId pending
    induction pending with
    | nil => exact fun _ => .pure ()
    | cons _ _ ih =>
      exact fun _ => .bind sends fun _ _ _ => .bind (.update takes) fun _ agent _ => ih agent
  refine .read ?_
  cases agent.activeCommands.lookup jobId with
  | none => exact .pure ()
  | some active => exact flushes active.streamId active.pendingOutputs agent

end Parts

def step (agent : AgentCommandRuntime Content) :
    Action Content → Option (AgentCommandRuntime Content)
  | .connect conditions seq =>
    if agent.connected = false ∧ conditions.order.Perm agent.activeCommands.keys then
      some (inSession conditions (resumeActiveCommands conditions.order)
        { agent with connected := true, seq := seq })
    else none
  | .commandFrame conditions frame =>
    if agent.connected then
      some (inSession conditions (handleCommandFrame platform conditions frame) agent)
    else none
  | .cancelFrame conditions request =>
    if agent.connected then
      some (inSession conditions (handleCommandCancelFrame request) agent)
    else none
  | .output conditions output =>
    if agent.connected ∧ agent.activeCommands.entries ≠ [] then
      some (inSession conditions (queueActiveCommandOutput platform output) agent)
    else none
  | .finished conditions result =>
    if agent.connected ∧ agent.activeCommands.entries ≠ [] then
      some (inSession conditions (handleFinished platform conditions result) agent)
    else none
  | .disconnect => if agent.connected then some { agent with connected := false } else none
  | .cleanup now unreadable undeletable => some (agent.cleanupLedger now unreadable undeletable)

end Vpsman.Agent
