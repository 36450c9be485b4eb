import Vpsman.Lib.Word

/-! # Commands and their outputs on the agent

A command arrives in a job request and answers with outputs, the last of which has
`done` set. Of the commands themselves only what the runtime looks at is kept. JSON
encoding, SHA-256 and the protocol table of runtime configurations are given by a
`Platform`.
-/

namespace Vpsman.Agent

open Vpsman.Lib

inductive OutputStream where
  | stdout
  | stderr
  | status
  | pty
  deriving Repr, DecidableEq

/-- `output_stream_name`. -/
def OutputStream.name : OutputStream → String
  | .stdout => "stdout"
  | .stderr => "stderr"
  | .status => "status"
  | .pty => "pty"

structure CommandOutput where
  jobId : Uuid
  stream : OutputStream
  data : List UInt8
  exitCode : Option Int
  done : Bool
  deriving Repr, DecidableEq

structure SequencedCommandOutput where
  seq : Int
  output : CommandOutput
  deriving Repr, DecidableEq

/-- What the ledger keeps of a completed command. -/
structure CommandLedgerEntry where
  schemaVersion : Nat
  jobId : Uuid
  payloadHash : String
  completedUnix : Nat
  terminalOutput : Option SequencedCommandOutput
  truncated : Bool
  deriving Repr, DecidableEq

/-- The part of the configuration that the server may replace. -/
structure AgentRuntimeConfig (Content : Type) where
  version : Nat
  content : Content
  deriving Repr, DecidableEq

inductive JobCommandSafety where
  | read
  | write
  | exec
  | exclusive
  deriving Repr, DecidableEq

/-- Any command that the runtime only hands on to its executor. -/
structure Operation where
  label : String
  safety : JobCommandSafety
  minSupportedProtocolVersion : Nat
  protocolVersion : Nat
  arguments : List UInt8
  deriving Repr, DecidableEq

inductive JobCommand (Content : Type) where
  | configRead
  | runtimeConfigSync (desiredVersion : Nat) (reason : String)
      (config : AgentRuntimeConfig Content)
  | operation (operation : Operation)
  deriving Repr, DecidableEq

/-- A value in a status object. -/
inductive Scalar where
  | null
  | number (value : Int)
  | text (value : String)
  deriving Repr, DecidableEq

abbrev StatusObject := List (String × Scalar)

/-- The pure functions the runtime takes from its libraries and from the other parts of
    the agent. -/
structure Platform (Content : Type) where
  /-- `serde_json::to_vec` of a status object. -/
  encodeStatus : StatusObject → List UInt8
  /-- `encode_json` of a command. -/
  encodeCommand : JobCommand Content → List UInt8
  /-- `serde_json::to_vec` of a runtime configuration. -/
  encodeRuntimeConfig : AgentRuntimeConfig Content → List UInt8
  /-- `serde_json::to_vec` of a ledger entry. -/
  encodeLedgerEntry : CommandLedgerEntry → List UInt8
  /-- The SHA-256 digest in hexadecimal. -/
  payloadHash : List UInt8 → String
  /-- `runtime_config_protocol_version`. -/
  runtimeConfigProtocolVersion : AgentRuntimeConfig Content → Nat

variable {Content : Type} (platform : Platform Content)

def commandPayloadHash (command : JobCommand Content) : String :=
  platform.payloadHash (platform.encodeCommand command)

def runtimeConfigContentHash (config : AgentRuntimeConfig Content) : String :=
  platform.payloadHash (platform.encodeRuntimeConfig { config with version := 0 })

def configCommandProtocolVersion : Nat := 3

def jobCommandSafety : JobCommand Content → JobCommandSafety
  | .configRead => .read
  | .runtimeConfigSync _ _ _ => .exclusive
  | .operation operation => operation.safety

def jobCommandMinSupportedProtocolVersion : JobCommand Content → Nat
  | .configRead => configCommandProtocolVersion
  | .runtimeConfigSync _ _ config => platform.runtimeConfigProtocolVersion config
  | .operation operation => operation.minSupportedProtocolVersion

def jobCommandProtocolVersion : JobCommand Content → Nat
  | .configRead => configCommandProtocolVersion
  | .runtimeConfigSync _ _ config => platform.runtimeConfigProtocolVersion config
  | .operation operation => operation.protocolVersion

def commandSupportsRequestedProtocol (command : JobCommand Content) (commandVersion : Nat) : Bool :=
  jobCommandMinSupportedProtocolVersion platform command ≤ commandVersion &&
    commandVersion ≤ jobCommandProtocolVersion platform command

structure JobRequest (Content : Type) where
  jobId : Uuid
  commandVersion : Nat
  command : JobCommand Content
  maxTimeoutSecs : Nat
  deriving Repr, DecidableEq

/-- A request whose command this agent cannot decode. -/
structure UnsupportedJobRequest where
  jobId : Uuid
  commandVersion : Nat
  commandType : String
  payloadHash : String
  message : String
  deriving Repr, DecidableEq

inductive DecodedJobRequest (Content : Type) where
  | supported (request : JobRequest Content)
  | unsupported (request : UnsupportedJobRequest)
  deriving Repr, DecidableEq

/-! ## Status outputs -/

def statusOutput (jobId : Uuid) (status : StatusObject) (exitCode : Int) : CommandOutput where
  jobId := jobId
  stream := .status
  data := platform.encodeStatus status
  exitCode := some exitCode
  done := true

def unsupportedCommandVersionOutput (request : JobRequest Content) : CommandOutput :=
  statusOutput platform request.jobId
    [("type", .text "unsupported_command_version"),
      ("status", .text "rejected"),
      ("job_id", .text request.jobId.hyphenated),
      ("command_version", .number request.commandVersion),
      ("current_command_protocol_version",
        .number (jobCommandProtocolVersion platform request.command)),
      ("min_command_protocol_version",
        .number (jobCommandMinSupportedProtocolVersion platform request.command)),
      ("reason", .text "agent_binary_does_not_support_requested_command_protocol")] 78

def unsupportedCommandShapeOutput (request : UnsupportedJobRequest) : CommandOutput :=
  statusOutput platform request.jobId
    [("type", .text "unsupported_command_version"),
      ("status", .text "rejected"),
      ("job_id", .text request.jobId.hyphenated),
      ("command_version", .number request.commandVersion),
      ("command_type", .text request.commandType),
      ("reason", .text "agent_binary_does_not_support_command_shape")] 78

def duplicateReplayUnknownTerminalOutput (jobId : Uuid) : CommandOutput :=
  statusOutput platform jobId
    [("type", .text "duplicate_job_replay_unavailable"),
      ("status", .text "failed"),
      ("job_id", .text jobId.hyphenated),
      ("reason", .text "recent_command_terminal_result_unavailable")] 75

def exitCodeScalar : Option Int → Scalar
  | none => .null
  | some exitCode => .number exitCode

/-- The JSON object that stands in for a final output. -/
def compactStatus (reason : String) (output : SequencedCommandOutput) : StatusObject :=
  [("type", .text "duplicate_job_replay_unavailable"),
    ("status", .text "failed"),
    ("job_id", .text output.output.jobId.hyphenated),
    ("reason", .text reason),
    ("message", .text
      "duplicate command replay is lossy; original terminal output requires human review"),
    ("original_stream", .text output.output.stream.name),
    ("original_exit_code", exitCodeScalar output.output.exitCode),
    ("original_data_size_bytes", .number output.output.data.length),
    ("original_data_sha256_hex", .text (platform.payloadHash output.output.data))]

/-- What stands in for a final output that is not kept as it was. -/
def compactOutput (reason : String) (output : SequencedCommandOutput) : SequencedCommandOutput where
  seq := output.seq
  output := statusOutput platform output.output.jobId (compactStatus platform reason output) 75

def compactTerminalReplayOutput (output : SequencedCommandOutput) : SequencedCommandOutput :=
  compactOutput platform "recent_command_replay_truncated" output

def compactLedgerTerminalOutput (output : Option SequencedCommandOutput) :
    Option SequencedCommandOutput :=
  output.map (compactOutput platform "command_ledger_replay")

/-! ## Numbered outputs -/

def i32Max : Int := 2 ^ 31 - 1

/-- `i32::saturating_add` of a nonnegative step. -/
def nextSeq (seq : Int) (step : Nat) : Int := min (seq + min (step : Int) i32Max) i32Max

def sequencedOutputsStartingAt (start : Int) (outputs : List CommandOutput) :
    List SequencedCommandOutput :=
  outputs.mapIdx fun offset output => ⟨nextSeq start offset, output⟩

def terminalReplayOutputFrom (outputs : List SequencedCommandOutput) :
    Option SequencedCommandOutput :=
  (outputs.reverse.find? (·.output.done)).map (compactTerminalReplayOutput platform)

def sequencedCommandOutputsBytes (outputs : List SequencedCommandOutput) : Nat :=
  (outputs.map (·.output.data.length)).sum

end Vpsman.Agent
