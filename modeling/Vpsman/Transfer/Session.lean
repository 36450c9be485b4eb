import Vpsman.Lib.Interruptible
import Vpsman.Transfer.Protocol

/-! # Resumable file push

The requests of one transfer session on an agent. A session keeps a metadata file, and a
temporary file beside the destination that the chunks fill. Nothing is kept in memory: how
far the transfer is, every request reads from the length of the temporary file. Any file
operation may fail, and a request may be dropped at its time limit while one is going on.
-/

namespace Vpsman.Transfer

open Vpsman.Lib

/-! ## Files -/

/-- Device and inode. -/
structure NodeIdentity where
  dev : Nat
  ino : Nat
  deriving Repr, DecidableEq

structure FileTransferSessionMetadata where
  path : Text
  mode : Nat
  sizeBytes : Nat
  sha256Hex : Text
  chunkSizeBytes : Nat
  rateLimitKbps : Nat
  existingPolicy : FileExistingPolicy
  resumeTokenHash : Text
  tempIdentity : NodeIdentity
  deriving Repr, DecidableEq

structure RegularFile where
  identity : NodeIdentity
  content : Bytes
  mode : Nat
  deriving Repr, DecidableEq

inductive Node where
  | file (file : RegularFile)
  | directory
  | other
  deriving Repr, DecidableEq

/-- A destination: the directories and the name on its path. It determines the path of the
    temporary file of the session. -/
abbrev Target := List Text

structure World where
  temp : Target → Option RegularFile := fun _ => none
  destination : Target → Option Node := fun _ => none
  metadata : Option FileTransferSessionMetadata := none
  /-- What the file system will give to the next file. -/
  nextIdentity : NodeIdentity := ⟨0, 0⟩

/-- Write at a position, which may be behind the end. -/
def writeAt (offset : Nat) (data content : Bytes) : Bytes :=
  (content ++ List.replicate (offset - content.length) 0).take offset ++ data ++
    content.drop (offset + data.length)

namespace World

def setTemp (world : World) (target : Target) (file : Option RegularFile) : World :=
  { world with temp := fun t => if t = target then file else world.temp t }

def createTemp (world : World) (target : Target) : World :=
  world.setTemp target (some ⟨world.nextIdentity, [], 0o600⟩)

def writeTemp (world : World) (target : Target) (offset : Nat) (data : Bytes) : World :=
  world.setTemp target ((world.temp target).map fun file =>
    { file with content := writeAt offset data file.content })

def chmodTemp (world : World) (target : Target) (mode : Nat) : World :=
  world.setTemp target ((world.temp target).map fun file => { file with mode := mode })

/-- The temporary file becomes the destination. -/
def moveTemp (world : World) (target : Target) (file : RegularFile) : World :=
  { world.setTemp target none with
    destination := fun t => if t = target then some (.file file) else world.destination t }

end World

/-! ## File operations -/

inductive Call where
  | checkCanceled (operationType : String)
  /-- The directory of the metadata files is there and belongs to the agent. -/
  | metadataDirectory
  | readMetadata
  | writeMetadata (metadata : FileTransferSessionMetadata)
  | removeMetadata
  | statDestination (target : Target)
  | tempExists (target : Target)
  | createTemp (target : Target)
  | tempLength (target : Target) (expected : NodeIdentity)
  | writeTemp (target : Target) (expected : NodeIdentity) (offset : Nat) (data : Bytes)
  | readTemp (target : Target) (expected : NodeIdentity) (offset count : Nat)
  | readAll (target : Target) (expected : NodeIdentity)
  | chmodTemp (target : Target) (expected : NodeIdentity) (mode : Nat)
  | renameTemp (target : Target) (expected : NodeIdentity) (replace : Bool)
  | removeTemp (target : Target)
  | throttle (millis : Nat)

abbrev Call.Value : Call → Type
  | .readMetadata => FileTransferSessionMetadata
  | .statDestination _ => Node
  | .tempExists _ => Bool
  | .createTemp _ => NodeIdentity
  | .tempLength _ _ => Nat
  | .readTemp _ _ _ _ | .readAll _ _ => Bytes
  | _ => Unit

abbrev Call.Answer (call : Call) : Type := Except String call.Value

/-- Open the temporary file, which has to be the one the session created. -/
def openTemp (world : World) (target : Target) (expected : NodeIdentity) :
    Except String RegularFile := do
  let file ← (world.temp target).elim (.error "failed to open file") .ok
  demand (file.identity = expected) "file transfer temporary file changed"
  return file

/-- The operation when nothing disturbs it. -/
def Call.perform (world : World) : (call : Call) → call.Answer × World
  | .checkCanceled _ | .metadataDirectory | .throttle _ => (.ok (), world)
  | .readMetadata => (world.metadata.elim (.error "failed to open file") .ok, world)
  | .writeMetadata metadata =>
    match world.metadata with
    | some _ => (.error "failed to publish", world)
    | none => (.ok (), { world with metadata := some metadata })
  | .removeMetadata =>
    match world.metadata with
    | some _ => (.ok (), { world with metadata := none })
    | none => (.error "not found", world)
  | .statDestination target => ((world.destination target).elim (.error "not found") .ok, world)
  | .tempExists target => (.ok (world.temp target).isSome, world)
  | .createTemp target =>
    match world.temp target with
    | some _ => (.error "failed to create transfer temp file", world)
    | none => (.ok world.nextIdentity, world.createTemp target)
  | .tempLength target expected =>
    ((openTemp world target expected).map fun file => file.content.length, world)
  | .writeTemp target expected offset data =>
    match openTemp world target expected with
    | .ok _ => (.ok (), world.writeTemp target offset data)
    | .error error => (.error error, world)
  | .readTemp target expected offset count =>
    ((openTemp world target expected).bind fun file =>
      if offset + count ≤ file.content.length then .ok ((file.content.drop offset).take count)
      else .error "failed to fill whole buffer", world)
  | .readAll target expected =>
    ((openTemp world target expected).map fun file => file.content, world)
  | .chmodTemp target expected mode =>
    match openTemp world target expected with
    | .ok _ => (.ok (), world.chmodTemp target mode)
    | .error error => (.error error, world)
  | .renameTemp target expected replace =>
    match openTemp world target expected with
    | .ok file =>
      if world.destination target = none ∨
          replace ∧ world.destination target ≠ some .directory then
        (.ok (), world.moveTemp target file)
      else (.error "failed to move file into place", world)
    | .error error => (.error error, world)
  | .removeTemp target =>
    match world.temp target with
    | some _ => (.ok (), world.setTemp target none)
    | none => (.error "not found", world)

/-- The files when the operation stops early: a write after so many bytes, any other
    operation before or after its effect. -/
def Call.reached (world : World) (progress : Nat) : Call → World
  | .writeTemp target expected offset data =>
    ((Call.writeTemp target expected offset (data.take progress)).perform world).2
  | call => if progress = 0 then world else (call.perform world).2

/-- Operations that look at the cancellation token. -/
def Call.cancelable : Call → Bool
  | .checkCanceled _ | .readAll _ _ => true
  | _ => false

inductive Choice where
  | succeed
  | cancel (reason : String)
  | fail (progress : Nat) (error : String)
  /-- The time limit of the request drops it; the operation goes on this far. -/
  | drop (progress : Nat)
  deriving Repr, DecidableEq

def Choice.isFault : Choice → Bool
  | .succeed | .cancel _ => false
  | .fail _ _ | .drop _ => true

/-- An environment without faults takes every fault for a success. -/
def environment (faults : Bool) : Environment Unit World Choice Call.Answer where
  fresh := ()
  perform call choice world :=
    if choice.isFault && !faults then
      .answered (call.perform world).1 (call.perform world).2
    else
      match choice with
      | .succeed => .answered (call.perform world).1 (call.perform world).2
      | .cancel reason =>
        if call.cancelable then .answered (.error ("command canceled: " ++ reason)) world
        else .answered (call.perform world).1 (call.perform world).2
      | .fail progress error => .answered (.error error) (call.reached world progress)
      | .drop progress => .dropped (call.reached world progress)

/-! ## Requests -/

abbrev Handler := ExceptT String (Program Unit Call.Answer)

/-- Wait for the operation; its failure is the failure of the request. -/
def invoke (call : Call) : Handler call.Value := ExceptT.mk (.await call .done)

/-- Wait for the operation and look at its result. -/
def attempt (call : Call) : Handler call.Answer := ExceptT.mk (.await call fun answer => .done (.ok answer))

def check {α : Type} (result : Except String α) : Handler α := ExceptT.mk (.done result)

def validated {α : Type} (result : Validation α) : Handler α :=
  check (result.mapError FileTransferValidationError.toString)

inductive Extra where
  | resumed (chunkSizeBytes rateLimitKbps : Nat) (existingPolicy : FileExistingPolicy)
  | skipped (existingPolicy : FileExistingPolicy)
  | started (chunkSizeBytes rateLimitKbps : Nat) (existingPolicy : FileExistingPolicy)
  | acknowledged (ackOffset ackSizeBytes : Nat) (duplicate : Bool)
  | committed (sha256Hex : Text) (mode : Nat) (existingPolicy : FileExistingPolicy)
  | aborted
  deriving Repr, DecidableEq

/-- `transfer_status`. -/
structure Status where
  type : String
  sessionId : Uuid
  path : Text
  nextOffset : Nat
  sizeBytes : Option Nat
  extra : Extra
  deriving Repr, DecidableEq

/-- The names on a path. -/
def pathTarget (path : Text) : Target := (segments path).filter fun segment => !segment.isEmpty

def transferSessionPaths (path : Text) : Handler Target := do
  validated (validateAbsoluteFilePath path)
  check (demand (path ≠ ['/']) "refusing to write filesystem root")
  let target := pathTarget path
  check (demand (target ≠ []) "file transfer destination has no parent directory")
  invoke .metadataDirectory
  return target

def readMetadataBySession (sessionId : Uuid) : Handler FileTransferSessionMetadata := do
  check (demand (sessionId ≠ 0) "file transfer session id is invalid")
  invoke .metadataDirectory
  invoke .readMetadata

def FileTransferSessionMetadata.Matches (metadata : FileTransferSessionMetadata)
    (request : StartRequest) : Prop :=
  metadata.path = request.path ∧ metadata.mode = request.mode ∧
    metadata.sizeBytes = request.sizeBytes ∧
    metadata.sha256Hex = asciiLower request.sha256Hex ∧
    metadata.chunkSizeBytes = request.chunkSizeBytes ∧
    metadata.rateLimitKbps = request.rateLimitKbps ∧
    metadata.existingPolicy = request.existingPolicy ∧
    metadata.resumeTokenHash = asciiLower request.resumeTokenHash

instance (metadata : FileTransferSessionMetadata) (request : StartRequest) :
    Decidable (metadata.Matches request) := by
  unfold FileTransferSessionMetadata.Matches
  infer_instance

def ensureMetadataMatches (metadata : FileTransferSessionMetadata) (request : StartRequest) :
    Except String Unit :=
  demand (metadata.Matches request) "file transfer session metadata does not match start request"

def ensureResumeToken (metadata : FileTransferSessionMetadata) (resumeTokenHash : Text) :
    Except String Unit :=
  demand (metadata.resumeTokenHash = asciiLower resumeTokenHash)
    "file transfer resume token hash mismatch"

def currentTransferOffset (target : Target) (declaredSize : Nat) (expected : NodeIdentity) :
    Handler Nat := do
  let length ← invoke (.tempLength target expected)
  check (demand (length ≤ declaredSize) "file transfer temporary file is larger than declared size")
  return length

def StartRequest.metadata (request : StartRequest) (tempIdentity : NodeIdentity) :
    FileTransferSessionMetadata where
  path := request.path
  mode := request.mode
  sizeBytes := request.sizeBytes
  sha256Hex := asciiLower request.sha256Hex
  chunkSizeBytes := request.chunkSizeBytes
  rateLimitKbps := request.rateLimitKbps
  existingPolicy := request.existingPolicy
  resumeTokenHash := asciiLower request.resumeTokenHash
  tempIdentity := tempIdentity

def startStatus (sessionId : Uuid) (request : StartRequest) (nextOffset : Nat) (extra : Extra) :
    Status :=
  ⟨"file_transfer_start", sessionId, request.path, nextOffset, some request.sizeBytes, extra⟩

/-- The session is new and its destination may be written. -/
def createSession (sessionId : Uuid) (request : StartRequest) (target : Target) : Handler Status := do
  invoke (.checkCanceled "file_transfer_start")
  let tempIdentity ← invoke (.createTemp target)
  invoke (.writeMetadata (request.metadata tempIdentity))
  return startStatus sessionId request 0
    (.started request.chunkSizeBytes request.rateLimitKbps request.existingPolicy)

def executeFileTransferStart (sessionId : Uuid) (request : StartRequest) : Handler Status := do
  invoke (.checkCanceled "file_transfer_start")
  validated (validateFileTransferSession sessionId request)
  let target ← transferSessionPaths request.path
  match ← attempt .readMetadata with
  | .ok metadata =>
    check (ensureMetadataMatches metadata request)
    let nextOffset ← currentTransferOffset target request.sizeBytes metadata.tempIdentity
    return startStatus sessionId request nextOffset
      (.resumed metadata.chunkSizeBytes metadata.rateLimitKbps metadata.existingPolicy)
  | .error _ =>
    let present ← invoke (.tempExists target)
    check (demand (present = false) "file transfer temporary file exists without session metadata")
    match ← attempt (.statDestination target) with
    | .ok node =>
      check (demand (node ≠ .directory) "file transfer destination is a directory")
      if request.existingPolicy = .skip then
        invoke (.checkCanceled "file_transfer_start")
        return startStatus sessionId request request.sizeBytes (.skipped request.existingPolicy)
      else createSession sessionId request target
    | .error _ => createSession sessionId request target

structure ChunkRequest where
  offset : Nat
  chunk : FilePushChunk
  resumeTokenHash : Text
  deriving Repr, DecidableEq

/-- The time a chunk of so many bytes takes at the limited rate. -/
def throttleMillis (rateLimitKbps byteCount : Nat) : Nat :=
  if rateLimitKbps = 0 || byteCount = 0 then 0
  else satMul (byteCount * 8) 1000 / (rateLimitKbps * 1000)

def maybeThrottleCompleteOnCancel (rateLimitKbps byteCount : Nat) : Handler Unit := do
  let millis := throttleMillis rateLimitKbps byteCount
  if 0 < millis then discard (attempt (.throttle millis))

def verifyExistingChunk (target : Target) (expected : NodeIdentity) (offset : Nat) (data : Bytes) :
    Handler Unit := do
  let existing ← invoke (.readTemp target expected offset data.length)
  check (demand (existing = data) "duplicate file transfer chunk does not match existing bytes")

def chunkStatus (sessionId : Uuid) (metadata : FileTransferSessionMetadata) (offset : Nat)
    (decoded : Bytes) (nextOffset : Nat) (duplicate : Bool) : Status :=
  ⟨"file_transfer_chunk_ack", sessionId, metadata.path, nextOffset, some metadata.sizeBytes,
    .acknowledged offset decoded.length duplicate⟩

def executeFileTransferChunk (codec : Codec) (sessionId : Uuid) (request : ChunkRequest) :
    Handler Status := do
  invoke (.checkCanceled "file_transfer_chunk")
  validated (validateFileTransferSessionToken sessionId request.resumeTokenHash)
  check (demand (request.offset = request.chunk.offset)
    "file transfer chunk offset does not match command offset")
  let metadata ← readMetadataBySession sessionId
  check (ensureResumeToken metadata request.resumeTokenHash)
  let target ← transferSessionPaths metadata.path
  let decoded ← validated (decodeFileTransferChunk codec request.chunk metadata.chunkSizeBytes)
  check (demand (satAdd request.offset decoded.length ≤ metadata.sizeBytes)
    "file transfer chunk exceeds declared size")
  let currentOffset ← currentTransferOffset target metadata.sizeBytes metadata.tempIdentity
  if request.offset = currentOffset then
    invoke (.checkCanceled "file_transfer_chunk")
    invoke (.writeTemp target metadata.tempIdentity request.offset decoded)
    maybeThrottleCompleteOnCancel metadata.rateLimitKbps decoded.length
    return chunkStatus sessionId metadata request.offset decoded (request.offset + decoded.length) false
  else if request.offset < currentOffset ∧ request.offset + decoded.length ≤ currentOffset then
    invoke (.checkCanceled "file_transfer_chunk")
    verifyExistingChunk target metadata.tempIdentity request.offset decoded
    return chunkStatus sessionId metadata request.offset decoded currentOffset true
  else check (.error "file transfer chunk offset is not resumable from current state")

def executeFileTransferCommit (codec : Codec) (sessionId : Uuid) (resumeTokenHash : Text) :
    Handler Status := do
  invoke (.checkCanceled "file_transfer_commit")
  validated (validateFileTransferSessionToken sessionId resumeTokenHash)
  let metadata ← readMetadataBySession sessionId
  check (ensureResumeToken metadata resumeTokenHash)
  let target ← transferSessionPaths metadata.path
  let currentOffset ← currentTransferOffset target metadata.sizeBytes metadata.tempIdentity
  check (demand (currentOffset = metadata.sizeBytes)
    "file transfer commit before all bytes are received")
  let content ← invoke (.readAll target metadata.tempIdentity)
  let actualHash := codec.payloadHash content
  check (demand (actualHash = metadata.sha256Hex) "file transfer final hash mismatch")
  invoke (.checkCanceled "file_transfer_commit")
  invoke (.chmodTemp target metadata.tempIdentity metadata.mode)
  invoke (.checkCanceled "file_transfer_commit")
  invoke (.renameTemp target metadata.tempIdentity (metadata.existingPolicy = .replace))
  discard (attempt .removeMetadata)
  return ⟨"file_transfer_commit", sessionId, metadata.path, metadata.sizeBytes,
    some metadata.sizeBytes, .committed actualHash metadata.mode metadata.existingPolicy⟩

def executeFileTransferAbort (sessionId : Uuid) (resumeTokenHash : Text) : Handler Status := do
  invoke (.checkCanceled "file_transfer_abort")
  validated (validateFileTransferSessionToken sessionId resumeTokenHash)
  let metadata ← readMetadataBySession sessionId
  check (ensureResumeToken metadata resumeTokenHash)
  let target ← transferSessionPaths metadata.path
  discard (attempt (.removeTemp target))
  discard (attempt .removeMetadata)
  return ⟨"file_transfer_abort", sessionId, metadata.path, 0, some metadata.sizeBytes, .aborted⟩

/-! ## Histories -/

inductive Request where
  | start (request : StartRequest)
  | chunk (request : ChunkRequest)
  | commit (resumeTokenHash : Text)
  | abort (resumeTokenHash : Text)
  deriving Repr, DecidableEq

def execute (codec : Codec) (sessionId : Uuid) : Request → Handler Status
  | .start request => executeFileTransferStart sessionId request
  | .chunk request => executeFileTransferChunk codec sessionId request
  | .commit resumeTokenHash => executeFileTransferCommit codec sessionId resumeTokenHash
  | .abort resumeTokenHash => executeFileTransferAbort sessionId resumeTokenHash

/-- The status or the error of the request, or nothing when it was dropped. -/
abbrev Reply := Option (Except String Status)

def Reply.status? : Reply → Option Status
  | some (.ok status) => some status
  | _ => none

inductive Event where
  | request (request : Request) (choices : List Choice)
  /-- Others change destinations and use up identities. -/
  | others (destination : Target → Option Node) (nextIdentity : NodeIdentity)

/-- One request by itself, from start to end. -/
def handle (codec : Codec) (sessionId : Uuid) (world : World) (request : Request)
    (choices : List Choice) : Reply × World :=
  let (reply, _, after) := (execute codec sessionId request).run.exec (environment true) choices () world
  (reply, after)

def step (codec : Codec) (sessionId : Uuid) (world : World) : Event → World
  | .request request choices => (handle codec sessionId world request choices).2
  | .others destination nextIdentity => { world with destination, nextIdentity }

def afterEvents (codec : Codec) (sessionId : Uuid) (events : List Event) : World :=
  events.foldl (step codec sessionId) {}

end Vpsman.Transfer
