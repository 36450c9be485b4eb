import Vpsman.Forward.Spool
import Vpsman.Lib.Machine

/-! # The event forwarder of one target

Four parties act on a target's state: the holder of its admission lane, who brings one
event in; the consumer of its queue, who posts events to the API; the replay task, who
puts spooled events back into the queue; and the shutdown sequence. Each step below is
what one of them does between two points at which another can run. What the environment
decides (a full queue, no RAM left, a failed write, an answer of the API, a passed
deadline) is an argument of the action.

Events that do not spool, and the events of other targets, show up only through what the
target's events can see of them: they draw sequence numbers, fill queues and can leave
spool files of their own.
-/

namespace Vpsman.Forward

inductive QueueItem where
  | event (event : Event)
  | spooled (candidate : Candidate)
deriving DecidableEq, Repr

/-- The event a consumer works on, with its spool file if it has one. -/
structure Handle where
  event : Event
  spoolPath : Option SpoolPath
deriving DecidableEq, Repr

inductive Publication where
  | replayIndex
  | queueHead
deriving DecidableEq, Repr

/-- Where `persistSpoolEvent` stands: before the rename that makes the file appear,
    before its accounting, before its publication. -/
inductive Persist where
  | write
  | account (candidate : Candidate)
  | publish (candidate : Candidate)
deriving DecidableEq, Repr

/-- Where the holder of the target's admission lane stands. -/
inductive Lane where
  | free
  /-- The event has its sequence number; the pending fence is still to be read. -/
  | checking (event : Event)
  /-- Nothing of the target was pending. -/
  | admitting (event : Event)
  | spooling (event : Event) (stage : Persist)
deriving DecidableEq, Repr

/-- Where the consumer of the target's queue stands. -/
inductive Consumer where
  | receiving
  /-- At the head of the retry loop. -/
  | ready (handle : Handle)
  | posting (handle : Handle)
  /-- Making the head of the queue durable after `NeedsDurableReplay`. -/
  | retaining (handle : Handle) (stage : Persist)
  /-- Spooling an event that the shutdown deferred. -/
  | deferring (handle : Handle) (stage : Persist)
  /-- About to remove the file of an event that needs no further post. -/
  | finishing (handle : Handle)
deriving DecidableEq, Repr

structure Forwarder where
  enqueueSeq : Nat
  accepting : Bool := true
  shutdownRequested : Bool := false
  /-- The channel to the task that starts consumers is open. -/
  commandsOpen : Bool := true
  /-- The queues were dropped from the map at the end of the shutdown. -/
  queuesCleared : Bool := false
  /-- The target's channel, front first. -/
  queue : Option (List QueueItem) := none
  lane : Lane := .free
  consumer : Consumer := .receiving
  index : ReplayIndex := {}
  /-- The candidate the replay task has taken from the index. -/
  replaying : Option Candidate := none
  files : List SpoolFile
  accounted : List SpoolPath
  replayStartup : List Candidate
  replayArrivals : List Candidate := []
  replayWaiting : Bool := false
  replayReady : Bool := false
  deliveredCleanupRetries : List SpoolPath := []
  quarantineRetries : List SpoolPath := []
  /-- Uuids from here on are unused. -/
  nextUuid : SpoolPath
  /-- Sequence numbers in the order their posts succeeded. -/
  posted : List Nat := []
deriving DecidableEq, Repr

def perTargetQueueCapacity : Nat := 512

/-- Outcome of the send to the target's channel, as the environment decides it. -/
inductive Send where
  | sent
  /-- No slot of the global queue was free. -/
  | globalQueueFull
  | targetQueueFull
  | queueClosed
deriving DecidableEq, Repr

inductive Admission where
  | globalDepth
  | ramFull
  | send (outcome : Send)
deriving DecidableEq, Repr

inductive Enqueued where
  | ok
  | globalQueueFull
  | targetQueueFull
  | queueClosed
  | consumerUnavailable
deriving DecidableEq, Repr

/-- Reading a spool file back. -/
inductive Load where
  | readable
  | unreadable (quarantined : Bool)
deriving DecidableEq, Repr

inductive PostResult where
  | accepted
  | sessionNotActive
  /-- A conflict answer that is not retried. -/
  | conflict
  | failed (expired : Bool)
  /-- The shutdown notification came first. -/
  | interrupted
deriving DecidableEq, Repr

/-- Outcome of one step of `persistSpoolEvent`. -/
inductive Persisted where
  | at (stage : Persist)
  | done (candidate : Candidate)
  | failed
deriving DecidableEq, Repr

namespace Forwarder

/-- The fence before the direct path. `others` tells whether an event that does not
    spool under pressure has a file. -/
def targetHasPending (s : Forwarder) (others : Bool) : Bool :=
  !s.accounted.isEmpty || others

def accountSpooledFile (s : Forwarder) (path : SpoolPath) : Forwarder :=
  { s with accounted := s.accounted.insert path }

def unaccountSpooledFile (s : Forwarder) (path : SpoolPath) : Forwarder :=
  { s with accounted := s.accounted.filter (· ≠ path) }

/-- The file leaves the pending directory, by removal or into quarantine. -/
def dropSpooledFile (s : Forwarder) (path : SpoolPath) : Forwarder :=
  { s.unaccountSpooledFile path with files := s.files.filter fun file => file.path ≠ path }

def persistSpoolEvent (s : Forwarder) (event : Event) (publication : Publication)
    (written : Bool) : Persist → Forwarder × Persisted
  | .write =>
    if written then
      let file : SpoolFile := ⟨s.nextUuid, event⟩
      ({ s with files := s.files ++ [file], nextUuid := s.nextUuid + 1 },
        .at (.account file.candidate))
    else (s, .failed)
  | .account candidate =>
    (s.accountSpooledFile candidate.path,
      if publication = .replayIndex then .at (.publish candidate) else .done candidate)
  | .publish candidate =>
    ({ s with replayArrivals := s.replayArrivals ++ [candidate] }, .done candidate)

/-- Find or create the target's queue and send the item. The lookup and the send have no
    await between them and are one step. -/
def enqueueQueueItem (s : Forwarder) (item : QueueItem) : Send → Option (Forwarder × Enqueued)
  | .globalQueueFull => some (s, .globalQueueFull)
  | send =>
    if s.queuesCleared || s.queue.isNone && !s.commandsOpen then
      some (s, .consumerUnavailable)
    else
      let items := s.queue.getD []
      match send with
      | .sent =>
        if items.length < perTargetQueueCapacity then
          some ({ s with queue := some (items ++ [item]) }, .ok)
        else none
      | .queueClosed =>
        -- a channel is closed only after its consumer left it empty
        if items = [] ∧ s.consumer = .receiving then
          some ({ s with queue := none }, .queueClosed)
        else none
      | _ => some ({ s with queue := some items }, .targetQueueFull)

def markReplayTargetReady (s : Forwarder) : Forwarder :=
  if s.replayWaiting then { s with replayWaiting := false, replayReady := true } else s

def shutdownDeferral (s : Forwarder) (handle : Handle) : Forwarder :=
  if handle.spoolPath.isNone then { s with consumer := .deferring handle .write }
  else { s with consumer := .receiving }

end Forwarder

inductive Action where
  /-- An event that is not the target's, or does not spool, takes a number. -/
  | othersEnqueue
  | closeAdmission
  | closeCommands
  | requestShutdown
  | clearQueues
  | enqueue (createdUnix : Nat) (decodes : Bool)
  | checkPending (others : Bool)
  | admitEvent (admission : Admission)
  | spoolEvent (written : Bool)
  | receive (load : Load)
  | startPost
  | expire
  | finishPost (result : PostResult)
  | persistHead (written : Bool)
  | finishEvent (removed : Bool)
  | retireQueue
  | abandonQueue
  | refreshIndex
  | popNext
  | replayCandidate (send : Send)
  | retryCleanup (path : SpoolPath) (removed : Bool)
deriving DecidableEq, Repr

namespace Forwarder

def enqueue (s : Forwarder) (createdUnix : Nat) (decodes : Bool) : Option Forwarder :=
  match s.lane with
  | .free =>
    if s.accepting then
      let event : Event := ⟨s.enqueueSeq + 1, createdUnix, decodes, false⟩
      some { s with enqueueSeq := s.enqueueSeq + 1, lane := .checking event }
    else none
  | _ => none

def checkPending (s : Forwarder) (others : Bool) : Option Forwarder :=
  match s.lane with
  | .checking event =>
    if s.targetHasPending others then some { s with lane := .spooling event .write }
    else some { s with lane := .admitting event }
  | _ => none

def admitEvent (s : Forwarder) (admission : Admission) : Option Forwarder :=
  match s.lane with
  | .admitting event =>
    match admission with
    | .globalDepth | .ramFull => some { s with lane := .spooling event .write }
    | .send outcome => do
      let (s, enqueued) ← s.enqueueQueueItem (.event event) outcome
      match enqueued with
      | .ok | .consumerUnavailable => return { s with lane := .free }
      | .globalQueueFull | .targetQueueFull | .queueClosed =>
        return { s with lane := .spooling event .write }
  | _ => none

def spoolEvent (s : Forwarder) (written : Bool) : Option Forwarder :=
  match s.lane with
  | .spooling event stage =>
    match s.persistSpoolEvent event .replayIndex written stage with
    | (s, .at stage) => some { s with lane := .spooling event stage }
    | (s, .done _) => some { s with lane := .free }
    | (s, .failed) => some { s with lane := .free }
  | _ => none

/-- Make a handle of a queue item; nothing when its file cannot be read. -/
def queueItemEvent (s : Forwarder) (load : Load) : QueueItem → Forwarder × Option Handle
  | .event event => (s, some ⟨event, none⟩)
  | .spooled candidate =>
    match load, s.files.find? fun file => file.path = candidate.path with
    | .readable, some file =>
      (s, some ⟨file.event.markSpooledReplay.getD file.event, some candidate.path⟩)
    | .readable, none => (s.unaccountSpooledFile candidate.path, none)
    | .unreadable true, _ => (s.dropSpooledFile candidate.path, none)
    | .unreadable false, _ =>
      ({ s with quarantineRetries := candidate.path :: s.quarantineRetries }, none)

def receive (s : Forwarder) (load : Load) : Option Forwarder :=
  match s.consumer, s.queue with
  | .receiving, some (item :: rest) =>
    let s := { s with queue := some rest }.markReplayTargetReady
    match s.queueItemEvent load item with
    | (s, some handle) => some { s with consumer := .ready handle }
    | (s, none) => some s
  | _, _ => none

def startPost (s : Forwarder) : Option Forwarder :=
  match s.consumer with
  | .ready handle =>
    if s.shutdownRequested then some (s.shutdownDeferral handle)
    else some { s with consumer := .posting handle }
  | _ => none

def expire (s : Forwarder) : Option Forwarder :=
  match s.consumer with
  | .ready handle => some { s with consumer := .finishing handle }
  | _ => none

def finishPost (s : Forwarder) (result : PostResult) : Option Forwarder :=
  match s.consumer with
  | .posting handle =>
    match result with
    | .accepted =>
      some { s with
        posted := s.posted ++ [handle.event.enqueueSeq]
        consumer := .finishing handle }
    | .sessionNotActive =>
      if handle.event.markedSpooledReplay then some { s with consumer := .finishing handle }
      else
        match handle.event.markSpooledReplay with
        | some event =>
          some { s with consumer := .retaining { handle with event := event } .write }
        | none => some { s with consumer := .finishing handle }
    | .conflict => some { s with consumer := .finishing handle }
    | .failed expired =>
      if s.shutdownRequested then some (s.shutdownDeferral handle)
      else if expired then some { s with consumer := .finishing handle }
      else some { s with consumer := .ready handle }
    | .interrupted =>
      if s.shutdownRequested then some (s.shutdownDeferral handle) else none
  | _ => none

def persistHead (s : Forwarder) (written : Bool) : Option Forwarder :=
  match s.consumer with
  | .retaining handle stage =>
    match s.persistSpoolEvent handle.event .queueHead written stage with
    | (s, .at stage) => some { s with consumer := .retaining handle stage }
    | (s, .done candidate) =>
      some { s with consumer := .ready { handle with spoolPath := some candidate.path } }
    | (s, .failed) => some { s with consumer := .finishing handle }
  | .deferring handle stage =>
    match s.persistSpoolEvent handle.event .replayIndex written stage with
    | (s, .at stage) => some { s with consumer := .deferring handle stage }
    | (s, .done _) => some { s with consumer := .receiving }
    | (s, .failed) => some { s with consumer := .receiving }
  | _ => none

def finishEvent (s : Forwarder) (removed : Bool) : Option Forwarder :=
  match s.consumer with
  | .finishing handle =>
    match handle.spoolPath with
    | none => some { s with consumer := .receiving }
    | some path =>
      if removed then some { s.dropSpooledFile path with consumer := .receiving }
      else
        some { s with
          deliveredCleanupRetries := path :: s.deliveredCleanupRetries
          consumer := .receiving }
  | _ => none

def retireQueue (s : Forwarder) : Option Forwarder :=
  if s.consumer = .receiving ∧ s.queue = some [] then some { s with queue := none } else none

def abandonQueue (s : Forwarder) : Option Forwarder :=
  if s.consumer = .receiving ∧ s.queuesCleared then some { s with queue := none } else none

def refreshIndex (s : Forwarder) : Option Forwarder :=
  if s.replaying.isNone then
    let index := if s.replayReady then s.index.unblockTarget else s.index
    let startup := if index.initialized then [] else s.replayStartup
    let index := { index with initialized := true }
    let found := startup ++ s.replayArrivals
    some { s with
      index := index.insertAll found
      accounted := found.foldl (fun accounted candidate => accounted.insert candidate.path)
        s.accounted
      replayReady := false
      replayStartup := []
      replayArrivals := [] }
  else none

def popNext (s : Forwarder) : Option Forwarder :=
  if s.replaying.isNone then
    match s.index.popNext with
    | (some candidate, index) =>
      some { s with index := index, replaying := some candidate, replayWaiting := true }
    | (none, index) => some { s with index := index }
  else none

def replayCandidate (s : Forwarder) (send : Send) : Option Forwarder :=
  match s.replaying with
  | some candidate => do
    let (s, enqueued) ← s.enqueueQueueItem (.spooled candidate) send
    let s := { s with replaying := none }
    match enqueued with
    | .ok => return { s with replayWaiting := false, index := s.index.scheduleIfCandidates }
    | .targetQueueFull => return { s with index := s.index.blockTarget.insert candidate }
    | .queueClosed =>
      let s := s.markReplayTargetReady
      return { s with index := s.index.insert candidate }
    | .globalQueueFull | .consumerUnavailable =>
      return { s with index := s.index.insert candidate }
  | none => none

/-- Another attempt at a file whose removal or quarantine failed. -/
def retryCleanup (s : Forwarder) (path : SpoolPath) (removed : Bool) : Option Forwarder :=
  if path ∈ s.deliveredCleanupRetries ++ s.quarantineRetries then
    if removed then
      some { s.dropSpooledFile path with
        deliveredCleanupRetries := s.deliveredCleanupRetries.filter (· ≠ path)
        quarantineRetries := s.quarantineRetries.filter (· ≠ path) }
    else some s
  else none

def step (s : Forwarder) : Action → Option Forwarder
  | .othersEnqueue => some { s with enqueueSeq := s.enqueueSeq + 1 }
  | .closeAdmission => some { s with accepting := false }
  | .closeCommands => some { s with commandsOpen := false }
  | .requestShutdown => some { s with shutdownRequested := true }
  | .clearQueues =>
    if s.shutdownRequested ∧ s.commandsOpen = false ∧ s.accepting = false then
      some { s with queuesCleared := true }
    else none
  | .enqueue createdUnix decodes => s.enqueue createdUnix decodes
  | .checkPending others => s.checkPending others
  | .admitEvent admission => s.admitEvent admission
  | .spoolEvent written => s.spoolEvent written
  | .receive load => s.receive load
  | .startPost => s.startPost
  | .expire => s.expire
  | .finishPost result => s.finishPost result
  | .persistHead written => s.persistHead written
  | .finishEvent removed => s.finishEvent removed
  | .retireQueue => s.retireQueue
  | .abandonQueue => s.abandonQueue
  | .refreshIndex => s.refreshIndex
  | .popNext => s.popNext
  | .replayCandidate send => s.replayCandidate send
  | .retryCleanup path removed => s.retryCleanup path removed

end Forwarder

/-- The pending directory a process finds: one file an event. -/
structure SpoolDirectory where
  files : List SpoolFile
  nextUuid : SpoolPath
  paths_distinct : (files.map SpoolFile.path).Nodup
  seqs_distinct : (files.map fun file => file.event.enqueueSeq).Nodup
  paths_used : ∀ file ∈ files, file.path < nextUuid

/-- A new process on the pending directory. The counter starts at the clock or at the
    highest sequence number on disk, whichever is higher; `others` is the highest one in
    files of other targets. -/
def boot (files : List SpoolFile) (nextUuid : SpoolPath) (clock others : Nat) : Forwarder where
  enqueueSeq := files.foldl (fun seq file => max seq file.event.enqueueSeq) (max clock others)
  files := files
  accounted := files.map SpoolFile.path
  replayStartup := files.map SpoolFile.candidate
  nextUuid := nextUuid

def SpoolDirectory.boot (directory : SpoolDirectory) (clock others : Nat) : Forwarder :=
  Forward.boot directory.files directory.nextUuid clock others

/-- Only the disk survives the end of a process. -/
def Forwarder.restart (s : Forwarder) (clock others : Nat) : Forwarder :=
  boot s.files s.nextUuid clock others

end Vpsman.Forward
