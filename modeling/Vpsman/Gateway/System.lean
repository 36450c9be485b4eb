import Vpsman.Lib.Machine
import Vpsman.Gateway.Dispatch

/-! # Interleaved dispatches and fence requests

The system runs any number of dispatch attempts against fence requests, marker
sweeps and the clock. A dispatch is cut at its fence check, its marker insertion,
its send and its rollback. An accepted prepare or promote is cut between changing
the fence and reading the markers. The lifecycle guard of a client is held shared by
its attempts in flight and exclusively by a request that is still to read markers;
all other requests finish in one step. The log is kept for specifications only.
-/

namespace Vpsman.Gateway

open Vpsman.Lib

inductive AttemptPhase where
  | checked
  | marked (marker : EnqueueMarker) (prior : Option EnqueueMarker)
  /-- The session's channel refused the command; the rollback is still to come. -/
  | failed (marker : EnqueueMarker) (prior : Option EnqueueMarker)
  deriving Repr, DecidableEq

/-- One pass of a dispatch through the guard, with the fence that its check saw. -/
structure Attempt where
  dispatch : CommandDispatch
  observed : Option DispatchFence
  phase : AttemptPhase
  deriving Repr, DecidableEq

def Attempt.withPhase (held : Attempt) (phase : AttemptPhase) : Attempt :=
  { held with phase := phase }

inductive FenceRequest where
  | prepare (request : PrepareRequest)
  | promote (request : PromoteRequest)
  | clear (request : ClearRequest)
  deriving Repr, DecidableEq

def FenceRequest.clientId : FenceRequest → ClientId
  | .prepare request => request.clientId
  | .promote request => request.clientId
  | .clear request => request.clientId

/-- The requests whose accepted answer has to list the enqueued jobs. -/
def FenceRequest.protects : FenceRequest → Bool
  | .prepare _ | .promote _ => true
  | .clear _ => false

def FenceRequest.run (request : FenceRequest) (state : GatewayState) (now : Instant) :
    GatewayState × FenceReply :=
  match request with
  | .prepare request => state.prepareGatewayClientDispatchFence request now
  | .promote request => state.promoteGatewayClientDispatchFence request now
  | .clear request => state.clearGatewayClientDispatchFence request now

structure FenceResult where
  clientId : ClientId
  accepted : Bool
  fenced : Bool
  ownershipContinuous : Bool
  message : String
  enqueuedJobIds : List Uuid
  deriving Repr, DecidableEq

def FenceReply.result (reply : FenceReply) (clientId : ClientId) (jobIds : List Uuid) :
    FenceResult where
  clientId := clientId
  accepted := reply.accepted
  fenced := reply.fenced
  ownershipContinuous := reply.ownershipContinuous
  message := reply.message
  enqueuedJobIds := jobIds

inductive Event where
  | checked (attempt : Nat) (dispatch : CommandDispatch) (observed : Option DispatchFence)
  | marked (attempt : Nat) (clientId : ClientId) (jobId : Uuid) (marker : EnqueueMarker)
  /-- A successful `try_send`, with the fence installed at that moment. -/
  | sent (attempt : Nat) (clientId : ClientId) (jobId : Uuid) (marker : EnqueueMarker)
      (installed : Option DispatchFence)
  | refused (attempt : Nat) (error : DispatchError)
  | acquired (request : AcquireRequest) (granted : Option FenceOwner)
  | answered (request : FenceRequest) (now : Instant) (result : FenceResult)
  deriving Repr, DecidableEq

/-- An accepted request that has changed the fence and not yet read the markers. -/
structure Collecting where
  request : FenceRequest
  reply : FenceReply
  deriving Repr, DecidableEq

structure System where
  gateway : GatewayState
  now : Instant
  inFlight : HashMap Nat Attempt := ∅
  collecting : HashMap ClientId Collecting := ∅
  /-- What has happened so far, newest first. -/
  log : List Event := []

inductive TrySend where
  | delivered
  | full
  | closed
  deriving Repr, DecidableEq

inductive Action where
  | tick (later : Instant)
  | prune
  | check (attempt : Nat) (dispatch : CommandDispatch)
  | mark (attempt : Nat) (generation : Uuid)
  | trySend (attempt : Nat) (outcome : TrySend)
  | rollback (attempt : Nat)
  | acquire (request : AcquireRequest)
  | request (request : FenceRequest)
  | collect (clientId : ClientId)
  | registerSession (clientId : ClientId) (session : GatewaySession)
      (observed : Option DispatchFence)
  | refreshRoute (clientId : ClientId) (session : Uuid) (observed : Option FenceOwner)
  | closeSession (clientId : ClientId)
  | setDispatchAckSecs (secs : Nat)
  deriving Repr, DecidableEq

namespace System

def readLocked (s : System) (clientId : ClientId) : Bool :=
  s.inFlight.entries.any fun entry => entry.2.dispatch.clientId = clientId

def writeLocked (s : System) (clientId : ClientId) : Bool :=
  (s.collecting.lookup clientId).isSome

def freshAttempt (s : System) (attempt : Nat) : Bool :=
  s.log.all fun event => match event with
    | .checked used _ _ => used ≠ attempt
    | _ => true

/-- `Uuid::new_v4` has not returned this value for an earlier marker. -/
def freshGeneration (s : System) (generation : Uuid) : Bool :=
  s.log.all fun event => match event with
    | .marked _ _ _ marker => marker.generation ≠ generation
    | _ => true

def record (s : System) (event : Event) : System := { s with log := event :: s.log }

def release (s : System) (attempt : Nat) : System := { s with inFlight := s.inFlight.erase attempt }

def setGateway (s : System) (gateway : GatewayState) : System := { s with gateway := gateway }

/-- Answer at once, or keep the write guard until the markers have been read. -/
def answer (s : System) (request : FenceRequest) (reply : FenceReply) : System :=
  match reply.ids with
  | .skipped => s.record (.answered request s.now (reply.result request.clientId []))
  | .asOf _ | .fresh =>
    { s with collecting := s.collecting.insert request.clientId ⟨request, reply⟩ }

def check (s : System) (attempt : Nat) (dispatch : CommandDispatch) : System :=
  let observed := s.gateway.fenceOf dispatch.clientId
  match s.gateway.checkDispatchFence dispatch s.now with
  | .expired => s.setGateway (s.gateway.normalizeExpiredDispatchFence dispatch.clientId s.now)
  | .rejected error =>
    (s.record (.checked attempt dispatch observed)).record (.refused attempt error)
  | .admitted =>
    { s with
      inFlight := s.inFlight.insert attempt ⟨dispatch, observed, .checked⟩
      log := .checked attempt dispatch observed :: s.log }

def mark (s : System) (attempt : Nat) (held : Attempt) (generation : Uuid) : System :=
  let dispatch := held.dispatch
  match s.gateway.dispatchSession dispatch with
  | .error error => (s.release attempt).record (.refused attempt error)
  -- not connected: the guard is dropped and the caller waits for the grace period or gives up
  | .ok none => s.release attempt
  | .ok (some _) =>
    let marker : EnqueueMarker := ⟨generation, s.gateway.enqueueExpiry dispatch s.now⟩
    let prior := s.gateway.markerOf dispatch.clientId dispatch.jobId
    { s with
      gateway := s.gateway.setMarker dispatch.clientId dispatch.jobId marker
      inFlight := s.inFlight.insert attempt (held.withPhase (.marked marker prior))
      log := .marked attempt dispatch.clientId dispatch.jobId marker :: s.log }

def trySend (s : System) (attempt : Nat) (held : Attempt) (marker : EnqueueMarker)
    (prior : Option EnqueueMarker) (outcome : TrySend) : System :=
  let clientId := held.dispatch.clientId
  let failed : System :=
    { s with inFlight := s.inFlight.insert attempt (held.withPhase (.failed marker prior)) }
  match outcome with
  | .delivered =>
    (s.release attempt).record
      (.sent attempt clientId held.dispatch.jobId marker (s.gateway.fenceOf clientId))
  | .full => failed.record (.refused attempt (.sessionCommandQueueFull clientId))
  | .closed => failed.record (.refused attempt (.sessionClosed clientId))

def collect (s : System) (clientId : ClientId) (pending : Collecting) : System :=
  let read := s.gateway.protectedEnqueuedJobIds clientId (pending.reply.ids.reading s.now)
  { s with
    gateway := read.1
    collecting := s.collecting.erase clientId
    log := .answered pending.request s.now (pending.reply.result clientId read.2) :: s.log }

/-- Perform an action if the guards it needs are free. -/
def step (s : System) : Action → Option System
  | .tick later => if s.now ≤ later then some { s with now := later } else none
  | .prune => some (s.setGateway (s.gateway.pruneExpiredCommandEnqueues s.now))
  | .check attempt dispatch =>
    if s.writeLocked dispatch.clientId || !s.freshAttempt attempt then none
    else some (s.check attempt dispatch)
  | .mark attempt generation =>
    match s.inFlight.lookup attempt with
    | some held =>
      if held.phase = .checked ∧ s.freshGeneration generation then
        some (s.mark attempt held generation)
      else none
    | none => none
  | .trySend attempt outcome =>
    match s.inFlight.lookup attempt with
    | some held =>
      match held.phase with
      | .marked marker prior => some (s.trySend attempt held marker prior outcome)
      | .checked | .failed _ _ => none
    | none => none
  | .rollback attempt =>
    match s.inFlight.lookup attempt with
    | some held =>
      match held.phase with
      | .failed marker prior =>
        some ((s.release attempt).setGateway (s.gateway.rollbackFailedCommandEnqueue
          held.dispatch.clientId held.dispatch.jobId marker prior))
      | .checked | .marked _ _ => none
    | none => none
  | .acquire request =>
    if s.readLocked request.clientId || s.writeLocked request.clientId then none
    else
      let outcome := s.gateway.acquireGatewayClientDispatchFence request s.now
      some ((s.setGateway outcome.1).record (.acquired request outcome.2.toOption))
  | .request request =>
    if s.readLocked request.clientId || s.writeLocked request.clientId then none
    else
      let outcome := request.run s.gateway s.now
      some ((s.setGateway outcome.1).answer request outcome.2)
  | .collect clientId =>
    match s.collecting.lookup clientId with
    | some pending => some (s.collect clientId pending)
    | none => none
  | .registerSession clientId session observed =>
    if s.readLocked clientId || s.writeLocked clientId then none
    else some (s.setGateway
      (s.gateway.registerSessionAfterAcceptedHello clientId session observed s.now).1)
  | .refreshRoute clientId session observed =>
    if s.readLocked clientId || s.writeLocked clientId then none
    else some (s.setGateway
      (s.gateway.refreshClientRouteAfterCommittedTelemetry clientId session observed).1)
  | .closeSession clientId => some (s.setGateway (s.gateway.closeAgentSession clientId))
  | .setDispatchAckSecs secs =>
    some (s.setGateway { s.gateway with dispatchAckSecs := max secs 1 })

/-- What an enabled action has done, with what enabled it. -/
inductive Stepped (s : System) : Action → System → Prop
  | tick (forward : s.now ≤ later) : Stepped s (.tick later) { s with now := later }
  | prune : Stepped s .prune (s.setGateway (s.gateway.pruneExpiredCommandEnqueues s.now))
  | check (fresh : s.freshAttempt attempt = true) :
      Stepped s (.check attempt dispatch) (s.check attempt dispatch)
  | mark (flying : s.inFlight.lookup attempt = some held) (unmarked : held.phase = .checked)
      (fresh : s.freshGeneration generation = true) :
      Stepped s (.mark attempt generation) (s.mark attempt held generation)
  | trySend (flying : s.inFlight.lookup attempt = some held)
      (marked : held.phase = .marked marker prior) :
      Stepped s (.trySend attempt outcome) (s.trySend attempt held marker prior outcome)
  | rollback (flying : s.inFlight.lookup attempt = some held)
      (failed : held.phase = .failed marker prior) :
      Stepped s (.rollback attempt) ((s.release attempt).setGateway
        (s.gateway.rollbackFailedCommandEnqueue held.dispatch.clientId held.dispatch.jobId marker
          prior))
  | acquire (free : s.readLocked request.clientId = false) :
      Stepped s (.acquire request)
        ((s.setGateway (s.gateway.acquireGatewayClientDispatchFence request s.now).1).record
          (.acquired request
            (s.gateway.acquireGatewayClientDispatchFence request s.now).2.toOption))
  | request (free : s.readLocked request.clientId = false) :
      Stepped s (.request request) ((s.setGateway (request.run s.gateway s.now).1).answer request
        (request.run s.gateway s.now).2)
  | collect (found : s.collecting.lookup clientId = some pending) :
      Stepped s (.collect clientId) (s.collect clientId pending)
  | registerSession (free : s.readLocked clientId = false) :
      Stepped s (.registerSession clientId session observed) (s.setGateway
        (s.gateway.registerSessionAfterAcceptedHello clientId session observed s.now).1)
  | refreshRoute (free : s.readLocked clientId = false) :
      Stepped s (.refreshRoute clientId session observed) (s.setGateway
        (s.gateway.refreshClientRouteAfterCommittedTelemetry clientId session observed).1)
  | closeSession :
      Stepped s (.closeSession clientId) (s.setGateway (s.gateway.closeAgentSession clientId))
  | setDispatchAckSecs :
      Stepped s (.setDispatchAckSecs secs)
        (s.setGateway { s.gateway with dispatchAckSecs := max secs 1 })

theorem stepped_of_step {s : System} (stepped : s.step action = some s') : s.Stepped action s' := by
  cases action with
  | tick =>
    obtain ⟨forward, rfl⟩ := guard_some stepped
    exact .tick forward
  | check =>
    simp only [step, Option.ite_none_left_eq_some, Option.some_inj, Bool.or_eq_true,
      Bool.not_eq_true', not_or, Bool.not_eq_false] at stepped
    obtain ⟨⟨_, fresh⟩, rfl⟩ := stepped
    exact .check fresh
  | mark =>
    simp only [step] at stepped
    split at stepped
    next held flying =>
      obtain ⟨⟨unmarked, fresh⟩, rfl⟩ := guard_some stepped
      exact .mark flying unmarked fresh
    · cases stepped
  | trySend =>
    simp only [step] at stepped
    split at stepped
    next held flying =>
      split at stepped
      next marker prior marked =>
        cases stepped
        exact .trySend flying marked
      · cases stepped
      · cases stepped
    · cases stepped
  | rollback =>
    simp only [step] at stepped
    split at stepped
    next held flying =>
      split at stepped
      next marker prior failed =>
        cases stepped
        exact .rollback flying failed
      · cases stepped
      · cases stepped
    · cases stepped
  | acquire | request | registerSession | refreshRoute =>
    simp only [step, Option.ite_none_left_eq_some, Option.some_inj, Bool.or_eq_true, not_or,
      Bool.not_eq_true] at stepped
    obtain ⟨⟨free, _⟩, rfl⟩ := stepped
    constructor
    exact free
  | collect =>
    simp only [step] at stepped
    split at stepped
    next pending found =>
      cases stepped
      exact .collect found
    · cases stepped
  | prune | closeSession | setDispatchAckSecs =>
    cases stepped
    constructor

def Initial (s : System) : Prop :=
  s.gateway.clientDispatchFences = ∅ ∧ s.gateway.clientDispatchFenceGenerations = ∅ ∧
    s.gateway.commandEnqueues = ∅ ∧ s.inFlight = ∅ ∧ s.collecting = ∅ ∧ s.log = []

/-- The started process whose clock reads zero. -/
def started (epoch : Uuid) : System where
  gateway := { clientDispatchFenceEpoch := epoch }
  now := 0

theorem started_initial : Initial (started epoch) :=
  ⟨rfl, rfl, rfl, rfl, rfl, rfl⟩

theorem readLocked_eq_false {s : System} (free : s.readLocked clientId = false)
    (flying : s.inFlight.lookup attempt = some held) : held.dispatch.clientId ≠ clientId := by
  intro same
  have member := AList.mem_lookup_iff.mp flying
  have locked : s.readLocked clientId = true :=
    List.any_eq_true.mpr ⟨_, member, decide_eq_true same⟩
  rw [free] at locked
  cases locked

theorem freshAttempt_iff {s : System} :
    s.freshAttempt attempt = true ↔
      ∀ dispatch observed, Event.checked attempt dispatch observed ∉ s.log := by
  simp only [freshAttempt, List.all_eq_true]
  constructor
  · intro all dispatch observed member
    have different := all _ member
    simp only [ne_eq, not_true_eq_false, decide_false, Bool.false_eq_true] at different
  · intro unused event member
    cases event with
    | checked _ dispatch observed =>
      refine decide_eq_true fun same => ?_
      exact unused dispatch observed (same ▸ member)
    | _ => rfl

theorem freshGeneration_iff {s : System} :
    s.freshGeneration generation = true ↔
      ∀ attempt clientId jobId marker, Event.marked attempt clientId jobId marker ∈ s.log →
        marker.generation ≠ generation := by
  simp only [freshGeneration, List.all_eq_true]
  constructor
  · intro all attempt clientId jobId marker member
    exact of_decide_eq_true (all _ member)
  · intro unused event member
    cases event with
    | marked attempt clientId jobId marker =>
      exact decide_eq_true (unused attempt clientId jobId marker member)
    | _ => rfl

end System

/-- An accepted answer reads markers, as of the request's own clock reading or later. -/
def FenceReply.ReadsMarkers (reply : FenceReply) (now : Instant) : Prop :=
  (reply.ids = .skipped ∧ reply.accepted = false) ∨ reply.ids = .asOf now ∨ reply.ids = .fresh

namespace GatewayState

variable (state : GatewayState)

theorem prepareOver_reads :
    (prepareGatewayClientDispatchFence.prepareOver state request now generation
      existing).2.ReadsMarkers now := by
  unfold prepareGatewayClientDispatchFence.prepareOver
  split
  · split
    · exact .inl ⟨rfl, rfl⟩
    · exact .inr (.inl rfl)
  · split
    · exact .inl ⟨rfl, rfl⟩
    · split
      · exact .inl ⟨rfl, rfl⟩
      · split
        · exact .inr (.inl rfl)
        · exact .inl ⟨rfl, rfl⟩

theorem prepare_reads :
    (state.prepareGatewayClientDispatchFence request now).2.ReadsMarkers now := by
  unfold prepareGatewayClientDispatchFence
  split
  · exact .inl ⟨rfl, rfl⟩
  dsimp only
  split
  · exact prepareOver_reads _
  · split
    · exact .inr (.inr rfl)
    · exact .inl ⟨rfl, rfl⟩

theorem promote_reads :
    (state.promoteGatewayClientDispatchFence request now).2.ReadsMarkers now := by
  unfold promoteGatewayClientDispatchFence
  split
  · exact .inl ⟨rfl, rfl⟩
  split
  · exact .inl ⟨rfl, rfl⟩
  dsimp only
  split
  · exact .inl ⟨rfl, rfl⟩
  · split
    · exact .inr (.inl rfl)
    · exact .inl ⟨rfl, rfl⟩

theorem clear_ids : (state.clearGatewayClientDispatchFence request now).2.ids = .skipped := by
  unfold clearGatewayClientDispatchFence
  split <;> rfl

end GatewayState

namespace FenceRequest

variable (request : FenceRequest)

theorem run_frame (state : GatewayState) (now : Instant) :
    FenceFrame request.clientId state (request.run state now).1 := by
  cases request with
  | prepare => exact FenceFrame.prepare state
  | promote => exact FenceFrame.promote state
  | clear => exact FenceFrame.clear state

theorem run_reads (protecting : request.protects = true) :
    (request.run state now).2.ReadsMarkers now := by
  cases request with
  | prepare => exact GatewayState.prepare_reads state
  | promote => exact GatewayState.promote_reads state
  | clear => cases protecting

theorem run_plain (plain : request.protects = false) :
    (request.run state now).2.ids = .skipped := by
  cases request with
  | prepare | promote => cases plain
  | clear => exact GatewayState.clear_ids state

end FenceRequest
end Vpsman.Gateway
