import Mathlib.Data.List.Sort
import Vpsman.Gateway.Fence

/-! # Command dispatch

A dispatch holds the client's lifecycle read guard from its fence check until its
command is in the session's channel or its marker has been rolled back. Waiting for
the agent's acknowledgement happens outside the guard and is not represented.
-/

namespace Vpsman.Gateway

open Vpsman.Lib

structure CommandDispatch where
  clientId : ClientId
  jobId : Uuid
  maxTimeoutSecs : Nat
  expectedProcessIncarnationId : Uuid
  expectedGatewayEpoch : Option Uuid
  lifecycleRecheck : Option FenceOwner
  deriving Repr, DecidableEq

inductive DispatchError where
  | gatewayEpochRecheckRequired (epoch : Uuid)
  | lifecycleRecheckRequired (owner : FenceOwner)
  | suspended (clientId : ClientId)
  | lifecycleRecheckStale (clientId : ClientId)
  | incarnationMismatch (clientId : ClientId) (expected actual : Uuid)
  | sessionCommandQueueFull (clientId : ClientId)
  | sessionClosed (clientId : ClientId)
  | notOnline (clientId : ClientId)
  deriving Repr, DecidableEq

inductive FenceCheck where
  /-- The lease has run out: normalize the fence and start over. -/
  | expired
  | rejected (error : DispatchError)
  | admitted
  deriving Repr, DecidableEq

namespace GatewayState

def checkDispatchFence (state : GatewayState) (dispatch : CommandDispatch) (now : Instant) :
    FenceCheck :=
  if dispatch.expectedGatewayEpoch ≠ some state.clientDispatchFenceEpoch then
    .rejected (.gatewayEpochRecheckRequired state.clientDispatchFenceEpoch)
  else
    match state.fenceOf dispatch.clientId with
    | some fence =>
      if !fence.activeAt now then .expired
      else if fence.requiresDurableRecheck then
        if dispatch.lifecycleRecheck = some fence.owner then .admitted
        else .rejected (.lifecycleRecheckRequired fence.owner)
      else .rejected (.suspended dispatch.clientId)
    | none =>
      if dispatch.lifecycleRecheck.isSome then
        .rejected (.lifecycleRecheckStale dispatch.clientId)
      else .admitted

/-- The session a dispatch may use; nothing when the client is not connected. -/
def dispatchSession (state : GatewayState) (dispatch : CommandDispatch) :
    Except DispatchError (Option GatewaySession) :=
  match state.sessions.lookup dispatch.clientId with
  | some session =>
    if session.processIncarnationId = dispatch.expectedProcessIncarnationId then .ok (some session)
    else .error (.incarnationMismatch dispatch.clientId dispatch.expectedProcessIncarnationId
      session.processIncarnationId)
  | none => .ok none

def enqueueExpiry (state : GatewayState) (dispatch : CommandDispatch) (now : Instant) : Instant :=
  now + Instant.ofSecs
    (clamp (satAdd (satAdd dispatch.maxTimeoutSecs state.dispatchAckSecs) 60) 60 10800)

def setMarker (state : GatewayState) (clientId : ClientId) (jobId : Uuid)
    (marker : EnqueueMarker) : GatewayState :=
  let jobs := (state.commandEnqueues.lookup clientId).getD ∅
  { state with commandEnqueues := state.commandEnqueues.insert clientId (jobs.insert jobId marker) }

/-- Forget a job's marker, and the client with its last one. -/
def removeMarker (state : GatewayState) (clientId : ClientId) (jobId : Uuid) : GatewayState :=
  match state.commandEnqueues.lookup clientId with
  | none => state
  | some jobs =>
    let rest := jobs.erase jobId
    { state with commandEnqueues :=
        if rest.entries.isEmpty then state.commandEnqueues.erase clientId
        else state.commandEnqueues.insert clientId rest }

def rollbackFailedCommandEnqueue (state : GatewayState) (clientId : ClientId) (jobId : Uuid)
    (insertedMarker : EnqueueMarker) (priorMarker : Option EnqueueMarker) : GatewayState :=
  if state.markerOf clientId jobId ≠ some insertedMarker then
    -- a same-key dispatch came after this attempt and its marker must survive
    state
  else
    match priorMarker with
    | some prior => state.setMarker clientId jobId prior
    | none => state.removeMarker clientId jobId

/-- Drop the client's expired markers and list the jobs that are left, in order. -/
def protectedEnqueuedJobIds (state : GatewayState) (clientId : ClientId) (now : Instant) :
    GatewayState × List Uuid :=
  match state.commandEnqueues.lookup clientId with
  | none => (state, [])
  | some jobs =>
    let live := HashMap.retain (fun _ marker => decide (now < marker.expiresAt)) jobs
    ({ state with commandEnqueues :=
        if live.keys.isEmpty then state.commandEnqueues.erase clientId
        else state.commandEnqueues.insert clientId live },
      live.keys.insertionSort (· ≤ ·))

theorem markerOf_of_lookup {state state' : GatewayState}
    (same : state'.commandEnqueues = state.commandEnqueues) :
    state'.markerOf clientId jobId = state.markerOf clientId jobId := by
  simp [markerOf, same]

variable (state : GatewayState)

theorem markerOf_setMarker :
    (state.setMarker clientId jobId marker).markerOf other job =
      if other = clientId ∧ job = jobId then some marker else state.markerOf other job := by
  simp only [markerOf, setMarker, HashMap.lookup_insert_eq]
  by_cases sameClient : other = clientId
  · subst sameClient
    simp only [if_true, Option.bind_some, HashMap.lookup_insert_eq, true_and]
    split
    · rfl
    · cases state.commandEnqueues.lookup other with
      | none | some => rfl
  · rw [if_neg sameClient, if_neg fun both => sameClient both.1]

theorem markerOf_removeMarker :
    (state.removeMarker clientId jobId).markerOf other job =
      if other = clientId ∧ job = jobId then none else state.markerOf other job := by
  unfold removeMarker
  cases found : state.commandEnqueues.lookup clientId with
  | none =>
    by_cases both : other = clientId ∧ job = jobId
    · obtain ⟨rfl, rfl⟩ := both
      simp [markerOf, found]
    · rw [if_neg both]
  | some jobs =>
    by_cases sameClient : other = clientId
    · subst sameClient
      simp only [markerOf, found, Option.bind_some, true_and]
      split
      next empty =>
        have gone : jobs.erase jobId = ∅ := AList.ext (List.isEmpty_iff.mp empty)
        have erased := HashMap.lookup_erase_eq jobs jobId job
        rw [gone, AList.lookup_empty] at erased
        rw [AList.lookup_erase, Option.bind_none]
        exact erased
      · rw [AList.lookup_insert, Option.bind_some]
        exact HashMap.lookup_erase_eq jobs jobId job
    · rw [if_neg fun both => sameClient both.1]
      simp only [markerOf]
      split
      · rw [AList.lookup_erase_ne sameClient]
      · rw [AList.lookup_insert_ne sameClient]

/-- The rollback restores what the attempt found, but only over its own marker. -/
theorem markerOf_rollback :
    (state.rollbackFailedCommandEnqueue clientId jobId inserted prior).markerOf other job =
      if other = clientId ∧ job = jobId ∧ state.markerOf clientId jobId = some inserted then prior
      else state.markerOf other job := by
  unfold rollbackFailedCommandEnqueue
  by_cases own : state.markerOf clientId jobId = some inserted
  · simp only [own, ne_eq, not_true_eq_false, if_false, and_true]
    cases prior with
    | none => exact markerOf_removeMarker state
    | some => exact markerOf_setMarker state
  · rw [if_pos own, if_neg fun all => own all.2.2]

/-- A rollback changes the markers only, -/
theorem rollback_frame :
    state.rollbackFailedCommandEnqueue clientId jobId inserted prior = { state with
      commandEnqueues := (state.rollbackFailedCommandEnqueue clientId jobId inserted
        prior).commandEnqueues } := by
  unfold rollbackFailedCommandEnqueue
  split
  · rfl
  · split
    · rfl
    · unfold removeMarker
      split <;> rfl

/-- and so does reading them. -/
theorem protectedEnqueuedJobIds_frame :
    (state.protectedEnqueuedJobIds clientId now).1 = { state with
      commandEnqueues := (state.protectedEnqueuedJobIds clientId now).1.commandEnqueues } := by
  unfold protectedEnqueuedJobIds
  split <;> rfl

theorem mem_protectedEnqueuedJobIds :
    jobId ∈ (state.protectedEnqueuedJobIds clientId now).2 ↔
      ∃ marker, state.markerOf clientId jobId = some marker ∧ now < marker.expiresAt := by
  unfold protectedEnqueuedJobIds
  cases found : state.commandEnqueues.lookup clientId with
  | none => simp [markerOf, found]
  | some =>
    simp [markerOf, found, HashMap.mem_keys_iff_lookup, HashMap.lookup_retain]

theorem markerOf_protectedEnqueuedJobIds (clientId other : ClientId) (now : Instant) (jobId : Uuid) :
    (state.protectedEnqueuedJobIds clientId now).1.markerOf other jobId =
      if other = clientId then
        (state.markerOf other jobId).filter fun marker => decide (now < marker.expiresAt)
      else state.markerOf other jobId := by
  unfold protectedEnqueuedJobIds
  cases found : state.commandEnqueues.lookup clientId with
  | none =>
    by_cases same : other = clientId
    · subst same
      simp [markerOf, found]
    · rw [if_neg same]
  | some jobs =>
    by_cases same : other = clientId
    · subst same
      simp only [markerOf, found, Option.bind_some, if_true]
      rw [← HashMap.lookup_retain (fun _ marker => decide (now < marker.expiresAt)) jobs jobId]
      split
      next empty =>
        rw [AList.lookup_erase, Option.bind_none, eq_comm, ← Option.not_isSome_iff_eq_none,
          AList.lookup_isSome, AList.mem_keys, List.isEmpty_iff.mp empty]
        exact List.not_mem_nil
      · rw [AList.lookup_insert, Option.bind_some]
    · simp only [markerOf]
      split
      · rw [AList.lookup_erase_ne same]
      · rw [AList.lookup_insert_ne same]

end GatewayState
end Vpsman.Gateway
