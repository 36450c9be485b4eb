import Vpsman.Lib.HashMap
import Vpsman.Lib.Word

/-! # Dispatch fences and enqueue markers of one gateway process

A lifecycle transition installs a fence on a client before its database
transaction. The gateway keeps one fence per client, the counters that decide
which transition may still act, and a marker for every command it has handed to a
session. Sender and close channels of a session are not represented.
-/

namespace Vpsman.Gateway

open Vpsman.Lib

abbrev ClientId := String

inductive FencePurpose where
  | suspension
  | deletion
  deriving Repr, DecidableEq

/-- The exact identity a request has to name to act on a fence. -/
structure FenceOwner where
  token : Uuid
  gatewayEpoch : Uuid
  generation : Nat
  deriving Repr, DecidableEq

/-- The stable owner a prepared fence replaced. -/
structure FenceFallback where
  token : Uuid
  gatewayEpoch : Uuid
  generation : Nat
  purpose : FencePurpose
  requiresDurableRecheck : Bool
  deriving Repr, DecidableEq

inductive FenceState where
  /-- Ownership before the commit, with a finite lease and the owner to restore
      only after an explicit rollback. -/
  | prepared (expiresAt : Instant) (fallback : Option FenceFallback)
  /-- Ownership after the commit. -/
  | persistent
  /-- The lease was lost: a command passes only if it repeats the database check. -/
  | durableRecheck (fallback : Option FenceFallback)
  deriving Repr, DecidableEq

structure DispatchFence where
  token : Uuid
  gatewayEpoch : Uuid
  generation : Nat
  purpose : FencePurpose
  state : FenceState
  deriving Repr, DecidableEq

/-- Which transition was granted a generation last, and up to which generation
    owners have been retired. -/
structure FenceGeneration where
  latestGeneration : Nat := 0
  latestToken : Option Uuid := none
  latestPurpose : Option FencePurpose := none
  latestSupersedesPreparedSuspension : Bool := false
  retiredGeneration : Nat := 0
  deriving Repr, DecidableEq

structure EnqueueMarker where
  generation : Uuid
  expiresAt : Instant
  deriving Repr, DecidableEq

structure GatewaySession where
  sessionId : Uuid
  processIncarnationId : Uuid
  deriving Repr, DecidableEq

/-- The part of the gateway state that dispatching and fencing share. -/
structure GatewayState where
  sessions : HashMap ClientId GatewaySession := ∅
  clientDispatchFenceEpoch : Uuid
  clientDispatchFenceGenerations : HashMap ClientId FenceGeneration := ∅
  clientDispatchFences : HashMap ClientId DispatchFence := ∅
  commandEnqueues : HashMap ClientId (HashMap Uuid EnqueueMarker) := ∅
  dispatchAckSecs : Nat := 30

namespace DispatchFence

def activeAt (fence : DispatchFence) (now : Instant) : Bool :=
  match fence.state with
  | .prepared expiresAt _ => now < expiresAt
  | .persistent | .durableRecheck _ => true

def leaseExpiredAt (fence : DispatchFence) (now : Instant) : Bool :=
  match fence.state with
  | .prepared expiresAt _ => expiresAt ≤ now
  | .persistent | .durableRecheck _ => false

def requiresDurableRecheck (fence : DispatchFence) : Bool :=
  match fence.state with
  | .durableRecheck _ => true
  | .prepared _ _ | .persistent => false

def isPrepared (fence : DispatchFence) : Bool :=
  match fence.state with
  | .prepared _ _ => true
  | .persistent | .durableRecheck _ => false

def fallback (fence : DispatchFence) : Option FenceFallback :=
  match fence.state with
  | .prepared _ fallback | .durableRecheck fallback => fallback
  | .persistent => none

def owner (fence : DispatchFence) : FenceOwner where
  token := fence.token
  gatewayEpoch := fence.gatewayEpoch
  generation := fence.generation

theorem activeAt_eq_not_leaseExpiredAt (fence : DispatchFence) :
    fence.activeAt now = !fence.leaseExpiredAt now := by
  unfold activeAt leaseExpiredAt
  split
  · rw [Bool.eq_iff_iff]
    simp
  all_goals rfl

end DispatchFence

namespace FenceFallback

def owner (fallback : FenceFallback) : FenceOwner where
  token := fallback.token
  gatewayEpoch := fallback.gatewayEpoch
  generation := fallback.generation

end FenceFallback

namespace GatewayState

/-- The generation counters of a client, all zero until it is first fenced. -/
def generationOf (state : GatewayState) (clientId : ClientId) : FenceGeneration :=
  (state.clientDispatchFenceGenerations.lookup clientId).getD {}

def fenceOf (state : GatewayState) (clientId : ClientId) : Option DispatchFence :=
  state.clientDispatchFences.lookup clientId

def markerOf (state : GatewayState) (clientId : ClientId) (jobId : Uuid) : Option EnqueueMarker :=
  (state.commandEnqueues.lookup clientId).bind fun jobs => jobs.lookup jobId

def setFence (state : GatewayState) (clientId : ClientId) (fence : DispatchFence) : GatewayState :=
  { state with clientDispatchFences := state.clientDispatchFences.insert clientId fence }

def removeFence (state : GatewayState) (clientId : ClientId) : GatewayState :=
  { state with clientDispatchFences := state.clientDispatchFences.erase clientId }

def setGeneration (state : GatewayState) (clientId : ClientId) (generation : FenceGeneration) :
    GatewayState :=
  { state with clientDispatchFenceGenerations :=
      state.clientDispatchFenceGenerations.insert clientId generation }

def retireClientDispatchFenceGeneration (state : GatewayState) (clientId : ClientId)
    (gatewayEpoch : Uuid) (generation : Nat) : GatewayState :=
  if gatewayEpoch ≠ state.clientDispatchFenceEpoch then state
  else
    let counters := state.generationOf clientId
    state.setGeneration clientId
      { counters with retiredGeneration := max counters.retiredGeneration generation }

/-- Drop expired markers everywhere, and every client left without one. -/
def pruneExpiredCommandEnqueues (state : GatewayState) (now : Instant) : GatewayState :=
  { state with commandEnqueues := state.commandEnqueues.retainMap fun _ jobs =>
      let live := HashMap.retain (fun _ marker => decide (now < marker.expiresAt)) jobs
      if live.entries.isEmpty then none else some live }

variable (state : GatewayState)

@[simp] theorem fenceOf_setFence :
    (state.setFence clientId fence).fenceOf other =
      if other = clientId then some fence else state.fenceOf other :=
  HashMap.lookup_insert_eq _

@[simp] theorem fenceOf_removeFence :
    (state.removeFence clientId).fenceOf other =
      if other = clientId then none else state.fenceOf other :=
  HashMap.lookup_erase_eq _ _ _

@[simp] theorem generationOf_setFence :
    (state.setFence clientId fence).generationOf other = state.generationOf other := rfl

@[simp] theorem generationOf_removeFence :
    (state.removeFence clientId).generationOf other = state.generationOf other := rfl

@[simp] theorem fenceOf_setGeneration :
    (state.setGeneration clientId generation).fenceOf other = state.fenceOf other := rfl

@[simp] theorem generationOf_setGeneration :
    (state.setGeneration clientId generation).generationOf other =
      if other = clientId then generation else state.generationOf other := by
  simp only [generationOf, setGeneration, HashMap.lookup_insert_eq]
  split <;> rfl

@[simp] theorem fenceOf_retire :
    (state.retireClientDispatchFenceGeneration clientId epoch generation).fenceOf other =
      state.fenceOf other := by
  unfold retireClientDispatchFenceGeneration
  split <;> rfl

theorem retiredGeneration_le_retire :
    (state.generationOf other).retiredGeneration ≤
      ((state.retireClientDispatchFenceGeneration clientId epoch generation).generationOf
        other).retiredGeneration := by
  unfold retireClientDispatchFenceGeneration
  split
  · exact le_rfl
  rw [generationOf_setGeneration]
  split
  next same =>
    subst same
    exact Nat.le_max_left _ _
  · exact le_rfl

theorem markerOf_prune :
    (state.pruneExpiredCommandEnqueues now).markerOf clientId jobId =
      (state.markerOf clientId jobId).filter fun marker => decide (now < marker.expiresAt) := by
  simp only [markerOf, pruneExpiredCommandEnqueues, HashMap.lookup_retainMap]
  cases state.commandEnqueues.lookup clientId with
  | none => rfl
  | some jobs =>
    simp only [Option.bind_some]
    rw [← HashMap.lookup_retain (fun _ marker => decide (now < marker.expiresAt)) jobs jobId]
    split
    next empty =>
      have gone : HashMap.retain (fun _ marker => decide (now < marker.expiresAt)) jobs = ∅ :=
        AList.ext (List.isEmpty_iff.mp empty)
      rw [gone]
      rfl
    · rfl

end GatewayState
end Vpsman.Gateway
