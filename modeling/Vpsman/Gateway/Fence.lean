import Vpsman.Gateway.State

/-! # Fence requests

Each request runs under the client's lifecycle write guard and is one function of
the gateway state and of the clock reading it takes. Job ids that an accepted
request reports are read in a second critical section, so the functions here only
say whether and as of when they are to be read.
-/

namespace Vpsman.Gateway

open Vpsman.Lib

structure AcquireRequest where
  clientId : ClientId
  token : Uuid
  purpose : FencePurpose
  supersedePreparedSuspension : Bool := false
  deriving Repr, DecidableEq

structure PrepareRequest where
  clientId : ClientId
  token : Uuid
  gatewayEpoch : Uuid
  generation : Nat
  renewal : Bool := false
  leaseSecs : Nat
  purpose : FencePurpose
  deriving Repr, DecidableEq

structure PromoteRequest where
  clientId : ClientId
  token : Uuid
  gatewayEpoch : Uuid
  generation : Nat
  purpose : FencePurpose
  deriving Repr, DecidableEq

structure ClearRequest where
  clientId : ClientId
  expectedToken : Uuid
  gatewayEpoch : Uuid
  expectedGeneration : Nat
  restoreFallback : Bool := false
  reason : String
  deriving Repr, DecidableEq

def PrepareRequest.owner (prepare : PrepareRequest) : FenceOwner where
  token := prepare.token
  gatewayEpoch := prepare.gatewayEpoch
  generation := prepare.generation

def PromoteRequest.owner (promote : PromoteRequest) : FenceOwner where
  token := promote.token
  gatewayEpoch := promote.gatewayEpoch
  generation := promote.generation

def ClearRequest.owner (clear : ClearRequest) : FenceOwner where
  token := clear.expectedToken
  gatewayEpoch := clear.gatewayEpoch
  generation := clear.expectedGeneration

/-- Whether the answer lists the client's enqueued jobs, and which clock reading
    decides that a marker has expired. -/
inductive IdsRead where
  /-- The answer carries no job ids. -/
  | skipped
  /-- Expiry is judged by a reading taken before the fence was changed. -/
  | asOf (now : Instant)
  /-- Expiry is judged by a fresh reading. -/
  | fresh
  deriving Repr, DecidableEq

/-- The clock reading that decides expiry when the markers are read at `now`. -/
def IdsRead.reading (now : Instant) : IdsRead → Instant
  | .asOf earlier => earlier
  | .skipped | .fresh => now

structure SessionDisconnect where
  clientId : ClientId
  reason : String
  requiredDispatchFenceOwner : Option FenceOwner := none
  deriving Repr, DecidableEq

structure DisconnectResult where
  clientId : ClientId
  accepted : Bool
  disconnected : Bool
  message : String
  /-- The reason that a graceful close request carries to the session. -/
  closed : Option String := none
  deriving Repr, DecidableEq

/-- An answer to a fence request before its job ids are read. -/
structure FenceReply where
  accepted : Bool
  fenced : Bool
  ownershipContinuous : Bool := false
  message : String
  ids : IdsRead := .skipped
  deriving Repr, DecidableEq

namespace DispatchFence

/-- The fence and the request agree in token, epoch, generation and purpose. -/
def ownedFor (fence : DispatchFence) (owner : FenceOwner) (purpose : FencePurpose) : Bool :=
  fence.owner = owner && fence.purpose = purpose

/-- The same agreement with the owner the fence replaced. -/
def replacedFor (fence : DispatchFence) (owner : FenceOwner) (purpose : FencePurpose) : Bool :=
  match fence.fallback with
  | some replaced => replaced.owner = owner && replaced.purpose = purpose
  | none => false

/-- A fence whose owner is durable or whose lease is lost, and which a transition
    of the given purpose may therefore replace. -/
def recoverableFor (fence : DispatchFence) (purpose : FencePurpose) : Bool :=
  fence.requiresDurableRecheck ||
    (fence.state = .persistent &&
      (fence.purpose = .suspension || (fence.purpose = .deletion && purpose = .deletion)))

end DispatchFence

namespace GatewayState

/-- A lost lease keeps the whole transition, its fallback included, as a barrier
    that asks every command for a database check. -/
def normalizeExpiredDispatchFence (state : GatewayState) (clientId : ClientId) (now : Instant) :
    GatewayState :=
  match state.fenceOf clientId with
  | none => state
  | some fence =>
    if fence.leaseExpiredAt now then
      state.setFence clientId { fence with state := .durableRecheck fence.fallback }
    else state

def acquireGatewayClientDispatchFence (state : GatewayState) (acquire : AcquireRequest)
    (now : Instant) : GatewayState × Except String FenceOwner :=
  if acquire.supersedePreparedSuspension && acquire.purpose ≠ .suspension then
    (state, .error "dispatch_fence_prepared_suspension_supersession_purpose_invalid")
  else
    let state := state.normalizeExpiredDispatchFence acquire.clientId now
    match state.fenceOf acquire.clientId with
    | some existing =>
      if existing.token = acquire.token then
        if existing.purpose = acquire.purpose then (state, .ok existing.owner)
        else (state, .error "dispatch_fence_token_purpose_conflict")
      else if (acquire.supersedePreparedSuspension && existing.purpose = .suspension &&
          existing.isPrepared) || existing.recoverableFor acquire.purpose then
        grant state acquire
      else (state, .error "dispatch_fence_conflict")
    | none => grant state acquire
where
  /-- Hand out the client's next generation, or the same one to the same token. -/
  grant (state : GatewayState) (acquire : AcquireRequest) :
      GatewayState × Except String FenceOwner :=
    let generation := state.generationOf acquire.clientId
    -- the counters are created on first use, also when the request then fails
    let state := state.setGeneration acquire.clientId generation
    if generation.latestToken = some acquire.token then
      if generation.latestPurpose ≠ some acquire.purpose then
        (state, .error "dispatch_fence_token_purpose_conflict")
      else if generation.latestSupersedesPreparedSuspension ≠
          acquire.supersedePreparedSuspension then
        (state, .error "dispatch_fence_token_transition_conflict")
      else
        (state, .ok ⟨acquire.token, state.clientDispatchFenceEpoch, generation.latestGeneration⟩)
    else
      match checkedAdd generation.latestGeneration 1 with
      | none => (state, .error "client dispatch-fence generation exhausted")
      | some next =>
        (state.setGeneration acquire.clientId
          { generation with
            latestGeneration := next
            latestToken := some acquire.token
            latestPurpose := some acquire.purpose
            latestSupersedesPreparedSuspension := acquire.supersedePreparedSuspension },
          .ok ⟨acquire.token, state.clientDispatchFenceEpoch, next⟩)

def leaseExpiry (prepare : PrepareRequest) (now : Instant) : Instant :=
  now + Instant.ofSecs (clamp prepare.leaseSecs 1 300)

/-- The owner that a prepared fence installed by `prepare` would remember. -/
def fallbackFor (existing : DispatchFence) (unsuspends : Bool) : FenceFallback where
  token := existing.token
  gatewayEpoch := existing.gatewayEpoch
  generation := existing.generation
  purpose := existing.purpose
  requiresDurableRecheck := unsuspends || existing.requiresDurableRecheck

def preparedFence (prepare : PrepareRequest) (now : Instant) (fallback : Option FenceFallback) :
    DispatchFence where
  token := prepare.token
  gatewayEpoch := prepare.gatewayEpoch
  generation := prepare.generation
  purpose := prepare.purpose
  state := .prepared (leaseExpiry prepare now) fallback

def prepareGatewayClientDispatchFence (state : GatewayState) (prepare : PrepareRequest)
    (now : Instant) : GatewayState × FenceReply :=
  if prepare.gatewayEpoch ≠ state.clientDispatchFenceEpoch then
    (state, { accepted := false, fenced := false
              message := "dispatch_fence_gateway_epoch_stale" })
  else
    let generation := state.generationOf prepare.clientId
    let state := state.normalizeExpiredDispatchFence prepare.clientId now
    match state.fenceOf prepare.clientId with
    | some existing => prepareOver state prepare now generation existing
    | none =>
      if !prepare.renewal && initialAuthorized prepare generation then
        (state.setFence prepare.clientId (preparedFence prepare now none),
          { accepted := true, fenced := true
            message := "dispatch_fence_prepared", ids := .fresh })
      else
        (state, { accepted := false, fenced := false
                  message := "dispatch_fence_generation_stale" })
where
  initialAuthorized (prepare : PrepareRequest) (generation : FenceGeneration) : Bool :=
    generation.latestGeneration = prepare.generation &&
      generation.latestToken = some prepare.token &&
      prepare.generation > generation.retiredGeneration
  authorizedUnsuspendTransition (prepare : PrepareRequest) (generation : FenceGeneration) : Bool :=
    generation.latestGeneration = prepare.generation &&
      generation.latestToken = some prepare.token &&
      generation.latestPurpose = some prepare.purpose &&
      generation.latestSupersedesPreparedSuspension
  /-- An exact unsuspend may retire an older suspension prepare, never a deletion. -/
  replacesPreparedSuspension (prepare : PrepareRequest) (generation : FenceGeneration)
      (existing : DispatchFence) : Bool :=
    authorizedUnsuspendTransition prepare generation &&
      existing.purpose = .suspension && prepare.purpose = .suspension &&
      existing.isPrepared && prepare.generation > existing.generation
  prepareOver (state : GatewayState) (prepare : PrepareRequest) (now : Instant)
      (generation : FenceGeneration) (existing : DispatchFence) : GatewayState × FenceReply :=
    if existing.ownedFor prepare.owner prepare.purpose then
      if prepare.generation ≤ generation.retiredGeneration then
        (state, { accepted := false, fenced := true
                  message := "dispatch_fence_generation_retired" })
      else
        let renewed := if existing.isPrepared then
            { existing with state := .prepared (leaseExpiry prepare now) existing.fallback }
          else existing
        (if existing.isPrepared then state.setFence prepare.clientId renewed else state,
          { accepted := true, fenced := true
            ownershipContinuous := !renewed.requiresDurableRecheck
            message := if renewed.requiresDurableRecheck then
              "dispatch_fence_requires_durable_recheck" else "dispatch_fence_already_owned"
            ids := .asOf now })
    else if prepare.renewal then
      (state, { accepted := false, fenced := true
                message := if existing.replacedFor prepare.owner prepare.purpose then
                  "dispatch_fence_owner_is_fallback" else "dispatch_fence_conflict" })
    else if !initialAuthorized prepare generation then
      (state, { accepted := false, fenced := true
                message := "dispatch_fence_generation_stale" })
    else if replacesPreparedSuspension prepare generation existing ||
        existing.recoverableFor prepare.purpose then
      let fallback := fallbackFor existing (authorizedUnsuspendTransition prepare generation)
      let installed := state.setFence prepare.clientId (preparedFence prepare now (some fallback))
      (installed.retireClientDispatchFenceGeneration prepare.clientId prepare.gatewayEpoch
          existing.generation,
        { accepted := true, fenced := true
          message := if replacesPreparedSuspension prepare generation existing then
            "dispatch_fence_superseded_prepared_suspension"
            else "dispatch_fence_replaced_recoverable_owner"
          ids := .asOf now })
    else
      (state, { accepted := false, fenced := true, message := "dispatch_fence_conflict" })

def fencedAt (state : GatewayState) (clientId : ClientId) (now : Instant) : Bool :=
  match state.fenceOf clientId with
  | some fence => fence.activeAt now
  | none => false

def promoteGatewayClientDispatchFence (state : GatewayState) (promote : PromoteRequest)
    (now : Instant) : GatewayState × FenceReply :=
  if promote.gatewayEpoch ≠ state.clientDispatchFenceEpoch then
    (state, { accepted := false, fenced := state.fencedAt promote.clientId now
              message := "dispatch_fence_gateway_epoch_stale" })
  else if promote.generation ≤ (state.generationOf promote.clientId).retiredGeneration then
    (state, { accepted := false, fenced := state.fencedAt promote.clientId now
              message := "dispatch_fence_generation_retired" })
  else
    -- the exact owner may still promote a lease that has just run out
    let state := if exactOwner state promote then state
      else state.normalizeExpiredDispatchFence promote.clientId now
    match state.fenceOf promote.clientId with
    | none =>
      (state, { accepted := false, fenced := false
                message := "dispatch_fence_owner_superseded_or_missing" })
    | some fence =>
      if fence.ownedFor promote.owner promote.purpose then
        let promoted := state.setFence promote.clientId { fence with state := .persistent }
        (promoted,
          { accepted := true, fenced := promoted.fencedAt promote.clientId now
            ownershipContinuous := fence.activeAt now && !fence.requiresDurableRecheck
            message := "dispatch_fence_promoted", ids := .asOf now })
      else
        (state, { accepted := false, fenced := state.fencedAt promote.clientId now
                  message := if fence.replacedFor promote.owner promote.purpose then
                    "dispatch_fence_owner_is_fallback"
                    else "dispatch_fence_owner_superseded_or_missing" })
where
  exactOwner (state : GatewayState) (promote : PromoteRequest) : Bool :=
    match state.fenceOf promote.clientId with
    | some fence => fence.ownedFor promote.owner promote.purpose
    | none => false

/-- The fence that an explicit rollback reinstates. -/
def restoredFence (replaced : FenceFallback) : DispatchFence where
  token := replaced.token
  gatewayEpoch := replaced.gatewayEpoch
  generation := replaced.generation
  purpose := replaced.purpose
  state := if replaced.requiresDurableRecheck then .durableRecheck none else .persistent

theorem fallback_restoredFence : (restoredFence replaced).fallback = none := by
  simp only [restoredFence, DispatchFence.fallback]
  cases replaced.requiresDurableRecheck with
  | false | true => rfl

def clearGatewayClientDispatchFence (state : GatewayState) (clear : ClearRequest)
    (now : Instant) : GatewayState × FenceReply :=
  if clear.gatewayEpoch ≠ state.clientDispatchFenceEpoch then
    (state, { accepted := false, fenced := state.fencedAt clear.clientId now
              message := "dispatch_fence_gateway_epoch_stale" })
  else
    let cleared := clearedState state clear
    let fenced := cleared.fencedAt clear.clientId now
    let shouldRetire := !retiredOwnerVisible state clear && !ownedAsFallback state clear
    (if shouldRetire then
        cleared.retireClientDispatchFenceGeneration clear.clientId clear.gatewayEpoch
          clear.expectedGeneration
      else cleared,
      { accepted := !retiredOwnerVisible state clear &&
          (directlyOwned state clear || (!fenced && !ownedAsFallback state clear))
        fenced := fenced
        message :=
          if retiredOwnerVisible state clear then "dispatch_fence_generation_retired"
          else if restored state clear then "dispatch_fence_restored:" ++ clear.reason
          else if directlyOwned state clear then "dispatch_fence_cleared:" ++ clear.reason
          else if ownedAsFallback state clear then "dispatch_fence_clear_owner_is_fallback"
          else if fenced then "dispatch_fence_clear_token_mismatch"
          else "dispatch_fence_already_clear" })
where
  directlyOwned (state : GatewayState) (clear : ClearRequest) : Bool :=
    (state.fenceOf clear.clientId).any fun fence => fence.owner = clear.owner
  fallbackOf (state : GatewayState) (clear : ClearRequest) : Option FenceFallback :=
    (state.fenceOf clear.clientId).bind DispatchFence.fallback
  ownedAsFallback (state : GatewayState) (clear : ClearRequest) : Bool :=
    !directlyOwned state clear &&
      (fallbackOf state clear).any fun replaced => replaced.owner = clear.owner
  restored (state : GatewayState) (clear : ClearRequest) : Bool :=
    directlyOwned state clear && clear.restoreFallback && (fallbackOf state clear).isSome
  /-- The owner has already been retired and may only watch. -/
  retiredOwnerVisible (state : GatewayState) (clear : ClearRequest) : Bool :=
    clear.expectedGeneration ≤ (state.generationOf clear.clientId).retiredGeneration &&
      (directlyOwned state clear || ownedAsFallback state clear)
  clearedState (state : GatewayState) (clear : ClearRequest) : GatewayState :=
    if directlyOwned state clear && !retiredOwnerVisible state clear then
      match clear.restoreFallback, fallbackOf state clear with
      | true, some replaced => state.setFence clear.clientId (restoredFence replaced)
      | _, _ => state.removeFence clear.clientId
    else state

/-- A new session replaces the fence only if the accepted hello saw exactly that
    owner in a stable state before its database request. -/
def registerSessionAfterAcceptedHello (state : GatewayState) (clientId : ClientId)
    (session : GatewaySession) (observedFence : Option DispatchFence) (now : Instant) :
    GatewayState × Bool :=
  let state := state.normalizeExpiredDispatchFence clientId now
  match state.fenceOf clientId with
  | none => ({ state with sessions := state.sessions.insert clientId session }, true)
  | some fence =>
    if acceptedHelloOwnsCurrentFence fence observedFence then
      let cleared := (state.removeFence clientId).retireClientDispatchFenceGeneration clientId
        fence.gatewayEpoch fence.generation
      ({ cleared with sessions := cleared.sessions.insert clientId session }, true)
    else (state, false)
where
  acceptedHelloOwnsCurrentFence (fence : DispatchFence) (observedFence : Option DispatchFence) :
      Bool :=
    let observedExactStableOwner := observedFence.any fun observed =>
      observed.owner = fence.owner && !observed.isPrepared
    match fence.purpose with
    | .suspension => observedExactStableOwner
    | .deletion => observedExactStableOwner && fence.requiresDurableRecheck

def refreshClientRouteAfterCommittedTelemetry (state : GatewayState) (clientId : ClientId)
    (gatewaySessionId : Uuid) (observedOwner : Option FenceOwner) : GatewayState × Bool :=
  if (state.sessions.lookup clientId).any fun session => session.sessionId = gatewaySessionId then
    match observedOwner, state.fenceOf clientId with
    | some observed, some fence =>
      if fence.purpose = .suspension && fence.owner = observed && !fence.isPrepared then
        ((state.removeFence clientId).retireClientDispatchFenceGeneration clientId
          fence.gatewayEpoch fence.generation, true)
      else (state, true)
    | _, _ => (state, true)
  else (state, false)

/-- A disconnect that requires an owner acts only while that owner durably deletes. -/
def disconnectGatewaySession (state : GatewayState) (disconnect : SessionDisconnect) :
    GatewayState × DisconnectResult :=
  if disconnect.requiredDispatchFenceOwner.any fun required =>
      !stillOwned state disconnect.clientId required then
    (state, { clientId := disconnect.clientId, accepted := true, disconnected := false
              message := "dispatch_fence_owner_superseded" })
  else
    match state.sessions.lookup disconnect.clientId with
    | none =>
      (state, { clientId := disconnect.clientId, accepted := true, disconnected := false
                message := "agent_not_online" })
    | some _ =>
      ({ state with sessions := state.sessions.erase disconnect.clientId },
        { clientId := disconnect.clientId, accepted := true, disconnected := true
          message := "disconnect_requested", closed := some disconnect.reason })
where
  retired (state : GatewayState) (clientId : ClientId) (required : FenceOwner) : Bool :=
    required.gatewayEpoch ≠ state.clientDispatchFenceEpoch ||
      (state.clientDispatchFenceGenerations.lookup clientId).any fun generation =>
        required.generation ≤ generation.retiredGeneration
  stillOwned (state : GatewayState) (clientId : ClientId) (required : FenceOwner) : Bool :=
    (state.fenceOf clientId).any fun fence =>
      !retired state clientId required && fence.owner = required &&
        fence.purpose = .deletion && fence.state = .persistent

/-- Removal of the client's session by an operator or by a lifecycle finalizer. -/
def closeAgentSession (state : GatewayState) (clientId : ClientId) : GatewayState :=
  { state with sessions := state.sessions.erase clientId }

end GatewayState

/-- What a request on one client's fence leaves alone: the enqueue markers, the
    epoch, and the fences and generations of all other clients. -/
structure FenceFrame (clientId : ClientId) (before after : GatewayState) : Prop where
  enqueues : after.commandEnqueues = before.commandEnqueues
  epoch : after.clientDispatchFenceEpoch = before.clientDispatchFenceEpoch
  others : ∀ other, other ≠ clientId → after.fenceOf other = before.fenceOf other
  generations : ∀ other, other ≠ clientId → after.generationOf other = before.generationOf other

namespace FenceFrame

variable {clientId : ClientId} {first second third : GatewayState}

variable (state : GatewayState)

theorem refl : FenceFrame clientId state state :=
  ⟨rfl, rfl, fun _ _ => rfl, fun _ _ => rfl⟩

theorem trans (left : FenceFrame clientId first second) (right : FenceFrame clientId second third) :
    FenceFrame clientId first third where
  enqueues := right.enqueues.trans left.enqueues
  epoch := right.epoch.trans left.epoch
  others other different := (right.others other different).trans (left.others other different)
  generations other different :=
    (right.generations other different).trans (left.generations other different)

theorem setFence : FenceFrame clientId state (state.setFence clientId fence) := by
  refine ⟨rfl, rfl, fun other different => ?_, fun _ _ => rfl⟩
  rw [GatewayState.fenceOf_setFence, if_neg different]

theorem removeFence : FenceFrame clientId state (state.removeFence clientId) := by
  refine ⟨rfl, rfl, fun other different => ?_, fun _ _ => rfl⟩
  rw [GatewayState.fenceOf_removeFence, if_neg different]

theorem setGeneration (generation : FenceGeneration) :
    FenceFrame clientId state (state.setGeneration clientId generation) := by
  refine ⟨rfl, rfl, fun _ _ => rfl, fun other different => ?_⟩
  rw [GatewayState.generationOf_setGeneration, if_neg different]

theorem setSessions : FenceFrame clientId state { state with sessions := sessions } :=
  ⟨rfl, rfl, fun _ _ => rfl, fun _ _ => rfl⟩

theorem retire (epoch : Uuid) :
    FenceFrame clientId state
      (state.retireClientDispatchFenceGeneration clientId epoch generation) := by
  unfold GatewayState.retireClientDispatchFenceGeneration
  split
  · exact refl state
  · exact setGeneration state _

theorem normalize (now : Instant) :
    FenceFrame clientId state (state.normalizeExpiredDispatchFence clientId now) := by
  unfold GatewayState.normalizeExpiredDispatchFence
  split
  · exact refl state
  · split
    · exact setFence state
    · exact refl state

theorem grant :
    FenceFrame request.clientId state
      (GatewayState.acquireGatewayClientDispatchFence.grant state request).1 := by
  have created : FenceFrame request.clientId state _ :=
    setGeneration state (state.generationOf request.clientId)
  unfold GatewayState.acquireGatewayClientDispatchFence.grant
  dsimp only
  split
  · split
    · exact created
    · split <;> exact created
  · split
    · exact created
    · exact created.trans (setGeneration _ _)

theorem acquire (request : AcquireRequest) (now : Instant) :
    FenceFrame request.clientId state (state.acquireGatewayClientDispatchFence request now).1 := by
  have normalized : FenceFrame request.clientId state _ := normalize state now
  unfold GatewayState.acquireGatewayClientDispatchFence
  split
  · exact refl state
  dsimp only
  split
  · split
    · split <;> exact normalized
    · split
      · exact normalized.trans (grant _)
      · exact normalized
  · exact normalized.trans (grant _)

theorem prepareOver :
    FenceFrame request.clientId state
      (GatewayState.prepareGatewayClientDispatchFence.prepareOver state request now generation
        existing).1 := by
  unfold GatewayState.prepareGatewayClientDispatchFence.prepareOver
  split
  · split
    · exact refl state
    · split
      · exact setFence state
      · exact refl state
  · split
    · exact refl state
    · split
      · exact refl state
      · split
        · exact (setFence state).trans (retire _ _)
        · exact refl state

theorem prepare :
    FenceFrame request.clientId state (state.prepareGatewayClientDispatchFence request now).1 := by
  have normalized : FenceFrame request.clientId state _ := normalize state now
  unfold GatewayState.prepareGatewayClientDispatchFence
  split
  · exact refl state
  dsimp only
  split
  · exact normalized.trans (prepareOver _)
  · split
    · exact normalized.trans (setFence _)
    · exact normalized

theorem promote :
    FenceFrame request.clientId state (state.promoteGatewayClientDispatchFence request now).1 := by
  unfold GatewayState.promoteGatewayClientDispatchFence
  split
  · exact refl state
  split
  · exact refl state
  have normalized : FenceFrame request.clientId state
      (if GatewayState.promoteGatewayClientDispatchFence.exactOwner state request then state
        else state.normalizeExpiredDispatchFence request.clientId now) := by
    split
    · exact refl state
    · exact normalize state now
  dsimp only
  split
  · exact normalized
  · split
    · exact normalized.trans (setFence _)
    · exact normalized

theorem clearedState (request : ClearRequest) :
    FenceFrame request.clientId state
      (GatewayState.clearGatewayClientDispatchFence.clearedState state request) := by
  unfold GatewayState.clearGatewayClientDispatchFence.clearedState
  split
  · split
    · exact setFence state
    · exact removeFence state
  · exact refl state

theorem clear :
    FenceFrame request.clientId state (state.clearGatewayClientDispatchFence request now).1 := by
  have cleared := clearedState state request
  unfold GatewayState.clearGatewayClientDispatchFence
  split
  · exact refl state
  · dsimp only
    split
    · exact cleared.trans (retire _ _)
    · exact cleared

theorem register :
    FenceFrame clientId state
      (state.registerSessionAfterAcceptedHello clientId session observed now).1 := by
  have normalized : FenceFrame clientId state _ := normalize state now
  unfold GatewayState.registerSessionAfterAcceptedHello
  dsimp only
  split
  · exact normalized.trans (setSessions _)
  · split
    · exact ((normalized.trans (removeFence _)).trans (retire _ _)).trans (setSessions _)
    · exact normalized

theorem refreshRoute :
    FenceFrame clientId state
      (state.refreshClientRouteAfterCommittedTelemetry clientId session observed).1 := by
  unfold GatewayState.refreshClientRouteAfterCommittedTelemetry
  split
  · split
    · split
      · exact (removeFence _).trans (retire _ _)
      · exact refl state
    · exact refl state
  · exact refl state

end FenceFrame
end Vpsman.Gateway
