import Vpsman.Gateway.Fence

/-! # What a fence request can do to its client

A request reads and writes the fence and the generation counters of one client. For
each request there is one relation that lists its outcomes on that pair, with what
the request had to satisfy for each, and a theorem that no other outcome exists.
Everything about ownership is derived from these relations.
-/

namespace Vpsman.Gateway

open Vpsman.Lib

/-- The fence of one client with its generation counters. -/
@[ext] structure ClientFence where
  fence : Option DispatchFence
  counters : FenceGeneration
  deriving Repr, DecidableEq

namespace DispatchFence

/-- The fence as a request finds it after the expiry check. -/
def normalizedAt (fence : DispatchFence) (now : Instant) : DispatchFence :=
  if fence.leaseExpiredAt now then { fence with state := .durableRecheck fence.fallback } else fence

/-- The fence after its own owner has prepared it again. -/
def renewedBy (fence : DispatchFence) (request : PrepareRequest) (now : Instant) : DispatchFence :=
  if fence.isPrepared then
    { fence with state := .prepared (GatewayState.leaseExpiry request now) fence.fallback }
  else fence

variable (fence : DispatchFence)

@[simp] theorem owner_normalizedAt (now : Instant) :
    (fence.normalizedAt now).owner = fence.owner := by
  unfold normalizedAt
  split <;> rfl

@[simp] theorem purpose_normalizedAt : (fence.normalizedAt now).purpose = fence.purpose := by
  unfold normalizedAt
  split <;> rfl

@[simp] theorem fallback_normalizedAt : (fence.normalizedAt now).fallback = fence.fallback := by
  unfold normalizedAt
  split <;> rfl

@[simp] theorem owner_renewedBy : (fence.renewedBy request now).owner = fence.owner := by
  unfold renewedBy
  split <;> rfl

@[simp] theorem purpose_renewedBy : (fence.renewedBy request now).purpose = fence.purpose := by
  unfold renewedBy
  split <;> rfl

@[simp] theorem fallback_renewedBy : (fence.renewedBy request now).fallback = fence.fallback := by
  unfold renewedBy
  split <;> rfl

theorem ownedFor_iff {fence : DispatchFence} {owner : FenceOwner} {purpose : FencePurpose} :
    fence.ownedFor owner purpose = true ↔ fence.owner = owner ∧ fence.purpose = purpose := by
  simp [ownedFor]

@[simp] theorem ownedFor_normalizedAt (owner : FenceOwner) (purpose : FencePurpose) :
    (fence.normalizedAt now).ownedFor owner purpose = fence.ownedFor owner purpose := by
  simp [ownedFor]

end DispatchFence

namespace ClientFence

def normalizedAt (client : ClientFence) (now : Instant) : ClientFence :=
  { client with fence := client.fence.map (·.normalizedAt now) }

theorem fence_normalizedAt {client : ClientFence} {fence : DispatchFence}
    (found : client.fence = some fence) (now : Instant) :
    (client.normalizedAt now).fence = some (fence.normalizedAt now) :=
  congrArg (Option.map _) found

def withFence (client : ClientFence) (fence : Option DispatchFence) : ClientFence :=
  { client with fence := fence }

def retire (client : ClientFence) (generation : Nat) : ClientFence :=
  { client with counters :=
      { client.counters with
        retiredGeneration := max client.counters.retiredGeneration generation } }

/-- The counters after the next generation has been granted to `request`. -/
def granting (client : ClientFence) (request : AcquireRequest) : ClientFence :=
  { client with counters :=
      { client.counters with
        latestGeneration := client.counters.latestGeneration + 1
        latestToken := some request.token
        latestPurpose := some request.purpose
        latestSupersedesPreparedSuspension := request.supersedePreparedSuspension } }

end ClientFence

namespace GatewayState

def clientFence (state : GatewayState) (clientId : ClientId) : ClientFence where
  fence := state.fenceOf clientId
  counters := state.generationOf clientId

variable (state : GatewayState) (clientId : ClientId)

@[simp] theorem fence_clientFence : (state.clientFence clientId).fence = state.fenceOf clientId :=
  rfl

@[simp] theorem counters_clientFence :
    (state.clientFence clientId).counters = state.generationOf clientId := rfl

@[simp] theorem clientFence_setFence :
    (state.setFence clientId fence).clientFence clientId =
      (state.clientFence clientId).withFence (some fence) := by
  simp [clientFence, ClientFence.withFence]

@[simp] theorem clientFence_removeFence :
    (state.removeFence clientId).clientFence clientId =
      (state.clientFence clientId).withFence none := by
  simp [clientFence, ClientFence.withFence]

@[simp] theorem clientFence_setGeneration :
    (state.setGeneration clientId counters).clientFence clientId =
      { state.clientFence clientId with counters := counters } := by
  simp [clientFence]

theorem clientFence_retire (current : epoch = state.clientDispatchFenceEpoch) (generation : Nat) :
    (state.retireClientDispatchFenceGeneration clientId epoch generation).clientFence clientId =
      (state.clientFence clientId).retire generation := by
  subst current
  simp only [retireClientDispatchFenceGeneration, ne_eq, not_true_eq_false, if_false,
    clientFence_setGeneration]
  rfl

@[simp] theorem clientFence_normalize (now : Instant) :
    (state.normalizeExpiredDispatchFence clientId now).clientFence clientId =
      (state.clientFence clientId).normalizedAt now := by
  unfold normalizeExpiredDispatchFence ClientFence.normalizedAt
  simp only [fence_clientFence]
  split
  next absent =>
    simp [clientFence, absent]
  next fence found =>
    simp only [found, Option.map_some, DispatchFence.normalizedAt]
    split
    · rw [clientFence_setFence]
      rfl
    · simp [clientFence, found]

theorem clientFence_frame {state state' : GatewayState} {clientId other : ClientId}
    (framed : FenceFrame other state state') (different : clientId ≠ other) :
    state'.clientFence clientId = state.clientFence clientId := by
  simp [clientFence, framed.others clientId different, framed.generations clientId different]

end GatewayState

open GatewayState.prepareGatewayClientDispatchFence in
/-- What a prepare leaves, and whether it was accepted. -/
inductive PrepareOutcome (epoch : Uuid) (request : PrepareRequest) (now : Instant)
    (client : ClientFence) : ClientFence → Bool → Prop where
  | stale (old : request.gatewayEpoch ≠ epoch) : PrepareOutcome epoch request now client client false
  | refused : PrepareOutcome epoch request now client (client.normalizedAt now) false
  | renewed (existing : DispatchFence)
      (found : (client.normalizedAt now).fence = some existing)
      (owned : existing.ownedFor request.owner request.purpose = true)
      (alive : client.counters.retiredGeneration < request.generation) :
      PrepareOutcome epoch request now client
        ((client.normalizedAt now).withFence (some (existing.renewedBy request now))) true
  | installed (current : request.gatewayEpoch = epoch) (absent : client.fence = none)
      (initial : request.renewal = false)
      (authorized : initialAuthorized request client.counters = true) :
      PrepareOutcome epoch request now client
        (client.withFence (some (GatewayState.preparedFence request now none))) true
  | replaced (existing : DispatchFence) (current : request.gatewayEpoch = epoch)
      (found : (client.normalizedAt now).fence = some existing)
      (foreign : existing.ownedFor request.owner request.purpose = false)
      (initial : request.renewal = false)
      (authorized : initialAuthorized request client.counters = true)
      (replaceable : replacesPreparedSuspension request client.counters existing = true ∨
        existing.recoverableFor request.purpose = true) :
      PrepareOutcome epoch request now client
        ((client.withFence (some (GatewayState.preparedFence request now
          (some (GatewayState.fallbackFor existing
            (authorizedUnsuspendTransition request client.counters)))))).retire
              existing.generation) true

namespace GatewayState

theorem prepareOver_outcome
    (current : request.gatewayEpoch = epoch) (sameEpoch : state.clientDispatchFenceEpoch = epoch)
    (normalized : state.clientFence request.clientId = client.normalizedAt now)
    (found : state.fenceOf request.clientId = some existing) :
    PrepareOutcome epoch request now client
      ((prepareGatewayClientDispatchFence.prepareOver state request now client.counters
        existing).1.clientFence request.clientId)
      (prepareGatewayClientDispatchFence.prepareOver state request now client.counters
        existing).2.accepted := by
  have fenced : (client.normalizedAt now).fence = some existing := by
    rw [← normalized]
    exact found
  have unchanged : PrepareOutcome epoch request now client (state.clientFence request.clientId)
      false := normalized ▸ .refused
  unfold prepareGatewayClientDispatchFence.prepareOver
  split
  next owned =>
    split
    · exact unchanged
    next alive =>
      have renewed : PrepareOutcome epoch request now client _ true :=
        .renewed existing fenced owned (not_le.mp alive)
      split
      next lease =>
        rw [clientFence_setFence, normalized]
        rw [DispatchFence.renewedBy, if_pos lease] at renewed
        exact renewed
      next stable =>
        rw [DispatchFence.renewedBy, if_neg stable, ← fenced] at renewed
        rw [normalized]
        exact renewed
  next foreign =>
    split
    · exact unchanged
    next initial =>
      split
      · exact unchanged
      next authorized =>
        split
        next replaceable =>
          rw [clientFence_retire (state.setFence _ _) _ (current.trans sameEpoch.symm),
            clientFence_setFence, normalized]
          refine .replaced existing current fenced (Bool.eq_false_iff.mpr foreign)
            (Bool.eq_false_iff.mpr initial) ?_ (Bool.or_eq_true _ _ ▸ replaceable)
          rw [Bool.not_eq_true', Bool.not_eq_false] at authorized
          exact authorized
        · exact unchanged

theorem prepare_outcome (state : GatewayState) (request : PrepareRequest) (now : Instant) :
    PrepareOutcome state.clientDispatchFenceEpoch request now (state.clientFence request.clientId)
      ((state.prepareGatewayClientDispatchFence request now).1.clientFence request.clientId)
      (state.prepareGatewayClientDispatchFence request now).2.accepted := by
  unfold prepareGatewayClientDispatchFence
  split
  next old =>
    exact .stale old
  next notOld =>
    have current := not_not.mp notOld
    have normalized := clientFence_normalize state request.clientId now
    have framed : FenceFrame request.clientId state _ := FenceFrame.normalize state now
    dsimp only
    split
    next existing found =>
      exact prepareOver_outcome current framed.epoch normalized found
    next absent =>
      split
      next initial =>
        simp only [Bool.and_eq_true, Bool.not_eq_true'] at initial
        have unfenced : state.fenceOf request.clientId = none := by
          have same := congrArg ClientFence.fence normalized
          rw [fence_clientFence, absent] at same
          exact Option.map_eq_none_iff.mp same.symm
        rw [clientFence_setFence, normalized]
        exact .installed current unfenced initial.1 initial.2
      · rw [normalized]
        exact .refused

end GatewayState

/-- What a promote leaves, and whether it was accepted. -/
inductive PromoteOutcome (epoch : Uuid) (request : PromoteRequest) (now : Instant)
    (client : ClientFence) : ClientFence → Bool → Prop where
  | refused : PromoteOutcome epoch request now client client false
  | missed : PromoteOutcome epoch request now client (client.normalizedAt now) false
  | promoted (fence : DispatchFence) (current : request.gatewayEpoch = epoch)
      (found : client.fence = some fence)
      (owned : fence.ownedFor request.owner request.purpose = true)
      (alive : client.counters.retiredGeneration < request.generation) :
      PromoteOutcome epoch request now client
        (client.withFence (some { fence with state := .persistent })) true

theorem GatewayState.promote_outcome (state : GatewayState) (request : PromoteRequest)
    (now : Instant) :
    PromoteOutcome state.clientDispatchFenceEpoch request now (state.clientFence request.clientId)
      ((state.promoteGatewayClientDispatchFence request now).1.clientFence request.clientId)
      (state.promoteGatewayClientDispatchFence request now).2.accepted := by
  unfold promoteGatewayClientDispatchFence
  split
  · exact .refused
  next notOld =>
    split
    · exact .refused
    next alive =>
      cases exactly : promoteGatewayClientDispatchFence.exactOwner state request with
      | true =>
        simp only [promoteGatewayClientDispatchFence.exactOwner] at exactly
        cases found : state.fenceOf request.clientId with
        | none =>
          rw [found] at exactly
          cases exactly
        | some fence =>
          rw [found] at exactly
          simp only [if_true, found, exactly, clientFence_setFence]
          exact .promoted fence (not_not.mp notOld) found exactly (not_le.mp alive)
      | false =>
        -- normalization keeps the owner, so the request still misses
        have normalized := clientFence_normalize state request.clientId now
        have fenced := congrArg ClientFence.fence normalized
        rw [fence_clientFence] at fenced
        simp only [promoteGatewayClientDispatchFence.exactOwner] at exactly
        simp only [Bool.false_eq_true, if_false]
        split
        · rw [normalized]
          exact .missed
        next fence found =>
          rw [found] at fenced
          obtain ⟨before, installed, rfl⟩ := Option.map_eq_some_iff.mp fenced.symm
          rw [fence_clientFence] at installed
          rw [installed] at exactly
          rw [DispatchFence.ownedFor_normalizedAt]
          simp only [exactly, Bool.false_eq_true, if_false, normalized]
          exact .missed

/-- What a clear leaves, and whether it was accepted. -/
inductive ClearOutcome (epoch : Uuid) (request : ClearRequest) (client : ClientFence) :
    ClientFence → Bool → Prop where
  | stale (old : request.gatewayEpoch ≠ epoch) : ClearOutcome epoch request client client false
  | spent (fence : DispatchFence) (found : client.fence = some fence)
      (owned : fence.owner = request.owner)
      (gone : request.expectedGeneration ≤ client.counters.retiredGeneration) :
      ClearOutcome epoch request client client false
  | replaced (fence : DispatchFence) (fallback : FenceFallback)
      (found : client.fence = some fence) (remembered : fence.fallback = some fallback)
      (owned : fallback.owner = request.owner) : ClearOutcome epoch request client client false
  | retired (accepted : Bool) (current : request.gatewayEpoch = epoch)
      (foreign : ∀ fence, client.fence = some fence → fence.owner ≠ request.owner) :
      ClearOutcome epoch request client (client.retire request.expectedGeneration) accepted
  | removed (fence : DispatchFence) (current : request.gatewayEpoch = epoch)
      (found : client.fence = some fence)
      (owned : fence.owner = request.owner)
      (alive : client.counters.retiredGeneration < request.expectedGeneration) :
      ClearOutcome epoch request client
        ((client.withFence none).retire request.expectedGeneration) true
  | restored (fence : DispatchFence) (replaced : FenceFallback)
      (current : request.gatewayEpoch = epoch) (found : client.fence = some fence)
      (owned : fence.owner = request.owner)
      (alive : client.counters.retiredGeneration < request.expectedGeneration)
      (fallback : fence.fallback = some replaced) (restores : request.restoreFallback = true) :
      ClearOutcome epoch request client
        ((client.withFence (some (GatewayState.restoredFence replaced))).retire
          request.expectedGeneration) true

namespace GatewayState

open clearGatewayClientDispatchFence in
theorem clear_outcome (state : GatewayState) (request : ClearRequest) (now : Instant) :
    ClearOutcome state.clientDispatchFenceEpoch request (state.clientFence request.clientId)
      ((state.clearGatewayClientDispatchFence request now).1.clientFence request.clientId)
      (state.clearGatewayClientDispatchFence request now).2.accepted := by
  unfold clearGatewayClientDispatchFence
  split
  next old =>
    exact .stale old
  next notOld =>
    have current := not_not.mp notOld
    have framed := FenceFrame.clearedState state request
    have retires := clientFence_retire (clearedState state request) request.clientId
      (current.trans framed.epoch.symm) request.expectedGeneration
    cases direct : directlyOwned state request with
    | false =>
      have stays : clearedState state request = state := by
        simp [clearedState, direct]
      have foreign : ∀ fence, state.fenceOf request.clientId = some fence →
          fence.owner ≠ request.owner := by
        intro fence found same
        simp only [directlyOwned, found, Option.any_some, decide_eq_false_iff_not] at direct
        exact direct same
      rw [stays] at retires ⊢
      cases watched : ownedAsFallback state request with
      | true =>
        obtain ⟨fallback, remembered, mine⟩ : ∃ fallback, fallbackOf state request =
            some fallback ∧ fallback.owner = request.owner := by
          simpa [ownedAsFallback, direct, Option.any_eq_true] using watched
        obtain ⟨fence, found, inside⟩ := Option.bind_eq_some_iff.mp remembered
        simp only [Bool.not_true, Bool.and_false, Bool.false_eq_true, if_false, Bool.or_self]
        exact .replaced fence fallback found inside mine
      | false =>
        simp only [retiredOwnerVisible, direct, watched, Bool.or_self, Bool.and_false,
          Bool.not_false, Bool.and_true, if_true, Bool.true_and, Bool.false_or, retires]
        exact .retired _ current foreign
    | true =>
      have single : ownedAsFallback state request = false := by
        simp [ownedAsFallback, direct]
      obtain ⟨fence, found, owned⟩ : ∃ fence, state.fenceOf request.clientId = some fence ∧
          fence.owner = request.owner := by
        simpa [directlyOwned, Option.any_eq_true] using direct
      cases visible : retiredOwnerVisible state request with
      | true =>
        have stays : clearedState state request = state := by
          simp [clearedState, visible]
        have gone : request.expectedGeneration ≤
            (state.generationOf request.clientId).retiredGeneration := by
          simpa [retiredOwnerVisible, direct] using visible
        simp only [stays, Bool.not_true, Bool.false_and, Bool.false_eq_true, if_false]
        exact .spent fence found owned gone
      | false =>
        have alive : (state.generationOf request.clientId).retiredGeneration <
            request.expectedGeneration := by
          simpa [retiredOwnerVisible, direct] using visible
        simp only [single, Bool.not_false, Bool.and_self, Bool.true_or, if_true, retires]
        simp only [clearedState, direct, visible, Bool.not_false, Bool.and_self, if_true]
        split
        next replaced restores fallback =>
          simp only [fallbackOf, found, Option.bind_some] at fallback
          rw [clientFence_setFence]
          exact .restored fence replaced current found owned alive fallback restores
        · rw [clientFence_removeFence]
          exact .removed fence current found owned alive

end GatewayState

/-- What an acquire leaves, and the owner it hands out. -/
inductive AcquireOutcome (epoch : Uuid) (request : AcquireRequest) (now : Instant)
    (client : ClientFence) : ClientFence → Option FenceOwner → Prop where
  | invalid : AcquireOutcome epoch request now client client none
  | refused : AcquireOutcome epoch request now client (client.normalizedAt now) none
  | existing (fence : DispatchFence) (found : (client.normalizedAt now).fence = some fence)
      (token : fence.token = request.token) (purpose : fence.purpose = request.purpose) :
      AcquireOutcome epoch request now client (client.normalizedAt now) (some fence.owner)
  | repeated (foreign : ∀ fence, client.fence = some fence → fence.token ≠ request.token)
      (token : client.counters.latestToken = some request.token)
      (purpose : client.counters.latestPurpose = some request.purpose) :
      AcquireOutcome epoch request now client (client.normalizedAt now)
        (some ⟨request.token, epoch, client.counters.latestGeneration⟩)
  | granted (foreign : ∀ fence, client.fence = some fence → fence.token ≠ request.token)
      (fresh : client.counters.latestToken ≠ some request.token) :
      AcquireOutcome epoch request now client ((client.normalizedAt now).granting request)
        (some ⟨request.token, epoch, client.counters.latestGeneration + 1⟩)

namespace GatewayState

theorem grant_outcome (sameEpoch : state.clientDispatchFenceEpoch = epoch)
    (normalized : state.clientFence request.clientId = client.normalizedAt now)
    (foreign : ∀ fence, client.fence = some fence → fence.token ≠ request.token) :
    AcquireOutcome epoch request now client
      ((acquireGatewayClientDispatchFence.grant state request).1.clientFence request.clientId)
      (acquireGatewayClientDispatchFence.grant state request).2.toOption := by
  have counters : state.generationOf request.clientId = client.counters :=
    congrArg ClientFence.counters normalized
  have created : (state.setGeneration request.clientId client.counters).clientFence
      request.clientId = client.normalizedAt now := by
    rw [clientFence_setGeneration, normalized]
    rfl
  unfold acquireGatewayClientDispatchFence.grant
  simp only [counters]
  split
  next token =>
    split
    · rw [created]
      exact .refused
    next purpose =>
      split
      · rw [created]
        exact .refused
      · rw [created]
        exact sameEpoch ▸ .repeated foreign token (not_not.mp purpose)
  next fresh =>
    split
    · rw [created]
      exact .refused
    next next checked =>
      obtain rfl : client.counters.latestGeneration + 1 = next := by
        simp only [checkedAdd, Option.ite_none_right_eq_some, Option.some_inj] at checked
        exact checked.2
      rw [clientFence_setGeneration, created]
      exact sameEpoch ▸ .granted foreign fresh

theorem acquire_outcome (state : GatewayState) (request : AcquireRequest) (now : Instant) :
    AcquireOutcome state.clientDispatchFenceEpoch request now (state.clientFence request.clientId)
      ((state.acquireGatewayClientDispatchFence request now).1.clientFence request.clientId)
      (state.acquireGatewayClientDispatchFence request now).2.toOption := by
  unfold acquireGatewayClientDispatchFence
  split
  · exact .invalid
  have normalized := clientFence_normalize state request.clientId now
  have fenced := congrArg ClientFence.fence normalized
  have framed : FenceFrame request.clientId state _ := FenceFrame.normalize state now
  rw [fence_clientFence] at fenced
  dsimp only
  split
  next existing found =>
    rw [found] at fenced
    split
    next token =>
      split
      next purpose =>
        rw [normalized]
        exact .existing existing fenced.symm token purpose
      · rw [normalized]
        exact .refused
    next otherToken =>
      split
      · refine grant_outcome framed.epoch normalized ?_
        intro fence installed same
        obtain ⟨before, installed', rfl⟩ := Option.map_eq_some_iff.mp fenced.symm
        cases installed.symm.trans installed'
        have token := congrArg FenceOwner.token (fence.owner_normalizedAt now)
        exact otherToken (token.trans same)
      · rw [normalized]
        exact .refused
  next absent =>
    refine grant_outcome framed.epoch normalized ?_
    intro fence installed
    rw [absent] at fenced
    have unfenced := Option.map_eq_none_iff.mp fenced.symm
    rw [unfenced] at installed
    cases installed

end GatewayState

/-- What an accepted hello or committed telemetry leaves: a fence they may lift is removed
    and its generation retired. -/
inductive RouteOutcome (now : Instant) (client : ClientFence) : ClientFence → Prop where
  | kept : RouteOutcome now client client
  | normalized : RouteOutcome now client (client.normalizedAt now)
  | removed (generation : Nat) :
      RouteOutcome now client ((client.withFence none).retire generation)

namespace GatewayState

theorem retire_zero (client : ClientFence) : client.retire 0 = client := by
  simp [ClientFence.retire]

variable (state : GatewayState)

theorem lifted_outcome (counters : state.generationOf clientId = client.counters) :
    RouteOutcome now client (((state.removeFence clientId).retireClientDispatchFenceGeneration
      clientId epoch generation).clientFence clientId) := by
  have lifted : (state.removeFence clientId).clientFence clientId = client.withFence none := by
    rw [clientFence_removeFence]
    simp [ClientFence.withFence, counters]
  by_cases current : epoch = state.clientDispatchFenceEpoch
  · rw [clientFence_retire (state.removeFence clientId) clientId current, lifted]
    exact .removed generation
  · have stays : (state.removeFence clientId).retireClientDispatchFenceGeneration clientId epoch
        generation = state.removeFence clientId := if_pos current
    rw [stays, lifted, ← retire_zero (client.withFence none)]
    exact .removed 0

theorem register_outcome :
    RouteOutcome now (state.clientFence clientId)
      ((state.registerSessionAfterAcceptedHello clientId session observed now).1.clientFence
        clientId) := by
  have normalized := clientFence_normalize state clientId now
  unfold registerSessionAfterAcceptedHello
  dsimp only
  split
  · exact normalized ▸ .normalized
  next fence found =>
    split
    · exact lifted_outcome _ (congrArg ClientFence.counters normalized)
    · exact normalized ▸ .normalized

theorem refresh_outcome :
    RouteOutcome now (state.clientFence clientId)
      ((state.refreshClientRouteAfterCommittedTelemetry clientId session observed).1.clientFence
        clientId) := by
  unfold refreshClientRouteAfterCommittedTelemetry
  split
  · split
    next fence found =>
      split
      · exact lifted_outcome state rfl
      · exact .kept
    · exact .kept
  · exact .kept

end GatewayState
end Vpsman.Gateway
