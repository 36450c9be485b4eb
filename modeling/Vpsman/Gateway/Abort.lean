import Vpsman.Gateway.Ownership

/-! # Aborting an acquisition that was never prepared

A clear retires every generation up to the one it names, also when it is refused because
another owner's fence is installed. So a transition that acquires a generation and gives
up without preparing it retires the installed owner, whose own requests are then refused.
-/

namespace Vpsman.Gateway

open Vpsman.Lib

/-- What the owner of an installed fence asks for later on. -/
inductive OwnerRequest where
  | promote (purpose : FencePurpose)
  | renew (leaseSecs : Nat) (purpose : FencePurpose)
  | clear (restoreFallback : Bool) (reason : String)
  | disconnect (reason : String)
  deriving Repr, DecidableEq

/-- Whether a request of `owner` was accepted or, for a disconnect, the session was
    disconnected. -/
def OwnerRequest.run (request : OwnerRequest) (clientId : ClientId) (owner : FenceOwner)
    (state : GatewayState) (now : Instant) : GatewayState × Bool :=
  match request with
  | .promote purpose =>
    let outcome := state.promoteGatewayClientDispatchFence
      ⟨clientId, owner.token, owner.gatewayEpoch, owner.generation, purpose⟩ now
    (outcome.1, outcome.2.accepted)
  | .renew leaseSecs purpose =>
    let outcome := state.prepareGatewayClientDispatchFence
      ⟨clientId, owner.token, owner.gatewayEpoch, owner.generation, true, leaseSecs, purpose⟩ now
    (outcome.1, outcome.2.accepted)
  | .clear restoreFallback reason =>
    let outcome := state.clearGatewayClientDispatchFence
      ⟨clientId, owner.token, owner.gatewayEpoch, owner.generation, restoreFallback, reason⟩ now
    (outcome.1, outcome.2.accepted)
  | .disconnect reason =>
    let outcome := state.disconnectGatewaySession ⟨clientId, reason, some owner⟩
    (outcome.1, outcome.2.disconnected)

/-- The results of the owner's requests, each made some time after the one before, with the
    fence that it leaves up to the expiry of its lease. -/
def ownerTrace (clientId : ClientId) (owner : FenceOwner) (state : GatewayState) (now : Instant) :
    List (Nat × OwnerRequest) → List (Bool × Option DispatchFence)
  | [] => []
  | (elapsed, request) :: rest =>
    let outcome := request.run clientId owner state (now + elapsed)
    (outcome.2, (outcome.1.fenceOf clientId).map (·.normalizedAt (now + elapsed))) ::
      ownerTrace clientId owner outcome.1 (now + elapsed) rest

/-- The results when every request is refused. -/
def refusedTrace (fence : DispatchFence) (now : Instant) :
    List (Nat × OwnerRequest) → List (Bool × Option DispatchFence)
  | [] => []
  | (elapsed, _) :: rest =>
    (false, some (fence.normalizedAt (now + elapsed))) :: refusedTrace fence (now + elapsed) rest

variable {fence : DispatchFence} {now : Instant}

theorem refusedTrace_refused {requests : List (Nat × OwnerRequest)} :
    ∀ entry ∈ refusedTrace fence now requests, entry.1 = false := by
  induction requests generalizing now with
  | nil => exact fun _ member => absurd member List.not_mem_nil
  | cons _ _ ih => exact List.forall_mem_cons.mpr ⟨rfl, ih⟩

theorem DispatchFence.leaseExpiredAt_mono
    (expired : fence.leaseExpiredAt earlier = true) (le : earlier ≤ later) :
    fence.leaseExpiredAt later = true := by
  unfold leaseExpiredAt at expired ⊢
  split at expired
  · exact decide_eq_true ((of_decide_eq_true expired).trans le)
  · cases expired
  · cases expired

theorem DispatchFence.normalizedAt_normalizedAt (le : earlier ≤ later) :
    (fence.normalizedAt earlier).normalizedAt later = fence.normalizedAt later := by
  by_cases expired : fence.leaseExpiredAt earlier = true
  · have still := leaseExpiredAt_mono expired le
    have lapsed : fence.normalizedAt earlier = { fence with state := .durableRecheck fence.fallback } :=
      if_pos expired
    have settled : (fence.normalizedAt earlier).leaseExpiredAt later = false := by
      rw [lapsed]
      rfl
    rw [normalizedAt, if_neg (Bool.eq_false_iff.mp settled), lapsed, normalizedAt, if_pos still]
  · have stays : fence.normalizedAt earlier = fence := if_neg expired
    rw [stays]

/-- The installed fence is this one, whose lease may have run out before now. -/
def Stays (fence : DispatchFence) (now : Instant) (installed : Option DispatchFence) : Prop :=
  installed = some fence ∨ ∃ earlier ≤ now, installed = some (fence.normalizedAt earlier)

namespace Stays

variable {fence : DispatchFence} {now later : Instant} {installed : Option DispatchFence}

variable (stays : Stays fence now installed)
include stays

theorem owner :
    ∃ current, installed = some current ∧ current.owner = fence.owner ∧
      current.purpose = fence.purpose ∧ (current.state = .persistent ↔ fence.state = .persistent) := by
  rcases stays with rfl | ⟨earlier, _, rfl⟩
  · exact ⟨fence, rfl, rfl, rfl, .rfl⟩
  · refine ⟨_, rfl, fence.owner_normalizedAt earlier, fence.purpose_normalizedAt, ?_⟩
    unfold DispatchFence.normalizedAt
    split
    next expired =>
      -- only a prepared fence has a lease to lose
      unfold DispatchFence.leaseExpiredAt at expired
      split at expired
      next prepared => simp [prepared]
      · cases expired
      · cases expired
    · rfl

theorem normalized (le : now ≤ later) :
    installed.map (·.normalizedAt later) = some (fence.normalizedAt later) := by
  rcases stays with rfl | ⟨earlier, before, rfl⟩
  · rfl
  · rw [Option.map_some, DispatchFence.normalizedAt_normalizedAt (before.trans le)]

theorem mono (le : now ≤ later) : Stays fence later installed := by
  rcases stays with same | ⟨earlier, before, same⟩
  · exact .inl same
  · exact .inr ⟨earlier, before.trans le, same⟩

theorem undisturbed (le : now ≤ later)
    (kept : after = installed ∨ after = installed.map (·.normalizedAt later)) :
    Stays fence later after := by
  rcases kept with rfl | rfl
  · exact stays.mono le
  · exact .inr ⟨later, le_rfl, stays.normalized le⟩

end Stays

/-- The request does not fit the fence of its owner, or there is no session to disconnect. -/
def OwnerRequest.Misfits (fence : DispatchFence) (connected : Bool) : OwnerRequest → Prop
  | .promote purpose | .renew _ purpose => purpose ≠ fence.purpose
  | .clear _ _ => False
  | .disconnect _ => fence.purpose ≠ .deletion ∨ fence.state ≠ .persistent ∨ connected = false

/-- What the owner of the fence finds at the gateway. -/
structure Facing (clientId : ClientId) (fence : DispatchFence) (connected : Bool) (now : Instant)
    (state : GatewayState) : Prop where
  stays : Stays fence now (state.fenceOf clientId)
  epoch : fence.gatewayEpoch = state.clientDispatchFenceEpoch
  positive : 0 < fence.generation
  session : (state.sessions.lookup clientId).isSome = connected

namespace Facing

open GatewayState

variable {clientId : ClientId} {fence : DispatchFence} {connected : Bool} {state : GatewayState}
  {request : OwnerRequest} {requests : List (Nat × OwnerRequest)}
  (facing : Facing clientId fence connected now state)
include facing

theorem found : ∃ current, state.fenceOf clientId = some current ∧ current.owner = fence.owner ∧
    ∀ purpose, current.ownedFor fence.owner purpose = decide (fence.purpose = purpose) := by
  obtain ⟨current, found, mine, same, -⟩ := facing.stays.owner
  exact ⟨current, found, mine, fun purpose => by simp [DispatchFence.ownedFor, mine, same]⟩

theorem normalize (le : now ≤ later) :
    Facing clientId fence connected later (state.normalizeExpiredDispatchFence clientId later) where
  stays := facing.stays.undisturbed le
    (.inr (congrArg ClientFence.fence (state.clientFence_normalize clientId later)))
  epoch := facing.epoch.trans (FenceFrame.normalize state later).epoch.symm
  positive := facing.positive
  session := by
    rw [← facing.session]
    unfold normalizeExpiredDispatchFence
    split
    · rfl
    · split <;> rfl

/-- A disconnect gets as far as the session exactly for a persistent deletion. -/
theorem stillOwned : disconnectGatewaySession.stillOwned state clientId fence.owner = true ↔
    (state.generationOf clientId).retiredGeneration < fence.generation ∧
      fence.purpose = .deletion ∧ fence.state = .persistent := by
  have epoch : fence.owner.gatewayEpoch = state.clientDispatchFenceEpoch := facing.epoch
  have retired : disconnectGatewaySession.retired state clientId fence.owner =
      decide (fence.generation ≤ (state.generationOf clientId).retiredGeneration) := by
    unfold disconnectGatewaySession.retired generationOf
    cases state.clientDispatchFenceGenerations.lookup clientId with
    | none => simpa [epoch] using facing.positive.ne'
    | some => simp [epoch, show fence.owner.generation = fence.generation from rfl]
  obtain ⟨current, found, mine, purpose, persistent⟩ := facing.stays.owner
  simp [disconnectGatewaySession.stillOwned, found, retired, mine, purpose, persistent, and_assoc]

theorem run_accepted (le : now ≤ later)
    (alive : (state.generationOf clientId).retiredGeneration < fence.generation)
    (fits : ¬ request.Misfits fence connected) :
    (request.run clientId fence.owner state later).2 = true := by
  have epoch : ¬ fence.owner.gatewayEpoch ≠ state.clientDispatchFenceEpoch := not_not.mpr facing.epoch
  have newer : ¬ fence.owner.generation ≤ (state.generationOf clientId).retiredGeneration :=
    not_le.mpr alive
  obtain ⟨current, found, mine, owned⟩ := facing.found
  cases request with
  | promote purpose =>
    have same : fence.purpose = purpose := (not_not.mp fits).symm
    simp [OwnerRequest.run, promoteGatewayClientDispatchFence, PromoteRequest.owner,
      promoteGatewayClientDispatchFence.exactOwner, epoch, newer, found, owned, same]
  | renew leaseSecs purpose =>
    have same : fence.purpose = purpose := (not_not.mp fits).symm
    obtain ⟨expired, found, -, owned⟩ := (facing.normalize le).found
    simp [OwnerRequest.run, prepareGatewayClientDispatchFence, PrepareRequest.owner,
      prepareGatewayClientDispatchFence.prepareOver, epoch, newer, found, owned, same]
  | clear restoreFallback reason =>
    simp [OwnerRequest.run, clearGatewayClientDispatchFence, ClearRequest.owner, epoch, newer, found,
      mine, clearGatewayClientDispatchFence.directlyOwned,
      clearGatewayClientDispatchFence.retiredOwnerVisible]
  | disconnect reason =>
    simp only [OwnerRequest.Misfits, not_or, not_not, Bool.not_eq_false] at fits
    obtain ⟨deletion, persistent, online⟩ := fits
    obtain ⟨session, connected⟩ := Option.isSome_iff_exists.mp (facing.session.trans online)
    have owned := facing.stillOwned.mpr ⟨alive, deletion, persistent⟩
    simp [OwnerRequest.run, disconnectGatewaySession, owned, connected]

/-- A retired owner, or a request that does not fit, is refused. -/
theorem run_refused (le : now ≤ later)
    (refuses : fence.generation ≤ (state.generationOf clientId).retiredGeneration ∨
      request.Misfits fence connected) :
    let outcome := request.run clientId fence.owner state later
    outcome.2 = false ∧ (outcome.1 = state ∨
      outcome.1 = state.normalizeExpiredDispatchFence clientId later) := by
  have epoch : ¬ fence.owner.gatewayEpoch ≠ state.clientDispatchFenceEpoch := not_not.mpr facing.epoch
  obtain ⟨current, found, mine, owned⟩ := facing.found
  obtain ⟨expired, foundExpired, -, ownedExpired⟩ := (facing.normalize le).found
  cases request with
  | promote purpose =>
    by_cases gone : fence.owner.generation ≤ (state.generationOf clientId).retiredGeneration
    · simp [OwnerRequest.run, promoteGatewayClientDispatchFence, epoch, gone]
    · have unowned : ¬ fence.purpose = purpose := Ne.symm (refuses.resolve_left gone)
      simp [OwnerRequest.run, promoteGatewayClientDispatchFence, PromoteRequest.owner,
        promoteGatewayClientDispatchFence.exactOwner, epoch, gone, found, foundExpired, owned,
        ownedExpired, unowned]
  | renew leaseSecs purpose =>
    by_cases same : fence.purpose = purpose
    · have gone : fence.owner.generation ≤ (state.generationOf clientId).retiredGeneration :=
        refuses.resolve_right fun misfits => misfits same.symm
      simp [OwnerRequest.run, prepareGatewayClientDispatchFence, PrepareRequest.owner,
        prepareGatewayClientDispatchFence.prepareOver, epoch, gone, foundExpired, ownedExpired, same]
    · simp [OwnerRequest.run, prepareGatewayClientDispatchFence, PrepareRequest.owner,
        prepareGatewayClientDispatchFence.prepareOver, epoch, foundExpired, ownedExpired, same]
  | clear restoreFallback reason =>
    have gone : fence.owner.generation ≤ (state.generationOf clientId).retiredGeneration :=
      refuses.resolve_right id
    simp [OwnerRequest.run, clearGatewayClientDispatchFence, ClearRequest.owner, epoch, gone, found,
      mine, clearGatewayClientDispatchFence.directlyOwned,
      clearGatewayClientDispatchFence.clearedState, clearGatewayClientDispatchFence.ownedAsFallback,
      clearGatewayClientDispatchFence.retiredOwnerVisible]
  | disconnect reason =>
    simp only [OwnerRequest.run, disconnectGatewaySession, Option.any_some, Bool.not_eq_true']
    split
    · exact ⟨rfl, .inl rfl⟩
    next owned =>
      obtain ⟨alive, deletion, persistent⟩ :=
        facing.stillOwned.mp (Bool.eq_true_of_not_eq_false owned)
      have session := facing.session
      cases online : state.sessions.lookup clientId with
      | none => exact ⟨rfl, .inl rfl⟩
      | some =>
        rw [online] at session
        obtain gone | notDeletion | volatile | offline := refuses
        · exact absurd alive (not_lt.mpr gone)
        · exact absurd deletion notDeletion
        · exact absurd persistent volatile
        · cases session.trans offline

theorem undisturbed (le : now ≤ later)
    (kept : after = state ∨ after = state.normalizeExpiredDispatchFence clientId later) :
    Facing clientId fence connected later after ∧
      after.generationOf clientId = state.generationOf clientId := by
  rcases kept with rfl | rfl
  · exact ⟨{ facing with stays := facing.stays.mono le }, rfl⟩
  · exact ⟨facing.normalize le,
      congrArg ClientFence.counters (state.clientFence_normalize clientId later)⟩

theorem ownerTrace_refused
    (refuses : fence.generation ≤ (state.generationOf clientId).retiredGeneration ∨
      ∀ request ∈ requests, request.2.Misfits fence connected) :
    ownerTrace clientId fence.owner state now requests = refusedTrace fence now requests := by
  induction requests generalizing state now with
  | nil => rfl
  | cons request rest ih =>
    obtain ⟨elapsed, request⟩ := request
    have later : now ≤ now + elapsed := Nat.le_add_right now elapsed
    obtain ⟨refused, kept⟩ :=
      facing.run_refused later (refuses.imp_right fun all => all _ List.mem_cons_self)
    obtain ⟨facing, same⟩ := facing.undisturbed later kept
    rw [← same] at refuses
    have remaining := ih facing (refuses.imp_right fun all => (List.forall_mem_cons.mp all).2)
    simp only at refused
    simp only [ownerTrace, refusedTrace, refused, facing.stays.normalized le_rfl]
    exact congrArg _ remaining

/-- As long as the owner is not retired, the requests are refused only if none of them fits. -/
theorem misfits_of_refused (alive : (state.generationOf clientId).retiredGeneration < fence.generation)
    (refused : ∀ entry ∈ ownerTrace clientId fence.owner state now requests, entry.1 = false) :
    ∀ request ∈ requests, request.2.Misfits fence connected := by
  induction requests generalizing state now with
  | nil => exact fun _ member => absurd member List.not_mem_nil
  | cons request rest ih =>
    obtain ⟨elapsed, request⟩ := request
    have later : now ≤ now + elapsed := Nat.le_add_right now elapsed
    obtain ⟨first, remaining⟩ := List.forall_mem_cons.mp refused
    have misfits : request.Misfits fence connected := by
      by_contra fits
      exact Bool.false_ne_true (first.symm.trans (facing.run_accepted later alive fits))
    obtain ⟨facing, same⟩ := facing.undisturbed later (facing.run_refused later (.inr misfits)).2
    exact List.forall_mem_cons.mpr ⟨misfits, ih facing (same ▸ alive) remaining⟩

end Facing

/-- What is left of an acquisition that was given up: the fence, and a retired generation
    newer than its owner's. -/
theorem retired_by_abort (owned : Owned honest epoch grants client)
    (installed : client.fence = some fence)
    (alive : client.counters.retiredGeneration < fence.generation)
    (other : acquire.token ≠ fence.token)
    (granted : AcquireOutcome epoch acquire now client acquired (some owner))
    (names : clear.owner = owner) (cleared : ClearOutcome epoch clear acquired aborted accepted) :
    Stays fence now aborted.fence ∧ fence.generation ≤ aborted.counters.retiredGeneration := by
  have current : acquired.fence = some (fence.normalizedAt now) := by
    cases granted with
    | existing | repeated | granted => exact ClientFence.fence_normalizedAt installed now
  have retired : acquired.counters.retiredGeneration = client.counters.retiredGeneration := by
    cases granted with
    | existing | repeated | granted => rfl
  have fenceLe := owned.fence_le installed
  -- the generation handed out is newer than the fence, hence than its fallback
  have newer : owner.gatewayEpoch = epoch ∧ fence.generation ≤ owner.generation ∧
      owner.token ≠ fence.token := by
    cases granted with
    | existing _ found token =>
      cases (ClientFence.fence_normalizedAt installed now).symm.trans found
      have same := congrArg FenceOwner.token (fence.owner_normalizedAt now)
      exact absurd (token.symm.trans same) other
    | repeated => exact ⟨rfl, fenceLe, other⟩
    | granted => exact ⟨rfl, fenceLe.trans (Nat.le_succ _), other⟩
  subst names
  obtain ⟨epochs, newer, tokens⟩ := newer
  have foreign : (fence.normalizedAt now).owner ≠ clear.owner := by
    rw [fence.owner_normalizedAt]
    exact fun same => tokens (congrArg FenceOwner.token same.symm)
  have kept : Stays fence now acquired.fence := .inr ⟨now, le_rfl, current⟩
  cases cleared with
  | stale old => exact absurd epochs old
  | spent held found mine | removed held _ found mine | restored held _ _ found mine =>
    cases current.symm.trans found
    exact absurd mine foreign
  | replaced _ fallback found remembered mine =>
    cases current.symm.trans found
    rw [fence.fallback_normalizedAt] at remembered
    obtain ⟨_, below, _⟩ := owned.fallback_held fence fallback installed remembered
    have same : fallback.generation = clear.owner.generation := congrArg FenceOwner.generation mine
    omega
  | retired => exact ⟨kept, newer.trans (Nat.le_max_right _ _)⟩

/-- In every reachable state with an installed fence whose owner is not retired: after
    another owner has acquired a generation and cleared it without preparing it, every
    promote, renewal, clear and disconnect of the fence's owner is refused. They end as
    they would have without the other owner exactly if none of them fits: there is no clear,
    promotes and renewals name another purpose, and there is no disconnect of a connected
    client with a persistent deletion. -/
theorem abort_retires_installed_owner {s : System} {clientId : ClientId} {fence : DispatchFence}
    {acquire : AcquireRequest} {clear : ClearRequest} {owner : FenceOwner}
    (reach : Reachable System.step System.Initial s)
    (installed : s.gateway.fenceOf clientId = some fence)
    (alive : (s.gateway.generationOf clientId).retiredGeneration < fence.generation)
    (sameClient : acquire.clientId = clientId) (other : acquire.token ≠ fence.token)
    (granted : (s.gateway.acquireGatewayClientDispatchFence acquire s.now).2 = .ok owner)
    (clears : clear.clientId = clientId) (names : clear.owner = owner) (elapsed : Nat)
    (requests : List (Nat × OwnerRequest)) :
    let acquired := (s.gateway.acquireGatewayClientDispatchFence acquire s.now).1
    let aborted := (acquired.clearGatewayClientDispatchFence clear (s.now + elapsed)).1
    let results := ownerTrace clientId fence.owner aborted (s.now + elapsed) requests
    let undisturbed := ownerTrace clientId fence.owner s.gateway (s.now + elapsed) requests
    (∀ entry ∈ results, entry.1 = false) ∧
      (results = undisturbed ↔ ∀ request ∈ requests,
        request.2.Misfits fence (s.gateway.sessions.lookup clientId).isSome) := by
  intro acquired aborted results undisturbed
  have owned := System.reachable_owns reach clientId
  have later : s.now ≤ s.now + elapsed := Nat.le_add_right _ _
  subst sameClient
  have framed := FenceFrame.acquire s.gateway acquire s.now
  have acquiring := s.gateway.acquire_outcome acquire s.now
  rw [granted] at acquiring
  have clearing := acquired.clear_outcome clear (s.now + elapsed)
  rw [clears, framed.epoch] at clearing
  obtain ⟨stays, gone⟩ := retired_by_abort owned installed alive other acquiring names clearing
  obtain ⟨⟨grant, member, same⟩, _⟩ := owned.fence_held fence installed
  have epoch : fence.gatewayEpoch = s.gateway.clientDispatchFenceEpoch :=
    (congrArg FenceOwner.gatewayEpoch same).symm.trans (owned.grant_epoch grant member)
  have before : Facing acquire.clientId fence _ (s.now + elapsed) s.gateway :=
    ⟨.inl installed, epoch, Nat.zero_lt_of_lt alive, rfl⟩
  have same : aborted.clientDispatchFenceEpoch = s.gateway.clientDispatchFenceEpoch :=
    (FenceFrame.clear acquired).epoch.trans framed.epoch
  have after : Facing acquire.clientId fence _ (s.now + elapsed) aborted :=
    ⟨stays.mono later, epoch.trans same.symm, Nat.zero_lt_of_lt alive, rfl⟩
  have refused : results = refusedTrace fence (s.now + elapsed) requests :=
    after.ownerTrace_refused (.inl gone)
  have all : ∀ entry ∈ results, entry.1 = false := refused ▸ refusedTrace_refused
  refine ⟨all, ?_, ?_⟩
  · intro same
    exact before.misfits_of_refused alive fun entry member => all entry (same.symm ▸ member)
  · exact fun misfits => refused.trans (before.ownerTrace_refused (.inr misfits)).symm

/-- A connected client is durably deleted by owner 9. -/
def deleteEdge : List Action :=
  [.registerSession "edge" ⟨4, 5⟩ none, .acquire ⟨"edge", 9, .deletion, false⟩,
    .request (.prepare ⟨"edge", 9, 1, 1, false, 30, .deletion⟩), .collect "edge",
    .request (.promote ⟨"edge", 9, 1, 1, .deletion⟩), .collect "edge"]

def deletedGateway : System :=
  (run System.step (System.started 1) deleteEdge).getD (System.started 1)

/-- Owner 10 acquires a deletion of its own and gives it up. -/
def abandonedDeletion : GatewayState :=
  let acquired := deletedGateway.gateway.acquireGatewayClientDispatchFence
    ⟨"edge", 10, .deletion, false⟩ deletedGateway.now
  (acquired.1.clearGatewayClientDispatchFence ⟨"edge", 10, 1, 2, true, "unconfirmed"⟩
    (deletedGateway.now + 5)).1

/-- Requests of owner 9 that do not fit its fence are refused either way. -/
theorem misfitting_requests_unaffected :
    ownerTrace "edge" ⟨9, 1, 1⟩ abandonedDeletion 5
        [(0, .promote .suspension), (3, .renew 30 .suspension)] =
      ownerTrace "edge" ⟨9, 1, 1⟩ deletedGateway.gateway 5
        [(0, .promote .suspension), (3, .renew 30 .suspension)] := by
  have reach : Reachable System.step System.Initial deletedGateway :=
    ⟨System.started 1, deleteEdge, System.started_initial, rfl⟩
  have installed : deletedGateway.gateway.fenceOf "edge" =
      some ⟨9, 1, 1, .deletion, .persistent⟩ := rfl
  have alive : (deletedGateway.gateway.generationOf "edge").retiredGeneration < 1 := by decide
  have different : (10 : Uuid) ≠ 9 := by decide
  have granted : (deletedGateway.gateway.acquireGatewayClientDispatchFence
      ⟨"edge", 10, .deletion, false⟩ deletedGateway.now).2 = .ok ⟨10, 1, 2⟩ := rfl
  have names : (ClearRequest.mk "edge" 10 1 2 true "unconfirmed").owner = ⟨10, 1, 2⟩ := rfl
  have both := abort_retires_installed_owner reach installed alive rfl different granted rfl names
    5 [(0, .promote .suspension), (3, .renew 30 .suspension)]
  exact both.2.mpr (by simp [OwnerRequest.Misfits])

/-- Owner 9 can no longer disconnect the client or lift its own fence. -/
theorem abandoned_deletion_visible :
    Reachable System.step System.Initial deletedGateway ∧
      deletedGateway.gateway.fenceOf "edge" = some ⟨9, 1, 1, .deletion, .persistent⟩ ∧
      ownerTrace "edge" ⟨9, 1, 1⟩ deletedGateway.gateway 5
          [(0, .promote .deletion), (0, .disconnect "deleted"), (0, .clear false "deleted")] =
        [(true, some ⟨9, 1, 1, .deletion, .persistent⟩),
          (true, some ⟨9, 1, 1, .deletion, .persistent⟩), (true, none)] ∧
      ownerTrace "edge" ⟨9, 1, 1⟩ abandonedDeletion 5
          [(0, .promote .deletion), (0, .disconnect "deleted"), (0, .clear false "deleted")] =
        [(false, some ⟨9, 1, 1, .deletion, .persistent⟩),
          (false, some ⟨9, 1, 1, .deletion, .persistent⟩),
          (false, some ⟨9, 1, 1, .deletion, .persistent⟩)] :=
  ⟨⟨System.started 1, deleteEdge, System.started_initial, rfl⟩, rfl, by decide, by decide⟩

end Vpsman.Gateway
