import Vpsman.Gateway.Finality

/-! # Who owns a fence

Acquire hands out generations, each to one token. A fence and the fallback it remembers
always belong to owners that were handed out, and another owner can take a fence over
only with the latest generation. Prepare does not compare its purpose with the acquired
one, so everything about purposes needs callers that repeat the purpose they acquired.
-/

namespace Vpsman.Gateway

open Vpsman.Lib

/-- The owner was handed out and, as long as callers repeat the purposes they acquired,
    for this purpose. -/
def Held (honest : Prop) (grants : List Grant) (owner : FenceOwner) (purpose : FencePurpose) :
    Prop :=
  (∃ grant ∈ grants, grant.owner = owner) ∧ (honest → ⟨owner, purpose⟩ ∈ grants)

/-- What holds between the grants of a client, its counters and its fence. The fields
    about purposes are claimed only if `honest`. -/
structure Owned (honest : Prop) (epoch : Uuid) (grants : List Grant) (client : ClientFence) :
    Prop where
  grant_epoch : ∀ grant ∈ grants, grant.owner.gatewayEpoch = epoch
  grant_le : ∀ grant ∈ grants, grant.owner.generation ≤ client.counters.latestGeneration
  grant_owner : ∀ first ∈ grants, ∀ second ∈ grants,
    first.owner.generation = second.owner.generation → first.owner = second.owner
  grant_purpose : honest → ∀ first ∈ grants, ∀ second ∈ grants,
    first.owner = second.owner → first.purpose = second.purpose
  latest_granted : ∀ token, client.counters.latestToken = some token →
    ∃ purpose, client.counters.latestPurpose = some purpose ∧
      ⟨⟨token, epoch, client.counters.latestGeneration⟩, purpose⟩ ∈ grants
  fence_held : ∀ fence, client.fence = some fence → Held honest grants fence.owner fence.purpose
  fallback_held : ∀ fence replaced, client.fence = some fence → fence.fallback = some replaced →
    Held honest grants replaced.owner replaced.purpose ∧
      replaced.generation ≤ client.counters.retiredGeneration ∧
      (honest → replaced.generation < fence.generation)

theorem Held.mono (held : Held honest grants owner purpose) (grown : grants ⊆ grants') :
    Held honest grants' owner purpose := by
  obtain ⟨⟨grant, member, same⟩, exactly⟩ := held
  exact ⟨⟨grant, grown member, same⟩, fun fair => grown (exactly fair)⟩

namespace Owned

variable {honest : Prop} {epoch : Uuid} {grants : List Grant} {client after : ClientFence}

variable (owned : Owned honest epoch grants client)
include owned

/-- The fence may change its state, drop its fallback or go, and generations may retire. -/
theorem restate (latest : after.counters.latestGeneration = client.counters.latestGeneration)
    (token : after.counters.latestToken = client.counters.latestToken)
    (purpose : after.counters.latestPurpose = client.counters.latestPurpose)
    (retired : client.counters.retiredGeneration ≤ after.counters.retiredGeneration)
    (fences : ∀ fence', after.fence = some fence' → ∃ fence, client.fence = some fence ∧
      fence'.owner = fence.owner ∧ fence'.purpose = fence.purpose ∧
      (fence'.fallback = none ∨ fence'.fallback = fence.fallback)) :
    Owned honest epoch grants after where
  grant_epoch := owned.grant_epoch
  grant_le := by
    rw [latest]
    exact owned.grant_le
  grant_owner := owned.grant_owner
  grant_purpose := owned.grant_purpose
  latest_granted := by
    rw [latest, token, purpose]
    exact owned.latest_granted
  fence_held := by
    intro fence' found
    obtain ⟨fence, before, sameOwner, samePurpose, _⟩ := fences fence' found
    rw [sameOwner, samePurpose]
    exact owned.fence_held fence before
  fallback_held := by
    intro fence' replaced found fallback
    obtain ⟨fence, before, sameOwner, _, dropped | same⟩ := fences fence' found
    · rw [dropped] at fallback
      cases fallback
    · obtain ⟨held, spent, below⟩ := owned.fallback_held fence replaced before
        (same.symm.trans fallback)
      have generation : fence'.generation = fence.generation :=
        congrArg FenceOwner.generation sameOwner
      exact ⟨held, spent.trans retired, fun fair => generation ▸ below fair⟩

theorem normalize (now : Instant) : Owned honest epoch grants (client.normalizedAt now) := by
  refine owned.restate rfl rfl rfl le_rfl ?_
  intro fence' found
  obtain ⟨fence, before, rfl⟩ := Option.map_eq_some_iff.mp found
  exact ⟨fence, before, fence.owner_normalizedAt now, fence.purpose_normalizedAt,
    .inr fence.fallback_normalizedAt⟩

theorem retire : Owned honest epoch grants (client.retire generation) :=
  owned.restate rfl rfl rfl (Nat.le_max_left _ _) fun fence found =>
    ⟨fence, found, rfl, rfl, .inr rfl⟩

theorem remove : Owned honest epoch grants (client.withFence none) := by
  refine owned.restate rfl rfl rfl le_rfl ?_
  rintro _ ⟨⟩

variable {fence : DispatchFence}

theorem install (held : Held honest grants fence.owner fence.purpose)
    (fallback : ∀ replaced, fence.fallback = some replaced →
      Held honest grants replaced.owner replaced.purpose ∧
        replaced.generation ≤ client.counters.retiredGeneration ∧
        (honest → replaced.generation < fence.generation)) :
    Owned honest epoch grants (client.withFence (some fence)) where
  grant_epoch := owned.grant_epoch
  grant_le := owned.grant_le
  grant_owner := owned.grant_owner
  grant_purpose := owned.grant_purpose
  latest_granted := owned.latest_granted
  fence_held := by
    rintro _ ⟨⟩
    exact held
  fallback_held := by
    rintro _ replaced ⟨⟩ found
    exact fallback replaced found

theorem extend (inEpoch : grant.owner.gatewayEpoch = epoch)
    (bounded : grant.owner.generation ≤ after.counters.latestGeneration)
    (agrees : ∀ other ∈ grants, other.owner.generation = grant.owner.generation →
      other.owner = grant.owner ∧ (honest → other.purpose = grant.purpose))
    (latest : client.counters.latestGeneration ≤ after.counters.latestGeneration)
    (retired : after.counters.retiredGeneration = client.counters.retiredGeneration)
    (fence : after.fence = client.fence)
    (granted : ∀ token, after.counters.latestToken = some token →
      ∃ purpose, after.counters.latestPurpose = some purpose ∧
        ⟨⟨token, epoch, after.counters.latestGeneration⟩, purpose⟩ ∈ grant :: grants) :
    Owned honest epoch (grant :: grants) after := by
  have grown : grants ⊆ grant :: grants := List.subset_cons_self _ _
  constructor
  case grant_epoch => exact List.forall_mem_cons.mpr ⟨inEpoch, owned.grant_epoch⟩
  case grant_le =>
    refine List.forall_mem_cons.mpr ⟨bounded, fun other member => ?_⟩
    exact (owned.grant_le other member).trans latest
  case grant_owner =>
    rintro first (_ | ⟨_, firstOld⟩) second (_ | ⟨_, secondOld⟩) equal
    · rfl
    · exact (agrees second secondOld equal.symm).1.symm
    · exact (agrees first firstOld equal).1
    · exact owned.grant_owner first firstOld second secondOld equal
  case grant_purpose =>
    rintro fair first (_ | ⟨_, firstOld⟩) second (_ | ⟨_, secondOld⟩) equal
    · rfl
    · exact ((agrees second secondOld (equal ▸ rfl)).2 fair).symm
    · exact (agrees first firstOld (equal ▸ rfl)).2 fair
    · exact owned.grant_purpose fair first firstOld second secondOld equal
  case latest_granted => exact granted
  case fence_held =>
    rw [fence]
    exact fun fence found => (owned.fence_held fence found).mono grown
  case fallback_held =>
    rw [fence, retired]
    intro fence replaced found fallback
    obtain ⟨held, rest⟩ := owned.fallback_held fence replaced found fallback
    exact ⟨held.mono grown, rest⟩

theorem regrant (held : Held honest grants grant.owner grant.purpose) :
    Owned honest epoch (grant :: grants) client := by
  obtain ⟨⟨earlier, member, sameOwner⟩, exactly⟩ := held
  refine owned.extend (sameOwner ▸ owned.grant_epoch earlier member)
    (sameOwner ▸ owned.grant_le earlier member) ?_ le_rfl rfl rfl ?_
  · intro other inside generation
    have same := owned.grant_owner other inside earlier member (sameOwner ▸ generation)
    rw [sameOwner] at same
    exact ⟨same, fun fair => owned.grant_purpose fair other inside _ (exactly fair) same⟩
  · intro token latest
    obtain ⟨purpose, recorded, inside⟩ := owned.latest_granted token latest
    exact ⟨purpose, recorded, List.mem_cons_of_mem _ inside⟩

/-- The next generation is new, so it can be bound to any token. -/
theorem granting :
    Owned honest epoch
      (⟨⟨request.token, epoch, client.counters.latestGeneration + 1⟩, request.purpose⟩ :: grants)
      (client.granting request) := by
  refine owned.extend rfl le_rfl ?_ (Nat.le_succ _) rfl rfl ?_
  · intro other inside generation
    exact absurd generation (Nat.ne_of_lt (Nat.lt_succ_of_le (owned.grant_le other inside)))
  · rintro _ ⟨⟩
    exact ⟨request.purpose, rfl, List.mem_cons_self⟩

variable {request : PrepareRequest}

theorem authorized_granted (current : request.gatewayEpoch = epoch)
    (authorized : GatewayState.prepareGatewayClientDispatchFence.initialAuthorized request
      client.counters = true) :
    request.generation = client.counters.latestGeneration ∧
      ∃ purpose, client.counters.latestPurpose = some purpose ∧ ⟨request.owner, purpose⟩ ∈ grants := by
  simp only [GatewayState.prepareGatewayClientDispatchFence.initialAuthorized, Bool.and_eq_true,
    decide_eq_true_eq] at authorized
  obtain ⟨⟨latest, token⟩, _⟩ := authorized
  obtain ⟨purpose, recorded, member⟩ := owned.latest_granted _ token
  refine ⟨latest.symm, purpose, recorded, ?_⟩
  rw [PrepareRequest.owner, current, ← latest]
  exact member

/-- The prepare repeats the purpose with which its owner was acquired. -/
def Fits (grants : List Grant) (request : PrepareRequest) : Prop :=
  ∀ grant ∈ grants, grant.owner = request.owner → grant.purpose = request.purpose

instance (grants : List Grant) (request : PrepareRequest) : Decidable (Fits grants request) :=
  inferInstanceAs (Decidable (∀ grant ∈ grants, grant.owner = request.owner →
    grant.purpose = request.purpose))

theorem authorized_held
    (fits : honest → Fits grants request) (current : request.gatewayEpoch = epoch)
    (authorized : GatewayState.prepareGatewayClientDispatchFence.initialAuthorized request
      client.counters = true) : Held honest grants request.owner request.purpose := by
  obtain ⟨_, purpose, _, member⟩ := owned.authorized_granted current authorized
  refine ⟨⟨_, member, rfl⟩, fun fair => ?_⟩
  rw [← fits fair _ member rfl]
  exact member

theorem fence_le (found : client.fence = some fence) :
    fence.generation ≤ client.counters.latestGeneration := by
  obtain ⟨⟨grant, member, same⟩, _⟩ := owned.fence_held fence found
  have le := owned.grant_le grant member
  rw [same] at le
  exact le

theorem authorized_newer
    (found : client.fence = some fence) (current : request.gatewayEpoch = epoch)
    (authorized : GatewayState.prepareGatewayClientDispatchFence.initialAuthorized request
      client.counters = true) (other : request.owner ≠ fence.owner) :
    fence.generation < request.generation := by
  obtain ⟨latest, purpose, _, member⟩ := owned.authorized_granted current authorized
  obtain ⟨⟨grant, inside, same⟩, _⟩ := owned.fence_held fence found
  refine lt_of_le_of_ne (latest ▸ owned.fence_le found) fun equal => other ?_
  rw [← same] at other ⊢
  refine owned.grant_owner _ member _ inside ?_
  rw [same]
  exact equal.symm

variable {now : Instant} {accepted : Bool}

theorem prepare (fits : honest → Fits grants request)
    (outcome : PrepareOutcome epoch request now client after accepted) :
    Owned honest epoch grants after := by
  have normalized := owned.normalize now
  cases outcome with
  | stale => exact owned
  | refused => exact normalized
  | renewed existing found =>
    refine normalized.restate rfl rfl rfl le_rfl ?_
    rintro _ ⟨⟩
    exact ⟨existing, found, existing.owner_renewedBy,
      existing.purpose_renewedBy, .inr existing.fallback_renewedBy⟩
  | installed current _ _ authorized =>
    refine owned.install (owned.authorized_held fits current authorized) ?_
    rintro _ ⟨⟩
  | replaced existing current found foreign _ authorized =>
    have held := owned.authorized_held fits current authorized
    refine owned.retire.install held ?_
    rintro _ ⟨⟩
    have before := normalized.fence_held existing found
    refine ⟨before, Nat.le_max_right _ _, fun fair => ?_⟩
    -- the same owner with another purpose would need two purposes acquired for it
    refine normalized.authorized_newer found current authorized fun same => ?_
    have purposes := owned.grant_purpose fair _ (held.2 fair) _ (before.2 fair) same
    rw [DispatchFence.ownedFor_iff.mpr ⟨same.symm, purposes.symm⟩] at foreign
    cases foreign

theorem promote {request : PromoteRequest}
    (outcome : PromoteOutcome epoch request now client after accepted) :
    Owned honest epoch grants after := by
  cases outcome with
  | refused => exact owned
  | missed => exact owned.normalize now
  | promoted fence _ found =>
    refine owned.restate rfl rfl rfl le_rfl ?_
    rintro _ ⟨⟩
    exact ⟨fence, found, rfl, rfl, .inl rfl⟩

theorem clear {request : ClearRequest}
    (outcome : ClearOutcome epoch request client after accepted) :
    Owned honest epoch grants after := by
  cases outcome with
  | stale | spent | replaced => exact owned
  | retired => exact owned.retire
  | removed => exact owned.remove.retire
  | restored fence replaced _ found _ _ fallback =>
    obtain ⟨held, _⟩ := owned.fallback_held fence replaced found fallback
    have reinstated : Owned honest epoch grants
        (client.withFence (some (GatewayState.restoredFence replaced))) := by
      refine owned.install held ?_
      intro again remembered
      rw [GatewayState.fallback_restoredFence] at remembered
      cases remembered
    exact reinstated.retire

theorem acquire {request : AcquireRequest}
    (outcome : AcquireOutcome epoch request now client after granted) :
    Owned honest epoch ((granted.map (Grant.mk · request.purpose)).toList ++ grants) after := by
  have normalized := owned.normalize now
  cases outcome with
  | invalid => exact owned
  | refused => exact normalized
  | existing fence found _ purpose =>
    refine normalized.regrant ?_
    rw [← purpose]
    exact normalized.fence_held fence found
  | repeated _ token purpose =>
    obtain ⟨recorded, latest, member⟩ := owned.latest_granted _ token
    rw [purpose] at latest
    cases latest
    exact normalized.regrant ⟨⟨_, member, rfl⟩, fun _ => member⟩
  | granted => exact normalized.granting

theorem step (fits : honest → ∀ request, action = .request (.prepare request) →
      request.clientId = clientId → Fits grants request)
    (moves : ClientStep epoch now clientId client grants action after grants') :
    Owned honest epoch grants' after := by
  cases moves with
  | kept => exact owned
  | expired => exact owned.normalize now
  | prepare request same outcome =>
    exact owned.prepare (fun fair => fits fair request rfl same) outcome
  | promote _ outcome => exact owned.promote outcome
  | clear _ outcome => exact owned.clear outcome
  | acquire _ outcome => exact owned.acquire outcome
  | route _ outcome =>
    cases outcome with
    | kept => exact owned
    | normalized => exact owned.normalize now
    | removed => exact owned.remove.retire

omit owned

theorem initial (start : System.Initial s) (clientId : ClientId) :
    Owned honest s.gateway.clientDispatchFenceEpoch (s.grantsOf clientId)
      (s.gateway.clientFence clientId) := by
  obtain ⟨fences, generations, _, _, _, log⟩ := start
  have unfenced : s.gateway.fenceOf clientId = none := by
    rw [GatewayState.fenceOf, fences, AList.lookup_empty]
  have zero : s.gateway.generationOf clientId = {} := by
    rw [GatewayState.generationOf, generations, AList.lookup_empty, Option.getD_none]
  constructor <;> simp [System.grantsOf, log, unfenced, zero]

end Owned

/-- Every client's fence belongs to owners that were handed out. -/
def System.Owns (honest : Prop) (s : System) : Prop :=
  ∀ clientId, Owned honest s.gateway.clientDispatchFenceEpoch (s.grantsOf clientId)
    (s.gateway.clientFence clientId)

/-- A prepare carries the purpose with which its token and generation were acquired. -/
def Action.CarriesPurpose (s : System) : Action → Prop
  | .request (.prepare wanted) => Owned.Fits (s.grantsOf wanted.clientId) wanted
  | _ => True

instance (s : System) : ∀ action : Action, Decidable (action.CarriesPurpose s)
  | .request (.prepare wanted) =>
    inferInstanceAs (Decidable (Owned.Fits (s.grantsOf wanted.clientId) wanted))
  | .request (.promote _) | .request (.clear _) | .tick _ | .prune | .check _ _ | .mark _ _
  | .trySend _ _ | .rollback _ | .acquire _ | .collect _ | .registerSession _ _ _
  | .refreshRoute _ _ _ | .closeSession _ | .setDispatchAckSecs _ =>
    inferInstanceAs (Decidable True)

namespace System

theorem Owns.step {s s' : System} (owns : s.Owns honest)
    (fits : honest → action.CarriesPurpose s) (stepped : s.step action = some s') :
    s'.Owns honest := by
  obtain ⟨epoch, moves⟩ := step_moves stepped
  intro clientId
  rw [epoch]
  refine (owns clientId).step ?_ (moves clientId)
  rintro fair request rfl rfl
  exact fits fair

theorem reachable_owns (reach : Reachable System.step System.Initial s) : s.Owns False :=
  reach.invariant (fun _ start => Owned.initial start)
    fun _ _ _ owns stepped => Owns.step owns False.elim stepped

theorem honest_owns
    (reach : Reachable (restrict System.step fun s action => action.CarriesPurpose s)
      System.Initial s) : s.Owns True := by
  refine reach.invariant (fun _ start => Owned.initial start) ?_
  intro s action s' owns stepped
  obtain ⟨fits, stepped⟩ := restrict_eq_some.mp stepped
  exact Owns.step owns (fun _ => fits) stepped

end System

def FenceRequest.owner : FenceRequest → FenceOwner
  | .prepare request => request.owner
  | .promote request => request.owner
  | .clear request => request.owner

/-- The request is an initial prepare that took the fence over: it has the latest
    generation, newer than the fence's, and keeps the replaced owner as its fallback. -/
def FenceRequest.TakesOver (request : FenceRequest) (fence : DispatchFence) (latest : Nat)
    (accepted : Bool) (after : Option DispatchFence) : Prop :=
  ∃ prepare taken replaced, request = .prepare prepare ∧ prepare.renewal = false ∧
    accepted = true ∧ prepare.generation = latest ∧ fence.generation < prepare.generation ∧
    after = some taken ∧ taken.owner = prepare.owner ∧ taken.fallback = some replaced ∧
    replaced.owner = fence.owner ∧ replaced.purpose = fence.purpose

section Foreign

variable {honest : Prop} {epoch : Uuid} {grants : List Grant} {client after : ClientFence}
  {fence : DispatchFence} {now : Instant} {accepted : Bool}

/-- The fence is as it was, or its lease has run out. -/
def Undisturbed (fence : DispatchFence) (now : Instant) (after : Option DispatchFence) : Prop :=
  after = some fence ∨ after = some (fence.normalizedAt now)

theorem PrepareOutcome.foreign (owned : Owned honest epoch grants client)
    (outcome : PrepareOutcome epoch request now client after accepted)
    (found : client.fence = some fence) (other : request.owner ≠ fence.owner) :
    Undisturbed fence now after.fence ∨
      (FenceRequest.prepare request).TakesOver fence client.counters.latestGeneration accepted
        after.fence := by
  have normalized := ClientFence.fence_normalizedAt found now
  cases outcome with
  | stale => exact .inl (.inl found)
  | refused => exact .inl (.inr normalized)
  | renewed _ found' mine =>
    cases normalized.symm.trans found'
    have same := (DispatchFence.ownedFor_iff.mp mine).1
    rw [DispatchFence.owner_normalizedAt] at same
    exact absurd same.symm other
  | installed _ absent =>
    rw [found] at absent
    cases absent
  | replaced _ current found' _ initial authorized =>
    cases normalized.symm.trans found'
    have newer := owned.authorized_newer found current authorized other
    have latest := (owned.authorized_granted current authorized).1
    refine .inr ⟨request, _, _, rfl, initial, rfl, latest, newer, rfl, rfl, rfl, ?_, ?_⟩
    · exact fence.owner_normalizedAt now
    · exact fence.purpose_normalizedAt

theorem PromoteOutcome.foreign (outcome : PromoteOutcome epoch request now client after accepted)
    (found : client.fence = some fence) (other : request.owner ≠ fence.owner) :
    Undisturbed fence now after.fence := by
  cases outcome with
  | refused => exact .inl found
  | missed => exact .inr (ClientFence.fence_normalizedAt found now)
  | promoted _ _ found' mine =>
    cases found.symm.trans found'
    exact absurd (DispatchFence.ownedFor_iff.mp mine).1.symm other

theorem ClearOutcome.foreign (outcome : ClearOutcome epoch request client after accepted)
    (found : client.fence = some fence) (other : request.owner ≠ fence.owner) :
    after.fence = some fence := by
  cases outcome with
  | stale | spent | replaced | retired => exact found
  | removed existing current found' mine alive | restored existing replaced current found' mine alive =>
    cases found.symm.trans found'
    exact absurd mine.symm other

theorem AcquireOutcome.undisturbed {granted : Option FenceOwner}
    (outcome : AcquireOutcome epoch request now client after granted)
    (found : client.fence = some fence) : Undisturbed fence now after.fence := by
  have normalized := ClientFence.fence_normalizedAt found now
  cases outcome with
  | invalid => exact .inl found
  | refused | existing | repeated | granted => exact .inr normalized

end Foreign

/-- In every state that a started gateway reaches while prepares carry the purposes they
    acquired: the fence is at most as new as the latest generation, and its fallback is
    older and retired; a generation is bound to one token; no step takes the latest or the
    retired generation back; and a request of another owner changes the fence only by
    expiry or by taking it over. -/
theorem fence_structure {s : System}
    (reach : Reachable (restrict System.step fun s action => action.CarriesPurpose s)
      System.Initial s) (clientId : ClientId) :
    (∀ fence, s.gateway.fenceOf clientId = some fence →
      fence.generation ≤ (s.gateway.generationOf clientId).latestGeneration ∧
      ∀ replaced, fence.fallback = some replaced → replaced.generation < fence.generation ∧
        replaced.generation ≤ (s.gateway.generationOf clientId).retiredGeneration) ∧
    (∀ action s', s.step action = some s' →
      (s.gateway.generationOf clientId).latestGeneration ≤
        (s'.gateway.generationOf clientId).latestGeneration ∧
      (s.gateway.generationOf clientId).retiredGeneration ≤
        (s'.gateway.generationOf clientId).retiredGeneration) ∧
    ((∀ first ∈ s.grantsOf clientId, ∀ second ∈ s.grantsOf clientId,
        first.owner.generation = second.owner.generation →
        first.owner.token = second.owner.token) ∧
      ∀ fence, s.gateway.fenceOf clientId = some fence →
        ∃ grant ∈ s.grantsOf clientId, grant.owner = fence.owner) ∧
    ∀ fence now, s.gateway.fenceOf clientId = some fence →
      (∀ request : FenceRequest, request.clientId = clientId → request.owner ≠ fence.owner →
        let after := request.run s.gateway now
        Undisturbed fence now (after.1.fenceOf clientId) ∨
          request.TakesOver fence (s.gateway.generationOf clientId).latestGeneration
            after.2.accepted (after.1.fenceOf clientId)) ∧
      ∀ request : AcquireRequest, request.clientId = clientId →
        Undisturbed fence now
          ((s.gateway.acquireGatewayClientDispatchFence request now).1.fenceOf clientId) := by
  have owned := System.honest_owns reach clientId
  refine ⟨?_, ?_, ⟨?_, ?_⟩, ?_⟩
  · intro fence found
    refine ⟨owned.fence_le found, fun replaced fallback => ?_⟩
    obtain ⟨_, retired, below⟩ := owned.fallback_held fence replaced found fallback
    exact ⟨below trivial, retired⟩
  · intro action s' stepped
    have later := ClientFence.NotBefore.step ((System.step_moves stepped).2 clientId)
    exact ⟨later.latest, later.retired⟩
  · intro first firstMember second secondMember equal
    exact congrArg FenceOwner.token (owned.grant_owner first firstMember second secondMember equal)
  · exact fun fence found => (owned.fence_held fence found).1
  · intro fence now found
    constructor
    · rintro request rfl other
      cases request with
      | prepare request => exact (s.gateway.prepare_outcome request now).foreign owned found other
      | promote request =>
        exact .inl ((s.gateway.promote_outcome request now).foreign found other)
      | clear request =>
        exact .inl (.inl ((s.gateway.clear_outcome request now).foreign found other))
    · rintro request rfl
      exact (s.gateway.acquire_outcome request now).undisturbed found

/-- A suspension is promoted; a second one takes it over and leaves it as the fallback. -/
def replacedSuspension : List Action :=
  [.acquire ⟨"edge", 9, .suspension, false⟩,
    .request (.prepare ⟨"edge", 9, 1, 1, false, 30, .suspension⟩), .collect "edge",
    .request (.promote ⟨"edge", 9, 1, 1, .suspension⟩), .collect "edge",
    .acquire ⟨"edge", 10, .suspension, false⟩,
    .request (.prepare ⟨"edge", 10, 1, 2, false, 30, .suspension⟩), .collect "edge"]

def replacedGateway : System :=
  (run (restrict System.step fun s action => action.CarriesPurpose s) (System.started 1)
    replacedSuspension).getD (System.started 1)

theorem replacedSuspension_runs : run (restrict System.step fun s action => action.CarriesPurpose s)
    (System.started 1) replacedSuspension = some replacedGateway := rfl

theorem replacedGateway_fence : replacedGateway.gateway.fenceOf "edge" =
    some ⟨10, 1, 2, .suspension, .prepared 30000000000 (some ⟨9, 1, 1, .suspension, false⟩)⟩ := rfl

theorem replaced_suspension_structure :
    run (restrict System.step fun s action => action.CarriesPurpose s) (System.started 1)
        replacedSuspension = some replacedGateway ∧
      ∃ fence replaced, replacedGateway.gateway.fenceOf "edge" = some fence ∧
        fence.fallback = some replaced ∧ replaced.generation < fence.generation ∧
        replaced.generation ≤ (replacedGateway.gateway.generationOf "edge").retiredGeneration := by
  obtain ⟨bounds, _⟩ :=
    fence_structure ⟨_, _, System.started_initial, replacedSuspension_runs⟩ "edge"
  obtain ⟨_, fallback⟩ := bounds _ replacedGateway_fence
  exact ⟨replacedSuspension_runs, _, _, replacedGateway_fence, rfl, fallback _ rfl⟩

/-- The owner was acquired for this purpose and for no other. -/
def System.AcquiredFor (s : System) (clientId : ClientId) (owner : FenceOwner)
    (purpose : FencePurpose) : Prop :=
  ⟨owner, purpose⟩ ∈ s.grantsOf clientId ∧
    ∀ grant ∈ s.grantsOf clientId, grant.owner = owner → grant.purpose = purpose

theorem System.acquiredFor_of_held {s : System} (owns : s.Owns True)
    (held : Held True (s.grantsOf clientId) owner purpose) : s.AcquiredFor clientId owner purpose :=
  ⟨held.2 trivial, fun grant member same =>
    (owns clientId).grant_purpose trivial grant member _ (held.2 trivial) same⟩

/-- A durable deletion gives way to deletions only. -/
theorem DispatchFence.deletion_of_replaceable {fence : DispatchFence}
    (replaceable : GatewayState.prepareGatewayClientDispatchFence.replacesPreparedSuspension
        request counters (fence.normalizedAt now) = true ∨
      (fence.normalizedAt now).recoverableFor request.purpose = true)
    (durable : fence.state = .persistent) (deletes : fence.purpose = .deletion) :
    request.purpose = .deletion := by
  have stays : fence.normalizedAt now = fence := by
    rw [normalizedAt, leaseExpiredAt, durable]
    rfl
  rw [stays] at replaceable
  rcases replaceable with supersedes | recovers
  · simp [GatewayState.prepareGatewayClientDispatchFence.replacesPreparedSuspension, deletes]
      at supersedes
  · simpa [recoverableFor, requiresDurableRecheck, durable, deletes] using recovers

theorem DispatchFence.suspension_of_replaceable {fence : DispatchFence}
    (replaceable : GatewayState.prepareGatewayClientDispatchFence.replacesPreparedSuspension
        request counters (fence.normalizedAt now) = true ∨
      (fence.normalizedAt now).recoverableFor request.purpose = true)
    (lease : fence.isPrepared = true) (live : fence.activeAt now = true) :
    request.purpose = .suspension := by
  have stays : fence.normalizedAt now = fence := by
    rw [activeAt_eq_not_leaseExpiredAt, Bool.not_eq_true'] at live
    rw [normalizedAt, live]
    rfl
  rw [stays] at replaceable
  rcases replaceable with supersedes | recovers
  · simp only [GatewayState.prepareGatewayClientDispatchFence.replacesPreparedSuspension,
      Bool.and_eq_true, decide_eq_true_eq] at supersedes
    exact supersedes.1.1.2
  · unfold isPrepared at lease
    unfold recoverableFor requiresDurableRecheck at recovers
    split at lease
    next expiresAt fallback state =>
      simp [state] at recovers
    · cases lease
    · cases lease

/-- As long as prepares carry the purposes they acquired, a fence and its fallback have the
    purposes they were acquired for, a durable deletion is replaced only by an owner that
    acquired a deletion, and a live lease only by one that acquired a suspension. -/
theorem fence_keeps_acquired_purpose {s : System}
    (reach : Reachable (restrict System.step fun s action => action.CarriesPurpose s)
      System.Initial s) {clientId : ClientId} {fence : DispatchFence}
    (installed : s.gateway.fenceOf clientId = some fence) :
    s.AcquiredFor clientId fence.owner fence.purpose ∧
    (∀ replaced, fence.fallback = some replaced →
      s.AcquiredFor clientId replaced.owner replaced.purpose) ∧
    ∀ (request : PrepareRequest) (now : Instant), request.clientId = clientId →
      request.owner ≠ fence.owner →
      (Action.request (.prepare request)).CarriesPurpose s →
      (s.gateway.prepareGatewayClientDispatchFence request now).2.accepted = true →
      (fence.state = .persistent → fence.purpose = .deletion →
        s.AcquiredFor clientId request.owner .deletion) ∧
      (fence.isPrepared = true → fence.activeAt now = true →
        s.AcquiredFor clientId request.owner .suspension) := by
  have owns := System.honest_owns reach
  have owned := owns clientId
  refine ⟨?_, ?_, ?_⟩
  · exact System.acquiredFor_of_held owns (owned.fence_held fence installed)
  · intro replaced fallback
    exact System.acquiredFor_of_held owns (owned.fallback_held fence replaced installed fallback).1
  · rintro request now rfl other fits accepted
    have outcome := s.gateway.prepare_outcome request now
    rw [accepted] at outcome
    have normalized := (s.gateway.clientFence request.clientId).fence_normalizedAt installed now
    generalize (s.gateway.prepareGatewayClientDispatchFence request now).1.clientFence
      request.clientId = after at outcome
    cases outcome with
    | renewed _ found mine =>
      cases normalized.symm.trans found
      have same := (DispatchFence.ownedFor_iff.mp mine).1
      rw [DispatchFence.owner_normalizedAt] at same
      exact absurd same.symm other
    | installed _ absent =>
      cases installed.symm.trans absent
    | replaced _ current found _ _ authorized replaceable =>
      cases normalized.symm.trans found
      have held := owned.authorized_held (fun _ => fits) current authorized
      have acquired := System.acquiredFor_of_held owns held
      constructor
      · intro durable deletes
        exact DispatchFence.deletion_of_replaceable replaceable durable deletes ▸ acquired
      · intro lease live
        exact DispatchFence.suspension_of_replaceable replaceable lease live ▸ acquired

theorem replaced_suspension_purposes :
    run (restrict System.step fun s action => action.CarriesPurpose s) (System.started 1)
        replacedSuspension = some replacedGateway ∧
      replacedGateway.AcquiredFor "edge" ⟨10, 1, 2⟩ .suspension ∧
      replacedGateway.AcquiredFor "edge" ⟨9, 1, 1⟩ .suspension := by
  obtain ⟨own, fallback, _⟩ := fence_keeps_acquired_purpose
    ⟨_, _, System.started_initial, replacedSuspension_runs⟩ replacedGateway_fence
  exact ⟨replacedSuspension_runs, own, fallback _ rfl⟩

/-- Owner 9 prepares a deletion and loses its lease, owner 10 acquires a suspension, owner 9
    commits its deletion after all, and owner 10 prepares a deletion. -/
def suspensionTurnedDeletion : List Action :=
  [.acquire ⟨"edge", 9, .deletion, false⟩,
    .request (.prepare ⟨"edge", 9, 1, 1, false, 30, .deletion⟩), .collect "edge",
    .tick 40000000000, .acquire ⟨"edge", 10, .suspension, false⟩,
    .request (.promote ⟨"edge", 9, 1, 1, .deletion⟩), .collect "edge",
    .request (.prepare ⟨"edge", 10, 1, 2, false, 30, .deletion⟩), .collect "edge"]

/-- Prepare does not look at the acquired purpose: the owner of a suspension replaces a
    durable deletion and holds a deletion fence. -/
theorem suspension_owner_replaces_deletion :
    ∃ s, run System.step (System.started 1) suspensionTurnedDeletion = some s ∧
      s.AcquiredFor "edge" ⟨10, 1, 2⟩ .suspension ∧
      ∃ fence replaced, s.gateway.fenceOf "edge" = some fence ∧ fence.owner = ⟨10, 1, 2⟩ ∧
        fence.purpose = .deletion ∧ fence.fallback = some replaced ∧
        replaced.owner = ⟨9, 1, 1⟩ ∧ replaced.purpose = .deletion ∧
        replaced.requiresDurableRecheck = false := by
  refine ⟨_, rfl, ⟨?_, ?_⟩, _, _, rfl, rfl, rfl, rfl, rfl, rfl, rfl⟩
  · decide
  · decide

end Vpsman.Gateway
