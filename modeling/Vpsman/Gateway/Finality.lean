import Vpsman.Gateway.System
import Vpsman.Gateway.Requests

/-! # A retired generation stays retired

Every action of the system does at most one thing to the fence of a client, and the
latest and the retired generation only grow. So a generation that has once been retired
is refused by every later prepare, renewal and promote, and nothing that names it can
change the installed fence.
-/

namespace Vpsman.Gateway

open Vpsman.Lib

/-- An owner that an acquire has handed out, with the purpose it was asked for. -/
structure Grant where
  owner : FenceOwner
  purpose : FencePurpose
  deriving Repr, DecidableEq

def Event.grantFor (clientId : ClientId) : Event → Option Grant
  | .acquired request (some owner) =>
    if request.clientId = clientId then some ⟨owner, request.purpose⟩ else none
  | _ => none

/-- Everything acquired for a client so far, newest first. -/
def System.grantsOf (s : System) (clientId : ClientId) : List Grant :=
  s.log.filterMap (Event.grantFor clientId)

/-- What one action does to a client's fence, counters and grants. -/
inductive ClientStep (epoch : Uuid) (now : Instant) (clientId : ClientId) (client : ClientFence)
    (grants : List Grant) : Action → ClientFence → List Grant → Prop where
  | kept (action : Action) : ClientStep epoch now clientId client grants action client grants
  | expired (action : Action) :
      ClientStep epoch now clientId client grants action (client.normalizedAt now) grants
  | prepare (request : PrepareRequest) {after : ClientFence} {accepted : Bool}
      (same : request.clientId = clientId)
      (outcome : PrepareOutcome epoch request now client after accepted) :
      ClientStep epoch now clientId client grants (.request (.prepare request)) after grants
  | promote (request : PromoteRequest) {after : ClientFence} {accepted : Bool}
      (outcome : PromoteOutcome epoch request now client after accepted) :
      ClientStep epoch now clientId client grants (.request (.promote request)) after grants
  | clear (request : ClearRequest) {after : ClientFence} {accepted : Bool}
      (outcome : ClearOutcome epoch request client after accepted) :
      ClientStep epoch now clientId client grants (.request (.clear request)) after grants
  | acquire (request : AcquireRequest) {after : ClientFence} {granted : Option FenceOwner}
      (outcome : AcquireOutcome epoch request now client after granted) :
      ClientStep epoch now clientId client grants (.acquire request) after
        ((granted.map (Grant.mk · request.purpose)).toList ++ grants)
  | route (action : Action) {after : ClientFence} (outcome : RouteOutcome now client after) :
      ClientStep epoch now clientId client grants action after grants

namespace System

variable {s s' : System} {action : Action}

/-- The step from `s` to `s'` as one client sees it. -/
def Moves (s : System) (action : Action) (s' : System) : Prop :=
  s'.gateway.clientDispatchFenceEpoch = s.gateway.clientDispatchFenceEpoch ∧
    ∀ clientId, ClientStep s.gateway.clientDispatchFenceEpoch s.now clientId
      (s.gateway.clientFence clientId) (s.grantsOf clientId) action
      (s'.gateway.clientFence clientId) (s'.grantsOf clientId)

theorem moves_kept (epoch : s'.gateway.clientDispatchFenceEpoch = s.gateway.clientDispatchFenceEpoch)
    (clients : ∀ clientId, s'.gateway.clientFence clientId = s.gateway.clientFence clientId)
    (grants : ∀ clientId, s'.grantsOf clientId = s.grantsOf clientId) : s.Moves action s' := by
  refine ⟨epoch, fun clientId => ?_⟩
  rw [clients, grants]
  exact .kept action

theorem moves_framed (framed : FenceFrame clientId s.gateway s'.gateway)
    (grants : ∀ other, other ≠ clientId → s'.grantsOf other = s.grantsOf other)
    (moves : ClientStep s.gateway.clientDispatchFenceEpoch s.now clientId
      (s.gateway.clientFence clientId) (s.grantsOf clientId) action
      (s'.gateway.clientFence clientId) (s'.grantsOf clientId)) : s.Moves action s' := by
  refine ⟨framed.epoch, fun other => ?_⟩
  by_cases same : other = clientId
  · subst same
    exact moves
  · rw [GatewayState.clientFence_frame framed same, grants other same]
    exact .kept action

theorem grantsOf_answer : (s.answer request reply).grantsOf clientId = s.grantsOf clientId := by
  unfold answer
  split <;> rfl

theorem gateway_answer : (s.answer request reply).gateway = s.gateway := by
  unfold answer
  split <;> rfl

theorem moves_check : s.Moves (.check attempt dispatch) (s.check attempt dispatch) := by
  unfold check
  split
  · refine moves_framed (FenceFrame.normalize s.gateway s.now) (fun _ _ => rfl) ?_
    rw [setGateway, GatewayState.clientFence_normalize]
    exact .expired _
  all_goals exact moves_kept rfl (fun _ => rfl) (fun _ => rfl)

theorem moves_mark : s.Moves (.mark attempt generation) (s.mark attempt held generation) := by
  unfold mark
  dsimp only
  split <;> exact moves_kept rfl (fun _ => rfl) (fun _ => rfl)

theorem moves_request :
    s.Moves (.request request) ((s.setGateway (request.run s.gateway s.now).1).answer request
        (request.run s.gateway s.now).2) := by
  have framed : FenceFrame request.clientId s.gateway
      ((s.setGateway (request.run s.gateway s.now).1).answer request
        (request.run s.gateway s.now).2).gateway := by
    rw [gateway_answer]
    exact request.run_frame s.gateway s.now
  refine moves_framed framed ?_ ?_
  · exact fun other _ => grantsOf_answer
  · rw [grantsOf_answer, gateway_answer]
    cases request with
    | prepare request => exact .prepare request rfl (s.gateway.prepare_outcome request s.now)
    | promote request => exact .promote request (s.gateway.promote_outcome request s.now)
    | clear request => exact .clear request (s.gateway.clear_outcome request s.now)

theorem grantsOf_acquired :
    (s.record (.acquired request granted)).grantsOf clientId =
      (if request.clientId = clientId then (granted.map (Grant.mk · request.purpose)).toList
        else []) ++ s.grantsOf clientId := by
  cases granted with
  | none =>
    rw [Option.map_none, Option.toList_none, ite_self]
    rfl
  | some =>
    by_cases same : request.clientId = clientId
    all_goals simp [grantsOf, record, Event.grantFor, same]

theorem moves_acquire :
    s.Moves (.acquire request)
      ((s.setGateway (s.gateway.acquireGatewayClientDispatchFence request s.now).1).record
        (.acquired request
          (s.gateway.acquireGatewayClientDispatchFence request s.now).2.toOption)) := by
  refine moves_framed (FenceFrame.acquire s.gateway request s.now) ?_ ?_
  · intro other different
    rw [grantsOf_acquired, if_neg fun same => different same.symm]
    rfl
  · rw [grantsOf_acquired, if_pos rfl]
    exact .acquire request (s.gateway.acquire_outcome request s.now)

theorem step_moves (stepped : s.step action = some s') : s.Moves action s' := by
  cases stepped_of_step stepped with
  | check => exact moves_check
  | mark => exact moves_mark
  | @trySend _ _ _ _ outcome =>
    cases outcome <;> exact moves_kept rfl (fun _ => rfl) (fun _ => rfl)
  | rollback =>
    rw [GatewayState.rollback_frame]
    exact moves_kept rfl (fun _ => rfl) (fun _ => rfl)
  | acquire => exact moves_acquire
  | request => exact moves_request
  | collect =>
    dsimp only [collect]
    rw [GatewayState.protectedEnqueuedJobIds_frame]
    exact moves_kept rfl (fun _ => rfl) (fun _ => rfl)
  | registerSession =>
    refine moves_framed (FenceFrame.register _) (fun _ _ => rfl) ?_
    exact .route _ s.gateway.register_outcome
  | refreshRoute =>
    refine moves_framed (FenceFrame.refreshRoute _) (fun _ _ => rfl) ?_
    exact .route _ s.gateway.refresh_outcome
  | tick | prune | closeSession | setDispatchAckSecs =>
    exact moves_kept rfl (fun _ => rfl) (fun _ => rfl)

end System

/-- The latest and the retired generation have not gone back. -/
structure ClientFence.NotBefore (earlier later : ClientFence) : Prop where
  latest : earlier.counters.latestGeneration ≤ later.counters.latestGeneration
  retired : earlier.counters.retiredGeneration ≤ later.counters.retiredGeneration

namespace ClientFence.NotBefore

theorem refl (client : ClientFence) : client.NotBefore client := ⟨le_rfl, le_rfl⟩

theorem withFence (client : ClientFence) (fence : Option DispatchFence) :
    client.NotBefore (client.withFence fence) := ⟨le_rfl, le_rfl⟩

theorem normalized (client : ClientFence) :
    client.NotBefore (client.normalizedAt now) := ⟨le_rfl, le_rfl⟩

theorem retire (client : ClientFence) :
    client.NotBefore (client.retire generation) := ⟨le_rfl, Nat.le_max_left _ _⟩

theorem granting (client : ClientFence) :
    client.NotBefore (client.granting request) := ⟨Nat.le_succ _, le_rfl⟩

theorem trans {first second third : ClientFence} (left : first.NotBefore second)
    (right : second.NotBefore third) : first.NotBefore third :=
  ⟨left.latest.trans right.latest, left.retired.trans right.retired⟩

theorem step (moves : ClientStep epoch now clientId client grants action after grants') :
    client.NotBefore after := by
  cases moves with
  | kept => exact refl client
  | expired => exact normalized client
  | prepare _ _ outcome =>
    cases outcome with
    | stale => exact refl client
    | refused => exact normalized client
    | renewed => exact (normalized client).trans (withFence _ _)
    | installed => exact withFence client _
    | replaced => exact (withFence client _).trans (retire _)
  | promote _ outcome =>
    cases outcome with
    | refused => exact refl client
    | missed => exact normalized client
    | promoted => exact withFence client _
  | clear _ outcome =>
    cases outcome with
    | stale | spent | replaced => exact refl client
    | retired => exact retire client
    | removed | restored => exact (withFence client _).trans (retire _)
  | acquire _ outcome =>
    cases outcome with
    | invalid => exact refl client
    | refused | existing | repeated => exact normalized client
    | granted => exact (normalized client).trans (granting _)
  | route _ outcome =>
    cases outcome with
    | kept => exact refl client
    | normalized => exact normalized client
    | removed => exact (withFence client _).trans (retire _)

end ClientFence.NotBefore

theorem System.run_notBefore (runs : run System.step s actions = some s') :
    (s.gateway.clientFence clientId).NotBefore (s'.gateway.clientFence clientId) := by
  let start := s.gateway.clientFence clientId
  have kept : ∀ mid action next, start.NotBefore (mid.gateway.clientFence clientId) → True →
      System.step mid action = some next →
      start.NotBefore (next.gateway.clientFence clientId) :=
    fun _ _ _ earlier _ stepped => earlier.trans (.step ((step_moves stepped).2 clientId))
  exact run_preserves kept (.refl start) (fun _ _ => trivial) runs

variable {client after : ClientFence} {accepted : Bool}

/-- A prepare that names a retired generation is refused and at most normalizes. -/
theorem PrepareOutcome.of_retired (outcome : PrepareOutcome epoch request now client after accepted)
    (retired : request.generation ≤ client.counters.retiredGeneration) :
    accepted = false ∧
      (after.fence = client.fence ∨ after.fence = (client.normalizedAt now).fence) := by
  have unauthorized : GatewayState.prepareGatewayClientDispatchFence.initialAuthorized request
      client.counters = true → False := by
    simp only [GatewayState.prepareGatewayClientDispatchFence.initialAuthorized, Bool.and_eq_true,
      decide_eq_true_eq]
    rintro ⟨_, newer⟩
    exact absurd newer (not_lt.mpr retired)
  cases outcome with
  | stale => exact ⟨rfl, .inl rfl⟩
  | refused => exact ⟨rfl, .inr rfl⟩
  | renewed _ _ _ alive => exact absurd alive (not_lt.mpr retired)
  | installed _ _ _ authorized => exact (unauthorized authorized).elim
  | replaced _ _ _ _ _ authorized => exact (unauthorized authorized).elim

theorem PromoteOutcome.of_retired (outcome : PromoteOutcome epoch request now client after accepted)
    (retired : request.generation ≤ client.counters.retiredGeneration) :
    accepted = false ∧
      (after.fence = client.fence ∨ after.fence = (client.normalizedAt now).fence) := by
  cases outcome with
  | refused => exact ⟨rfl, .inl rfl⟩
  | missed => exact ⟨rfl, .inr rfl⟩
  | promoted _ _ _ _ alive => exact absurd alive (not_lt.mpr retired)

theorem ClearOutcome.of_retired (outcome : ClearOutcome epoch request client after accepted)
    (retired : request.expectedGeneration ≤ client.counters.retiredGeneration) :
    after.fence = client.fence := by
  cases outcome with
  | stale | spent | replaced | retired => rfl
  | removed _ _ _ _ alive => exact absurd alive (not_lt.mpr retired)
  | restored _ _ _ _ _ alive => exact absurd alive (not_lt.mpr retired)

def FenceRequest.generation : FenceRequest → Nat
  | .prepare request => request.generation
  | .promote request => request.generation
  | .clear request => request.expectedGeneration

/-- Once a generation of a client is retired, then after every run of the system each
    prepare, renewal and promote that names it is refused, and no request that names it
    changes the installed fence except for the expiry of its lease. -/
theorem retired_generation_is_final {s s' : System} {clientId : ClientId} {generation : Nat}
    {actions : List Action}
    (retired : generation ≤ (s.gateway.generationOf clientId).retiredGeneration)
    (runs : run System.step s actions = some s') (request : FenceRequest) (now : Instant)
    (names : request.clientId = clientId) (old : request.generation = generation) :
    ((∀ clear, request ≠ .clear clear) → (request.run s'.gateway now).2.accepted = false) ∧
      ((request.run s'.gateway now).1.fenceOf clientId = s'.gateway.fenceOf clientId ∨
        (request.run s'.gateway now).1.fenceOf clientId =
          (s'.gateway.normalizeExpiredDispatchFence clientId now).fenceOf clientId) := by
  subst names old
  have later := retired.trans (System.run_notBefore runs).retired
  have expiry := congrArg ClientFence.fence (s'.gateway.clientFence_normalize request.clientId now)
  rw [GatewayState.fence_clientFence] at expiry
  rw [expiry]
  cases request with
  | prepare request =>
    obtain ⟨refused, fence⟩ := (s'.gateway.prepare_outcome request now).of_retired later
    exact ⟨fun _ => refused, fence⟩
  | promote request =>
    obtain ⟨refused, fence⟩ := (s'.gateway.promote_outcome request now).of_retired later
    exact ⟨fun _ => refused, fence⟩
  | clear request =>
    refine ⟨fun notClear => absurd rfl (notClear request), .inl ?_⟩
    exact (s'.gateway.clear_outcome request now).of_retired later

/-- A suspension is promoted and then cleared, which retires its generation. -/
def clearedSuspension : List Action :=
  [.acquire ⟨"edge", 9, .suspension, false⟩,
    .request (.prepare ⟨"edge", 9, 1, 1, false, 30, .suspension⟩), .collect "edge",
    .request (.promote ⟨"edge", 9, 1, 1, .suspension⟩), .collect "edge",
    .request (.clear ⟨"edge", 9, 1, 1, false, "resumed"⟩)]

def clearedGateway : System :=
  (run System.step (System.started 1) clearedSuspension).getD (System.started 1)

/-- A second transition installs generation 2. -/
def laterDeletion : List Action :=
  [.acquire ⟨"edge", 10, .deletion, false⟩,
    .request (.prepare ⟨"edge", 10, 1, 2, false, 30, .deletion⟩)]

/-- The first owner then asks for its renewal. -/
theorem retired_renewal_refused :
    ∃ s, run System.step clearedGateway laterDeletion = some s ∧
      (s.gateway.fenceOf "edge").map DispatchFence.owner = some ⟨10, 1, 2⟩ ∧
      ((FenceRequest.prepare ⟨"edge", 9, 1, 1, true, 30, .suspension⟩).run
        s.gateway 5).2.accepted = false := by
  have retired : 1 ≤ (clearedGateway.gateway.generationOf "edge").retiredGeneration := le_of_eq rfl
  obtain ⟨s, runs⟩ : ∃ s, run System.step clearedGateway laterDeletion = some s := ⟨_, rfl⟩
  have installed : (run System.step clearedGateway laterDeletion).bind (fun s =>
      (s.gateway.fenceOf "edge").map DispatchFence.owner) = some ⟨10, 1, 2⟩ := rfl
  rw [runs] at installed
  refine ⟨s, runs, installed, ?_⟩
  have final := retired_generation_is_final retired runs
    (.prepare ⟨"edge", 9, 1, 1, true, 30, .suspension⟩) 5 rfl rfl
  exact final.1 fun _ same => FenceRequest.noConfusion same

end Vpsman.Gateway
