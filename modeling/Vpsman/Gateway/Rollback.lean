import Vpsman.Gateway.Attempts
import Vpsman.Gateway.Requests

/-! # A rollback never unfences a durable fence

Transitions of other owners may replace a persistent fence, lose their lease and
roll back in any order. A fence stays installed throughout because whatever is
installed either remembers the owner it replaced, or has a retired generation and can
no longer be cleared, or belongs to the durable owner itself.
-/

namespace Vpsman.Gateway

open Vpsman.Lib

/-- No rollback by anyone but `owner` can take this fence away. -/
structure Anchored (owner : FenceOwner) (retired : Nat) (fence : DispatchFence) : Prop where
  held : fence.owner = owner ∨ fence.generation ≤ retired ∨ ∃ replaced, fence.fallback = some replaced
  replaced_retired : ∀ replaced, fence.fallback = some replaced → replaced.generation ≤ retired

theorem Anchored.mono (anchored : Anchored owner retired fence) (raised : retired ≤ retired') :
    Anchored owner retired' fence := by
  refine ⟨?_, ?_⟩
  · rcases anchored.held with same | spent | fallback
    · exact .inl same
    · exact .inr (.inl (spent.trans raised))
    · exact .inr (.inr fallback)
  · intro replaced found
    exact (anchored.replaced_retired replaced found).trans raised

theorem Anchored.congr (anchored : Anchored owner retired fence) (same : fence'.owner = fence.owner)
    (fallback : fence'.fallback = fence.fallback) : Anchored owner retired fence' := by
  have generation : fence'.generation = fence.generation := congrArg FenceOwner.generation same
  refine ⟨?_, ?_⟩
  · rw [same, generation, fallback]
    exact anchored.held
  · rw [fallback]
    exact anchored.replaced_retired

/-- The client has a fence that is anchored for the durable owner. -/
def KeepsFence (owner : FenceOwner) (clientId : ClientId) (state : GatewayState) : Prop :=
  ∃ fence, state.fenceOf clientId = some fence ∧
    Anchored owner (state.generationOf clientId).retiredGeneration fence

/-- The same of the client's fence and counters alone. -/
def ClientFence.Keeps (owner : FenceOwner) (client : ClientFence) : Prop :=
  ∃ fence, client.fence = some fence ∧
    Anchored owner client.counters.retiredGeneration fence

namespace ClientFence.Keeps

variable {owner : FenceOwner} {client after : ClientFence} {epoch : Uuid} {now : Instant}

theorem normalized (keeps : client.Keeps owner) : (client.normalizedAt now).Keeps owner := by
  obtain ⟨fence, found, anchored⟩ := keeps
  exact ⟨fence.normalizedAt now, fence_normalizedAt found now, anchored.congr (by simp) (by simp)⟩

theorem acquire (keeps : client.Keeps owner)
    (outcome : AcquireOutcome epoch request now client after granted) : after.Keeps owner := by
  cases outcome with
  | invalid => exact keeps
  | refused | existing | repeated | granted => exact keeps.normalized

/-- A prepare by another owner renews its own fence or remembers the one it replaces. -/
theorem prepare (keeps : client.Keeps owner)
    (outcome : PrepareOutcome epoch request now client after accepted) : after.Keeps owner := by
  cases outcome with
  | stale => exact keeps
  | refused => exact keeps.normalized
  | renewed _ same =>
    obtain ⟨fence, found, anchored⟩ := keeps.normalized
    cases found.symm.trans same
    exact ⟨_, rfl, anchored.congr (by simp) (by simp)⟩
  | installed _ absent =>
    obtain ⟨fence, found, -⟩ := keeps
    cases found.symm.trans absent
  | replaced =>
    refine ⟨_, rfl, .inr (.inr ⟨_, rfl⟩), ?_⟩
    rintro replaced ⟨⟩
    exact Nat.le_max_right _ _

end ClientFence.Keeps

namespace KeepsFence

variable {owner : FenceOwner} {clientId : ClientId} {state state' : GatewayState}

theorem congr (keeps : KeepsFence owner clientId state)
    (fence : state'.fenceOf clientId = state.fenceOf clientId)
    (retired : (state.generationOf clientId).retiredGeneration ≤
      (state'.generationOf clientId).retiredGeneration) : KeepsFence owner clientId state' := by
  obtain ⟨installed, found, anchored⟩ := keeps
  exact ⟨installed, fence.trans found, anchored.mono retired⟩

theorem frame (keeps : KeepsFence owner clientId state)
    (framed : FenceFrame other state state') (different : clientId ≠ other) :
    KeepsFence owner clientId state' := by
  refine keeps.congr (framed.others clientId different) ?_
  rw [framed.generations clientId different]

theorem retire (keeps : KeepsFence owner clientId state) :
    KeepsFence owner clientId
      (state.retireClientDispatchFenceGeneration clientId epoch generation) :=
  keeps.congr (GatewayState.fenceOf_retire _)
    (GatewayState.retiredGeneration_le_retire _)

theorem iff_keeps : KeepsFence owner clientId state ↔ (state.clientFence clientId).Keeps owner := .rfl

theorem normalize (keeps : KeepsFence owner clientId state) :
    KeepsFence owner clientId (state.normalizeExpiredDispatchFence clientId now) := by
  rw [iff_keeps, GatewayState.clientFence_normalize]
  exact (iff_keeps.mp keeps).normalized

/-- A rollback by another owner restores the fallback, which is a retired owner. -/
theorem clearedState (keeps : KeepsFence owner request.clientId state)
    (restores : request.restoreFallback = true) (other : request.owner ≠ owner) :
    KeepsFence owner request.clientId
      (GatewayState.clearGatewayClientDispatchFence.clearedState state request) := by
  obtain ⟨fence, found, anchored⟩ := keeps
  unfold GatewayState.clearGatewayClientDispatchFence.clearedState
  split
  next acts =>
    simp only [GatewayState.clearGatewayClientDispatchFence.retiredOwnerVisible,
      GatewayState.clearGatewayClientDispatchFence.directlyOwned, found, Option.any_some,
      Bool.and_eq_true, decide_eq_true_eq, Bool.not_eq_true', Bool.and_eq_false_iff,
      decide_eq_false_iff_not, Bool.or_eq_false_iff, not_le] at acts
    obtain ⟨direct, alive⟩ := acts
    have generation : fence.generation = request.expectedGeneration :=
      congrArg FenceOwner.generation direct
    -- the fence is the requester's and not retired, so it must remember a fallback
    obtain ⟨replaced, fallback⟩ : ∃ replaced, fence.fallback = some replaced := by
      rcases anchored.held with same | spent | fallback
      · exact absurd (direct.symm.trans same) other
      · rcases alive with alive | indirect
        · omega
        · exact absurd direct indirect.1
      · exact fallback
    simp only [GatewayState.clearGatewayClientDispatchFence.fallbackOf, found, Option.bind_some,
      fallback, restores]
    refine ⟨GatewayState.restoredFence replaced, ?_, ?_, ?_⟩
    · rw [GatewayState.fenceOf_setFence, if_pos rfl]
    · exact .inr (.inl (anchored.replaced_retired replaced fallback))
    · intro again same
      rw [GatewayState.fallback_restoredFence] at same
      cases same
  · exact ⟨fence, found, anchored⟩

theorem clear (keeps : KeepsFence owner clientId state)
    (sameClient : request.clientId = clientId) (restores : request.restoreFallback = true)
    (other : request.owner ≠ owner) :
    KeepsFence owner clientId (state.clearGatewayClientDispatchFence request now).1 := by
  subst sameClient
  have cleared := keeps.clearedState restores other
  unfold GatewayState.clearGatewayClientDispatchFence
  split
  · exact keeps
  · dsimp only
    split
    · exact cleared.retire
    · exact cleared

end KeepsFence

/-- Everything except what could legitimately end the durable owner's fence: requests of
    that owner, promotions, clears that do not restore, and accepted hellos or telemetry. -/
def Action.ByOthers (clientId : ClientId) (owner : FenceOwner) : Action → Prop
  | .request (.prepare wanted) => wanted.clientId = clientId → wanted.owner ≠ owner
  | .request (.promote wanted) => wanted.clientId ≠ clientId
  | .request (.clear wanted) =>
    wanted.clientId = clientId → wanted.restoreFallback = true ∧ wanted.owner ≠ owner
  | .registerSession other _ _ | .refreshRoute other _ _ => other ≠ clientId
  | .tick _ | .prune | .check _ _ | .mark _ _ | .trySend _ _ | .rollback _ | .acquire _
  | .collect _ | .closeSession _ | .setDispatchAckSecs _ => True

namespace KeepsFence

variable {owner : FenceOwner} {clientId : ClientId} {s s' : System}

variable (keeps : KeepsFence owner clientId s.gateway)
include keeps

theorem answer : KeepsFence owner clientId (s.answer request reply).gateway := by
  unfold System.answer
  split <;> exact keeps

theorem request {request : FenceRequest}
    (others : (Action.request request).ByOthers clientId owner) :
    KeepsFence owner clientId (request.run s.gateway now).1 := by
  by_cases sameClient : request.clientId = clientId
  · cases request with
    | prepare request =>
      subst sameClient
      exact (iff_keeps.mp keeps).prepare (s.gateway.prepare_outcome request now)
    | promote => exact absurd sameClient others
    | clear =>
      obtain ⟨restores, other⟩ := others sameClient
      exact keeps.clear sameClient restores other
  · exact keeps.frame (request.run_frame s.gateway now) fun same => sameClient same.symm

theorem check : KeepsFence owner clientId (s.check attempt dispatch).gateway := by
  unfold System.check
  split
  · by_cases sameClient : dispatch.clientId = clientId
    · subst sameClient
      exact keeps.normalize
    · exact keeps.frame (FenceFrame.normalize s.gateway s.now) fun same => sameClient same.symm
  · exact keeps
  · exact keeps

theorem step (others : action.ByOthers clientId owner) (stepped : s.step action = some s') :
    KeepsFence owner clientId s'.gateway := by
  cases System.stepped_of_step stepped with
  | tick => exact keeps
  | check => exact keeps.check
  | mark =>
    unfold System.mark
    dsimp only
    split <;> exact keeps.congr rfl le_rfl
  | @trySend _ _ _ _ outcome => cases outcome <;> exact keeps
  | rollback =>
    rw [GatewayState.rollback_frame]
    exact keeps.congr rfl le_rfl
  | @acquire request =>
    by_cases sameClient : request.clientId = clientId
    · subst sameClient
      exact (iff_keeps.mp keeps).acquire (s.gateway.acquire_outcome request s.now)
    · exact keeps.frame (FenceFrame.acquire s.gateway request s.now) fun same =>
        sameClient same.symm
  | request => exact answer (keeps.request others)
  | collect =>
    dsimp only [System.collect]
    rw [GatewayState.protectedEnqueuedJobIds_frame]
    exact keeps.congr rfl le_rfl
  | registerSession => exact keeps.frame (FenceFrame.register _) fun same => others same.symm
  | refreshRoute => exact keeps.frame (FenceFrame.refreshRoute _) fun same => others same.symm
  | prune | closeSession | setDispatchAckSecs => exact keeps.congr rfl le_rfl

end KeepsFence

/-- From any reachable state in which a persistent fence is installed, and for every run of
    other owners that only acquire, prepare, renew, lose leases, dispatch and roll back, some
    fence is installed at the end; a command is delivered there only for a dispatch that
    carries the exact owner of a fence in durable recheck. -/
theorem rollback_never_unfences {s₀ s : System} {clientId : ClientId} {fence : DispatchFence}
    {actions : List Action} (reach : Reachable System.step System.Initial s₀)
    (installed : s₀.gateway.fenceOf clientId = some fence) (durable : fence.state = .persistent)
    (others : ∀ action ∈ actions, action.ByOthers clientId fence.owner)
    (runs : run System.step s₀ actions = some s) :
    ∃ current, s.gateway.fenceOf clientId = some current ∧
      ∀ attempt held s', s.inFlight.lookup attempt = some held →
        held.dispatch.clientId = clientId →
        s.step (.trySend attempt .delivered) = some s' →
        current.requiresDurableRecheck = true ∧
          held.dispatch.lifecycleRecheck = some current.owner := by
  have start : KeepsFence fence.owner clientId s₀.gateway := by
    refine ⟨fence, installed, .inl rfl, ?_⟩
    intro replaced fallback
    rw [DispatchFence.fallback, durable] at fallback
    cases fallback
  have kept : ∀ s action s', KeepsFence fence.owner clientId s.gateway →
      action.ByOthers clientId fence.owner → System.step s action = some s' →
      KeepsFence fence.owner clientId s'.gateway :=
    fun _ _ _ keeps other stepped => keeps.step other stepped
  obtain ⟨current, found, _⟩ := run_preserves kept start others runs
  have guarded := (System.reachable_guarded (reach.extend runs)).2
  refine ⟨current, found, ?_⟩
  rintro attempt held s' flying rfl _
  obtain ⟨same, admits⟩ := guarded.inFlight_fence flying
  exact admits current (same.symm.trans found)

/-- Suspend a client durably on a gateway that has just started. -/
def suspendEdge : List Action :=
  [.acquire ⟨"edge", 9, .suspension, false⟩,
    .request (.prepare ⟨"edge", 9, 1, 1, false, 30, .suspension⟩), .collect "edge",
    .request (.promote ⟨"edge", 9, 1, 1, .suspension⟩), .collect "edge"]

def suspendedGateway : System :=
  (run System.step (System.started 1) suspendEdge).getD (System.started 1)

/-- Another owner replaces the suspension, loses its lease while a dispatch comes in, and
    rolls back. -/
def rolledBackReplacement : List Action :=
  [.acquire ⟨"edge", 10, .suspension, false⟩,
    .request (.prepare ⟨"edge", 10, 1, 2, false, 30, .suspension⟩), .collect "edge",
    .tick 40000000000, .check 0 ⟨"edge", 7, 30, 5, some 1, none⟩,
    .request (.clear ⟨"edge", 10, 1, 2, true, "rolled back"⟩)]

theorem rolled_back_replacement_stays_fenced :
    ∃ s, run System.step suspendedGateway rolledBackReplacement = some s ∧
      (s.gateway.fenceOf "edge").map DispatchFence.owner = some ⟨9, 1, 1⟩ ∧
      ∃ current, s.gateway.fenceOf "edge" = some current ∧
        ∀ attempt held s', s.inFlight.lookup attempt = some held →
          held.dispatch.clientId = "edge" →
          s.step (.trySend attempt .delivered) = some s' →
          current.requiresDurableRecheck = true ∧
            held.dispatch.lifecycleRecheck = some current.owner := by
  have reach : Reachable System.step System.Initial suspendedGateway :=
    ⟨System.started 1, suspendEdge, System.started_initial, rfl⟩
  have installed : suspendedGateway.gateway.fenceOf "edge" =
      some ⟨9, 1, 1, .suspension, .persistent⟩ := rfl
  have others : ∀ action ∈ rolledBackReplacement, action.ByOthers "edge" ⟨9, 1, 1⟩ := by
    simp [rolledBackReplacement, Action.ByOthers, PrepareRequest.owner, ClearRequest.owner]
  exact ⟨_, rfl, rfl, rollback_never_unfences reach installed rfl others rfl⟩

end Vpsman.Gateway
