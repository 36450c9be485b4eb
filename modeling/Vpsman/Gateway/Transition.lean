import Vpsman.Gateway.System

/-! # What a step of the gateway can do

Every action is a short sequence of primitive transitions. Invariants are shown for
the primitive transitions only; fence requests appear among them through their frame,
so that no invariant about markers depends on how a fence request decides.
-/

namespace Vpsman.Gateway

open Vpsman.Lib

/-- Events that belong to a dispatch attempt. -/
def Event.ofAttempt : Event → Bool
  | .checked _ _ _ | .marked _ _ _ _ | .sent _ _ _ _ _ => true
  | .refused _ _ | .acquired _ _ | .answered _ _ _ => false

/-- Events that promise nothing about markers or sends. -/
def Event.silent : Event → Bool
  | .refused _ _ | .acquired _ _ => true
  | .answered request _ result => !(request.protects && result.accepted)
  | .checked _ _ _ | .marked _ _ _ _ | .sent _ _ _ _ _ => false

theorem Event.ofAttempt_of_silent {event : Event} (silent : event.silent = true) :
    event.ofAttempt = false := by
  cases event with
  | checked | marked | sent => cases silent
  | refused | acquired | answered => rfl

/-- A fence admits a dispatch only in durable recheck and for its exact owner. -/
def Admits (observed : Option DispatchFence) (dispatch : CommandDispatch) : Prop :=
  ∀ fence, observed = some fence →
    fence.requiresDurableRecheck = true ∧ dispatch.lifecycleRecheck = some fence.owner

theorem GatewayState.admits_of_check {state : GatewayState}
    (admitted : state.checkDispatchFence dispatch now = .admitted) :
    Admits (state.fenceOf dispatch.clientId) dispatch := by
  intro fence found
  simp only [checkDispatchFence, found] at admitted
  split at admitted
  · cases admitted
  split at admitted
  · cases admitted
  split at admitted
  next recheck =>
    split at admitted
    next exact_ =>
      exact ⟨recheck, exact_⟩
    · cases admitted
  · cases admitted

theorem GatewayState.expired_of_check {state : GatewayState}
    (expired : state.checkDispatchFence dispatch now = .expired) :
    ∃ fence, state.fenceOf dispatch.clientId = some fence ∧ fence.leaseExpiredAt now = true := by
  simp only [checkDispatchFence] at expired
  split at expired
  · cases expired
  split at expired
  next fence found =>
    refine ⟨fence, found, ?_⟩
    split at expired
    next inactive =>
      rw [DispatchFence.activeAt_eq_not_leaseExpiredAt, Bool.not_not] at inactive
      exact inactive
    · split at expired
      · split at expired <;> cases expired
      · cases expired
  · split at expired <;> cases expired

inductive Transition (s : System) : System → Prop where
  | tick (later : Instant) (forward : s.now ≤ later) : Transition s { s with now := later }
  | prune : Transition s (s.setGateway (s.gateway.pruneExpiredCommandEnqueues s.now))
  | normalize (clientId : ClientId) (fence : DispatchFence)
      (found : s.gateway.fenceOf clientId = some fence)
      (expired : fence.leaseExpiredAt s.now = true) :
      Transition s (s.setGateway (s.gateway.normalizeExpiredDispatchFence clientId s.now))
  | lifecycle (clientId : ClientId) (after : GatewayState)
      (frame : FenceFrame clientId s.gateway after) (free : s.readLocked clientId = false) :
      Transition s (s.setGateway after)
  | unfenced (after : GatewayState) (enqueues : after.commandEnqueues = s.gateway.commandEnqueues)
      (fences : after.clientDispatchFences = s.gateway.clientDispatchFences) :
      Transition s (s.setGateway after)
  | note (event : Event) (silent : event.silent = true) : Transition s (s.record event)
  | reject (attempt : Nat) (dispatch : CommandDispatch) (fresh : s.freshAttempt attempt = true) :
      Transition s
        (s.record (.checked attempt dispatch (s.gateway.fenceOf dispatch.clientId)))
  | accept (attempt : Nat) (dispatch : CommandDispatch) (fresh : s.freshAttempt attempt = true)
      (admits : Admits (s.gateway.fenceOf dispatch.clientId) dispatch) :
      Transition s
        { s with
          inFlight := s.inFlight.insert attempt
            ⟨dispatch, s.gateway.fenceOf dispatch.clientId, .checked⟩
          log := .checked attempt dispatch (s.gateway.fenceOf dispatch.clientId) :: s.log }
  | release (attempt : Nat) (held : Attempt) (flying : s.inFlight.lookup attempt = some held)
      (unmarked : held.phase = .checked) : Transition s (s.release attempt)
  | mark (attempt : Nat) (held : Attempt) (marker : EnqueueMarker)
      (flying : s.inFlight.lookup attempt = some held) (unmarked : held.phase = .checked)
      (fresh : s.freshGeneration marker.generation = true) :
      Transition s
        { s with
          gateway := s.gateway.setMarker held.dispatch.clientId held.dispatch.jobId marker
          inFlight := s.inFlight.insert attempt (held.withPhase (.marked marker
            (s.gateway.markerOf held.dispatch.clientId held.dispatch.jobId)))
          log := .marked attempt held.dispatch.clientId held.dispatch.jobId marker :: s.log }
  | deliver (attempt : Nat) (held : Attempt) (marker : EnqueueMarker)
      (prior : Option EnqueueMarker) (flying : s.inFlight.lookup attempt = some held)
      (marked : held.phase = .marked marker prior) :
      Transition s ((s.release attempt).record
        (.sent attempt held.dispatch.clientId held.dispatch.jobId marker
          (s.gateway.fenceOf held.dispatch.clientId)))
  | fail (attempt : Nat) (held : Attempt) (marker : EnqueueMarker)
      (prior : Option EnqueueMarker) (flying : s.inFlight.lookup attempt = some held)
      (marked : held.phase = .marked marker prior) :
      Transition s
        { s with inFlight := s.inFlight.insert attempt (held.withPhase (.failed marker prior)) }
  | rollback (attempt : Nat) (held : Attempt) (marker : EnqueueMarker)
      (prior : Option EnqueueMarker) (flying : s.inFlight.lookup attempt = some held)
      (failed : held.phase = .failed marker prior) :
      Transition s ((s.release attempt).setGateway (s.gateway.rollbackFailedCommandEnqueue
        held.dispatch.clientId held.dispatch.jobId marker prior))
  | collecting (request : FenceRequest) (reply : FenceReply)
      (reads : reply.ids = .asOf s.now ∨ reply.ids = .fresh) :
      Transition s
        { s with collecting := s.collecting.insert request.clientId ⟨request, reply⟩ }
  | collect (clientId : ClientId) (pending : Collecting)
      (found : s.collecting.lookup clientId = some pending) :
      Transition s (s.collect clientId pending)

/-- Zero or more primitive transitions. -/
abbrev Transitions : System → System → Prop := Relation.ReflTransGen Transition

namespace System

theorem check_transitions
    (fresh : s.freshAttempt attempt = true) : Transitions s (s.check attempt dispatch) := by
  unfold check
  split
  next expired =>
    obtain ⟨fence, found, expired⟩ := GatewayState.expired_of_check expired
    exact .single (.normalize dispatch.clientId fence found expired)
  · exact .tail (.single (.reject attempt dispatch fresh)) (.note _ rfl)
  next admitted =>
    exact .single (.accept attempt dispatch fresh (GatewayState.admits_of_check admitted))

theorem mark_transitions
    (flying : s.inFlight.lookup attempt = some held) (unmarked : held.phase = .checked)
    (fresh : s.freshGeneration generation = true) :
    Transitions s (s.mark attempt held generation) := by
  unfold mark
  dsimp only
  split
  · exact .tail (.single (.release attempt held flying unmarked)) (.note _ rfl)
  · exact .single (.release attempt held flying unmarked)
  · exact .single (.mark attempt held _ flying unmarked fresh)

theorem trySend_transitions (flying : s.inFlight.lookup attempt = some held)
    (marked : held.phase = .marked marker prior) :
    Transitions s (s.trySend attempt held marker prior outcome) := by
  cases outcome with
  | delivered => exact .single (.deliver attempt held marker prior flying marked)
  | full | closed =>
    exact .tail (.single (.fail attempt held marker prior flying marked)) (.note _ rfl)

theorem answer_transitions (reads : request.protects = true → reply.ReadsMarkers s.now)
    (plain : request.protects = false → reply.ids = .skipped) :
    Transitions s (s.answer request reply) := by
  cases protecting : request.protects with
  | false =>
    rw [answer, plain protecting]
    refine .single (.note _ ?_)
    simp [Event.silent, protecting]
  | true =>
    obtain ⟨skipped, refused⟩ | asOf | fresh := reads protecting
    · rw [answer, skipped]
      refine .single (.note _ ?_)
      simp [Event.silent, FenceReply.result, refused]
    · rw [answer, asOf]
      exact .single (.collecting request reply (.inl asOf))
    · rw [answer, fresh]
      exact .single (.collecting request reply (.inr fresh))

/-- Every enabled action is a sequence of primitive transitions. -/
theorem step_transitions (stepped : s.step action = some s') : Transitions s s' := by
  cases stepped_of_step stepped with
  | tick forward => exact .single (.tick _ forward)
  | prune => exact .single .prune
  | check fresh => exact check_transitions fresh
  | mark flying unmarked fresh => exact mark_transitions flying unmarked fresh
  | trySend flying marked => exact trySend_transitions flying marked
  | rollback flying failed => exact .single (.rollback _ _ _ _ flying failed)
  | @acquire request free =>
    exact .tail (.single (.lifecycle request.clientId _ (FenceFrame.acquire _ request _) free))
      (.note _ rfl)
  | @request request free =>
    have changed : Transitions s (s.setGateway (request.run s.gateway s.now).1) :=
      .single (.lifecycle request.clientId _ (request.run_frame _ _) free)
    refine changed.trans (answer_transitions ?_ ?_)
    · exact request.run_reads
    · exact request.run_plain
  | collect found => exact .single (.collect _ _ found)
  | registerSession free => exact .single (.lifecycle _ _ (FenceFrame.register _) free)
  | refreshRoute free => exact .single (.lifecycle _ _ (FenceFrame.refreshRoute _) free)
  | closeSession | setDispatchAckSecs => exact .single (.unfenced _ rfl rfl)

/-- What every primitive transition preserves holds in every reachable state. -/
theorem reachable_invariant {inv : System → Prop} (base : ∀ s, Initial s → inv s)
    (kept : ∀ s s', inv s → Transition s s' → inv s') {s : System}
    (reach : Reachable step Initial s) : inv s := by
  refine reach.invariant base fun s action s' holds stepped => ?_
  have moves := step_transitions stepped
  clear stepped
  induction moves with
  | refl => exact holds
  | tail _ last ih => exact kept _ _ ih last

end System
end Vpsman.Gateway
