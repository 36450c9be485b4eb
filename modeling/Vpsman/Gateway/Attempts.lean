import Vpsman.Gateway.Transition

/-! # Attempts in flight

Two facts about every reachable state. The log knows every attempt and every marker,
and neither is used twice. And a fence cannot change between a dispatch's check and
its send: whoever would change it needs the guard that the attempt shares.
-/

namespace Vpsman.Gateway

open Vpsman.Lib

/-- The attempt has put `marker` over `prior` and may still take it back. -/
def Attempt.Covers (held : Attempt) (marker : EnqueueMarker) (prior : Option EnqueueMarker) : Prop :=
  held.phase = .marked marker prior ∨ held.phase = .failed marker prior

/-- The log knows every attempt and marker, and none is used twice. -/
structure Recorded (s : System) : Prop where
  inFlight_checked : ∀ {attempt held}, s.inFlight.lookup attempt = some held →
    Event.checked attempt held.dispatch held.observed ∈ s.log
  inFlight_marked : ∀ {attempt held marker prior}, s.inFlight.lookup attempt = some held →
    held.Covers marker prior →
    Event.marked attempt held.dispatch.clientId held.dispatch.jobId marker ∈ s.log
  marked_checked : ∀ {attempt clientId jobId marker},
    Event.marked attempt clientId jobId marker ∈ s.log →
    ∃ dispatch observed, Event.checked attempt dispatch observed ∈ s.log
  marked_unique : ∀ {attempt attempt' clientId clientId' jobId jobId' marker marker'},
    Event.marked attempt clientId jobId marker ∈ s.log →
    Event.marked attempt' clientId' jobId' marker' ∈ s.log →
    marker.generation = marker'.generation → attempt = attempt'
  sent_marked : ∀ {attempt clientId jobId marker installed},
    Event.sent attempt clientId jobId marker installed ∈ s.log →
    Event.marked attempt clientId jobId marker ∈ s.log ∧ s.inFlight.lookup attempt = none
  checked_unique : ∀ {attempt dispatch dispatch' observed observed'},
    Event.checked attempt dispatch observed ∈ s.log →
    Event.checked attempt dispatch' observed' ∈ s.log → dispatch = dispatch' ∧ observed = observed'

namespace Recorded

variable {s s' : System}

/-- What the log says of an attempt in flight. -/
structure Known (log : List Event) (attempt : Nat) (held : Attempt) : Prop where
  checked : Event.checked attempt held.dispatch held.observed ∈ log
  marked : ∀ {marker prior}, held.Covers marker prior →
    Event.marked attempt held.dispatch.clientId held.dispatch.jobId marker ∈ log
  unsent : ∀ {clientId jobId marker installed},
    Event.sent attempt clientId jobId marker installed ∉ log

theorem known (holds : Recorded s) (flying : s.inFlight.lookup attempt = some held) :
    Known s.log attempt held := by
  refine ⟨holds.inFlight_checked flying, holds.inFlight_marked flying, fun sent => ?_⟩
  cases (holds.sent_marked sent).2.symm.trans flying

theorem refly (holds : Recorded s) (log : s'.log = s.log)
    (flights : ∀ {attempt held}, s'.inFlight.lookup attempt = some held →
      Known s.log attempt held) : Recorded s' where
  inFlight_checked flying := log ▸ (flights flying).checked
  inFlight_marked flying covers := log ▸ (flights flying).marked covers
  marked_checked := log ▸ holds.marked_checked
  marked_unique := log ▸ holds.marked_unique
  sent_marked := by
    rw [log]
    intro attempt clientId jobId marker installed sent
    refine ⟨(holds.sent_marked sent).1, ?_⟩
    cases flying : s'.inFlight.lookup attempt with
    | none => rfl
    | some => exact absurd sent (flights flying).unsent
  checked_unique := log ▸ holds.checked_unique

theorem congr (holds : Recorded s) (flights : s'.inFlight = s.inFlight) (log : s'.log = s.log) :
    Recorded s' :=
  holds.refly log fun flying => holds.known (flights ▸ flying)

/-- The event may come next: what it rests on is in the log, and what it uses is new there. -/
def Follows (s : System) : Event → Prop
  | .checked attempt _ _ => ∀ dispatch observed, Event.checked attempt dispatch observed ∉ s.log
  | .marked attempt _ _ marker =>
    (∃ dispatch observed, Event.checked attempt dispatch observed ∈ s.log) ∧
      ∀ other clientId jobId marker', Event.marked other clientId jobId marker' ∈ s.log →
        marker'.generation ≠ marker.generation
  | .sent attempt clientId jobId marker _ =>
    Event.marked attempt clientId jobId marker ∈ s.log ∧ s.inFlight.lookup attempt = none
  | .refused _ _ | .acquired _ _ | .answered _ _ _ => True

theorem record (holds : Recorded s) {event : Event} (follows : Follows s event) :
    Recorded (s.record event) where
  inFlight_checked flying := List.mem_cons_of_mem _ (holds.inFlight_checked flying)
  inFlight_marked flying covers := List.mem_cons_of_mem _ (holds.inFlight_marked flying covers)
  marked_checked := by
    intro attempt _ _ _ marked
    have checked : ∃ dispatch observed, Event.checked attempt dispatch observed ∈ s.log := by
      rcases List.mem_cons.mp marked with rfl | marked
      · exact follows.1
      · exact holds.marked_checked marked
    obtain ⟨dispatch, observed, checked⟩ := checked
    exact ⟨dispatch, observed, List.mem_cons_of_mem _ checked⟩
  marked_unique := by
    intro _ _ _ _ _ _ _ _ first second same
    rcases List.mem_cons.mp first with rfl | older
    · rcases List.mem_cons.mp second with second | second
      · cases second
        rfl
      · exact absurd same.symm (follows.2 _ _ _ _ second)
    · rcases List.mem_cons.mp second with rfl | second
      · exact absurd same (follows.2 _ _ _ _ older)
      · exact holds.marked_unique older second same
  sent_marked := by
    intro _ _ _ _ _ sent
    rcases List.mem_cons.mp sent with rfl | sent
    · exact ⟨List.mem_cons_of_mem _ follows.1, follows.2⟩
    · exact ⟨List.mem_cons_of_mem _ (holds.sent_marked sent).1, (holds.sent_marked sent).2⟩
  checked_unique := by
    intro _ _ _ _ _ first second
    rcases List.mem_cons.mp first with rfl | older
    · rcases List.mem_cons.mp second with second | second
      · cases second
        exact ⟨rfl, rfl⟩
      · exact absurd second (follows _ _)
    · rcases List.mem_cons.mp second with rfl | second
      · exact absurd older (follows _ _)
      · exact holds.checked_unique older second

theorem note (holds : Recorded s) (foreign : event.ofAttempt = false) :
    Recorded (s.record event) := by
  apply holds.record
  cases event with
  | checked | marked | sent => cases foreign
  | refused | acquired | answered => trivial

variable {attempt : Nat}

theorem check (holds : Recorded s) (fresh : s.freshAttempt attempt = true) :
    Recorded (s.record (.checked attempt dispatch observed)) :=
  holds.record (System.freshAttempt_iff.mp fresh)

theorem fly (holds : Recorded s) (known : Known s.log attempt held) :
    Recorded { s with gateway := gateway, inFlight := s.inFlight.insert attempt held } := by
  refine holds.refly rfl fun flying => ?_
  rcases HashMap.lookup_insert_cases flying with ⟨rfl, rfl⟩ | flying
  · exact known
  · exact holds.known flying

theorem mark (holds : Recorded s) (flying : s.inFlight.lookup attempt = some held)
    (fresh : s.freshGeneration marker.generation = true) :
    Recorded { s with
      gateway := gateway
      inFlight := s.inFlight.insert attempt (held.withPhase (.marked marker prior))
      log := .marked attempt held.dispatch.clientId held.dispatch.jobId marker :: s.log } := by
  have logged := @record s holds (.marked attempt held.dispatch.clientId held.dispatch.jobId marker)
    ⟨⟨_, _, holds.inFlight_checked flying⟩, System.freshGeneration_iff.mp fresh⟩
  obtain ⟨checked, -, unsent⟩ := logged.known flying
  refine logged.fly ⟨checked, fun covers => ?_, unsent⟩
  rcases covers with covers | covers <;> cases covers
  exact List.mem_cons_self

theorem land (holds : Recorded s) : Recorded (s.release attempt) :=
  holds.refly rfl fun flying => holds.known (HashMap.lookup_of_erase flying).2

theorem deliver (holds : Recorded s)
    (flying : s.inFlight.lookup attempt = some held) (marked : held.phase = .marked marker prior) :
    Recorded ((s.release attempt).record
      (.sent attempt held.dispatch.clientId held.dispatch.jobId marker installed)) :=
  holds.land.record
    ⟨holds.inFlight_marked flying (.inl marked), AList.lookup_erase _ _⟩

theorem initial (start : System.Initial s) : Recorded s := by
  obtain ⟨_, _, _, flights, _, log⟩ := start
  constructor <;> simp [flights, log]

theorem transition (holds : Recorded s) (moves : Transition s s') : Recorded s' := by
  cases moves with
  | tick | prune | normalize | lifecycle | unfenced | collecting => exact holds.congr rfl rfl
  | note _ silent => exact holds.note (Event.ofAttempt_of_silent silent)
  | reject _ _ fresh => exact holds.check fresh
  | accept _ _ fresh =>
    refine (holds.check fresh).fly ⟨List.mem_cons_self, fun covers => ?_, fun sent => ?_⟩
    · rcases covers with covers | covers <;> cases covers
    · obtain ⟨marked, _⟩ := holds.sent_marked (List.mem_of_ne_of_mem Event.noConfusion sent)
      obtain ⟨_, _, checked⟩ := holds.marked_checked marked
      exact System.freshAttempt_iff.mp fresh _ _ checked
  | release => exact holds.land
  | mark _ _ _ flying _ fresh => exact holds.mark flying fresh
  | deliver _ _ _ _ flying marked => exact holds.deliver flying marked
  | fail _ _ _ _ flying marked =>
    obtain ⟨checked, logged, unsent⟩ := holds.known flying
    refine holds.fly ⟨checked, fun covers => ?_, unsent⟩
    rcases covers with covers | covers <;> cases covers
    exact logged (.inl marked)
  | rollback =>
    exact holds.land.congr rfl rfl
  | collect => exact congr (holds.note (by rfl)) rfl rfl

end Recorded

/-- An attempt in flight was admitted by the fence that is still installed. -/
structure Guarded (s : System) : Prop where
  inFlight_fence : ∀ {attempt held}, s.inFlight.lookup attempt = some held →
    s.gateway.fenceOf held.dispatch.clientId = held.observed ∧ Admits held.observed held.dispatch
  sent_admitted : ∀ {attempt clientId jobId marker installed},
    Event.sent attempt clientId jobId marker installed ∈ s.log →
    ∃ dispatch, dispatch.clientId = clientId ∧ dispatch.jobId = jobId ∧
      Event.checked attempt dispatch installed ∈ s.log ∧ Admits installed dispatch

namespace Guarded

variable {s s' : System}

theorem frame (holds : Guarded s) (log : s'.log = s.log)
    (flights : ∀ {attempt held'}, s'.inFlight.lookup attempt = some held' →
      ∃ held, s.inFlight.lookup attempt = some held ∧ held'.dispatch = held.dispatch ∧
        held'.observed = held.observed ∧
        s'.gateway.fenceOf held.dispatch.clientId = s.gateway.fenceOf held.dispatch.clientId) :
    Guarded s' where
  inFlight_fence := by
    intro attempt held' flying
    obtain ⟨held, flying, dispatch, observed, fence⟩ := flights flying
    rw [dispatch, observed, fence]
    exact holds.inFlight_fence flying
  sent_admitted := by
    rw [log]
    exact holds.sent_admitted

theorem note (holds : Guarded s) (event : Event)
    (unsent : ∀ attempt clientId jobId marker installed,
      event ≠ .sent attempt clientId jobId marker installed) : Guarded (s.record event) where
  inFlight_fence := holds.inFlight_fence
  sent_admitted := by
    intro attempt clientId jobId marker installed sent
    rcases List.mem_cons.mp sent with same | sent
    · exact absurd same.symm (unsent _ _ _ _ _)
    · obtain ⟨dispatch, client, job, checked, admits⟩ := holds.sent_admitted sent
      exact ⟨dispatch, client, job, List.mem_cons_of_mem _ checked, admits⟩

theorem land (holds : Guarded s) : Guarded (s.release attempt) :=
  holds.frame rfl fun flying => ⟨_, (HashMap.lookup_of_erase flying).2, rfl, rfl, rfl⟩

theorem advance (holds : Guarded s) (phase : AttemptPhase)
    (flying : s.inFlight.lookup attempt = some held) :
    Guarded { s with inFlight := s.inFlight.insert attempt (held.withPhase phase) } := by
  refine holds.frame rfl fun found => ?_
  rcases HashMap.lookup_insert_cases found with ⟨rfl, rfl⟩ | found
  · exact ⟨held, flying, rfl, rfl, rfl⟩
  · exact ⟨_, found, rfl, rfl, rfl⟩

/-- A fence that has admitted an attempt holds no lease, so none can run out. -/
theorem not_expired (holds : Guarded s) (flying : s.inFlight.lookup attempt = some held)
    (found : s.gateway.fenceOf held.dispatch.clientId = some fence) :
    fence.leaseExpiredAt s.now = false := by
  obtain ⟨same, admits⟩ := holds.inFlight_fence flying
  rw [same] at found
  have recheck := (admits fence found).1
  unfold DispatchFence.requiresDurableRecheck at recheck
  unfold DispatchFence.leaseExpiredAt
  split at recheck
  next fallback state =>
    rw [state]
  · cases recheck
  · cases recheck

theorem initial (start : System.Initial s) : Guarded s := by
  obtain ⟨_, _, _, flights, _, log⟩ := start
  constructor <;> simp [flights, log]

theorem transition (recorded : Recorded s) (holds : Guarded s) (moves : Transition s s') :
    Guarded s' := by
  cases moves with
  | tick | prune | collecting =>
    exact holds.frame rfl fun flying => ⟨_, flying, rfl, rfl, rfl⟩
  | normalize _ _ found expired =>
    refine holds.frame rfl fun {attempt held} flying => ⟨held, flying, rfl, rfl, ?_⟩
    apply (FenceFrame.normalize s.gateway s.now).others
    rintro rfl
    rw [holds.not_expired flying found] at expired
    cases expired
  | lifecycle _ _ frame free =>
    refine holds.frame rfl fun {attempt held} flying => ⟨held, flying, rfl, rfl, ?_⟩
    exact frame.others _ (System.readLocked_eq_false free flying)
  | unfenced _ _ fences =>
    refine holds.frame rfl fun {attempt held} flying => ⟨held, flying, rfl, rfl, ?_⟩
    simp [System.setGateway, GatewayState.fenceOf, fences]
  | note event silent =>
    refine holds.note event ?_
    rintro _ _ _ _ _ rfl
    cases silent
  | reject =>
    exact holds.note _ fun _ _ _ _ _ same => Event.noConfusion same
  | accept attempt dispatch _ admits =>
    have noted : Guarded (s.record
        (.checked attempt dispatch (s.gateway.fenceOf dispatch.clientId))) :=
      holds.note _ fun _ _ _ _ _ same => Event.noConfusion same
    refine ⟨?_, noted.sent_admitted⟩
    intro other held' found
    rcases HashMap.lookup_insert_cases found with ⟨rfl, rfl⟩ | found
    · exact ⟨rfl, admits⟩
    · exact holds.inFlight_fence found
  | release => exact holds.land
  | mark attempt held marker flying =>
    let prior := s.gateway.markerOf held.dispatch.clientId held.dispatch.jobId
    have noted := (holds.advance (.marked marker prior) flying).note
      (.marked attempt held.dispatch.clientId held.dispatch.jobId marker)
      fun _ _ _ _ _ same => Event.noConfusion same
    exact noted.frame rfl fun flying => ⟨_, flying, rfl, rfl, rfl⟩
  | deliver _ held _ _ flying =>
    obtain ⟨same, admits⟩ := holds.inFlight_fence flying
    refine ⟨holds.land.inFlight_fence, ?_⟩
    intro other clientId jobId marker' installed sent
    rcases List.mem_cons.mp sent with sent | sent
    · cases sent
      rw [same]
      exact ⟨held.dispatch, rfl, rfl,
        List.mem_cons_of_mem _ (recorded.inFlight_checked flying), admits⟩
    · obtain ⟨dispatch, client, job, checked, admits⟩ := holds.sent_admitted sent
      exact ⟨dispatch, client, job, List.mem_cons_of_mem _ checked, admits⟩
  | fail _ _ _ _ flying => exact holds.advance _ flying
  | rollback _ _ _ _ flying =>
    refine holds.land.frame rfl fun flying => ⟨_, flying, rfl, rfl, ?_⟩
    rw [GatewayState.rollback_frame]
    rfl
  | collect =>
    refine frame (holds.note _ ?_) rfl fun flying => ⟨_, flying, rfl, rfl, ?_⟩
    · exact fun _ _ _ _ _ same => Event.noConfusion same
    · dsimp only [System.collect]
      rw [GatewayState.protectedEnqueuedJobIds_frame]
      rfl

end Guarded

theorem System.reachable_guarded (reach : Reachable System.step System.Initial s) :
    Recorded s ∧ Guarded s := by
  refine @System.reachable_invariant (fun s => Recorded s ∧ Guarded s) ?_ ?_ s reach
  · exact fun _ start => ⟨Recorded.initial start, Guarded.initial start⟩
  · rintro s s' ⟨recorded, guarded⟩ moves
    exact ⟨recorded.transition moves, Guarded.transition recorded guarded moves⟩

end Vpsman.Gateway
