import Vpsman.Gateway.Enqueue

/-! # What failed enqueues leave behind

A rollback restores the marker that its attempt found, but only if no later attempt has
put its own marker over it. When an attempt rolls back under the marker of a later one,
nothing happens, and the later one then restores a marker whose attempt is gone. As long
as every rollback of a job finds its own marker or none, the stored marker belongs to
an attempt in flight or to a command that was sent.
-/

namespace Vpsman.Gateway

open Vpsman.Lib
open Vpsman.Lib.UndoStack (Backed)

/-- A successful send of the job. -/
def Event.isSentFor (clientId : ClientId) (jobId : Uuid) : Event → Bool
  | .sent _ client job _ _ => client = clientId && job = jobId
  | .checked _ _ _ | .marked _ _ _ _ | .refused _ _ | .acquired _ _ | .answered _ _ _ => false

namespace System

variable {s s' : System} {clientId : ClientId} {jobId : Uuid} {marker : EnqueueMarker}
  {prior : Option EnqueueMarker}

/-- Some attempt for the job is between its marker and the end of its rollback. -/
def Covered (s : System) (clientId : ClientId) (jobId : Uuid) (marker : EnqueueMarker)
    (prior : Option EnqueueMarker) : Prop :=
  ∃ attempt held, s.inFlight.lookup attempt = some held ∧ held.dispatch.clientId = clientId ∧
    held.dispatch.jobId = jobId ∧ held.Covers marker prior

/-- No command of the job has reached a session. -/
def Unsent (s : System) (clientId : ClientId) (jobId : Uuid) : Prop :=
  ∀ event ∈ s.log, event.isSentFor clientId jobId = false

variable (covered : s.Covered clientId jobId marker prior)
include covered

theorem Covered.congr
    (flights : s'.inFlight = s.inFlight) : s'.Covered clientId jobId marker prior := by
  unfold Covered
  rw [flights]
  exact covered

theorem Covered.insert (flights : s'.inFlight = s.inFlight.insert attempt held')
    (keeps : ∀ held, s.inFlight.lookup attempt = some held →
      held'.dispatch = held.dispatch ∧ (held.Covers marker prior → held'.Covers marker prior)) :
    s'.Covered clientId jobId marker prior := by
  obtain ⟨other, held, flying, client, job, covers⟩ := covered
  unfold Covered
  rw [flights]
  by_cases same : other = attempt
  · subst same
    obtain ⟨dispatch, still⟩ := keeps held flying
    exact ⟨other, held', AList.lookup_insert _, dispatch ▸ client, dispatch ▸ job, still covers⟩
  · exact ⟨other, held, (AList.lookup_insert_ne same).trans flying, client, job, covers⟩

theorem Covered.erase (flights : s'.inFlight = s.inFlight.erase attempt)
    (leaves : ∀ held, s.inFlight.lookup attempt = some held → held.dispatch.clientId = clientId →
      held.dispatch.jobId = jobId → ¬held.Covers marker prior) :
    s'.Covered clientId jobId marker prior := by
  obtain ⟨other, held, flying, client, job, covers⟩ := covered
  unfold Covered
  rw [flights]
  refine ⟨other, held, ?_, client, job, covers⟩
  rw [AList.lookup_erase_ne, flying]
  rintro rfl
  exact leaves held flying client job covers

end System

theorem Attempt.not_covers_of_checked {held : Attempt} (unmarked : held.phase = .checked) :
    ¬held.Covers marker prior := by
  rw [Attempt.Covers, unmarked]
  rintro (covers | covers) <;> cases covers

/-- The job's marker is the top of a stack of markers whose attempts are all in flight. -/
structure Pending (s : System) (clientId : ClientId) (jobId : Uuid)
    (stack : List EnqueueMarker) : Prop where
  top : s.gateway.markerOf clientId jobId = stack.head?
  nodup : stack.Nodup
  backed : Backed (s.Covered clientId jobId) stack

namespace Pending

variable {s s' : System} {clientId : ClientId} {jobId : Uuid} {stack : List EnqueueMarker}

theorem keep (pending : Pending s clientId jobId stack)
    (marker : s'.gateway.markerOf clientId jobId = s.gateway.markerOf clientId jobId)
    (covered : ∀ {marker prior}, s.Covered clientId jobId marker prior →
      s'.Covered clientId jobId marker prior) : Pending s' clientId jobId stack where
  top := marker.trans pending.top
  nodup := pending.nodup
  backed := pending.backed.mono fun _ _ _ => covered

/-- A sweep either keeps the marker or leaves none, whatever lies below it. -/
theorem sweep (pending : Pending s clientId jobId stack)
    (marker : s'.gateway.markerOf clientId jobId =
      (s.gateway.markerOf clientId jobId).filter live)
    (flights : s'.inFlight = s.inFlight) : ∃ stack', Pending s' clientId jobId stack' := by
  cases kept : (s.gateway.markerOf clientId jobId).filter live with
  | none => exact ⟨[], marker.trans kept, List.nodup_nil, trivial⟩
  | some =>
    have stays := (Option.filter_eq_some_iff.mp kept).1
    exact ⟨stack, pending.keep (marker.trans (kept.trans stays.symm)) (·.congr flights)⟩

theorem push (recorded : Recorded s)
    (pending : Pending s held.dispatch.clientId held.dispatch.jobId stack)
    (flying : s.inFlight.lookup attempt = some held) (unmarked : held.phase = .checked)
    (fresh : s.freshGeneration marker.generation = true) :
    Pending { s with
      gateway := s.gateway.setMarker held.dispatch.clientId held.dispatch.jobId marker
      inFlight := s.inFlight.insert attempt (held.withPhase (.marked marker
        (s.gateway.markerOf held.dispatch.clientId held.dispatch.jobId)))
      log := .marked attempt held.dispatch.clientId held.dispatch.jobId marker :: s.log }
      held.dispatch.clientId held.dispatch.jobId (marker :: stack) := by
  have absent : marker ∉ stack := by
    intro member
    obtain ⟨prior, other, held', found, client, job, covers⟩ := pending.backed.holds_of_mem member
    have marked := recorded.inFlight_marked found covers
    exact System.freshGeneration_iff.mp fresh _ _ _ _ marked rfl
  constructor
  case top =>
    rw [GatewayState.markerOf_setMarker, if_pos ⟨rfl, rfl⟩, List.head?_cons]
  case nodup => exact List.nodup_cons.mpr ⟨absent, pending.nodup⟩
  case backed =>
    refine ⟨⟨attempt, _, AList.lookup_insert _, rfl, rfl, .inl ?_⟩, ?_⟩
    · exact congrArg (AttemptPhase.marked marker) pending.top
    · refine pending.backed.mono fun _ _ _ covered => covered.insert rfl ?_
      intro held' found
      cases flying.symm.trans found
      exact ⟨rfl, fun covers => absurd covers (Attempt.not_covers_of_checked unmarked)⟩

/-- A rollback that finds its own marker uncovers the one below; one that finds no marker
    has nothing to restore. -/
theorem rollback (recorded : Recorded s)
    (pending : Pending s held.dispatch.clientId held.dispatch.jobId stack)
    (flying : s.inFlight.lookup attempt = some held) (failed : held.phase = .failed marker prior)
    (inOrder : s.gateway.markerOf held.dispatch.clientId held.dispatch.jobId = none ∨
      s.gateway.markerOf held.dispatch.clientId held.dispatch.jobId = some marker) :
    ∃ stack', Pending ((s.release attempt).setGateway (s.gateway.rollbackFailedCommandEnqueue
        held.dispatch.clientId held.dispatch.jobId marker prior))
      held.dispatch.clientId held.dispatch.jobId stack' := by
  rcases inOrder with gone | own
  · refine ⟨[], ?_, List.nodup_nil, trivial⟩
    rw [System.setGateway, GatewayState.markerOf_rollback, if_neg, gone]
    · rfl
    · rintro ⟨_, _, own⟩
      rw [gone] at own
      cases own
  · obtain ⟨below, rfl⟩ : ∃ below, stack = marker :: below :=
      List.head?_eq_some_iff.mp (pending.top.symm.trans own)
    obtain ⟨⟨other, held', found, client, job, covers⟩, backed⟩ := pending.backed
    -- the marker was inserted by this attempt, so it remembers what lies below
    have unique := recorded.marked_unique (recorded.inFlight_marked found covers)
      (recorded.inFlight_marked flying (.inr failed)) rfl
    subst unique
    cases flying.symm.trans found
    obtain rfl : prior = below.head? := by
      rcases covers with marked | again
      · cases failed.symm.trans marked
      · cases failed.symm.trans again
        rfl
    obtain ⟨absent, nodup⟩ := List.nodup_cons.mp pending.nodup
    refine ⟨below, ?_, nodup, ?_⟩
    · rw [System.setGateway, GatewayState.markerOf_rollback, if_pos ⟨rfl, rfl, own⟩]
    refine backed.mono fun value member _ covered => covered.erase rfl ?_
    intro held' found _ _ covers
    cases flying.symm.trans found
    rcases covers with covers | covers
    · cases failed.symm.trans covers
    · cases failed.symm.trans covers
      exact absent member

end Pending

/-- The stored marker is the failed attempt's own, or none because it has expired. -/
def Attempt.findsOwnMarker (held : Attempt) (stored : Option EnqueueMarker) : Bool :=
  match held.phase with
  | .failed marker _ => stored.all fun found => found = marker
  | .checked | .marked _ _ => true

/-- No rollback of the job happens under the marker of a later attempt. -/
def Action.inOrder (clientId : ClientId) (jobId : Uuid) (s : System) : Action → Bool
  | .rollback attempt => (s.inFlight.lookup attempt).all fun held =>
    !(held.dispatch.clientId = clientId && held.dispatch.jobId = jobId) ||
      held.findsOwnMarker (s.gateway.markerOf clientId jobId)
  | .tick _ | .prune | .check _ _ | .mark _ _ | .trySend _ _ | .acquire _ | .request _
  | .collect _ | .registerSession _ _ _ | .refreshRoute _ _ _ | .closeSession _
  | .setDispatchAckSecs _ => true

variable {clientId : ClientId}

theorem Action.inOrder_rollback
    (ordered : (Action.rollback attempt).inOrder clientId jobId s = true)
    (flying : s.inFlight.lookup attempt = some held) (failed : held.phase = .failed marker prior)
    (client : held.dispatch.clientId = clientId) (job : held.dispatch.jobId = jobId) :
    s.gateway.markerOf clientId jobId = none ∨ s.gateway.markerOf clientId jobId = some marker := by
  simp only [Action.inOrder, flying, Option.all_some, client, job, decide_true, Bool.and_self,
    Bool.not_true, Bool.false_or, Attempt.findsOwnMarker, failed] at ordered
  cases stored : s.gateway.markerOf clientId jobId with
  | none => exact .inl rfl
  | some =>
    rw [stored, Option.all_some, decide_eq_true_eq] at ordered
    exact .inr (congrArg some ordered)

namespace Pending

variable {s s' : System} {clientId : ClientId} {jobId : Uuid} {stack : List EnqueueMarker}

theorem check (recorded : Recorded s) (pending : Pending s clientId jobId stack)
    (fresh : s.freshAttempt attempt = true) :
    Pending (s.check attempt dispatch) clientId jobId stack := by
  unfold System.check
  split
  · refine pending.keep (GatewayState.markerOf_of_lookup ?_) (·.congr rfl)
    exact (FenceFrame.normalize s.gateway s.now).enqueues
  · exact pending.keep rfl (·.congr rfl)
  · refine pending.keep rfl fun covered => covered.insert rfl ?_
    intro held flying
    exact absurd (recorded.inFlight_checked flying) (System.freshAttempt_iff.mp fresh _ _)

theorem mark (recorded : Recorded s) (pending : Pending s clientId jobId stack)
    (flying : s.inFlight.lookup attempt = some held)
    (unmarked : held.phase = .checked) (fresh : s.freshGeneration generation = true) :
    ∃ stack', Pending (s.mark attempt held generation) clientId jobId stack' := by
  have idle : ∀ held', s.inFlight.lookup attempt = some held' → ∀ {marker prior},
      ¬held'.Covers marker prior := by
    intro held' found _ _
    cases flying.symm.trans found
    exact Attempt.not_covers_of_checked unmarked
  have released : Pending (s.release attempt) clientId jobId stack :=
    pending.keep rfl fun covered => covered.erase rfl fun held' found _ _ => idle held' found
  unfold System.mark
  dsimp only
  split
  · exact ⟨stack, released.keep rfl (·.congr rfl)⟩
  · exact ⟨stack, released⟩
  by_cases own : clientId = held.dispatch.clientId ∧ jobId = held.dispatch.jobId
  · obtain ⟨rfl, rfl⟩ := own
    exact ⟨_, pending.push recorded flying unmarked fresh⟩
  refine ⟨stack, pending.keep ?_ fun covered => covered.insert rfl ?_⟩
  · rw [GatewayState.markerOf_setMarker, if_neg own]
  · intro held' found
    refine ⟨?_, fun covers => absurd covers (idle held' found)⟩
    cases flying.symm.trans found
    rfl

theorem trySend (pending : Pending s clientId jobId stack)
    (flying : s.inFlight.lookup attempt = some held) (marked : held.phase = .marked marker prior)
    (unsent : (s.trySend attempt held marker prior outcome).Unsent clientId jobId) :
    Pending (s.trySend attempt held marker prior outcome) clientId jobId stack := by
  have failed : ∀ {marker' prior'}, s.Covered clientId jobId marker' prior' →
      System.Covered { s with
        inFlight := s.inFlight.insert attempt (held.withPhase (.failed marker prior)) }
        clientId jobId marker' prior' := by
    intro marker' prior' covered
    refine covered.insert rfl fun held' found => ?_
    cases flying.symm.trans found
    refine ⟨rfl, fun covers => ?_⟩
    rcases covers with covers | covers
    · cases marked.symm.trans covers
      exact .inr rfl
    · cases marked.symm.trans covers
  cases outcome with
  | delivered =>
    refine pending.keep rfl fun covered => covered.erase rfl ?_
    intro held' found client job
    cases flying.symm.trans found
    have silent := unsent _ List.mem_cons_self
    simp only [Event.isSentFor, client, job, decide_true, Bool.and_self, Bool.true_eq_false]
      at silent
  | full | closed => exact pending.keep rfl failed

theorem regate (pending : Pending s clientId jobId stack)
    (enqueues : gateway.commandEnqueues = s.gateway.commandEnqueues) :
    Pending (s.setGateway gateway) clientId jobId stack :=
  pending.keep (GatewayState.markerOf_of_lookup enqueues) (·.congr rfl)

theorem step (recorded : Recorded s) (pending : Pending s clientId jobId stack)
    (ordered : action.inOrder clientId jobId s = true) (stepped : s.step action = some s')
    (unsent : s'.Unsent clientId jobId) : ∃ stack', Pending s' clientId jobId stack' := by
  cases System.stepped_of_step stepped with
  | tick => exact ⟨stack, pending.keep rfl (·.congr rfl)⟩
  | prune => exact pending.sweep (GatewayState.markerOf_prune _) rfl
  | check fresh => exact ⟨stack, pending.check recorded fresh⟩
  | mark flying unmarked fresh => exact pending.mark recorded flying unmarked fresh
  | trySend flying marked => exact ⟨stack, pending.trySend flying marked unsent⟩
  | @rollback attempt held marker prior flying failed =>
    by_cases own : clientId = held.dispatch.clientId ∧ jobId = held.dispatch.jobId
    · obtain ⟨rfl, rfl⟩ := own
      exact pending.rollback recorded flying failed
        (Action.inOrder_rollback ordered flying failed rfl rfl)
    · refine ⟨stack, pending.keep ?_ fun covered => covered.erase rfl ?_⟩
      · rw [System.setGateway, GatewayState.markerOf_rollback, if_neg]
        exact fun all => own ⟨all.1, all.2.1⟩
      · intro held' found client job
        cases flying.symm.trans found
        exact absurd ⟨client.symm, job.symm⟩ own
  | @acquire request =>
    exact ⟨stack, (pending.regate (FenceFrame.acquire s.gateway request s.now).enqueues).keep
      rfl (·.congr rfl)⟩
  | @request request =>
    have regated := pending.regate (request.run_frame s.gateway s.now).enqueues
    unfold System.answer
    split <;> exact ⟨stack, regated.keep rfl (·.congr rfl)⟩
  | @collect client pending' found =>
    have swept := GatewayState.markerOf_protectedEnqueuedJobIds s.gateway client clientId
      (pending'.reply.ids.reading s.now) jobId
    split at swept
    · exact pending.sweep swept rfl
    · exact ⟨stack, pending.keep swept (·.congr rfl)⟩
  | registerSession => exact ⟨stack, pending.regate (FenceFrame.register _).enqueues⟩
  | refreshRoute => exact ⟨stack, pending.regate (FenceFrame.refreshRoute _).enqueues⟩
  | closeSession | setDispatchAckSecs => exact ⟨stack, pending.regate rfl⟩

end Pending

theorem Transition.log_subset (moves : Transition s s') : s.log ⊆ s'.log := by
  cases moves with
  | tick | prune | normalize | lifecycle | unfenced | release | fail | rollback | collecting =>
    exact List.Subset.refl _
  | note | reject | accept | mark | deliver | collect => exact List.subset_cons_self _ _

theorem System.step_log_subset {s s' : System}
    (stepped : s.step action = some s') : s.log ⊆ s'.log := by
  have moves := step_transitions stepped
  clear stepped
  induction moves with
  | refl => exact List.Subset.refl _
  | tail _ last ih => exact fun _ member => last.log_subset (ih member)

/-- The invariant of every run whose rollbacks of the job are in order. -/
structure Precise (clientId : ClientId) (jobId : Uuid) (s : System) : Prop where
  reach : Reachable System.step System.Initial s
  pending : s.Unsent clientId jobId → ∃ stack, Pending s clientId jobId stack

theorem Precise.initial (start : System.Initial s) : Precise clientId jobId s := by
  refine ⟨.initial start, fun _ => ⟨[], ?_, List.nodup_nil, trivial⟩⟩
  obtain ⟨_, _, enqueues, _⟩ := start
  rw [GatewayState.markerOf, enqueues, AList.lookup_empty, Option.bind_none, List.head?_nil]

theorem Precise.step
    (precise : Precise clientId jobId s) (ordered : action.inOrder clientId jobId s = true)
    (stepped : s.step action = some s') : Precise clientId jobId s' := by
  constructor
  case reach =>
    have runs : run System.step s [action] = some s' := by
      rw [run_cons, stepped, Option.bind_some, run_nil]
    exact precise.reach.extend runs
  case pending =>
    intro unsent
    have grown := System.step_log_subset stepped
    obtain ⟨stack, pending⟩ := precise.pending fun event member => unsent event (grown member)
    exact pending.step (System.reachable_guarded precise.reach).1 ordered stepped unsent

/-- In every run in which no rollback of a job happens under the marker of a later attempt:
    when no attempt for the job is between its marker and the end of its rollback, and none
    was ever sent, then an answer to an accepted prepare or promote does not list the job. -/
theorem failed_enqueues_leave_no_marker {s s' : System} {clientId : ClientId} {jobId : Uuid}
    (reach : Reachable (restrict System.step fun s action => action.inOrder clientId jobId s = true)
      System.Initial s) (idle : ∀ marker prior, ¬s.Covered clientId jobId marker prior)
    (unsent : s.Unsent clientId jobId) (collected : s.step (.collect clientId) = some s') :
    ∃ request now result, s'.log = .answered request now result :: s.log ∧
      jobId ∉ result.enqueuedJobIds := by
  have precise : Precise clientId jobId s := by
    refine reach.invariant (fun _ start => .initial start) ?_
    intro s action s' precise stepped
    obtain ⟨ordered, stepped⟩ := restrict_eq_some.mp stepped
    exact precise.step ordered stepped
  obtain ⟨stack, pending⟩ := precise.pending unsent
  have unmarked : s.gateway.markerOf clientId jobId = none := by
    rw [pending.top]
    cases shape : stack with
    | nil => rfl
    | cons marker =>
      have backed := pending.backed
      rw [shape] at backed
      exact absurd backed.1 (idle marker _)
  cases System.stepped_of_step collected
  refine ⟨_, _, _, rfl, ?_⟩
  rw [FenceReply.result, GatewayState.mem_protectedEnqueuedJobIds]
  rintro ⟨marker, stored, _⟩
  rw [unmarked] at stored
  cases stored

/-- Two dispatches of job 7 fail and roll back, the later one first; then a suspension is
    prepared. -/
def failuresInOrder : List Action :=
  [.registerSession "edge" ⟨4, 5⟩ none, .check 0 sampleDispatch, .check 1 sampleDispatch,
    .mark 0 100, .mark 1 101, .trySend 0 .full, .trySend 1 .full, .rollback 1, .rollback 0,
    .acquire ⟨"edge", 9, .suspension, false⟩, .request (.prepare samplePrepare)]

/-- The same, with the earlier dispatch rolling back first. -/
def failuresOutOfOrder : List Action :=
  [.registerSession "edge" ⟨4, 5⟩ none, .check 0 sampleDispatch, .check 1 sampleDispatch,
    .mark 0 100, .mark 1 101, .trySend 0 .full, .trySend 1 .full, .rollback 0, .rollback 1,
    .acquire ⟨"edge", 9, .suspension, false⟩, .request (.prepare samplePrepare)]

def failedInOrder : System :=
  (run (restrict System.step fun s action => action.inOrder "edge" 7 s = true) (System.started 1)
    failuresInOrder).getD (System.started 1)

theorem failures_in_order_unlisted :
    ∃ s', failedInOrder.step (.collect "edge") = some s' ∧
      ∃ request now result, s'.log = .answered request now result :: failedInOrder.log ∧
        7 ∉ result.enqueuedJobIds := by
  have reach : Reachable
      (restrict System.step fun s action => action.inOrder "edge" 7 s = true) System.Initial
      failedInOrder := ⟨System.started 1, failuresInOrder, System.started_initial, rfl⟩
  have idle : ∀ marker prior, ¬failedInOrder.Covered "edge" 7 marker prior := by
    rintro marker prior ⟨attempt, held, flying, _⟩
    cases flying
  have unsent : failedInOrder.Unsent "edge" 7 := by
    unfold System.Unsent
    decide
  exact ⟨_, rfl, failed_enqueues_leave_no_marker reach idle unsent rfl⟩

def failedOutOfOrder : System :=
  (run System.step (System.started 1) failuresOutOfOrder).getD (System.started 1)

/-- The rollback of attempt 0 finds the marker of attempt 1 and does nothing; attempt 1
    then restores the marker of attempt 0. -/
theorem failed_enqueue_listed :
    run System.step (System.started 1) failuresOutOfOrder = some failedOutOfOrder ∧
      failedOutOfOrder.inFlight = ∅ ∧ failedOutOfOrder.Unsent "edge" 7 ∧
      ∃ s', failedOutOfOrder.step (.collect "edge") = some s' ∧
        s'.log = .answered (.prepare samplePrepare) 0
          ⟨"edge", true, true, false, "dispatch_fence_prepared", [7]⟩ :: failedOutOfOrder.log := by
  refine ⟨rfl, rfl, ?_, _, rfl, ?_⟩
  · unfold System.Unsent
    decide
  · decide

end Vpsman.Gateway
