import Vpsman.Lib.UndoStack
import Vpsman.Gateway.Attempts

/-! # No command slips past a fence

The marker of a job is the top of an undo stack: a failed attempt takes its marker
off only while it is on top. As long as no marker of the job has expired, the marker
of every successful send stays somewhere in the stack, so the stack is not empty and
the job is listed by every accepted prepare or promote.
-/

namespace Vpsman.Gateway

open Vpsman.Lib
open Vpsman.Lib.UndoStack (Under retract)

/-- No marker that was ever inserted for the job has expired. -/
def Live (s : System) (clientId : ClientId) (jobId : Uuid) : Prop :=
  ∀ attempt marker, Event.marked attempt clientId jobId marker ∈ s.log → s.now < marker.expiresAt

/-- The job's marker is the top of a stack that its attempts push to and retract from. -/
structure Tracks (s : System) (clientId : ClientId) (jobId : Uuid) (stack : List EnqueueMarker) :
    Prop where
  top : s.gateway.markerOf clientId jobId = stack.head?
  logged : ∀ marker ∈ stack, ∃ attempt, Event.marked attempt clientId jobId marker ∈ s.log
  under : ∀ {attempt held marker prior}, s.inFlight.lookup attempt = some held →
    held.dispatch.clientId = clientId → held.dispatch.jobId = jobId →
    held.Covers marker prior → Under stack marker prior
  pending : ∀ {attempt held marker prior}, s.inFlight.lookup attempt = some held →
    held.dispatch.clientId = clientId → held.dispatch.jobId = jobId →
    held.phase = .marked marker prior → marker ∈ stack
  sent : ∀ {attempt marker installed},
    Event.sent attempt clientId jobId marker installed ∈ s.log → marker ∈ stack

namespace Tracks

variable {s s' : System} {clientId : ClientId} {jobId : Uuid} {stack : List EnqueueMarker}

variable (tracks : Tracks s clientId jobId stack)
include tracks

/-- A live marker outlasts every sweep that uses a clock reading up to now. -/
theorem filter_top (live : Live s clientId jobId) (past : asOf ≤ s.now) :
    (s.gateway.markerOf clientId jobId).filter (fun marker => decide (asOf < marker.expiresAt)) =
      s.gateway.markerOf clientId jobId := by
  rw [tracks.top]
  cases shape : stack with
  | nil => rfl
  | cons marker =>
    obtain ⟨attempt, marked⟩ := tracks.logged marker (shape ▸ List.mem_cons_self)
    have unexpired := live attempt marker marked
    rw [List.head?_cons, Option.filter_some, if_pos]
    exact decide_eq_true (lt_of_le_of_lt past unexpired)

/-- What the stack owes to an attempt for the job. -/
structure Fits (stack : List EnqueueMarker) (held : Attempt) : Prop where
  under : ∀ {marker prior}, held.Covers marker prior → Under stack marker prior
  pending : ∀ {marker prior}, held.phase = .marked marker prior → marker ∈ stack

/-- The log, the job's marker and what the stack owes to the attempts in flight are all that
    is tracked. -/
theorem refly (log : s'.log = s.log)
    (marker : s'.gateway.markerOf clientId jobId = s.gateway.markerOf clientId jobId)
    (flights : ∀ {attempt held}, s'.inFlight.lookup attempt = some held →
      s.inFlight.lookup attempt = some held ∨ (held.dispatch.clientId = clientId →
        held.dispatch.jobId = jobId → Fits stack held)) : Tracks s' clientId jobId stack := by
  have fits : ∀ {attempt held}, s'.inFlight.lookup attempt = some held →
      held.dispatch.clientId = clientId → held.dispatch.jobId = jobId → Fits stack held := by
    intro attempt held found client job
    rcases flights found with found | fits
    · exact ⟨tracks.under found client job, tracks.pending found client job⟩
    · exact fits client job
  exact ⟨marker.trans tracks.top, log ▸ tracks.logged, fun found client job =>
    (fits found client job).under, fun found client job => (fits found client job).pending,
    log ▸ tracks.sent⟩

theorem congr (flights : s'.inFlight = s.inFlight) (log : s'.log = s.log)
    (marker : s'.gateway.markerOf clientId jobId = s.gateway.markerOf clientId jobId) :
    Tracks s' clientId jobId stack :=
  tracks.refly log marker fun found => .inl (flights ▸ found)

theorem note
    (unsent : ∀ attempt marker installed, event ≠ .sent attempt clientId jobId marker installed) :
    Tracks (s.record event) clientId jobId stack where
  top := tracks.top
  logged := by
    intro marker member
    obtain ⟨attempt, marked⟩ := tracks.logged marker member
    exact ⟨attempt, List.mem_cons_of_mem _ marked⟩
  under := tracks.under
  pending := tracks.pending
  sent := by
    intro attempt marker installed sent
    rcases List.mem_cons.mp sent with same | sent
    · exact absurd same.symm (unsent _ _ _)
    · exact tracks.sent sent

variable {held : Attempt}

theorem fly (fits : held.dispatch.clientId = clientId → held.dispatch.jobId = jobId →
      Fits stack held)
    (marker : gateway.markerOf clientId jobId = s.gateway.markerOf clientId jobId) :
    Tracks { s with gateway := gateway, inFlight := s.inFlight.insert attempt held }
      clientId jobId stack := by
  refine tracks.refly rfl marker fun found => ?_
  rcases HashMap.lookup_insert_cases found with ⟨-, rfl⟩ | found
  · exact .inr fits
  · exact .inl found

theorem land : Tracks (s.release attempt) clientId jobId stack :=
  tracks.refly rfl rfl fun found => .inl (HashMap.lookup_of_erase found).2

variable {marker : EnqueueMarker}

omit tracks in
theorem push (recorded : Recorded s)
    (tracks : Tracks s held.dispatch.clientId held.dispatch.jobId stack)
    (fresh : s.freshGeneration marker.generation = true) :
    Tracks { s with
      gateway := s.gateway.setMarker held.dispatch.clientId held.dispatch.jobId marker
      inFlight := s.inFlight.insert attempt (held.withPhase (.marked marker
        (s.gateway.markerOf held.dispatch.clientId held.dispatch.jobId)))
      log := .marked attempt held.dispatch.clientId held.dispatch.jobId marker :: s.log }
      held.dispatch.clientId held.dispatch.jobId (marker :: stack) := by
  have unused := System.freshGeneration_iff.mp fresh
  have absent : marker ∉ stack := by
    intro member
    obtain ⟨_, marked⟩ := tracks.logged marker member
    exact unused _ _ _ _ marked rfl
  constructor
  case top =>
    rw [GatewayState.markerOf_setMarker, if_pos ⟨rfl, rfl⟩, List.head?_cons]
  case logged =>
    intro other member
    rcases List.mem_cons.mp member with rfl | member
    · exact ⟨attempt, List.mem_cons_self⟩
    · obtain ⟨origin, marked⟩ := tracks.logged other member
      exact ⟨origin, List.mem_cons_of_mem _ marked⟩
  case under =>
    intro other held' marker' prior' found client job covers
    rcases HashMap.lookup_insert_cases found with ⟨-, rfl⟩ | older
    · rcases covers with covers | covers <;> cases covers
      rw [tracks.top]
      exact UndoStack.under_push_self absent
    · refine (tracks.under older client job covers).push ?_
      rintro rfl
      exact unused _ _ _ _ (recorded.inFlight_marked older covers) rfl
  case pending =>
    intro other held' marker' prior' found client job marked
    rcases HashMap.lookup_insert_cases found with ⟨-, rfl⟩ | found
    · cases marked
      exact List.mem_cons_self
    · exact List.mem_cons_of_mem _ (tracks.pending found client job marked)
  case sent =>
    intro other marker' installed sent
    exact List.mem_cons_of_mem _ (tracks.sent (List.mem_of_ne_of_mem Event.noConfusion sent))

theorem pushOther (other : ¬(clientId = held.dispatch.clientId ∧ jobId = held.dispatch.jobId)) :
    Tracks { s with
      gateway := s.gateway.setMarker held.dispatch.clientId held.dispatch.jobId marker
      inFlight := s.inFlight.insert attempt (held.withPhase (.marked marker prior))
      log := .marked attempt held.dispatch.clientId held.dispatch.jobId marker :: s.log }
      clientId jobId stack := by
  refine (tracks.note ?_).fly (fun client job => absurd ⟨client.symm, job.symm⟩ other) ?_
  · exact fun _ _ _ same => Event.noConfusion same
  · rw [GatewayState.markerOf_setMarker, if_neg other]
    rfl

variable {prior : Option EnqueueMarker} {attempt : Nat}

theorem fail
    (flying : s.inFlight.lookup attempt = some held) (marked : held.phase = .marked marker prior) :
    Tracks { s with inFlight := s.inFlight.insert attempt (held.withPhase (.failed marker prior)) }
      clientId jobId stack := by
  refine tracks.fly (fun client job => ⟨fun covers => ?_, fun marked => ?_⟩) rfl
  · rcases covers with covers | covers <;> cases covers
    exact tracks.under flying client job (.inl marked)
  · cases marked

omit tracks in
theorem rollback (recorded : Recorded s)
    (tracks : Tracks s held.dispatch.clientId held.dispatch.jobId stack)
    (flying : s.inFlight.lookup attempt = some held) (failed : held.phase = .failed marker prior) :
    Tracks ((s.release attempt).setGateway (s.gateway.rollbackFailedCommandEnqueue
        held.dispatch.clientId held.dispatch.jobId marker prior))
      held.dispatch.clientId held.dispatch.jobId (retract marker stack) := by
  have own := recorded.inFlight_marked flying (.inr failed)
  have under := tracks.under flying rfl rfl (.inr failed)
  constructor
  case top =>
    simp only [System.setGateway, GatewayState.markerOf_rollback, true_and, tracks.top]
    exact (UndoStack.head_retract under).symm
  case logged =>
    exact fun marker' member => tracks.logged marker' (UndoStack.mem_of_mem_retract member)
  case under =>
    intro other held' marker' prior' found client job covers
    exact (tracks.land.under found client job covers).retract
  case pending =>
    intro other held' marker' prior' found client job marked
    refine UndoStack.mem_retract_of_ne (tracks.land.pending found client job marked) ?_
    rintro rfl
    have same := recorded.marked_unique (recorded.land.inFlight_marked found (.inl marked)) own rfl
    subst same
    exact absurd found (by simp [System.setGateway, System.release])
  case sent =>
    intro other marker' installed sent
    refine UndoStack.mem_retract_of_ne (tracks.sent sent) ?_
    rintro rfl
    obtain ⟨marked, landed⟩ := recorded.sent_marked sent
    have same := recorded.marked_unique marked own rfl
    rw [same, flying] at landed
    cases landed

theorem rollbackOther (different : ¬(clientId = other ∧ jobId = job)) :
    Tracks ((s.release attempt).setGateway
      (s.gateway.rollbackFailedCommandEnqueue other job marker prior)) clientId jobId stack := by
  refine tracks.land.congr rfl rfl ?_
  simp only [System.setGateway, System.release, GatewayState.markerOf_rollback]
  rw [if_neg fun all => different ⟨all.1, all.2.1⟩]

theorem marker_of_sent (live : Live s clientId jobId)
    (sent : Event.sent attempt clientId jobId marker installed ∈ s.log) :
    ∃ top, s.gateway.markerOf clientId jobId = some top ∧ s.now < top.expiresAt := by
  have member := tracks.sent sent
  rw [tracks.top]
  cases shape : stack with
  | nil =>
    rw [shape] at member
    exact absurd member List.not_mem_nil
  | cons top =>
    obtain ⟨origin, marked⟩ := tracks.logged top (shape ▸ List.mem_cons_self)
    exact ⟨top, rfl, live origin top marked⟩

end Tracks

theorem Live.mono
    (live : Live s' clientId jobId) (later : s.now ≤ s'.now) (grown : s.log ⊆ s'.log) :
    Live s clientId jobId := by
  intro attempt marker marked
  exact lt_of_le_of_lt later (live attempt marker (grown marked))

/-- Every accepted prepare or promote in the log lists each job sent before it, unless a
    marker of that job had already expired when the answer was given. -/
def AnswersProtect (log : List Event) : Prop :=
  ∀ newer older request now result,
    log = newer ++ .answered request now result :: older →
    request.protects = true → result.accepted = true →
    ∀ jobId attempt marker installed,
      Event.sent attempt request.clientId jobId marker installed ∈ older →
      (∀ attempt' marker', Event.marked attempt' request.clientId jobId marker' ∈ older →
        now < marker'.expiresAt) →
      jobId ∈ result.enqueuedJobIds

theorem AnswersProtect.cons {log : List Event} {event : Event} (holds : AnswersProtect log)
    (answers : ∀ request now result, event = .answered request now result →
      request.protects = true → result.accepted = true →
      ∀ jobId attempt marker installed,
        Event.sent attempt request.clientId jobId marker installed ∈ log →
        (∀ attempt' marker', Event.marked attempt' request.clientId jobId marker' ∈ log →
          now < marker'.expiresAt) →
        jobId ∈ result.enqueuedJobIds) : AnswersProtect (event :: log) := by
  intro newer older request now result split
  cases newer with
  | nil =>
    obtain ⟨rfl, rfl⟩ := List.cons.inj split
    exact answers request now result rfl
  | cons _ newer => exact holds newer older request now result (List.cons.inj split).2

theorem AnswersProtect.note {log : List Event} (holds : AnswersProtect log)
    (quiet : event.silent = true ∨ event.ofAttempt = true) : AnswersProtect (event :: log) := by
  refine holds.cons ?_
  rintro request now result rfl protecting accepted
  rcases quiet with quiet | quiet
  · simp only [Event.silent, protecting, accepted, Bool.and_self, Bool.not_true,
      Bool.false_eq_true] at quiet
  · cases quiet

/-- The invariant behind the marker half of the fence protocol. -/
structure Protective (s : System) : Prop where
  tracked : ∀ clientId jobId, Live s clientId jobId → ∃ stack, Tracks s clientId jobId stack
  collecting : ∀ {clientId pending}, s.collecting.lookup clientId = some pending →
    pending.request.clientId = clientId ∧ ∀ asOf, pending.reply.ids = .asOf asOf → asOf ≤ s.now
  answers : AnswersProtect s.log

namespace Protective

variable {s s' : System}

theorem initial (start : System.Initial s) : Protective s := by
  obtain ⟨_, _, enqueues, flights, collecting, log⟩ := start
  refine ⟨fun clientId jobId _ => ⟨[], ?_, ?_, ?_, ?_, ?_⟩, ?_, ?_⟩
  · simp [GatewayState.markerOf, enqueues]
  · exact fun marker member => absurd member List.not_mem_nil
  · simp [flights]
  · simp [flights]
  · simp [log]
  · simp [collecting]
  · intro newer older request now result split
    rw [log] at split
    exact absurd split.symm (List.append_ne_nil_of_right_ne_nil _ (List.cons_ne_nil _ _))

/-- A transition at one instant that answers nothing wrongly and leaves live jobs tracked. -/
theorem step (holds : Protective s) (now : s'.now = s.now) (collecting : s'.collecting = s.collecting)
    (grown : s.log ⊆ s'.log) (answers : AnswersProtect s'.log)
    (tracked : ∀ clientId jobId stack, Live s clientId jobId → Tracks s clientId jobId stack →
      ∃ stack', Tracks s' clientId jobId stack') : Protective s' where
  tracked := by
    intro clientId jobId live
    have before := live.mono now.ge grown
    obtain ⟨stack, tracks⟩ := holds.tracked clientId jobId before
    exact tracked clientId jobId stack before tracks
  collecting := by
    rw [collecting, now]
    exact holds.collecting
  answers := answers

theorem regate (holds : Protective s)
    (markers : ∀ clientId jobId stack, Live s clientId jobId → Tracks s clientId jobId stack →
      gateway.markerOf clientId jobId = s.gateway.markerOf clientId jobId) :
    Protective (s.setGateway gateway) := by
  refine holds.step rfl rfl (List.Subset.refl _) holds.answers ?_
  intro clientId jobId stack live tracks
  exact ⟨stack, tracks.congr rfl rfl (markers clientId jobId stack live tracks)⟩

theorem note (holds : Protective s) (quiet : event.silent = true ∨ event.ofAttempt = true)
    (unsent : ∀ attempt clientId jobId marker installed,
      event ≠ .sent attempt clientId jobId marker installed) : Protective (s.record event) :=
  holds.step rfl rfl (List.subset_cons_self _ _) (holds.answers.note quiet)
    fun _ _ stack _ tracks => ⟨stack, tracks.note fun _ _ _ => unsent _ _ _ _ _⟩

theorem collect (holds : Protective s) (found : s.collecting.lookup clientId = some pending) :
    Protective (s.collect clientId pending) := by
  obtain ⟨rfl, past⟩ := holds.collecting found
  -- whichever clock reading decides expiry, it is not ahead of the clock
  have bounded : pending.reply.ids.reading s.now ≤ s.now := by
    cases ids : pending.reply.ids with
    | skipped | fresh => exact le_rfl
    | asOf earlier => exact past earlier ids
  refine ⟨?_, ?_, ?_⟩
  · intro clientId jobId live
    have before : Live s clientId jobId := live.mono le_rfl (List.subset_cons_self _ _)
    obtain ⟨stack, tracks⟩ := holds.tracked clientId jobId before
    refine ⟨stack, Tracks.congr (tracks.note fun _ _ _ same => ?_) rfl rfl ?_⟩
    · exact Event.noConfusion same
    · simp only [System.collect, GatewayState.markerOf_protectedEnqueuedJobIds]
      split
      · exact tracks.filter_top before bounded
      · rfl
  · intro other pending' found'
    exact holds.collecting (HashMap.lookup_of_erase found').2
  · refine holds.answers.cons ?_
    intro request now result same _ _ jobId attempt marker installed sent unexpired
    cases same
    obtain ⟨stack, tracks⟩ := holds.tracked pending.request.clientId jobId unexpired
    obtain ⟨top, present, fresh⟩ := tracks.marker_of_sent unexpired sent
    rw [FenceReply.result, GatewayState.mem_protectedEnqueuedJobIds]
    exact ⟨top, present, lt_of_le_of_lt bounded fresh⟩

theorem transition (recorded : Recorded s) (holds : Protective s) (moves : Transition s s') :
    Protective s' := by
  cases moves with
  | tick _ forward =>
    refine ⟨?_, ?_, holds.answers⟩
    · intro clientId jobId live
      obtain ⟨stack, tracks⟩ := holds.tracked clientId jobId
        (live.mono forward (List.Subset.refl _))
      exact ⟨stack, tracks.congr rfl rfl rfl⟩
    · intro clientId pending found
      obtain ⟨same, past⟩ := holds.collecting found
      exact ⟨same, fun asOf ids => (past asOf ids).trans forward⟩
  | prune =>
    refine holds.regate fun clientId jobId stack live tracks => ?_
    rw [GatewayState.markerOf_prune]
    exact tracks.filter_top live le_rfl
  | normalize =>
    exact holds.regate fun _ _ _ _ _ => GatewayState.markerOf_of_lookup
      (FenceFrame.normalize s.gateway s.now).enqueues
  | lifecycle _ _ frame =>
    exact holds.regate fun _ _ _ _ _ => GatewayState.markerOf_of_lookup frame.enqueues
  | unfenced _ enqueues =>
    exact holds.regate fun _ _ _ _ _ => GatewayState.markerOf_of_lookup enqueues
  | note _ silent =>
    refine holds.note (.inl silent) ?_
    rintro _ _ _ _ _ rfl
    cases silent
  | reject =>
    exact holds.note (.inr rfl) fun _ _ _ _ _ same => Event.noConfusion same
  | accept attempt dispatch =>
    let checked := Event.checked attempt dispatch (s.gateway.fenceOf dispatch.clientId)
    have noted : Protective (s.record checked) :=
      holds.note (.inr rfl) fun _ _ _ _ _ same => Event.noConfusion same
    refine noted.step rfl rfl (List.Subset.refl _) noted.answers fun _ _ stack _ tracks => ?_
    refine ⟨stack, tracks.fly (fun _ _ => ⟨fun covers => ?_, fun marked => ?_⟩) rfl⟩
    · rcases covers with covers | covers <;> cases covers
    · cases marked
  | release =>
    exact holds.step rfl rfl (List.Subset.refl _) holds.answers
      fun _ _ stack _ tracks => ⟨stack, tracks.land⟩
  | mark _ held marker _ _ fresh =>
    refine holds.step rfl rfl (List.subset_cons_self _ _) (holds.answers.note (.inr rfl)) ?_
    intro clientId jobId stack _ tracks
    by_cases own : clientId = held.dispatch.clientId ∧ jobId = held.dispatch.jobId
    · obtain ⟨rfl, rfl⟩ := own
      exact ⟨marker :: stack, tracks.push recorded fresh⟩
    · exact ⟨stack, tracks.pushOther own⟩
  | deliver _ _ _ _ flying marked =>
    refine holds.step rfl rfl (List.subset_cons_self _ _) (holds.answers.note (.inr rfl)) ?_
    intro clientId jobId stack _ tracks
    refine ⟨stack, tracks.top, ?_, tracks.land.under, tracks.land.pending, ?_⟩
    · intro marker' member
      obtain ⟨origin, logged⟩ := tracks.logged marker' member
      exact ⟨origin, List.mem_cons_of_mem _ logged⟩
    · intro other marker' installed sent
      rcases List.mem_cons.mp sent with sent | sent
      · cases sent
        exact tracks.pending flying rfl rfl marked
      · exact tracks.sent sent
  | fail _ _ _ _ flying marked =>
    exact holds.step rfl rfl (List.Subset.refl _) holds.answers
      fun _ _ stack _ tracks => ⟨stack, tracks.fail flying marked⟩
  | rollback _ held marker _ flying failed =>
    refine holds.step rfl rfl (List.Subset.refl _) holds.answers ?_
    intro clientId jobId stack _ tracks
    by_cases own : clientId = held.dispatch.clientId ∧ jobId = held.dispatch.jobId
    · obtain ⟨rfl, rfl⟩ := own
      exact ⟨retract marker stack, tracks.rollback recorded flying failed⟩
    · exact ⟨stack, tracks.rollbackOther own⟩
  | collecting _ _ reads =>
    refine ⟨?_, ?_, holds.answers⟩
    · intro clientId jobId live
      obtain ⟨stack, tracks⟩ := holds.tracked clientId jobId live
      exact ⟨stack, tracks.congr rfl rfl rfl⟩
    · intro clientId pending found
      rcases HashMap.lookup_insert_cases found with ⟨same, rfl⟩ | found
      · refine ⟨same.symm, fun asOf ids => ?_⟩
        rcases reads with reads | reads
        · rw [reads] at ids
          cases ids
          exact le_rfl
        · rw [reads] at ids
          cases ids
      · exact holds.collecting found
  | collect _ _ found => exact holds.collect found

end Protective

/-- In every interleaving, an accepted prepare or promote lists every job that reached a
    session before it and whose markers are unexpired; and a dispatch that was checked
    against an installed fence reaches a session only through a durable recheck by that
    fence's exact owner, with that fence still installed. -/
theorem no_command_slips_past_a_fence {s : System}
    (reach : Reachable System.step System.Initial s) :
    AnswersProtect s.log ∧
    ∀ attempt dispatch fence clientId jobId marker installed,
      Event.checked attempt dispatch (some fence) ∈ s.log →
      Event.sent attempt clientId jobId marker installed ∈ s.log →
      fence.requiresDurableRecheck = true ∧ dispatch.lifecycleRecheck = some fence.owner ∧
        installed = some fence := by
  obtain ⟨recorded, guarded, protective⟩ : Recorded s ∧ Guarded s ∧ Protective s := by
    refine @System.reachable_invariant (fun s => Recorded s ∧ Guarded s ∧ Protective s) ?_ ?_ s reach
    · exact fun _ start => ⟨.initial start, .initial start, .initial start⟩
    · rintro s s' ⟨recorded, guarded, protective⟩ moves
      exact ⟨recorded.transition moves, guarded.transition recorded moves,
        protective.transition recorded moves⟩
  refine ⟨protective.answers, ?_⟩
  intro attempt dispatch fence clientId jobId marker installed checked sent
  obtain ⟨dispatch', _, _, checked', admits⟩ := guarded.sent_admitted sent
  obtain ⟨rfl, rfl⟩ := recorded.checked_unique checked checked'
  obtain ⟨recheck, exactOwner⟩ := admits fence rfl
  exact ⟨recheck, exactOwner, rfl⟩

def sampleDispatch : CommandDispatch where
  clientId := "edge"
  jobId := 7
  maxTimeoutSecs := 30
  expectedProcessIncarnationId := 5
  expectedGatewayEpoch := some 1
  lifecycleRecheck := none

def samplePrepare : PrepareRequest where
  clientId := "edge"
  token := 9
  gatewayEpoch := 1
  generation := 1
  leaseSecs := 30
  purpose := .suspension

/-- Two dispatches of job 7 race: the second marks over the first and then fails, while the
    first is delivered. A suspension is prepared afterwards. -/
def racingDispatches : List Action :=
  [.registerSession "edge" ⟨4, 5⟩ none, .check 0 sampleDispatch, .check 1 sampleDispatch,
    .mark 0 100, .mark 1 101, .trySend 0 .delivered, .trySend 1 .full, .rollback 1,
    .acquire ⟨"edge", 9, .suspension, false⟩, .request (.prepare samplePrepare),
    .tick 5, .prune, .collect "edge"]

theorem racing_dispatches_protected : ∃ s, run System.step (System.started 1) racingDispatches = some s ∧
    s.log.head? = some (.answered (.prepare samplePrepare) 5
      ⟨"edge", true, true, false, "dispatch_fence_prepared", [7]⟩) ∧
    AnswersProtect s.log := by
  refine ⟨_, rfl, by decide, ?_⟩
  exact (no_command_slips_past_a_fence
    ⟨System.started 1, racingDispatches, System.started_initial, rfl⟩).1

end Vpsman.Gateway
