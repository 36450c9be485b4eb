import Vpsman.Forward.Forwarder

/-! # What a step of the forwarder can do

One case for each way in which a step ends, with what was the case before it. Everything that
is said about runs of the forwarder goes through these cases.
-/

namespace Vpsman.Forward

open Lib

theorem enqueueQueueItem_spec {s s' : Forwarder}
    (sent : s.enqueueQueueItem item send = some (s', enqueued)) :
    (enqueued = .ok ∧ s' = { s with queue := some (s.queue.getD [] ++ [item]) }) ∨
      (enqueued ≠ .ok ∧ ∃ queue : Option (List QueueItem),
        queue.getD [] = s.queue.getD [] ∧ s' = { s with queue := queue }) := by
  unfold Forwarder.enqueueQueueItem at sent
  split at sent
  · cases sent
    exact Or.inr ⟨by simp, s.queue, rfl, rfl⟩
  split at sent
  · cases sent
    exact Or.inr ⟨by simp, s.queue, rfl, rfl⟩
  dsimp only at sent
  split at sent
  · split at sent
    · cases sent
      exact Or.inl ⟨rfl, rfl⟩
    · cases sent
  · split at sent
    next empty =>
      cases sent
      exact Or.inr ⟨by simp, none, by simp [empty.1], rfl⟩
    · cases sent
  · cases sent
    exact Or.inr ⟨by simp, some (s.queue.getD []), by simp, rfl⟩

namespace Forwarder

theorem markReplayTargetReady_frame (s : Forwarder) :
    s.markReplayTargetReady = { s with
      replayWaiting := s.markReplayTargetReady.replayWaiting
      replayReady := s.markReplayTargetReady.replayReady } := by
  unfold markReplayTargetReady
  split <;> rfl

variable {s s' : Forwarder}

theorem replayCandidate_spec (stepped : s.replayCandidate send = some s') :
    ∃ candidate queue index waiting ready,
      s.replaying = some candidate ∧
      s' = { s with
        queue := queue, replaying := none, index := index
        replayWaiting := waiting, replayReady := ready } ∧
      index.initialized = s.index.initialized ∧
      ((queue.getD [] = s.queue.getD [] ++ [.spooled candidate] ∧
          index.candidates = s.index.candidates) ∨
        (queue.getD [] = s.queue.getD [] ∧ ∃ before : ReplayIndex,
          index = before.insert candidate ∧ before.candidates = s.index.candidates)) := by
  unfold replayCandidate at stepped
  split at stepped
  next candidate held =>
    obtain ⟨⟨t, enqueued⟩, sent, stepped⟩ := Option.bind_eq_some_iff.mp stepped
    rcases enqueueQueueItem_spec sent with ⟨rfl, rfl⟩ | ⟨notSent, queue, same, rfl⟩
    · cases stepped
      exact ⟨candidate, _, _, _, _, held, rfl, rfl, Or.inl ⟨rfl, rfl⟩⟩
    cases enqueued with
    | ok => exact absurd rfl notSent
    | queueClosed =>
      simp only [markReplayTargetReady] at stepped
      split at stepped <;> cases stepped <;>
        exact ⟨candidate, _, _, _, _, held, rfl, by simp, Or.inr ⟨same, _, rfl, rfl⟩⟩
    | globalQueueFull | targetQueueFull | consumerUnavailable =>
      cases stepped
      exact ⟨candidate, _, _, _, _, held, rfl, by simp, Or.inr ⟨same, _, rfl, rfl⟩⟩
  · cases stepped

/-- The consumer has the event in its hands. -/
def Holds (s : Forwarder) (handle : Handle) : Prop :=
  s.consumer = .ready handle ∨ s.consumer = .posting handle

inductive Outcome (s : Forwarder) : Forwarder → Prop
  | idle : Outcome s s
  | flags (accepting commandsOpen : Bool) :
      Outcome s { s with accepting := accepting, commandsOpen := commandsOpen }
  | skip : Outcome s { s with enqueueSeq := s.enqueueSeq + 1 }
  | request : Outcome s { s with shutdownRequested := true }
  | clear (requested : s.shutdownRequested = true) : Outcome s { s with queuesCleared := true }
  | join {event : Event} (free : s.lane = .free) (next : event.enqueueSeq = s.enqueueSeq + 1) :
      Outcome s { s with enqueueSeq := s.enqueueSeq + 1, lane := .checking event }
  | enter {event : Event} (checking : s.lane = .checking event) (nothing : s.accounted = []) :
      Outcome s { s with lane := .admitting event }
  | spool {event : Event} {queue : Option (List QueueItem)}
      (held : s.lane = .checking event ∨ s.lane = .admitting event)
      (same : queue.getD [] = s.queue.getD []) :
      Outcome s { s with queue := queue, lane := .spooling event .write }
  | sent {event : Event} (admitting : s.lane = .admitting event) :
      Outcome s { s with queue := some (s.queue.getD [] ++ [.event event]), lane := .free }
  | refused {event : Event} {queue : Option (List QueueItem)}
      (admitting : s.lane = .admitting event) (same : queue.getD [] = s.queue.getD []) :
      Outcome s { s with queue := queue, lane := .free }
  | laneWritten {event : Event} (spooling : s.lane = .spooling event .write) :
      Outcome s { s with
        files := s.files ++ [⟨s.nextUuid, event⟩], nextUuid := s.nextUuid + 1
        lane := .spooling event (.account (SpoolFile.candidate ⟨s.nextUuid, event⟩)) }
  | laneLost {event : Event} (spooling : s.lane = .spooling event .write) :
      Outcome s { s with lane := .free }
  | laneAccounted {event : Event} {candidate : Candidate}
      (spooling : s.lane = .spooling event (.account candidate)) :
      Outcome s { s.accountSpooledFile candidate.path with
        lane := .spooling event (.publish candidate) }
  | lanePublished {event : Event} {candidate : Candidate}
      (spooling : s.lane = .spooling event (.publish candidate)) :
      Outcome s { s with replayArrivals := s.replayArrivals ++ [candidate], lane := .free }
  | taken {event : Event} {rest : List QueueItem} {waiting ready : Bool}
      (receiving : s.consumer = .receiving) (head : s.queue = some (.event event :: rest)) :
      Outcome s { s with
        queue := some rest, replayWaiting := waiting, replayReady := ready
        consumer := .ready ⟨event, none⟩ }
  | loaded {candidate : Candidate} {rest : List QueueItem} {file : SpoolFile} {waiting ready : Bool}
      (receiving : s.consumer = .receiving) (head : s.queue = some (.spooled candidate :: rest))
      (found : s.files.find? (fun file => file.path = candidate.path) = some file) :
      Outcome s { s with
        queue := some rest, replayWaiting := waiting, replayReady := ready
        consumer := .ready ⟨file.event.markSpooledReplay.getD file.event, some candidate.path⟩ }
  | vanished {candidate : Candidate} {rest : List QueueItem} {waiting ready : Bool}
      (receiving : s.consumer = .receiving) (head : s.queue = some (.spooled candidate :: rest))
      (absent : s.files.find? (fun file => file.path = candidate.path) = none) :
      Outcome s { s.unaccountSpooledFile candidate.path with
        queue := some rest, replayWaiting := waiting, replayReady := ready }
  | quarantined {candidate : Candidate} {rest : List QueueItem} {waiting ready : Bool}
      (receiving : s.consumer = .receiving) (head : s.queue = some (.spooled candidate :: rest)) :
      Outcome s { s.dropSpooledFile candidate.path with
        queue := some rest, replayWaiting := waiting, replayReady := ready }
  | stranded {candidate : Candidate} {rest : List QueueItem} {waiting ready : Bool}
      (receiving : s.consumer = .receiving) (head : s.queue = some (.spooled candidate :: rest)) :
      Outcome s { s with
        queue := some rest, replayWaiting := waiting, replayReady := ready
        quarantineRetries := candidate.path :: s.quarantineRetries }
  | deferred {handle : Handle} (held : s.Holds handle) (requested : s.shutdownRequested = true)
      (noFile : handle.spoolPath = none) : Outcome s { s with consumer := .deferring handle .write }
  | released {handle : Handle} (held : s.Holds handle) (requested : s.shutdownRequested = true) :
      Outcome s { s with consumer := .receiving }
  | started {handle : Handle} (ready : s.consumer = .ready handle)
      (online : s.shutdownRequested = false) : Outcome s { s with consumer := .posting handle }
  | gaveUp {handle : Handle} (held : s.Holds handle) :
      Outcome s { s with consumer := .finishing handle }
  | accepted {handle : Handle} (posting : s.consumer = .posting handle) :
      Outcome s { s with
        posted := s.posted ++ [handle.event.enqueueSeq], consumer := .finishing handle }
  | retained {handle : Handle} {event : Event} (posting : s.consumer = .posting handle)
      (unmarked : ¬ handle.event.markedSpooledReplay = true)
      (mark : handle.event.markSpooledReplay = some event) :
      Outcome s { s with consumer := .retaining { handle with event := event } .write }
  | again {handle : Handle} (posting : s.consumer = .posting handle) :
      Outcome s { s with consumer := .ready handle }
  | headWritten {handle : Handle} (retaining : s.consumer = .retaining handle .write) :
      Outcome s { s with
        files := s.files ++ [⟨s.nextUuid, handle.event⟩], nextUuid := s.nextUuid + 1
        consumer := .retaining handle (.account (SpoolFile.candidate ⟨s.nextUuid, handle.event⟩)) }
  | headLost {handle : Handle} (retaining : s.consumer = .retaining handle .write) :
      Outcome s { s with consumer := .finishing handle }
  | headAccounted {handle : Handle} {candidate : Candidate}
      (retaining : s.consumer = .retaining handle (.account candidate)) :
      Outcome s { s.accountSpooledFile candidate.path with
        consumer := .ready { handle with spoolPath := some candidate.path } }
  | headPublished {handle : Handle} {candidate : Candidate} {after : Forwarder}
      (retaining : s.consumer = .retaining handle (.publish candidate)) : Outcome s after
  | deferralWritten {handle : Handle} (deferring : s.consumer = .deferring handle .write) :
      Outcome s { s with
        files := s.files ++ [⟨s.nextUuid, handle.event⟩], nextUuid := s.nextUuid + 1
        consumer := .deferring handle (.account (SpoolFile.candidate ⟨s.nextUuid, handle.event⟩)) }
  | deferralAccounted {handle : Handle} {candidate : Candidate}
      (deferring : s.consumer = .deferring handle (.account candidate)) :
      Outcome s { s.accountSpooledFile candidate.path with
        consumer := .deferring handle (.publish candidate) }
  | deferralEnded {handle : Handle} {stage : Persist} {arrivals : List Candidate}
      (deferring : s.consumer = .deferring handle stage) :
      Outcome s { s with replayArrivals := arrivals, consumer := .receiving }
  | finished {handle : Handle} (finishing : s.consumer = .finishing handle)
      (noFile : handle.spoolPath = none) : Outcome s { s with consumer := .receiving }
  | removed {handle : Handle} {path : SpoolPath} (finishing : s.consumer = .finishing handle)
      (hasFile : handle.spoolPath = some path) :
      Outcome s { s.dropSpooledFile path with consumer := .receiving }
  | leftOver {handle : Handle} {path : SpoolPath} (finishing : s.consumer = .finishing handle)
      (hasFile : handle.spoolPath = some path) :
      Outcome s { s with
        deliveredCleanupRetries := path :: s.deliveredCleanupRetries, consumer := .receiving }
  | closed (receiving : s.consumer = .receiving)
      (empty : s.queue = some [] ∨ s.queuesCleared = true) : Outcome s { s with queue := none }
  | refreshed {index : ReplayIndex} {accounted : List SpoolPath}
      (stepped : s.refreshIndex = some { s with
        index := index, accounted := accounted, replayReady := false, replayStartup := []
        replayArrivals := [] }) :
      Outcome s { s with
        index := index, accounted := accounted, replayReady := false, replayStartup := []
        replayArrivals := [] }
  | popped {index : ReplayIndex} {replaying : Option Candidate} {waiting : Bool}
      (stepped : s.popNext = some { s with
        index := index, replaying := replaying, replayWaiting := waiting }) :
      Outcome s { s with index := index, replaying := replaying, replayWaiting := waiting }
  | replayed {candidate : Candidate} {queue : Option (List QueueItem)} {index : ReplayIndex}
      {waiting ready : Bool} (held : s.replaying = some candidate)
      (initialized : index.initialized = s.index.initialized)
      (places : queue.getD [] = s.queue.getD [] ++ [.spooled candidate] ∧
          index.candidates = s.index.candidates ∨
        queue.getD [] = s.queue.getD [] ∧ ∃ before : ReplayIndex,
          index = before.insert candidate ∧ before.candidates = s.index.candidates) :
      Outcome s { s with
        queue := queue, replaying := none, index := index
        replayWaiting := waiting, replayReady := ready }
  | cleaned {path : SpoolPath} (outstanding : path ∈ s.deliveredCleanupRetries ++ s.quarantineRetries) :
      Outcome s { s.dropSpooledFile path with
        deliveredCleanupRetries := s.deliveredCleanupRetries.filter (· ≠ path)
        quarantineRetries := s.quarantineRetries.filter (· ≠ path) }

theorem admitEvent_outcome (stepped : s.admitEvent admission = some s') : s.Outcome s' := by
  unfold admitEvent at stepped
  split at stepped
  next event admitting =>
    split at stepped
    · cases stepped
      exact .spool (.inr admitting) rfl
    · cases stepped
      exact .spool (.inr admitting) rfl
    obtain ⟨⟨t, enqueued⟩, sent, stepped⟩ := Option.bind_eq_some_iff.mp stepped
    rcases enqueueQueueItem_spec sent with ⟨rfl, rfl⟩ | ⟨notSent, queue, same, rfl⟩
    · cases stepped
      exact .sent admitting
    cases enqueued with
    | ok => exact absurd rfl notSent
    | consumerUnavailable =>
      cases stepped
      exact .refused admitting same
    | globalQueueFull | targetQueueFull | queueClosed =>
      cases stepped
      exact .spool (.inr admitting) same
  · cases stepped

theorem receive_outcome (stepped : s.receive load = some s') : s.Outcome s' := by
  unfold receive at stepped
  split at stepped
  next item rest receiving head =>
    rw [markReplayTargetReady_frame] at stepped
    cases item with
    | event =>
      cases stepped
      exact .taken receiving head
    | spooled =>
      simp only [queueItemEvent] at stepped
      split at stepped
      next loaded =>
        split at loaded <;> cases loaded
        rename_i found
        cases stepped
        exact .loaded receiving head found
      next loaded =>
        split at loaded <;> cases loaded <;> cases stepped
        next absent =>
          exact .vanished receiving head absent
        · exact .quarantined receiving head
        · exact .stranded receiving head
  · cases stepped

theorem shutdownDeferral_outcome (held : s.Holds handle)
    (requested : s.shutdownRequested = true) : s.Outcome (s.shutdownDeferral handle) := by
  unfold shutdownDeferral
  split
  next noFile =>
    exact .deferred held requested (Option.isNone_iff_eq_none.mp noFile)
  · exact .released held requested

theorem finishPost_outcome (stepped : s.finishPost result = some s') : s.Outcome s' := by
  unfold finishPost at stepped
  split at stepped
  next handle posting =>
    cases result with
    | accepted =>
      cases stepped
      exact .accepted posting
    | sessionNotActive =>
      dsimp only at stepped
      split at stepped
      · cases stepped
        exact .gaveUp (.inr posting)
      next unmarked =>
        split at stepped <;> cases stepped
        next mark =>
          exact .retained posting unmarked mark
        · exact .gaveUp (.inr posting)
    | conflict =>
      cases stepped
      exact .gaveUp (.inr posting)
    | failed =>
      dsimp only at stepped
      split at stepped
      next requested =>
        cases stepped
        exact shutdownDeferral_outcome (.inr posting) requested
      · split at stepped <;> cases stepped
        · exact .gaveUp (.inr posting)
        · exact .again posting
    | interrupted =>
      dsimp only at stepped
      split at stepped <;> cases stepped
      rename_i requested
      exact shutdownDeferral_outcome (.inr posting) requested
  · cases stepped

theorem persistHead_outcome (stepped : s.persistHead written = some s') : s.Outcome s' := by
  unfold persistHead at stepped
  split at stepped
  next handle stage retaining =>
    cases stage with
    | write =>
      cases written <;> cases stepped
      · exact .headLost retaining
      · exact .headWritten retaining
    | account =>
      cases stepped
      exact .headAccounted retaining
    | publish => exact .headPublished retaining
  next handle stage deferring =>
    cases stage with
    | write =>
      cases written <;> cases stepped
      · exact .deferralEnded deferring
      · exact .deferralWritten deferring
    | account =>
      cases stepped
      exact .deferralAccounted deferring
    | publish =>
      cases stepped
      exact .deferralEnded deferring
  · cases stepped

theorem step_outcome (stepped : s.step a = some s') : s.Outcome s' := by
  cases a with
  | othersEnqueue =>
    cases stepped
    exact .skip
  | closeAdmission | closeCommands =>
    cases stepped
    exact .flags _ _
  | requestShutdown =>
    cases stepped
    exact .request
  | clearQueues =>
    obtain ⟨⟨requested, _⟩, rfl⟩ := guard_some stepped
    exact .clear requested
  | enqueue =>
    simp only [step, enqueue] at stepped
    split at stepped
    next free =>
      split at stepped <;> cases stepped
      exact .join free rfl
    · cases stepped
  | checkPending =>
    simp only [step, checkPending] at stepped
    split at stepped
    next event checking =>
      split at stepped <;> cases stepped
      · exact .spool (.inl checking) rfl
      next nothing =>
        simp only [targetHasPending, Bool.or_eq_true, not_or] at nothing
        exact .enter checking (by simpa using nothing.1)
    · cases stepped
  | admitEvent => exact admitEvent_outcome stepped
  | spoolEvent written =>
    simp only [step, spoolEvent] at stepped
    split at stepped
    next event stage spooling =>
      cases stage with
      | write =>
        cases written <;> cases stepped
        · exact .laneLost spooling
        · exact .laneWritten spooling
      | account =>
        cases stepped
        exact .laneAccounted spooling
      | publish =>
        cases stepped
        exact .lanePublished spooling
    · cases stepped
  | receive => exact receive_outcome stepped
  | startPost =>
    simp only [step, startPost] at stepped
    split at stepped
    next handle ready =>
      split at stepped
      next requested =>
        cases stepped
        exact shutdownDeferral_outcome (.inl ready) requested
      next online =>
        cases stepped
        exact .started ready (Bool.eq_false_of_not_eq_true online)
    · cases stepped
  | expire =>
    simp only [step, expire] at stepped
    split at stepped <;> cases stepped
    rename_i ready
    exact .gaveUp (.inl ready)
  | finishPost => exact finishPost_outcome stepped
  | persistHead => exact persistHead_outcome stepped
  | finishEvent =>
    simp only [step, finishEvent] at stepped
    split at stepped
    next handle finishing =>
      split at stepped
      next noFile =>
        cases stepped
        exact .finished finishing noFile
      next path hasFile =>
        split at stepped <;> cases stepped
        · exact .removed finishing hasFile
        · exact .leftOver finishing hasFile
    · cases stepped
  | retireQueue =>
    obtain ⟨⟨receiving, empty⟩, rfl⟩ := guard_some stepped
    exact .closed receiving (.inl empty)
  | abandonQueue =>
    obtain ⟨⟨receiving, cleared⟩, rfl⟩ := guard_some stepped
    exact .closed receiving (.inr cleared)
  | refreshIndex =>
    have refreshed := stepped
    simp only [step, refreshIndex, Option.ite_none_right_eq_some] at stepped
    cases stepped.2
    exact .refreshed refreshed
  | popNext =>
    have popped := stepped
    simp only [step, popNext, Option.ite_none_right_eq_some] at stepped
    obtain ⟨_, stepped⟩ := stepped
    split at stepped <;> cases stepped <;> exact .popped popped
  | replayCandidate =>
    obtain ⟨_, _, _, _, _, held, rfl, initialized, places⟩ := replayCandidate_spec stepped
    exact .replayed held initialized places
  | retryCleanup =>
    simp only [step, retryCleanup, Option.ite_none_right_eq_some] at stepped
    obtain ⟨outstanding, stepped⟩ := stepped
    split at stepped <;> cases stepped
    · exact .cleaned outstanding
    · exact .idle

end Forwarder

end Vpsman.Forward
