import Vpsman.Forward.Line

/-! # The pending fence covers what waits

The direct path is open only while nothing of the target waits to be replayed. This is
what keeps a new event behind the spooled ones.
-/

namespace Vpsman.Forward

open Lib Conveyor

variable {s s' : Forwarder}

theorem Orderly.consumer_kept (orderly : Orderly s) (consumer : s'.consumer = s.consumer)
    (shutdown : s'.shutdownRequested = s.shutdownRequested)
    (cleared : s'.queuesCleared = s.queuesCleared) : Orderly s' := by
  refine ⟨consumer ▸ orderly.once, ?_, ?_⟩
  · rw [consumer, shutdown]
    exact orderly.deferred
  · rw [cleared, shutdown]
    exact orderly.cleared

theorem Orderly.consumer_set (orderly : Orderly s) (once : s'.consumer.MadeDurableOnce)
    (deferred : ∀ handle stage, s'.consumer = .deferring handle stage →
      s.shutdownRequested = true) (shutdown : s'.shutdownRequested = s.shutdownRequested)
    (cleared : s'.queuesCleared = s.queuesCleared) : Orderly s' := by
  refine ⟨once, ?_, ?_⟩
  · rw [shutdown]
    exact deferred
  · rw [cleared, shutdown]
    exact orderly.cleared

/-- A file's event is given the replay mark if it can carry it. -/
theorem marked_or_undecodable (event : Event) :
    (event.markSpooledReplay.getD event).markedSpooledReplay = true ∨
      (event.markSpooledReplay.getD event).decodes = false := by
  unfold Event.markSpooledReplay
  split
  next decodes =>
    exact Or.inl (by simp [Event.markedSpooledReplay, decodes])
  next undecodable =>
    exact Or.inr (by simpa using undecodable)

theorem Orderly.step (orderly : Orderly s) (stepped : s.step a = some s') : Orderly s' := by
  have once := orderly.once
  cases Forwarder.step_outcome stepped with
  | idle | flags | skip | join | enter | spool | sent | refused | laneWritten | laneLost
  | laneAccounted | lanePublished | vanished | quarantined | stranded | closed | refreshed | popped
  | replayed | cleaned => exact orderly.consumer_kept rfl rfl rfl
  | request => exact ⟨orderly.once, fun _ _ _ => rfl, fun _ => rfl⟩
  | clear requested => exact ⟨orderly.once, orderly.deferred, fun _ => requested⟩
  | taken => exact orderly.consumer_set (by simp [Consumer.MadeDurableOnce]) (by simp) rfl rfl
  | @loaded _ _ file =>
    exact orderly.consumer_set (fun _ => marked_or_undecodable file.event) (by simp) rfl rfl
  | deferred _ requested noFile =>
    exact orderly.consumer_set noFile (fun _ _ _ => requested) rfl rfl
  | released | gaveUp | accepted | headLost | deferralEnded | finished | removed | leftOver =>
    exact orderly.consumer_set trivial (by simp) rfl rfl
  | started ready =>
    rw [ready] at once
    exact orderly.consumer_set once (by simp) rfl rfl
  | again posting =>
    rw [posting] at once
    exact orderly.consumer_set once (by simp) rfl rfl
  | retained posting unmarked mark =>
    have noFile := orderly.noFile posting unmarked mark
    exact orderly.consumer_set ⟨noFile, (Event.marked_of_mark mark).1, by simp⟩ (by simp) rfl rfl
  | headWritten retaining =>
    rw [retaining] at once
    exact orderly.consumer_set ⟨once.1, once.2.1, by simp⟩ (by simp) rfl rfl
  | headAccounted retaining =>
    rw [retaining] at once
    exact orderly.consumer_set (fun _ => Or.inl once.2.1) (by simp) rfl rfl
  | headPublished retaining => exact (orderly.unpublished retaining).elim
  | deferralWritten deferring | deferralAccounted deferring =>
    rw [deferring] at once
    exact orderly.consumer_set once (fun _ _ _ => orderly.deferred _ _ deferring) rfl rfl

section

variable (fenced : Fenced s)
include fenced

theorem Fenced.aside (waiting : s'.waiting = s.waiting) (lane : s'.lane = s.lane)
    (accounted : ∀ path ∈ s.accounted, path ∈ slots (s.waiting.map Candidate.ticket) ∨
      path ∈ slots s.lane.tickets → path ∈ s'.accounted)
    (uninitialized : s'.index.initialized = false → s'.replaying = none ∧ s'.index.candidates = [])
    (initialized : s'.index.initialized = true → s'.replayStartup = []) : Fenced s' := by
  refine ⟨?_, ?_, ?_, uninitialized, initialized⟩
  · intro candidate member
    rw [waiting] at member
    refine accounted _ (fenced.accounted candidate member) (Or.inl ?_)
    exact mem_slots.mpr ⟨_, List.mem_map_of_mem member⟩
  · intro event candidate spooling
    rw [lane] at spooling
    refine accounted _ (fenced.publishing event candidate spooling) (Or.inr ?_)
    simp [spooling, Lane.tickets, Candidate.ticket]
  · rw [lane, waiting]
    exact fenced.admitting

theorem Fenced.unaccount (formed : WellFormed s.conveyor) {path : SpoolPath}
    (elsewhere : path ∈ s.conveyor.spent ∨ path ∈ slots (s.consumer.tickets ++
      (s.queue.getD []).map QueueItem.ticket))
    (waiting : s'.waiting = s.waiting) (lane : s'.lane = s.lane)
    (accounted : s'.accounted = s.accounted.filter (· ≠ path))
    (uninitialized : s'.index.initialized = false → s'.replaying = none ∧ s'.index.candidates = [])
    (initialized : s'.index.initialized = true → s'.replayStartup = []) : Fenced s' := by
  refine fenced.aside waiting lane ?_ uninitialized initialized
  intro other member place
  rw [accounted, List.mem_filter]
  refine ⟨member, ?_⟩
  rw [decide_eq_true_eq]
  rintro rfl
  have ahead : other ∈ slots (s.waiting.map Candidate.ticket ++ s.lane.tickets) := by
    rw [slots_append, List.mem_append]
    exact place
  rcases elsewhere with spent | front
  · refine formed.spent_not_in_line spent ?_
    simp only [Forwarder.conveyor, Forwarder.line, slots_append, List.mem_append] at ahead ⊢
    tauto
  · have distinct := formed.slots_nodup
    simp only [Forwarder.conveyor, Forwarder.line] at distinct
    rw [List.append_assoc, slots_append] at distinct
    exact (List.nodup_append.mp distinct).2.2 _ front _ ahead rfl

theorem Fenced.lane_set (waiting : s'.waiting = s.waiting) (accounted : s'.accounted = s.accounted)
    (uninitialized : s'.index.initialized = false → s'.replaying = none ∧ s'.index.candidates = [])
    (initialized : s'.index.initialized = true → s'.replayStartup = [])
    (publishing : ∀ event candidate, s'.lane ≠ .spooling event (.publish candidate))
    (admitting : ∀ event, s'.lane = .admitting event → s.waiting = []) : Fenced s' := by
  refine ⟨?_, ?_, ?_, uninitialized, initialized⟩
  · rw [waiting, accounted]
    exact fenced.accounted
  · exact fun event candidate spooling => absurd spooling (publishing event candidate)
  · rw [waiting]
    exact admitting

/-- The direct path opens only when nothing is accounted, hence nothing waits. -/
theorem Fenced.enter (nothing : s.accounted = []) :
    Fenced { s with lane := .admitting event } := by
  refine fenced.lane_set rfl rfl fenced.uninitialized fenced.initialized (by simp) fun _ _ => ?_
  apply List.eq_nil_iff_forall_not_mem.mpr
  intro candidate member
  have accounted := fenced.accounted candidate member
  simp [nothing] at accounted

theorem Fenced.laneAccounted :
    Fenced { s.accountSpooledFile candidate.path with
      lane := .spooling event (.publish candidate) } := by
  constructor
  · intro other member
    exact List.mem_insert_of_mem (fenced.accounted other member)
  · intro _ other publishing
    cases publishing
    exact List.mem_insert_self
  · simp
  · exact fenced.uninitialized
  · exact fenced.initialized

theorem Fenced.lanePublished (spooling : s.lane = .spooling event (.publish candidate)) :
    Fenced { s with replayArrivals := s.replayArrivals ++ [candidate], lane := .free } := by
  have accounted := fenced.publishing event candidate spooling
  constructor
  · intro other member
    simp only [Forwarder.waiting, ← List.append_assoc, List.mem_append,
      List.mem_singleton] at member
    rcases member with old | rfl
    · apply fenced.accounted
      simp only [Forwarder.waiting, List.mem_append]
      exact old
    · exact accounted
  · simp
  · simp
  · exact fenced.uninitialized
  · exact fenced.initialized

end

theorem mem_foldl_insert {found : List Candidate} {accounted : List SpoolPath}
    (member : path ∈ accounted) :
    path ∈ found.foldl (fun accounted candidate => accounted.insert candidate.path) accounted := by
  induction found generalizing accounted with
  | nil => exact member
  | cons _ _ ih => exact ih (List.mem_insert_of_mem member)

theorem Fenced.refreshIndex (fenced : Fenced s) (formed : WellFormed s.conveyor)
    (stepped : s.refreshIndex = some s') : Fenced s' := by
  obtain ⟨waiting, _, initialized, startup⟩ := Forwarder.refreshIndex_waiting fenced formed stepped
  unfold Forwarder.refreshIndex at stepped
  split at stepped
  · cases stepped
    refine fenced.aside waiting rfl (fun _ member _ => mem_foldl_insert member) ?_ fun _ => startup
    rw [initialized]
    simp
  · cases stepped

theorem Fenced.popNext (fenced : Fenced s) (stepped : s.popNext = some s') : Fenced s' := by
  have waiting := Forwarder.popNext_waiting stepped
  obtain ⟨taken, initialized⟩ := Forwarder.popNext_spec s.index
  have early : s.index.initialized = false →
      s.index.popNext.1 = none ∧ s.index.popNext.2.candidates = [] := by
    intro uninitialized
    rw [(fenced.uninitialized uninitialized).2] at taken
    simpa using taken
  unfold Forwarder.popNext at stepped
  split at stepped
  next idle =>
    split at stepped
    next candidate index popped =>
      rw [popped] at early initialized
      cases stepped
      refine fenced.aside waiting rfl (fun _ member _ => member) (fun uninitialized => ?_)
        (initialized ▸ fenced.initialized)
      have none_taken := (early (initialized ▸ uninitialized)).1
      cases none_taken
    next index popped =>
      rw [popped] at early initialized
      cases stepped
      refine fenced.aside waiting rfl (fun _ member _ => member) (fun uninitialized => ?_)
        (initialized ▸ fenced.initialized)
      exact ⟨by simpa using idle, (early (initialized ▸ uninitialized)).2⟩
  · cases stepped

theorem Fenced.replayed (fenced : Fenced s) (formed : WellFormed s.conveyor)
    (held : s.replaying = some candidate) (initialized : index.initialized = s.index.initialized)
    (places : queue.getD [] = s.queue.getD [] ++ [.spooled candidate] ∧
        index.candidates = s.index.candidates ∨
      queue.getD [] = s.queue.getD [] ∧ ∃ before : ReplayIndex,
        index = before.insert candidate ∧ before.candidates = s.index.candidates) :
    Fenced { s with
      queue := queue, replaying := none, index := index
      replayWaiting := waiting, replayReady := ready } := by
  have within : ∀ other ∈ index.candidates ++ catalogue s.replayStartup ++ s.replayArrivals,
      other ∈ s.waiting := by
    intro other member
    rcases places with ⟨_, same⟩ | ⟨_, before, rfl, same⟩
    · rw [same] at member
      simp only [Forwarder.waiting, List.mem_append] at member ⊢
      tauto
    · rw [Forwarder.reinsert_waiting formed held same] at member
      simpa [Forwarder.waiting, held] using member
  have busy : s.waiting ≠ [] := by simp [Forwarder.waiting, held]
  constructor
  · exact fun other member => fenced.accounted other (within other (by simpa [Forwarder.waiting] using member))
  · exact fenced.publishing
  · exact fun event admitting => absurd (fenced.admitting event admitting) busy
  · intro uninitialized
    have idle := (fenced.uninitialized (initialized ▸ uninitialized)).1
    simp [held] at idle
  · exact fun already => fenced.initialized (initialized ▸ already)

theorem Fenced.step (fenced : Fenced s) (orderly : Orderly s) (formed : WellFormed s.conveyor)
    (online : s.shutdownRequested = false) (stepped : s.step a = some s') : Fenced s' := by
  cases Forwarder.step_outcome stepped with
  | idle => exact fenced
  | flags | skip | request | taken | loaded | stranded | started | gaveUp | accepted | retained
  | again | headWritten | headLost | finished | leftOver | closed =>
    exact fenced.aside rfl rfl (fun _ member _ => member) fenced.uninitialized fenced.initialized
  | headAccounted =>
    exact fenced.aside rfl rfl (fun _ member _ => List.mem_insert_of_mem member)
      fenced.uninitialized fenced.initialized
  | clear requested | deferred _ requested | released _ requested => simp [online] at requested
  | deferralWritten deferring | deferralAccounted deferring | deferralEnded deferring =>
    simp [orderly.deferred _ _ deferring] at online
  | headPublished retaining => exact (orderly.unpublished retaining).elim
  | join | spool | sent | refused | laneWritten | laneLost =>
    exact fenced.lane_set rfl rfl fenced.uninitialized fenced.initialized (by simp) (by simp)
  | enter _ nothing => exact fenced.enter nothing
  | laneAccounted => exact fenced.laneAccounted
  | lanePublished spooling => exact fenced.lanePublished spooling
  | @vanished candidate _ _ _ _ head | @quarantined candidate _ _ _ _ head =>
    have front : candidate.path ∈ slots (s.consumer.tickets ++
        (s.queue.getD []).map QueueItem.ticket) := by
      simp [head, QueueItem.ticket, Candidate.ticket]
    exact fenced.unaccount formed (Or.inr front) rfl rfl rfl fenced.uninitialized fenced.initialized
  | @removed _ path finishing hasFile =>
    have spent : path ∈ s.conveyor.spent := by
      simp [Forwarder.conveyor, finishing, Consumer.spent, hasFile]
    exact fenced.unaccount formed (Or.inl spent) rfl rfl rfl fenced.uninitialized fenced.initialized
  | @cleaned path outstanding =>
    have spent : path ∈ s.conveyor.spent := List.mem_append_right _ outstanding
    exact fenced.unaccount formed (Or.inl spent) rfl rfl rfl fenced.uninitialized fenced.initialized
  | refreshed refreshes => exact fenced.refreshIndex formed refreshes
  | popped pops => exact fenced.popNext pops
  | replayed held initialized places => exact fenced.replayed formed held initialized places

end Vpsman.Forward
