import Vpsman.Forward.Outcome
import Vpsman.Lib.Conveyor

/-! # The forwarder as a conveyor

Until a shutdown is requested, the places an event can be in form one line: the consumer,
the queue, the replay task's hand, the index, the startup catalogue, the arrivals and the
admission lane, in this order. Every step moves that line as a conveyor allows it.
-/

namespace Vpsman.Forward

open Lib Conveyor

def Event.ticket (event : Event) : Ticket := ⟨event.enqueueSeq, none⟩

def Candidate.ticket (candidate : Candidate) : Ticket :=
  ⟨candidate.enqueueSeq, some candidate.path⟩

def QueueItem.ticket : QueueItem → Ticket
  | .event held => held.ticket
  | .spooled candidate => candidate.ticket

/-- Once the lane's event is written, its place in line carries the file's path. -/
def Lane.tickets : Lane → List Ticket
  | .free => []
  | .checking event | .admitting event | .spooling event .write => [event.ticket]
  | .spooling _ (.account candidate) | .spooling _ (.publish candidate) => [candidate.ticket]

def Handle.ticket (handle : Handle) : Ticket := ⟨handle.event.enqueueSeq, handle.spoolPath⟩

def Consumer.tickets : Consumer → List Ticket
  | .ready handle | .posting handle => [handle.ticket]
  | .retaining handle .write => [handle.event.ticket]
  | .retaining handle (.account candidate) | .retaining handle (.publish candidate) =>
    [⟨handle.event.enqueueSeq, some candidate.path⟩]
  | .receiving | .deferring _ _ | .finishing _ => []

/-- The path whose removal the consumer is about to attempt. -/
def Consumer.spent : Consumer → List SpoolPath
  | .finishing handle => handle.spoolPath.toList
  | _ => []

/-- The startup catalogue in the order the index will hold it. -/
def catalogue (startup : List Candidate) : List Candidate :=
  (({} : ReplayIndex).insertAll startup).candidates

namespace Forwarder

/-- Everything between the queue and the lane, as the line has it. -/
def waiting (s : Forwarder) : List Candidate :=
  s.replaying.toList ++ s.index.candidates ++ catalogue s.replayStartup ++ s.replayArrivals

def line (s : Forwarder) : List Ticket :=
  s.consumer.tickets ++ (s.queue.getD []).map QueueItem.ticket ++
    s.waiting.map Candidate.ticket ++ s.lane.tickets

def stored (s : Forwarder) : List (Nat × Nat) :=
  s.files.map fun file => (file.path, file.event.enqueueSeq)

/-- Files whose removal or quarantine failed so far. -/
def leftovers (s : Forwarder) : List SpoolPath :=
  s.deliveredCleanupRetries ++ s.quarantineRetries

def conveyor (s : Forwarder) : Conveyor where
  line := s.line
  left := s.posted
  spent := s.consumer.spent ++ s.leftovers
  stored := s.stored
  topRank := s.enqueueSeq
  nextSlot := s.nextUuid

end Forwarder

/-- A handle that already has a file carries the replay mark, or cannot carry it: its
    event is never made durable a second time. The head of the queue is not published. -/
def Consumer.MadeDurableOnce : Consumer → Prop
  | .ready handle | .posting handle =>
    handle.spoolPath.isSome → handle.event.markedSpooledReplay ∨ handle.event.decodes = false
  | .retaining handle stage =>
    handle.spoolPath = none ∧ handle.event.markedSpooledReplay ∧
      ∀ candidate, stage ≠ .publish candidate
  | .deferring handle _ => handle.spoolPath = none
  | .receiving | .finishing _ => True

/-- What holds of the shutdown sequence and the consumer at any time. -/
structure Orderly (s : Forwarder) : Prop where
  once : s.consumer.MadeDurableOnce
  deferred : ∀ handle stage, s.consumer = .deferring handle stage → s.shutdownRequested = true
  cleared : s.queuesCleared = true → s.shutdownRequested = true

/-- The pending count covers everything that is waiting to be replayed, and while an
    event is being admitted nothing is. -/
structure Fenced (s : Forwarder) : Prop where
  accounted : ∀ candidate ∈ s.waiting, candidate.path ∈ s.accounted
  publishing : ∀ event candidate, s.lane = .spooling event (.publish candidate) →
    candidate.path ∈ s.accounted
  admitting : ∀ event, s.lane = .admitting event → s.waiting = []
  uninitialized : s.index.initialized = false → s.replaying = none ∧ s.index.candidates = []
  initialized : s.index.initialized = true → s.replayStartup = []

theorem Event.marked_of_mark {event marked : Event} (mark : event.markSpooledReplay = some marked) :
    marked.markedSpooledReplay = true ∧ event.decodes = true := by
  unfold markSpooledReplay at mark
  split at mark
  next decodes =>
    cases mark
    simp [markedSpooledReplay, decodes]
  · cases mark

/-- The post of an event that can be marked and is not is that of an event without a file. -/
theorem Orderly.noFile (orderly : Orderly s)
    (posting : s.consumer = .posting handle) (unmarked : ¬ handle.event.markedSpooledReplay = true)
    (mark : handle.event.markSpooledReplay = some event) : handle.spoolPath = none := by
  have once := orderly.once
  rw [posting] at once
  simpa [unmarked, (Event.marked_of_mark mark).2] using mt once

theorem Orderly.unpublished (orderly : Orderly s)
    (retaining : s.consumer = .retaining handle (.publish candidate)) : False := by
  have once := orderly.once
  rw [retaining] at once
  exact once.2.2 candidate rfl

theorem candidates_insertAll_congr {first second : ReplayIndex}
    (same : first.candidates = second.candidates) (candidates : List Candidate) :
    (first.insertAll candidates).candidates = (second.insertAll candidates).candidates := by
  induction candidates generalizing first second with
  | nil => exact same
  | cons _ _ ih =>
    refine ih ?_
    unfold ReplayIndex.insert
    rw [same]
    split
    · exact same
    · rfl

@[simp] theorem catalogue_nil : catalogue [] = [] := rfl

namespace Forwarder

variable {s s' : Forwarder}

theorem moves_of_eq (same : s'.conveyor = s.conveyor) : Moves s.conveyor s'.conveyor := by
  rw [same]

theorem moves_of_move (moved : Move s.conveyor target)
    (same : s'.conveyor = target) : Moves s.conveyor s'.conveyor := by
  rw [same]
  exact .single moved

theorem line_of_lane {event : Event} (unwritten : s.lane.tickets = [event.ticket]) :
    s.conveyor.line = (s.consumer.tickets ++ (s.queue.getD []).map QueueItem.ticket ++
      s.waiting.map Candidate.ticket) ++ ⟨event.enqueueSeq, none⟩ :: [] := by
  rw [conveyor, line, unwritten]
  rfl

variable {handle : Handle}

theorem line_of_retaining (retaining : s.consumer = .retaining handle .write) :
    s.conveyor.line = [] ++ ⟨handle.event.enqueueSeq, none⟩ ::
      ((s.queue.getD []).map QueueItem.ticket ++ s.waiting.map Candidate.ticket ++
        s.lane.tickets) := by
  simp [conveyor, line, retaining, Consumer.tickets, Event.ticket]

/-- Nothing is waiting, so the lane's event takes the place right behind the queue. -/
theorem moves_sent (fenced : Fenced s) (admitting : s.lane = .admitting event) :
    Moves s.conveyor { s with
      queue := some (s.queue.getD [] ++ [QueueItem.event event]), lane := .free }.conveyor := by
  have empty := fenced.admitting event admitting
  have place : s.line = s.consumer.tickets ++ (s.queue.getD []).map QueueItem.ticket ++
      [event.ticket] := by
    simp [line, empty, admitting, Lane.tickets]
  refine moves_of_eq ?_
  simp only [conveyor, place]
  simp [line, show ({ s with
    queue := some (s.queue.getD [] ++ [.event event]),
    lane := .free } : Forwarder).waiting =
      [] from empty, Lane.tickets, QueueItem.ticket,
    stored, leftovers]

attribute [local simp] conveyor line waiting stored leftovers Lane.tickets Consumer.tickets
  Consumer.spent QueueItem.ticket Handle.ticket Event.ticket Candidate.ticket dropSpooledFile
  unaccountSpooledFile

theorem moves_finishing (held : s.Holds handle) :
    Moves s.conveyor { s with consumer := .finishing handle }.conveyor := by
  have front : s.conveyor.line = handle.ticket :: ((s.queue.getD []).map QueueItem.ticket ++
      s.waiting.map Candidate.ticket ++ s.lane.tickets) := by
    rcases held with held | held <;> simp [held]
  refine moves_of_move (.discard _ _ _ _ front (List.Perm.refl _)) ?_
  rcases held with held | held <;> simp [held]

variable {path : SpoolPath}

theorem filter_ne_of_notMem {paths : List SpoolPath} (absent : path ∉ paths) :
    paths.filter (fun other => decide (other ≠ path)) = paths := by
  refine List.filter_eq_self.mpr fun other member => ?_
  rw [decide_eq_true_eq]
  exact fun same => absent (same ▸ member)

theorem stored_filter :
    (s.files.filter fun file => file.path ≠ path).map
        (fun file => (file.path, file.event.enqueueSeq)) =
      s.stored.filter fun item => item.1 ≠ path := by
  simp only [stored, List.filter_map]
  rfl

theorem moves_removed (formed : WellFormed s.conveyor) (finishing : s.consumer = .finishing handle)
    (hasFile : handle.spoolPath = some path) :
    Moves s.conveyor { s.dropSpooledFile path with consumer := .receiving }.conveyor := by
  have once : path ∉ s.leftovers := by
    have distinct := (List.nodup_append.mp formed.distinct).1
    simp only [conveyor, finishing, Consumer.spent, hasFile, Option.toList_some,
      List.singleton_append, List.nodup_cons] at distinct
    exact distinct.1
  have cleared : (path :: s.leftovers).filter (fun other => decide (other ≠ path)) =
      s.leftovers := by
    rw [List.filter_cons_of_neg (by simp), filter_ne_of_notMem once]
  refine moves_of_move (.clear _ path) ?_
  simp only [conveyor, finishing, Consumer.spent, hasFile, Option.toList_some,
    List.singleton_append, cleared, ← stored_filter]
  simp [finishing]

variable {candidate : Candidate} {rest : List QueueItem}

theorem moves_dropped (receiving : s.consumer = .receiving)
    (head : s.queue = some (.spooled candidate :: rest)) (formed : WellFormed s.conveyor)
    (same : s'.conveyor = { s.conveyor with
      line := rest.map QueueItem.ticket ++ s.waiting.map Candidate.ticket ++ s.lane.tickets
      stored := s.stored.filter fun item => item.1 ≠ candidate.path }) :
    Moves s.conveyor s'.conveyor := by
  have front : s.conveyor.line = candidate.ticket :: (rest.map QueueItem.ticket ++
      s.waiting.map Candidate.ticket ++ s.lane.tickets) := by
    simp [receiving, head]
  have fresh : candidate.path ∉ s.leftovers := by
    intro member
    have spent : candidate.path ∈ s.conveyor.spent := List.mem_append_right _ member
    refine formed.spent_not_in_line spent (mem_slots.mpr ⟨candidate.enqueueSeq, ?_⟩)
    rw [front]
    exact List.mem_cons_self
  have left := Move.discard _ _ _ _ front (List.Perm.refl _)
  refine .tail (.single left) ?_
  rw [same]
  convert Move.clear _ candidate.path using 1
  simp only [conveyor, receiving, Consumer.spent, Candidate.ticket, Option.toList_some,
    List.nil_append, List.singleton_append]
  rw [List.filter_cons_of_neg (by simp), filter_ne_of_notMem fresh]

theorem moves_stranded {waiting ready : Bool} (receiving : s.consumer = .receiving)
    (head : s.queue = some (.spooled candidate :: rest)) :
    Moves s.conveyor { s with
      queue := some rest, replayWaiting := waiting, replayReady := ready
      quarantineRetries := candidate.path :: s.quarantineRetries }.conveyor := by
  have front : s.conveyor.line = candidate.ticket :: (rest.map QueueItem.ticket ++
      s.waiting.map Candidate.ticket ++ s.lane.tickets) := by
    simp [receiving, head]
  refine moves_of_move (.discard _ _ _
    (s.deliveredCleanupRetries ++ candidate.path :: s.quarantineRetries) front ?_) ?_
  · simp [receiving]
  · simp [receiving]

/-- The event read back from its file has the number of its place in line. -/
theorem moves_loaded (formed : WellFormed s.conveyor) {waiting ready : Bool}
    (receiving : s.consumer = .receiving) (head : s.queue = some (.spooled candidate :: rest))
    (found : s.files.find? (fun file => file.path = candidate.path) = some file) :
    Moves s.conveyor { s with
      queue := some rest, replayWaiting := waiting, replayReady := ready
      consumer := .ready ⟨file.event.markSpooledReplay.getD file.event,
        some candidate.path⟩ }.conveyor := by
  have inLine : candidate.ticket ∈ s.conveyor.line := by
    simp [head]
  have path : file.path = candidate.path := by simpa using List.find?_some found
  have held : (candidate.path, file.event.enqueueSeq) ∈ s.conveyor.stored :=
    path ▸ List.mem_map_of_mem (List.mem_of_find?_eq_some found)
  have rank := formed.stored_rank inLine held
  refine moves_of_eq ?_
  simp [receiving, head, rank]

theorem ranks_waiting :
    ranks (s.waiting.map Candidate.ticket) = s.waiting.map Candidate.enqueueSeq := by
  simp [ranks, Function.comp_def]

theorem slots_waiting : slots (s.waiting.map Candidate.ticket) = s.waiting.map Candidate.path := by
  simp [slots, Function.comp_def]

theorem rising_waiting (formed : WellFormed s.conveyor) : Rising s.waiting := by
  have rising := formed.line_rising
  simp only [conveyor, line, ranks_append, ranks_waiting] at rising
  have middle := (List.pairwise_append.mp (List.pairwise_append.mp rising).1).2.1
  exact List.pairwise_map.mp middle

theorem paths_waiting (formed : WellFormed s.conveyor) : (s.waiting.map Candidate.path).Nodup := by
  have distinct := formed.slots_nodup
  simp only [conveyor, line, slots_append, slots_waiting] at distinct
  exact (List.nodup_append.mp (List.nodup_append.mp distinct).1).2.1

theorem refreshIndex_waiting (fenced : Fenced s) (formed : WellFormed s.conveyor)
    (stepped : s.refreshIndex = some s') :
    s'.waiting = s.waiting ∧ s'.replaying = none ∧ s'.index.initialized = true ∧
      s'.replayStartup = [] := by
  unfold refreshIndex at stepped
  split at stepped
  next idle =>
    rw [Option.isNone_iff_eq_none] at idle
    have rising := rising_waiting formed
    have paths := paths_waiting formed
    simp only [Option.some.injEq] at stepped
    generalize found : (if s.replayReady then s.index.unblockTarget else s.index) = index at stepped
    have candidates : index.candidates = s.index.candidates := by
      rw [← found]
      split <;> simp
    have initialized : index.initialized = s.index.initialized := by
      rw [← found]
      split
      · unfold ReplayIndex.unblockTarget
        split <;> rfl
      · rfl
    have startup : (if index.initialized then [] else s.replayStartup) = s.replayStartup := by
      split
      next already =>
        exact (fenced.initialized (initialized ▸ already)).symm
      · rfl
    rw [startup] at stepped
    have catalogued : (ReplayIndex.insertAll { index with initialized := true }
        s.replayStartup).candidates = s.index.candidates ++ catalogue s.replayStartup := by
      cases known : s.index.initialized with
      | true =>
        rw [fenced.initialized known]
        simp [ReplayIndex.insertAll, candidates]
      | false =>
        rw [(fenced.uninitialized known).2]
        exact @candidates_insertAll_congr { index with initialized := true } {}
          (candidates.trans (fenced.uninitialized known).2) _
    have merged : (ReplayIndex.insertAll { index with initialized := true }
        (s.replayStartup ++ s.replayArrivals)).candidates = s.waiting := by
      simp only [waiting, idle, Option.toList_none, List.nil_append] at rising paths ⊢
      rw [ReplayIndex.insertAll, List.foldl_append]
      rw [← catalogued] at rising paths ⊢
      exact ReplayIndex.candidates_insertAll_above rising paths
    subst stepped
    refine ⟨?_, idle, ReplayIndex.initialized_insertAll _ _, rfl⟩
    rw [← merged]
    simp [idle]
  · cases stepped

theorem popNext_spec (index : ReplayIndex) :
    index.popNext.1.toList ++ index.popNext.2.candidates = index.candidates ∧
      index.popNext.2.initialized = index.initialized := by
  unfold ReplayIndex.popNext
  split
  · split
    next empty =>
      simp
    next candidate rest held =>
      simp [held]
  · simp

theorem popNext_waiting (stepped : s.popNext = some s') : s'.waiting = s.waiting := by
  have taken := (popNext_spec s.index).1
  unfold popNext at stepped
  split at stepped
  next idle =>
    rw [Option.isNone_iff_eq_none] at idle
    split at stepped
    next candidate index popped =>
      cases stepped
      rw [popped] at taken
      simp [idle, ← taken]
    next index popped =>
      cases stepped
      rw [popped] at taken
      simp [← taken]
  · cases stepped

theorem reinsert_waiting (formed : WellFormed s.conveyor) (held : s.replaying = some candidate)
    {index : ReplayIndex} (same : index.candidates = s.index.candidates) :
    (index.insert candidate).candidates = candidate :: s.index.candidates := by
  have rising := rising_waiting formed
  have paths := paths_waiting formed
  simp only [waiting, held, Option.toList_some, List.cons_append, List.map_cons,
    List.map_append] at rising paths
  rw [← same]
  refine ReplayIndex.candidates_insert_below ?_ ?_
  · rw [same]
    refine fun member => (List.nodup_cons.mp paths).1 ?_
    exact List.mem_append_left _ (List.mem_append_left _ member)
  · rw [same]
    refine fun other member => (List.pairwise_cons.mp rising).1 other ?_
    exact List.mem_append_left _ (List.mem_append_left _ member)

theorem moves_cleaned (formed : WellFormed s.conveyor)
    (outstanding : path ∈ s.deliveredCleanupRetries ++ s.quarantineRetries) :
    Moves s.conveyor { s.dropSpooledFile path with
      deliveredCleanupRetries := s.deliveredCleanupRetries.filter (· ≠ path)
      quarantineRetries := s.quarantineRetries.filter (· ≠ path) }.conveyor := by
  have apart : path ∉ s.consumer.spent := fun member =>
    (List.nodup_append.mp (List.nodup_append.mp formed.distinct).1).2.2 _ member _ outstanding rfl
  refine moves_of_move (.clear _ path) ?_
  simp only [conveyor, List.filter_append, filter_ne_of_notMem apart, ← stored_filter, leftovers]
  rfl

/-- As long as no shutdown is requested, every step is a number of moves of the line. -/
theorem step_moves (orderly : Orderly s) (fenced : Fenced s) (formed : WellFormed s.conveyor)
    (online : s.shutdownRequested = false) (stepped : s.step a = some s') :
    Moves s.conveyor s'.conveyor := by
  cases step_outcome stepped with
  | idle | flags | request => exact moves_of_eq rfl
  | clear requested | deferred _ requested | released _ requested => simp [online] at requested
  | deferralWritten deferring | deferralAccounted deferring | deferralEnded deferring =>
    simp [orderly.deferred _ _ deferring] at online
  | headPublished retaining => exact (orderly.unpublished retaining).elim
  | skip => exact moves_of_move (.skip _ 1) rfl
  | join free next =>
    refine moves_of_move (.join _) ?_
    simp [free, next]
  | enter checking =>
    refine moves_of_eq ?_
    simp [checking]
  | spool held same =>
    refine moves_of_eq ?_
    rcases held with held | held <;> simp [held, same]
  | sent admitting => exact moves_sent fenced admitting
  | refused admitting same =>
    refine moves_of_move (.lose _ _ _ _ (line_of_lane (by rw [admitting]; rfl))) ?_
    simp [same]
  | laneWritten spooling =>
    refine moves_of_move (.store _ _ _ _ (line_of_lane (by rw [spooling]; rfl))) ?_
    simp [SpoolFile.candidate]
  | laneLost spooling =>
    refine moves_of_move (.lose _ _ _ _ (line_of_lane (by rw [spooling]; rfl))) ?_
    simp
  | laneAccounted spooling | lanePublished spooling =>
    refine moves_of_eq ?_
    simp [spooling, accountSpooledFile]
  | taken receiving head =>
    refine moves_of_eq ?_
    simp [receiving, head]
  | loaded receiving head found => exact moves_loaded formed receiving head found
  | @vanished candidate _ _ _ receiving head absent =>
    have same : s.files.filter (fun file => file.path ≠ candidate.path) = s.files := by
      simpa using absent
    refine moves_dropped receiving head formed ?_
    rw [← stored_filter, same]
    simp [receiving]
  | quarantined receiving head =>
    refine moves_dropped receiving head formed ?_
    rw [← stored_filter]
    simp [receiving]
  | stranded receiving head => exact moves_stranded receiving head
  | started held _ | again held =>
    refine moves_of_eq ?_
    simp [held]
  | gaveUp held => exact moves_finishing held
  | @accepted handle posting =>
    have front : s.conveyor.line = handle.ticket :: ((s.queue.getD []).map QueueItem.ticket ++
        s.waiting.map Candidate.ticket ++ s.lane.tickets) := by
      simp [posting]
    refine moves_of_move (.deliver _ _ _ front) ?_
    simp [posting]
  | retained posting unmarked mark =>
    refine moves_of_eq ?_
    simp [posting, orderly.noFile posting unmarked mark, Event.enqueueSeq_of_mark mark]
  | headWritten retaining =>
    refine moves_of_move (.store _ _ _ _ (line_of_retaining retaining)) ?_
    simp [retaining, SpoolFile.candidate]
  | headLost retaining =>
    have once := orderly.once
    rw [retaining] at once
    refine moves_of_move (.lose _ _ _ _ (line_of_retaining retaining)) ?_
    simp [retaining, once.1]
  | headAccounted retaining =>
    refine moves_of_eq ?_
    simp [retaining, accountSpooledFile]
  | finished finishing noFile =>
    refine moves_of_eq ?_
    simp [finishing, noFile]
  | removed finishing hasFile => exact moves_removed formed finishing hasFile
  | leftOver finishing hasFile =>
    refine moves_of_eq ?_
    simp [finishing, hasFile]
  | closed _ empty =>
    have retired : s.queue = some [] := by
      refine empty.resolve_right fun cleared => ?_
      simp [orderly.cleared cleared] at online
    refine moves_of_eq ?_
    simp [retired]
  | refreshed refreshes =>
    have same := (refreshIndex_waiting fenced formed refreshes).1
    refine moves_of_eq ?_
    simp only [conveyor, line, same]
    rfl
  | popped pops =>
    have same := popNext_waiting pops
    refine moves_of_eq ?_
    simp only [conveyor, line, same]
    rfl
  | replayed held _ places =>
    refine moves_of_eq ?_
    rcases places with ⟨sent, same⟩ | ⟨kept, before, rfl, same⟩
    · simp [held, sent, same]
    · simp [held, kept, reinsert_waiting formed held same]
  | cleaned outstanding => exact moves_cleaned formed outstanding

end Forwarder

end Vpsman.Forward
