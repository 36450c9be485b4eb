import Vpsman.Forward.Forwarder
import Vpsman.Forward.TargetIndex

/-! # Wake-ups of blocked targets

The replay loop blocks a target whose queue is full. It is told by the consumer of the queue
when an item was taken out: the loop registers a watch before it tries to send, and a
consumer that finds the watch moves the target to the ready list. The loop and the consumers
are interleaved between any two accesses to what they share, so a refresh of the index and
a signal can be under way at the same time.
-/

namespace Vpsman.Forward

open Vpsman.Lib

variable {Target Path : Type} [DecidableEq Target] [LinearOrder Path]

inductive GatewayForwardQueueItem (Target Path : Type)
  | event
  | spooled (candidate : GatewayPendingSpoolCandidate Target Path)
  | telemetry

/-- Where the consumer of a queue is: between items, with an item in hand for which
    `mark_replay_target_ready` is still to be called, or inside that call, the watch removed
    and the target not yet listed as ready. -/
inductive Receiver
  | idle
  | received
  | marking
  deriving DecidableEq, Repr

/-- The queue of a target and its consumer. The queue of a consumer that has terminated stays
    registered until a sender or the supervisor finds it closed. -/
inductive TargetQueue (Target Path : Type)
  | absent
  | running (items : List (GatewayForwardQueueItem Target Path)) (receiver : Receiver)
  | closed

inductive EnqueueResult
  | accepted
  | globalFull
  | unavailable
  | full
  | closed
  deriving DecidableEq, Repr

/-- What the rest of the gateway decides: whether the queues have room in all, whether a slot
    can be reserved and a new consumer started, and which files the accounting takes on. -/
structure Choice (Target Path : Type) where
  depthBelow : Bool
  slotReserved : Bool
  consumerStarted : Bool
  accounted : GatewayPendingSpoolCandidate Target Path → Bool

/-- `enqueue_queue_item`, up to what it does with an item that was not taken. -/
def TargetQueue.enqueueQueueItem (queue : TargetQueue Target Path) (item : GatewayForwardQueueItem Target Path)
    (choice : Choice Target Path) : EnqueueResult × TargetQueue Target Path :=
  if choice.slotReserved then
    match queue with
    | .absent =>
      if choice.consumerStarted then (.accepted, .running [item] .idle) else (.unavailable, .absent)
    | .running items receiver =>
      if items.length < perTargetQueueCapacity then
        (.accepted, .running (items ++ [item]) receiver)
      else (.full, .running items receiver)
    | .closed => (.closed, .absent)
  else (.globalFull, queue)

/-- Where the replay loop is in a pass. -/
inductive LoopState (Target Path : Type)
  | resting
  | unblocking (taken : List Target)
  | scanning
  | popped (candidate : GatewayPendingSpoolCandidate Target Path)
  | watched (candidate : GatewayPendingSpoolCandidate Target Path)
  | accepted (candidate : GatewayPendingSpoolCandidate Target Path)
  | cleared (candidate : GatewayPendingSpoolCandidate Target Path)
  | full (candidate : GatewayPendingSpoolCandidate Target Path)
  | closed (candidate : GatewayPendingSpoolCandidate Target Path)
  | marking (candidate : GatewayPendingSpoolCandidate Target Path)
  | returning (candidate : GatewayPendingSpoolCandidate Target Path) (stop : Bool)

structure GatewaySpoolStartup (Target Path : Type) where
  candidates : List (GatewayPendingSpoolCandidate Target Path) := []
  fatalError : Bool := false

structure Replay (Target Path : Type) [LinearOrder Path] where
  index : GatewaySpoolReplayIndex Target Path := {}
  replayStartup : GatewaySpoolStartup Target Path := {}
  replayArrivals : List (GatewayPendingSpoolCandidate Target Path) := []
  replayWaitingTargets : Finset Target := ∅
  replayReadyTargets : List Target := []
  queues : Target → TargetQueue Target Path := fun _ => .absent
  loop : LoopState Target Path := .resting

namespace Replay

def insertReplayCandidates (index : GatewaySpoolReplayIndex Target Path)
    (accounted : GatewayPendingSpoolCandidate Target Path → Bool)
    (candidates : List (GatewayPendingSpoolCandidate Target Path)) :
    GatewaySpoolReplayIndex Target Path :=
  (candidates.filter accounted).foldl GatewaySpoolReplayIndex.insert index

/-- The rest of `refresh_replay_index`, when the ready targets have been unblocked. -/
def catalogue (replay : Replay Target Path)
    (accounted : GatewayPendingSpoolCandidate Target Path → Bool) : Replay Target Path :=
  if replay.index.initialized then
    { replay with
      index := insertReplayCandidates replay.index accounted replay.replayArrivals
      replayArrivals := []
      loop := .scanning }
  else
    let index := { replay.index with initialized := true }
    let startup := replay.replayStartup
    if startup.fatalError then { replay with index, replayStartup := {}, loop := .resting }
    else
      let index := insertReplayCandidates index accounted startup.candidates
      { replay with
        index := insertReplayCandidates index accounted replay.replayArrivals
        replayStartup := {}
        replayArrivals := []
        loop := .scanning }

/-- Send the candidate to the queue of its target. -/
def enqueue (replay : Replay Target Path) (candidate : GatewayPendingSpoolCandidate Target Path)
    (choice : Choice Target Path) : Replay Target Path :=
  let sent := (replay.queues candidate.targetKey).enqueueQueueItem (.spooled candidate) choice
  { replay with
    queues := Function.update replay.queues candidate.targetKey sent.2
    loop := match sent.1 with
      | .accepted => .accepted candidate
      | .globalFull => .returning candidate true
      | .unavailable => .returning candidate true
      | .full => .full candidate
      | .closed => .closed candidate }

/-- The next access of the replay loop to what it shares, or to its index. -/
def loopStep (replay : Replay Target Path) (choice : Choice Target Path) : Replay Target Path :=
  match replay.loop with
  | .resting =>
    { replay with replayReadyTargets := [], loop := .unblocking replay.replayReadyTargets }
  | .unblocking [] => replay.catalogue choice.accounted
  | .unblocking (targetKey :: taken) =>
    { replay with index := replay.index.unblockTarget targetKey, loop := .unblocking taken }
  | .scanning =>
    if choice.depthBelow then
      { replay with
        index := replay.index.popNext.2
        loop := match replay.index.popNext.1 with
          | none => .resting
          | some candidate => .popped candidate }
    else { replay with loop := .resting }
  | .popped candidate =>
    { replay with
      replayWaitingTargets := insert candidate.targetKey replay.replayWaitingTargets
      loop := .watched candidate }
  | .watched candidate => replay.enqueue candidate choice
  | .accepted candidate =>
    { replay with
      replayWaitingTargets := replay.replayWaitingTargets.erase candidate.targetKey
      loop := .cleared candidate }
  | .cleared candidate =>
    { replay with
      index := replay.index.scheduleIfCandidates candidate.targetKey
      loop := .scanning }
  | .full candidate =>
    { replay with
      index := replay.index.blockTarget candidate.targetKey
      loop := .returning candidate false }
  | .closed candidate =>
    if candidate.targetKey ∈ replay.replayWaitingTargets then
      { replay with
        replayWaitingTargets := replay.replayWaitingTargets.erase candidate.targetKey
        loop := .marking candidate }
    else { replay with loop := .returning candidate false }
  | .marking candidate =>
    { replay with
      replayReadyTargets := replay.replayReadyTargets ++ [candidate.targetKey]
      loop := .returning candidate false }
  | .returning candidate stop =>
    { replay with
      index := replay.index.insert candidate
      loop := if stop then .resting else .scanning }

inductive Action (Target Path : Type)
  | loop (choice : Choice Target Path)
  /-- Another caller of `enqueue_queue_item`. -/
  | produce (targetKey : Target) (item : GatewayForwardQueueItem Target Path)
      (choice : Choice Target Path)
  | spool (candidate : GatewayPendingSpoolCandidate Target Path)
  | receive (targetKey : Target)
  /-- The two accesses of `mark_replay_target_ready`. -/
  | unwatch (targetKey : Target)
  | announce (targetKey : Target)
  | retire (targetKey : Target)
  | terminate (targetKey : Target)
  | unregister (targetKey : Target)

def setQueue (replay : Replay Target Path) (targetKey : Target) (queue : TargetQueue Target Path) :
    Replay Target Path :=
  { replay with queues := Function.update replay.queues targetKey queue }

def step (replay : Replay Target Path) : Action Target Path → Option (Replay Target Path)
  | .loop choice => some (replay.loopStep choice)
  | .produce targetKey item choice =>
    some (replay.setQueue targetKey ((replay.queues targetKey).enqueueQueueItem item choice).2)
  | .spool candidate =>
    some { replay with replayArrivals := replay.replayArrivals ++ [candidate] }
  | .receive targetKey =>
    match replay.queues targetKey with
    | .running (_ :: items) .idle => some (replay.setQueue targetKey (.running items .received))
    | _ => none
  | .unwatch targetKey =>
    match replay.queues targetKey with
    | .running items .received =>
      if targetKey ∈ replay.replayWaitingTargets then
        some ({ replay with
            replayWaitingTargets := replay.replayWaitingTargets.erase targetKey }.setQueue
          targetKey (.running items .marking))
      else some (replay.setQueue targetKey (.running items .idle))
    | _ => none
  | .announce targetKey =>
    match replay.queues targetKey with
    | .running items .marking =>
      some ({ replay with
          replayReadyTargets := replay.replayReadyTargets ++ [targetKey] }.setQueue
        targetKey (.running items .idle))
    | _ => none
  | .retire targetKey =>
    match replay.queues targetKey with
    | .running [] .idle => some (replay.setQueue targetKey .absent)
    | _ => none
  | .terminate targetKey =>
    -- the two accesses of a signal have no await point between them
    match replay.queues targetKey with
    | .running _ .idle => some (replay.setQueue targetKey .closed)
    | .running _ .received => some (replay.setQueue targetKey .closed)
    | _ => none
  | .unregister targetKey =>
    match replay.queues targetKey with
    | .closed => some (replay.setQueue targetKey .absent)
    | _ => none

/-- A gateway that has just started, with what it found in the spool directory. -/
def Start (replay : Replay Target Path) : Prop :=
  ∃ startup, replay = { replayStartup := startup }

/-- The targets that a refresh has taken off the ready list and not yet unblocked. -/
def taken (replay : Replay Target Path) : List Target :=
  match replay.loop with
  | .unblocking taken => taken
  | _ => []

end Replay

namespace TargetQueue

/-- The queue holds an item, or its consumer one that it has not signalled. -/
def HoldsItem : TargetQueue Target Path → Prop
  | .running items receiver => items ≠ [] ∨ receiver = .received
  | _ => False

def Alive : TargetQueue Target Path → Prop
  | .running _ _ => True
  | _ => False

def Marking : TargetQueue Target Path → Prop
  | .running _ receiver => receiver = .marking
  | _ => False

instance : (queue : TargetQueue Target Path) → Decidable queue.Alive
  | .running _ _ => .isTrue trivial
  | .absent => .isFalse id
  | .closed => .isFalse id

instance : (queue : TargetQueue Target Path) → Decidable queue.Marking
  | .running _ receiver => inferInstanceAs (Decidable (receiver = .marking))
  | .absent => .isFalse id
  | .closed => .isFalse id

/-- A consumer that is there will come to signal. -/
def WillSignal (queue : TargetQueue Target Path) : Prop := queue.Alive → queue.HoldsItem

omit [DecidableEq Target] [LinearOrder Path] in
theorem enqueueQueueItem_cases (queue : TargetQueue Target Path) :
    let sent := queue.enqueueQueueItem item choice
    (queue.Marking → sent.2.Marking) ∧ (queue.WillSignal → sent.2.WillSignal) ∧
    (sent.1 = .full → sent.2.WillSignal) := by
  unfold enqueueQueueItem
  split
  · cases queue with
    | absent =>
      dsimp only
      split
      · exact ⟨False.elim, fun _ _ => .inl (List.cons_ne_nil _ _), fun _ _ => .inl (List.cons_ne_nil _ _)⟩
      · exact ⟨False.elim, fun _ => False.elim, fun _ => False.elim⟩
    | running items =>
      dsimp only
      split
      · exact ⟨id, fun _ _ => .inl (List.append_ne_nil_of_right_ne_nil _ (List.cons_ne_nil _ _)), nofun⟩
      next room =>
        have some : items ≠ [] := by
          rintro rfl
          exact room (show 0 < perTargetQueueCapacity by decide)
        exact ⟨id, id, fun _ _ => .inl some⟩
    | closed => exact ⟨False.elim, fun _ => False.elim, fun _ => False.elim⟩
  · exact ⟨id, id, nofun⟩

end TargetQueue

namespace Replay

/-- The loop will hear of the target: it is listed as ready, or on its way there, or watched
    with an item ahead of the signal. -/
def Woken (replay : Replay Target Path) (targetKey : Target) : Prop :=
  targetKey ∈ replay.replayReadyTargets ∨ targetKey ∈ replay.taken ∨
  (replay.queues targetKey).Marking ∨
  targetKey ∈ replay.replayWaitingTargets ∧ (replay.queues targetKey).WillSignal

def Watched (replay : Replay Target Path) (targetKey : Target) : Prop :=
  targetKey ∈ replay.replayReadyTargets ∨ (replay.queues targetKey).Marking ∨
  targetKey ∈ replay.replayWaitingTargets

/-- What the loop knows of the candidate in its hands. -/
def InHand (replay : Replay Target Path) : Prop :=
  match replay.loop with
  | .popped candidate => candidate.targetKey ∉ replay.index.blockedTargets
  | .watched candidate =>
    candidate.targetKey ∉ replay.index.blockedTargets ∧ replay.Watched candidate.targetKey
  | .accepted candidate => candidate.targetKey ∉ replay.index.blockedTargets
  | .full candidate => replay.Woken candidate.targetKey
  | .closed candidate => candidate.targetKey ∉ replay.index.blockedTargets
  | _ => True

structure Invariant (replay : Replay Target Path) : Prop where
  sound : replay.index.Sound
  woken : ∀ targetKey ∈ replay.index.blockedTargets, replay.Woken targetKey
  inHand : replay.InHand

variable {replay replay' : Replay Target Path} {targetKey : Target}

theorem Invariant.start (start : replay.Start) : replay.Invariant := by
  obtain ⟨startup, rfl⟩ := start
  exact ⟨.empty, fun _ blocked => absurd blocked (Finset.notMem_empty _), trivial⟩

/-! ## Consumers and producers -/

/-- Neither the index nor the loop is touched, and no signal gets lost. -/
structure Elsewhere (replay replay' : Replay Target Path) : Prop where
  index : replay'.index = replay.index
  loop : replay'.loop = replay.loop
  woken : ∀ targetKey, replay.Woken targetKey → replay'.Woken targetKey
  watched : ∀ targetKey, replay.Watched targetKey → replay'.Watched targetKey

theorem Invariant.elsewhere (invariant : replay.Invariant) (elsewhere : Elsewhere replay replay') :
    replay'.Invariant := by
  refine ⟨elsewhere.index ▸ invariant.sound, ?_, ?_⟩
  · rw [elsewhere.index]
    exact fun targetKey blocked => elsewhere.woken targetKey (invariant.woken targetKey blocked)
  have inHand := invariant.inHand
  unfold InHand at inHand ⊢
  rw [elsewhere.loop, elsewhere.index]
  split at inHand
  · exact inHand
  · exact inHand.imp_right (elsewhere.watched _)
  · exact inHand
  · exact elsewhere.woken _ inHand
  · exact inHand
  · trivial

omit [DecidableEq Target] in
theorem taken_congr (same : replay'.loop = replay.loop) : replay'.taken = replay.taken := by
  unfold taken
  rw [same]

theorem Elsewhere.of_target (index : replay'.index = replay.index)
    (loop : replay'.loop = replay.loop)
    (ready : replay.replayReadyTargets ⊆ replay'.replayReadyTargets)
    (waiting : ∀ other ∈ replay.replayWaitingTargets, other ≠ targetKey →
      other ∈ replay'.replayWaitingTargets)
    (queues : ∀ other, other ≠ targetKey → replay'.queues other = replay.queues other)
    (woken : replay.Woken targetKey → replay'.Woken targetKey)
    (watched : replay.Watched targetKey → replay'.Watched targetKey) : Elsewhere replay replay' := by
  refine ⟨index, loop, ?_, ?_⟩
  · intro other here
    by_cases same : other = targetKey
    · exact same ▸ woken (same ▸ here)
    · unfold Woken at here ⊢
      rw [taken_congr loop, queues other same]
      refine here.imp (@ready other) (Or.imp_right (Or.imp_right (And.imp_left ?_)))
      exact fun member => waiting other member same
  · intro other here
    by_cases same : other = targetKey
    · exact same ▸ watched (same ▸ here)
    · unfold Watched at here ⊢
      rw [queues other same]
      refine here.imp (@ready other) (Or.imp_right ?_)
      exact fun member => waiting other member same

theorem setQueue_self : (replay.setQueue targetKey queue).queues targetKey = queue :=
  Function.update_self _ _ _

theorem setQueue_of_ne (different : other ≠ targetKey) :
    (replay.setQueue targetKey queue).queues other = replay.queues other :=
  Function.update_of_ne different _ _

theorem Elsewhere.setQueue (marking : (replay.queues targetKey).Marking → queue.Marking)
    (signal : targetKey ∈ replay.replayWaitingTargets → (replay.queues targetKey).WillSignal →
      queue.WillSignal) : Elsewhere replay (replay.setQueue targetKey queue) := by
  refine .of_target rfl rfl (fun _ member => member) (fun _ member _ => member)
    (fun _ different => setQueue_of_ne different) ?_ ?_
  · intro here
    unfold Woken
    rw [setQueue_self]
    refine here.imp_right (Or.imp_right (Or.imp marking ?_))
    rintro ⟨waiting, will⟩
    exact ⟨waiting, signal waiting will⟩
  · intro here
    unfold Watched
    rw [setQueue_self]
    exact here.imp_right (Or.imp_left marking)

theorem step_elsewhere (stepped : replay.step action = some replay') :
    (∃ choice, action = .loop choice) ∨ Elsewhere replay replay' := by
  cases action with
  | loop choice => exact .inl ⟨choice, rfl⟩
  | produce targetKey =>
    cases stepped
    obtain ⟨marking, signal, _⟩ := TargetQueue.enqueueQueueItem_cases (replay.queues targetKey)
    exact .inr (.setQueue marking fun _ => signal)
  | spool =>
    cases stepped
    exact .inr ⟨rfl, rfl, fun _ woken => woken, fun _ watched => watched⟩
  | receive =>
    unfold step at stepped
    dsimp only at stepped
    split at stepped
    next queue =>
      cases stepped
      refine .inr (.setQueue ?_ fun _ _ _ => .inr rfl)
      rw [queue]
      exact nofun
    · cases stepped
  | unwatch =>
    unfold step at stepped
    dsimp only at stepped
    split at stepped
    next queue =>
      split at stepped
      · cases stepped
        refine .inr (.of_target rfl rfl (fun _ member => member) ?_
          (fun _ different => setQueue_of_ne different) ?_ ?_)
        · exact fun other member different => Finset.mem_erase.mpr ⟨different, member⟩
        · refine fun _ => .inr (.inr (.inl ?_))
          rw [setQueue_self]
          rfl
        · refine fun _ => .inr (.inl ?_)
          rw [setQueue_self]
          rfl
      next unwatched =>
        cases stepped
        refine .inr (.setQueue ?_ fun waiting => absurd waiting unwatched)
        rw [queue]
        exact nofun
    · cases stepped
  | announce targetKey =>
    unfold step at stepped
    dsimp only at stepped
    split at stepped
    · cases stepped
      have ready := List.mem_append_right replay.replayReadyTargets (List.mem_singleton_self targetKey)
      exact .inr (.of_target rfl rfl (List.subset_append_left _ _)
        (fun _ member _ => member) (fun _ different => setQueue_of_ne different)
        (fun _ => .inl ready) (fun _ => .inl ready))
    · cases stepped
  | retire targetKey | unregister targetKey | terminate =>
    unfold step at stepped
    dsimp only at stepped
    split at stepped
    all_goals cases stepped
    all_goals
      rename_i queue
      refine .inr (.setQueue ?_ fun _ _ => False.elim)
      rw [queue]
      exact nofun

/-! ## The replay loop -/

omit [DecidableEq Target] in
theorem Woken.imp (woken : replay.Woken targetKey) (ready : targetKey ∈ replay.replayReadyTargets →
      targetKey ∈ replay'.replayReadyTargets ∨ targetKey ∈ replay'.taken)
    (taken : targetKey ∈ replay.taken → targetKey ∈ replay'.taken)
    (waiting : targetKey ∈ replay.replayWaitingTargets → targetKey ∈ replay'.replayWaitingTargets)
    (queues : replay'.queues = replay.queues) : replay'.Woken targetKey := by
  unfold Woken
  rw [queues]
  rcases woken with listed | listed | marking | ⟨watched, signal⟩
  · exact (ready listed).imp_right .inl
  · exact .inr (.inl (taken listed))
  · exact .inr (.inr (.inl marking))
  · exact .inr (.inr (.inr ⟨waiting watched, signal⟩))

omit [DecidableEq Target] in
theorem Woken.go_on (woken : replay.Woken targetKey) (settled : replay.taken = [])
    (ready : replay.replayReadyTargets ⊆ replay'.replayReadyTargets)
    (waiting : targetKey ∈ replay.replayWaitingTargets → targetKey ∈ replay'.replayWaitingTargets)
    (queues : replay'.queues = replay.queues) : replay'.Woken targetKey := by
  refine woken.imp (fun listed => .inl (ready listed)) ?_ waiting queues
  rw [settled]
  exact fun listed => absurd listed List.not_mem_nil

theorem insertReplayCandidates_cases {index : GatewaySpoolReplayIndex Target Path}
    (sound : index.Sound) : (insertReplayCandidates index accounted candidates).Sound ∧
    (insertReplayCandidates index accounted candidates).blockedTargets = index.blockedTargets := by
  refine List.foldlRecOn (motive := fun reached : GatewaySpoolReplayIndex Target Path =>
    reached.Sound ∧ reached.blockedTargets = index.blockedTargets) _ _ ⟨sound, rfl⟩ ?_
  rintro reached ⟨sound, blocked⟩ candidate _
  exact ⟨sound.insert, GatewaySpoolReplayIndex.blockedTargets_insert.trans blocked⟩

section

variable (invariant : replay.Invariant)
include invariant

theorem Invariant.moved (settled : replay.taken = []) (sound : replay'.index.Sound)
    (blocked : replay'.index.blockedTargets = replay.index.blockedTargets)
    (same : replay'.replayReadyTargets = replay.replayReadyTargets ∧
      replay'.replayWaitingTargets = replay.replayWaitingTargets ∧ replay'.queues = replay.queues)
    (inHand : replay'.InHand) : replay'.Invariant := by
  obtain ⟨ready, waiting, queues⟩ := same
  refine ⟨sound, fun targetKey here => ?_, inHand⟩
  rw [blocked] at here
  refine (invariant.woken targetKey here).go_on settled ?_ ?_ queues
  · rw [ready]
    exact List.Subset.refl _
  · rw [waiting]
    exact id

theorem Invariant.catalogue (settled : replay.taken = []) :
    (replay.catalogue accounted).Invariant := by
  have sound' : ({ replay.index with initialized := true } :
      GatewaySpoolReplayIndex Target Path).Sound :=
    invariant.sound.retoken ⟨rfl, rfl⟩ invariant.sound.tokens invariant.sound.unblocked
      invariant.sound.waits
  unfold Replay.catalogue
  split
  · obtain ⟨sound, blocked⟩ := insertReplayCandidates_cases invariant.sound
    exact invariant.moved settled sound blocked ⟨rfl, rfl, rfl⟩ trivial
  · dsimp only
    split
    · exact invariant.moved settled sound' rfl ⟨rfl, rfl, rfl⟩ trivial
    · obtain ⟨sound, blocked⟩ := insertReplayCandidates_cases sound'
      obtain ⟨sound, blocked'⟩ := insertReplayCandidates_cases sound
      exact invariant.moved settled sound (blocked'.trans blocked) ⟨rfl, rfl, rfl⟩ trivial

theorem Invariant.popNext (settled : replay.taken = []) :
    ({ replay with
        index := replay.index.popNext.2
        loop := match replay.index.popNext.1 with
          | none => .resting
          | some candidate => .popped candidate } : Replay Target Path).Invariant := by
  have turn := invariant.sound.popNext
  generalize replay.index.popNext = popped at turn ⊢
  cases turn with
  | idle idle =>
    refine invariant.moved settled (invariant.sound.retoken ⟨rfl, rfl⟩ (fun scheduled => ?_)
      invariant.sound.unblocked invariant.sound.waits) rfl ⟨rfl, rfl, rfl⟩ trivial
    rw [idle] at scheduled
    exact absurd scheduled (Finset.notMem_empty _)
  | taken scheduled _ _ _ _ blockedTargets sound =>
    refine invariant.moved settled sound blockedTargets ⟨rfl, rfl, rfl⟩ ?_
    change _ ∉ _
    rw [blockedTargets]
    exact invariant.sound.unblocked scheduled

/-- A send that finds the queue full leaves the watch with items ahead of the signal. -/
theorem Invariant.enqueue (loop : replay.loop = .watched candidate) :
    (replay.enqueue candidate choice).Invariant := by
  have inHand := invariant.inHand
  unfold InHand at inHand
  rw [loop] at inHand
  obtain ⟨free, watched⟩ := inHand
  have settled : replay.taken = [] := by
    unfold taken
    rw [loop]
  obtain ⟨marking, signal, full⟩ := TargetQueue.enqueueQueueItem_cases
    (replay.queues candidate.targetKey)
  unfold Replay.enqueue
  dsimp only
  generalize (replay.queues candidate.targetKey).enqueueQueueItem (.spooled candidate) choice = sent
    at marking signal full
  refine ⟨invariant.sound, fun targetKey here => ?_, ?_⟩
  · have different : targetKey ≠ candidate.targetKey := by
      rintro rfl
      exact free here
    have woken := invariant.woken targetKey here
    unfold Woken at woken ⊢
    rw [settled] at woken
    dsimp only
    rw [Function.update_of_ne different]
    exact woken.imp_right (Or.imp_left fun listed => absurd listed List.not_mem_nil)
  · cases result : sent.1 with
    | accepted | closed => exact free
    | globalFull | unavailable => trivial
    | full =>
      change _ ∈ _ ∨ _ ∈ _ ∨ _ ∨ _
      dsimp only
      rw [Function.update_self]
      rcases watched with listed | marked | waiting
      · exact .inl listed
      · exact .inr (.inr (.inl (marking marked)))
      · exact .inr (.inr (.inr ⟨waiting, full result⟩))

theorem Invariant.loopStep : (replay.loopStep choice).Invariant := by
  have inHand := invariant.inHand
  have nothing {phase} (loop : replay.loop = phase) (idle : ∀ listed, phase ≠ .unblocking listed) :
      replay.taken = [] := by
    unfold taken
    rw [loop]
    split
    next listed =>
      exact absurd rfl (idle listed)
    · rfl
  unfold InHand at inHand
  unfold Replay.loopStep
  cases loop : replay.loop with
  | resting =>
    refine ⟨invariant.sound, fun targetKey here => ?_, trivial⟩
    refine (invariant.woken targetKey here).imp .inr ?_ id rfl
    rw [nothing loop nofun]
    exact fun listed => absurd listed List.not_mem_nil
  | unblocking listed =>
    cases listed with
    | nil =>
      refine invariant.catalogue ?_
      unfold taken
      rw [loop]
    | cons =>
      refine ⟨invariant.sound.unblockTarget, fun targetKey here => ?_, trivial⟩
      rw [GatewaySpoolReplayIndex.blockedTargets_unblockTarget] at here
      obtain ⟨different, blocked⟩ := Finset.mem_erase.mp here
      refine (invariant.woken targetKey blocked).imp .inl ?_ id rfl
      unfold taken
      rw [loop]
      exact List.mem_of_ne_of_mem different
  | scanning =>
    dsimp only
    split
    · exact invariant.popNext (nothing loop nofun)
    · exact invariant.moved (nothing loop nofun) invariant.sound rfl ⟨rfl, rfl, rfl⟩ trivial
  | popped =>
    rw [loop] at inHand
    refine ⟨invariant.sound, fun targetKey here => ?_, inHand, .inr (.inr (Finset.mem_insert_self _ _))⟩
    exact (invariant.woken targetKey here).go_on (nothing loop nofun) (List.Subset.refl _)
      Finset.mem_insert_of_mem rfl
  | watched => exact invariant.enqueue loop
  | accepted =>
    rw [loop] at inHand
    refine ⟨invariant.sound, fun targetKey here => ?_, trivial⟩
    refine (invariant.woken targetKey here).go_on (nothing loop nofun) (List.Subset.refl _)
      (fun waiting => Finset.mem_erase.mpr ⟨?_, waiting⟩) rfl
    rintro rfl
    exact inHand here
  | cleared candidate =>
    obtain ⟨_, blocked, _, _⟩ := replay.index.scheduleIfCandidates_cases candidate.targetKey
    exact invariant.moved (nothing loop nofun) invariant.sound.scheduleIfCandidates blocked
      ⟨rfl, rfl, rfl⟩ trivial
  | full =>
    rw [loop] at inHand
    refine ⟨invariant.sound.blockTarget, fun targetKey here => ?_, trivial⟩
    have woken : replay.Woken targetKey := by
      rcases Finset.mem_insert.mp here with rfl | here
      · exact inHand
      · exact invariant.woken targetKey here
    exact woken.go_on (nothing loop nofun) (List.Subset.refl _) id rfl
  | closed =>
    rw [loop] at inHand
    dsimp only
    split
    · refine ⟨invariant.sound, fun targetKey here => ?_, trivial⟩
      refine (invariant.woken targetKey here).go_on (nothing loop nofun) (List.Subset.refl _)
        (fun waiting => Finset.mem_erase.mpr ⟨?_, waiting⟩) rfl
      rintro rfl
      exact inHand here
    · exact invariant.moved (nothing loop nofun) invariant.sound rfl ⟨rfl, rfl, rfl⟩ trivial
  | marking =>
    refine ⟨invariant.sound, fun targetKey here => ?_, trivial⟩
    exact (invariant.woken targetKey here).go_on (nothing loop nofun)
      (List.subset_append_left _ _) id rfl
  | returning _ stop =>
    refine invariant.moved (nothing loop nofun) invariant.sound.insert
      GatewaySpoolReplayIndex.blockedTargets_insert ⟨rfl, rfl, rfl⟩ ?_
    cases stop with
    | true | false => trivial

theorem Invariant.step (stepped : replay.step action = some replay') : replay'.Invariant := by
  rcases step_elsewhere stepped with ⟨choice, rfl⟩ | elsewhere
  · cases stepped
    exact invariant.loopStep
  · exact invariant.elsewhere elsewhere

end

theorem reachable_invariant (reach : Reachable Replay.step Replay.Start replay) :
    replay.Invariant :=
  reach.invariant (fun _ => Invariant.start) fun _ _ _ invariant => invariant.step

/-- No refresh has the target on the way from the ready list to the index, and no signal has
    it on the way from the watched targets to the ready list. -/
def BetweenCalls (replay : Replay Target Path) (targetKey : Target) : Prop :=
  targetKey ∉ replay.taken ∧ ¬ (replay.queues targetKey).Marking

/-- A blocked target whose consumer has not terminated is listed as ready, or it is watched
    and an item is on its way to the signal. -/
theorem no_lost_wakeup (reach : Reachable Replay.step Replay.Start replay)
    (between : replay.BetweenCalls targetKey) (blocked : targetKey ∈ replay.index.blockedTargets)
    (alive : (replay.queues targetKey).Alive) :
    targetKey ∈ replay.replayReadyTargets ∨
    targetKey ∈ replay.replayWaitingTargets ∧ (replay.queues targetKey).HoldsItem := by
  rcases (reachable_invariant reach).woken targetKey blocked with
    ready | taken | marking | ⟨waiting, signal⟩
  · exact .inl ready
  · exact absurd taken between.1
  · exact absurd marking between.2
  · exact .inr ⟨waiting, signal alive⟩

/-- One spooled file for a target whose queue other senders fill before the loop sends. -/
def sampleRun : List (Action Nat Nat) :=
  let choice := ⟨true, true, true, fun _ => true⟩
  List.replicate 4 (.loop choice) ++ List.replicate 512 (.produce 0 .event choice) ++
    List.replicate 2 (.loop choice)

def sampleStart : Replay Nat Nat := { replayStartup := { candidates := [⟨0, 1, 100, 5, 64⟩] } }

theorem sample_not_lost :
    ∃ replay : Replay Nat Nat, Reachable Replay.step Replay.Start replay ∧ 0 ∈ replay.index.blockedTargets ∧
      (replay.queues 0).Alive ∧
      (0 ∈ replay.replayReadyTargets ∨
        0 ∈ replay.replayWaitingTargets ∧ (replay.queues 0).HoldsItem) := by
  have ends : ∃ replay ∈ run Replay.step sampleStart sampleRun,
      (0 ∉ replay.taken ∧ ¬ (replay.queues 0).Marking) ∧
      0 ∈ replay.index.blockedTargets ∧ (replay.queues 0).Alive := by decide +kernel
  obtain ⟨replay, ran, between, blocked, alive⟩ := ends
  have reach : Reachable Replay.step Replay.Start replay := ⟨sampleStart, sampleRun, ⟨_, rfl⟩, ran⟩
  exact ⟨replay, reach, blocked, alive, no_lost_wakeup reach between blocked alive⟩

end Replay
end Vpsman.Forward
