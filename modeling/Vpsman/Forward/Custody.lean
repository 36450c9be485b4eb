import Vpsman.Forward.Pending

/-! # Who holds which event

After a shutdown was requested the places of an event are no longer in order, but nothing
new is posted either. What is left to follow is which sequence numbers are in memory,
which are on disk and which are out on a post. Every step, before and during a shutdown,
changes this in one of a few ways.
-/

namespace Vpsman.Forward

structure Custody where
  /-- Sequence numbers of events that are in memory only. -/
  ram : List Nat
  /-- The event the consumer works on. -/
  held : Option Nat
  /-- Its post is out. -/
  inflight : Bool
  posted : List Nat
  files : List SpoolFile
  leftovers : List SpoolPath
  enqueueSeq : Nat
  nextUuid : SpoolPath
  shutdown : Bool

def Lane.ram : Lane → List Nat
  | .checking event | .admitting event | .spooling event .write => [event.enqueueSeq]
  | .free | .spooling _ (.account _) | .spooling _ (.publish _) => []

def Consumer.ram : Consumer → List Nat
  | .ready ⟨event, none⟩ | .posting ⟨event, none⟩ => [event.enqueueSeq]
  | .retaining handle .write | .deferring handle .write => [handle.event.enqueueSeq]
  | _ => []

def Consumer.held : Consumer → Option Nat
  | .ready handle | .posting handle | .retaining handle _ => some handle.event.enqueueSeq
  | _ => none

def Consumer.inflight : Consumer → Bool
  | .posting _ => true
  | _ => false

def QueueItem.ram : QueueItem → List Nat
  | .event held => [held.enqueueSeq]
  | .spooled _ => []

def Forwarder.custody (s : Forwarder) : Custody where
  ram := s.consumer.ram ++ (s.queue.getD []).flatMap QueueItem.ram ++ s.lane.ram
  held := s.consumer.held
  inflight := s.consumer.inflight
  posted := s.posted
  files := s.files
  leftovers := s.leftovers
  enqueueSeq := s.enqueueSeq
  nextUuid := s.nextUuid
  shutdown := s.shutdownRequested

namespace Custody

/-- Sequence numbers of posts that succeeded or may still succeed. -/
def outgoing (c : Custody) : List Nat :=
  c.posted ++ if c.inflight then c.held.toList else []

def fileSeqs (c : Custody) : List Nat :=
  c.files.map fun file => file.event.enqueueSeq

inductive Change : Custody → Custody → Prop
  /-- Events in memory may be given up, files may become undeletable, numbers may go to
      others, the shutdown may begin. -/
  | settle (c c' : Custody) (ram : c'.ram.Sublist c.ram)
      (held : c'.held = none ∨ c'.held = c.held)
      (inflight : c'.inflight = true → c.inflight = true ∧ c'.held = c.held)
      (posted : c'.posted = c.posted) (files : c'.files = c.files)
      (leftovers : ∀ path ∈ c.leftovers, path ∈ c'.leftovers)
      (counter : c.enqueueSeq ≤ c'.enqueueSeq) (uuids : c'.nextUuid = c.nextUuid)
      (shutdown : c.shutdown = true → c'.shutdown = true) : Change c c'
  | join (c : Custody) :
      Change c
        { c with ram := c.ram ++ [c.enqueueSeq + 1], enqueueSeq := c.enqueueSeq + 1 }
  | take (c : Custody) (seq : Nat) (idle : c.inflight = false)
      (known : seq ∈ c.ram ∨ seq ∈ c.fileSeqs) :
      Change c { c with held := some seq }
  | start (c : Custody) (seq : Nat) (permitted : c.shutdown = false) (idle : c.inflight = false)
      (held : c.held = some seq) :
      Change c { c with inflight := true }
  | post (c : Custody) (seq : Nat) (ram : List Nat) (held : c.held = some seq)
      (inflight : c.inflight = true) (given : ram.Sublist c.ram) :
      Change c
        { c with ram := ram, held := none, inflight := false, posted := c.posted ++ [seq] }
  | write (c : Custody) (before after : List Nat) (event : Event)
      (place : c.ram = before ++ event.enqueueSeq :: after) :
      Change c
        { c with
          ram := before ++ after
          files := c.files ++ [⟨c.nextUuid, event⟩]
          nextUuid := c.nextUuid + 1 }
  | drop (c : Custody) (path : SpoolPath) (leftovers : List SpoolPath)
      (kept : ∀ other ∈ c.leftovers, other = path ∨ other ∈ leftovers) :
      Change c
        { c with
          files := c.files.filter fun file => file.path ≠ path
          leftovers := leftovers }

theorem Change.lost {ram : List Nat} (sub : ram.Sublist c.ram)
    (same : c' = { c with ram := ram }) : Change c c' := by
  rw [same]
  exact .settle _ _ sub (Or.inr rfl) (fun out => ⟨out, rfl⟩) rfl rfl
    (fun _ member => member) le_rfl rfl id

theorem Change.of_eq (same : c' = c) : Change c c' :=
  .lost (List.Sublist.refl _) same

theorem Change.of_target (change : Change c target) (same : c' = target) : Change c c' :=
  same ▸ change

end Custody

open Custody

attribute [local simp] Forwarder.custody Forwarder.leftovers QueueItem.ram Lane.ram
  Forwarder.dropSpooledFile Forwarder.unaccountSpooledFile

variable {s s' : Forwarder}

theorem change_consumer {consumer : Consumer} (ram : consumer.ram.Sublist s.consumer.ram)
    (held : consumer.held = none ∨ consumer.held = s.consumer.held)
    (idle : consumer.inflight = false) :
    Change s.custody { s with consumer := consumer }.custody := by
  apply Change.settle
  · exact (ram.append_right _).append_right _
  · exact held
  · simp [idle]
  · rfl
  · rfl
  · exact fun _ member => member
  · exact le_rfl
  · rfl
  · exact id

theorem change_queue
    (sub : ((queue.getD []).flatMap QueueItem.ram).Sublist
      ((s.queue.getD []).flatMap QueueItem.ram)) :
    Change s.custody { s with queue := queue }.custody :=
  Change.lost ((sub.append_left _).append_right _) rfl

theorem change_lane_lost (same : queue.getD [] = s.queue.getD []) :
    Change s.custody { s with queue := queue, lane := .free }.custody := by
  apply Change.lost (List.sublist_append_left _ s.lane.ram)
  simp [same]

theorem change_written {handle : Handle} {consumer : Consumer}
    (memory : s.consumer.ram = [handle.event.enqueueSeq]) (disk : consumer.ram = [])
    (held : consumer.held = s.consumer.held) (inflight : consumer.inflight = s.consumer.inflight) :
    Change s.custody { s with
      files := s.files ++ [SpoolFile.mk s.nextUuid handle.event], nextUuid := s.nextUuid + 1
      consumer := consumer }.custody := by
  have place : s.custody.ram = [] ++ handle.event.enqueueSeq ::
      ((s.queue.getD []).flatMap QueueItem.ram ++ s.lane.ram) := by
    simp [memory]
  apply Change.of_target (.write _ _ _ handle.event place)
  simp [disk, held, inflight]

theorem change_taken (receiving : s.consumer = .receiving) (head : s.queue = some (item :: rest))
    (known : handle.event.enqueueSeq ∈ s.custody.ram ∨ handle.event.enqueueSeq ∈ s.custody.fileSeqs)
    (memory : (Consumer.ready handle).ram = item.ram) :
    Change s.custody { s with
      queue := some rest, replayWaiting := waiting, replayReady := ready
      consumer := .ready handle }.custody := by
  have before : Consumer.receiving.ram = [] := rfl
  apply Change.of_target (.take s.custody handle.event.enqueueSeq ?_ known)
  · simp [memory, before, receiving, head, Consumer.held, Consumer.inflight]
  · simp [receiving, Consumer.inflight]

theorem change_leftovers (ram : s'.custody.ram.Sublist s.custody.ram) (idle : s'.custody.inflight = false)
    (held : s'.custody.held = none) (leftovers : ∀ path ∈ s.leftovers, path ∈ s'.leftovers)
    (same : s'.custody = { s.custody with
      ram := s'.custody.ram, held := s'.custody.held, inflight := s'.custody.inflight
      leftovers := s'.custody.leftovers }) : Change s.custody s'.custody := by
  rw [same]
  exact .settle _ _ ram (Or.inl held) (by rw [idle]; exact nofun) rfl rfl leftovers le_rfl rfl id

attribute [local simp] Consumer.ram Consumer.held Consumer.inflight

/-- Every step is one change of custody. -/
theorem step_change (orderly : Orderly s) (stepped : s.step a = some s') :
    Change s.custody s'.custody := by
  have gone (consumer : Consumer) (ram : consumer.ram = []) (held : consumer.held = none)
      (idle : consumer.inflight = false) : Change s.custody { s with consumer := consumer }.custody :=
    change_consumer (ram ▸ List.nil_sublist _) (Or.inl held) idle
  cases Forwarder.step_outcome stepped with
  | idle | flags | clear | refreshed | popped => exact Change.of_eq rfl
  | skip =>
    exact .settle _ _ (List.Sublist.refl _) (Or.inr rfl) (fun out => ⟨out, rfl⟩) rfl rfl
      (fun _ member => member) (Nat.le_succ _) rfl id
  | request =>
    exact .settle _ _ (List.Sublist.refl _) (Or.inr rfl) (fun out => ⟨out, rfl⟩) rfl rfl
      (fun _ member => member) le_rfl rfl fun _ => rfl
  | join free next =>
    apply Change.of_target (.join s.custody)
    simp [free, next]
  | enter checking =>
    apply Change.of_eq
    simp [checking]
  | spool held same =>
    apply Change.of_eq
    rcases held with held | held <;> simp [held, same]
  | sent admitting =>
    apply Change.of_eq
    simp [admitting]
  | refused _ same => exact change_lane_lost same
  | laneLost => exact change_lane_lost rfl
  | @laneWritten event spooling =>
    have place : s.custody.ram = (s.consumer.ram ++ (s.queue.getD []).flatMap QueueItem.ram) ++
        event.enqueueSeq :: [] := by
      simp [spooling]
    apply Change.of_target (.write _ _ _ event place)
    simp
  | laneAccounted spooling | lanePublished spooling =>
    apply Change.of_eq
    simp [Forwarder.accountSpooledFile, spooling]
  | taken receiving head =>
    refine change_taken receiving head (Or.inl ?_) rfl
    simp [head]
  | @loaded _ _ file _ _ receiving head found =>
    refine change_taken receiving head (Or.inr ?_) rfl
    rw [Event.enqueueSeq_marked]
    exact List.mem_map_of_mem (List.mem_of_find?_eq_some found)
  | vanished _ head =>
    apply Change.of_eq
    simp [head]
  | @quarantined candidate _ _ _ _ head =>
    apply Change.of_target
      (.drop s.custody candidate.path s.custody.leftovers fun _ member => Or.inr member)
    simp [head]
  | stranded receiving head =>
    refine change_leftovers ?_ ?_ ?_ ?_ rfl
    · simp [head]
    · simp [receiving]
    · simp [receiving]
    · intro path member
      simp only [Forwarder.leftovers, List.mem_append, List.mem_cons] at member ⊢
      tauto
  | @deferred handle held _ noFile =>
    obtain ⟨event, path⟩ := handle
    subst noFile
    refine change_consumer ?_ (Or.inl rfl) rfl
    rcases held with held | held <;> simp [held]
  | released | deferralEnded | finished => exact gone .receiving rfl rfl rfl
  | gaveUp | headLost => exact gone (.finishing _) rfl rfl rfl
  | deferralAccounted => exact gone (.deferring _ (.publish _)) rfl rfl rfl
  | @started handle ready online =>
    have held : s.custody.held = some handle.event.enqueueSeq := by
      simp [ready]
    have idle : s.custody.inflight = false := by
      simp [ready]
    apply Change.of_target (.start s.custody _ online idle held)
    obtain ⟨event, path⟩ := handle
    cases path <;> simp [ready]
  | @accepted handle posting =>
    have held : s.custody.held = some handle.event.enqueueSeq := by
      simp [posting]
    have out : s.custody.inflight = true := by
      simp [posting]
    have given : ((s.queue.getD []).flatMap QueueItem.ram ++ s.lane.ram).Sublist
        s.custody.ram := by
      simp only [Forwarder.custody, List.append_assoc]
      exact List.sublist_append_right _ _
    apply Change.of_target (.post s.custody _ _ held out given)
    simp
  | @retained handle _ posting unmarked mark =>
    have noFile := orderly.noFile posting unmarked mark
    have seq := Event.enqueueSeq_of_mark mark
    obtain ⟨original, path⟩ := handle
    subst noFile
    refine change_consumer ?_ (Or.inr ?_) rfl
    all_goals simp [posting, seq]
  | @again handle posting =>
    refine change_consumer ?_ (Or.inr ?_) rfl
    · obtain ⟨event, path⟩ := handle
      cases path <;> simp [posting]
    · simp [posting]
  | headWritten retaining =>
    refine change_written ?_ rfl ?_ ?_ <;> rw [retaining] <;> rfl
  | deferralWritten deferring =>
    refine change_written ?_ rfl ?_ ?_ <;> rw [deferring] <;> rfl
  | headAccounted retaining =>
    refine change_consumer (List.nil_sublist _) (Or.inr ?_) rfl
    simp [retaining]
  | headPublished retaining => exact (orderly.unpublished retaining).elim
  | @removed _ path finishing _ =>
    apply Change.of_target (.drop s.custody path s.custody.leftovers fun _ member => Or.inr member)
    simp [finishing]
  | @leftOver _ path finishing _ =>
    refine change_leftovers ?_ rfl rfl (fun _ member => List.mem_cons_of_mem path member) rfl
    simp
  | closed => exact change_queue (List.nil_sublist _)
  | replayed _ _ places =>
    apply Change.of_eq
    rcases places with ⟨sent, _⟩ | ⟨kept, _⟩
    · simp [sent]
    · simp [kept]
  | @cleaned path _ =>
    apply Change.of_target
      (.drop s.custody path (s.leftovers.filter (· ≠ path)) fun other member => ?_)
    · simp
    · by_cases same : other = path
      · exact Or.inl same
      · exact Or.inr (List.mem_filter.mpr ⟨member, by simpa using same⟩)

end Vpsman.Forward
