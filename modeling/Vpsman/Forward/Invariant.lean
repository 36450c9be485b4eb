import Vpsman.Forward.Custody

/-! # What every run of a process keeps

Before a shutdown the line is in order and the consumer's event is at its front. Before
and during a shutdown, whatever is in memory or on disk is at or behind everything that
was or is being posted.
-/

namespace Vpsman.Forward

open Lib Conveyor

namespace Custody

variable {c c' : Custody}

def seqs (c : Custody) : List Nat :=
  c.posted ++ c.held.toList ++ c.ram ++ c.fileSeqs

theorem Change.counter_le (change : Change c c') : c.enqueueSeq ≤ c'.enqueueSeq := by
  cases change with
  | settle _ _ _ _ _ _ _ counter => exact counter
  | join => exact Nat.le_succ _
  | take | start | post | write | drop => exact le_rfl

theorem Change.shutdown_kept (change : Change c c') (requested : c.shutdown = true) :
    c'.shutdown = true := by
  cases change with
  | settle _ _ _ _ _ _ _ _ _ shutdown =>
    exact shutdown requested
  | join | take | start | post | write | drop => exact requested

/-- Numbers appear only by being given out. -/
theorem Change.seqs_known (change : Change c c') {P : Nat → Prop} (known : ∀ x ∈ c.seqs, P x)
    (fresh : ∀ x, c.enqueueSeq < x → x ≤ c'.enqueueSeq → P x) : ∀ x ∈ c'.seqs, P x := by
  simp only [seqs, fileSeqs, List.mem_append, Option.mem_toList] at known ⊢
  cases change with
  | settle _ ram held _ posted files =>
    intro x member
    rw [posted, files] at member
    apply known
    rcases member with ((old | taken) | kept) | stored
    · exact Or.inl (Or.inl (Or.inl old))
    · rcases held with none_held | same
      · simp [none_held] at taken
      · exact Or.inl (Or.inl (Or.inr (same ▸ taken)))
    · exact Or.inl (Or.inr (ram.subset kept))
    · exact Or.inr stored
  | join =>
    intro x member
    simp only [List.mem_append, List.mem_singleton] at member
    rcases member with (old | kept | rfl) | stored
    · exact known x (Or.inl (Or.inl old))
    · exact known x (Or.inl (Or.inr kept))
    · exact fresh _ (Nat.lt_succ_self _) le_rfl
    · exact known x (Or.inr stored)
  | take _ _ origin =>
    intro x member
    simp only [Option.some.injEq] at member
    apply known
    rcases member with ((old | rfl) | kept) | stored
    · exact Or.inl (Or.inl (Or.inl old))
    · rcases origin with kept | stored
      · exact Or.inl (Or.inr kept)
      · exact Or.inr stored
    · exact Or.inl (Or.inr kept)
    · exact Or.inr stored
  | start => exact known
  | post _ _ held _ given =>
    intro x member
    simp only [List.mem_append, List.mem_singleton, reduceCtorEq, or_false] at member
    apply known
    rcases member with ((old | rfl) | kept) | stored
    · exact Or.inl (Or.inl (Or.inl old))
    · exact Or.inl (Or.inl (Or.inr held))
    · exact Or.inl (Or.inr (given.subset kept))
    · exact Or.inr stored
  | write _ _ _ place =>
    intro x member
    apply known
    simp only [place, List.mem_append, List.map_append, List.map_cons, List.map_nil,
      List.mem_cons] at member ⊢
    tauto
  | drop =>
    intro x member
    apply known
    simp only [List.mem_map, List.mem_filter] at member ⊢
    rcases member with old | ⟨file, ⟨stored, _⟩, rfl⟩
    · exact Or.inl old
    · exact Or.inr ⟨file, stored, rfl⟩

/-- Everything in memory and, apart from undeletable files, on disk is at or behind every
    number that was or is being posted. -/
structure Sound (c : Custody) : Prop where
  rising : c.outgoing.Pairwise (· < ·)
  behind : ∀ x ∈ c.ram, ∀ p ∈ c.outgoing, p ≤ x
  kept : ∀ file ∈ c.files, file.path ∈ c.leftovers ∨
    ∀ p ∈ c.outgoing, p ≤ file.event.enqueueSeq
  bounded : ∀ x ∈ c.seqs, x ≤ c.enqueueSeq
  distinct : (c.ram ++ c.fileSeqs).Nodup
  paths : (c.files.map SpoolFile.path).Nodup
  used : ∀ file ∈ c.files, file.path < c.nextUuid

/-- The consumer's event is the first that may be posted. -/
def AtFront (c : Custody) : Prop :=
  ∀ seq, c.held = some seq → (∀ p ∈ c.posted, p < seq) ∧ (∀ x ∈ c.ram, seq ≤ x) ∧
    ∀ file ∈ c.files, file.path ∈ c.leftovers ∨ seq ≤ file.event.enqueueSeq

theorem outgoing_le (sound : Sound c) (member : p ∈ c.outgoing) : p ≤ c.enqueueSeq := by
  apply sound.bounded
  simp only [seqs, List.mem_append, Option.mem_toList]
  simp only [outgoing, List.mem_append] at member
  rcases member with posted | out
  · exact Or.inl (Or.inl (Or.inl posted))
  · split at out
    · exact Or.inl (Or.inl (Or.inr (Option.mem_toList.mp out)))
    · cases out

theorem outgoing_of_posting (held : c.held = some seq) (inflight : c.inflight = true) :
    c.outgoing = c.posted ++ [seq] := by
  simp [outgoing, held, inflight]

theorem Change.bounded (change : Change c c') (sound : Sound c) :
    ∀ x ∈ c'.seqs, x ≤ c'.enqueueSeq :=
  change.seqs_known (fun x member => (sound.bounded x member).trans change.counter_le)
    fun _ _ upTo => upTo

variable (sound : Sound c)
include sound

theorem Sound.fewer (change : Change c c') (ram : c'.ram.Sublist c.ram)
    (outgoing : c'.outgoing.Sublist c.outgoing) (files : c'.files = c.files)
    (leftovers : ∀ path ∈ c.leftovers, path ∈ c'.leftovers) (uuids : c'.nextUuid = c.nextUuid) :
    Sound c' := by
  constructor
  · exact sound.rising.sublist outgoing
  · exact fun x member p out => sound.behind x (ram.subset member) p (outgoing.subset out)
  · intro file stored
    rw [files] at stored
    rcases sound.kept file stored with left | ahead
    · exact Or.inl (leftovers _ left)
    · exact Or.inr fun p out => ahead p (outgoing.subset out)
  · exact change.bounded sound
  · rw [fileSeqs, files]
    exact sound.distinct.sublist (ram.append_right _)
  · rw [files]
    exact sound.paths
  · rw [files, uuids]
    exact sound.used

theorem Sound.join :
    Sound { c with ram := c.ram ++ [c.enqueueSeq + 1], enqueueSeq := c.enqueueSeq + 1 } := by
  constructor
  · exact sound.rising
  · intro x member p out
    rcases List.mem_append.mp member with old | new
    · exact sound.behind x old p out
    · rw [List.mem_singleton.mp new]
      exact (outgoing_le sound out).trans (Nat.le_succ _)
  · exact sound.kept
  · exact (Change.join c).bounded sound
  · have moved : (c.ram ++ [c.enqueueSeq + 1] ++ c.fileSeqs).Perm
        ((c.enqueueSeq + 1) :: (c.ram ++ c.fileSeqs)) := by
      rw [List.append_assoc]
      exact List.perm_middle
    apply moved.nodup_iff.mpr
    apply List.nodup_cons.mpr
    constructor
    · intro member
      have upTo : c.enqueueSeq + 1 ≤ c.enqueueSeq := by
        apply sound.bounded
        simp only [seqs, List.append_assoc, List.mem_append] at member ⊢
        tauto
      omega
    · exact sound.distinct
  · exact sound.paths
  · exact sound.used

theorem Sound.start (front : AtFront c)
    (idle : c.inflight = false) (permitted : c.shutdown = false) (held : c.held = some seq) :
    Sound { c with inflight := true } := by
  obtain ⟨posted, ram, files⟩ := front seq held
  have before : c.outgoing = c.posted := by simp [outgoing, idle]
  have after : ({ c with inflight := true } : Custody).outgoing = c.posted ++ [seq] :=
    outgoing_of_posting held rfl
  constructor
  · rw [after]
    apply List.pairwise_append.mpr
    refine ⟨before ▸ sound.rising, List.pairwise_singleton _ _, ?_⟩
    intro p member x same
    rw [List.mem_singleton.mp same]
    exact posted p member
  · intro x member p out
    rw [after] at out
    rcases List.mem_append.mp out with old | new
    · exact sound.behind x member p (before ▸ old)
    · rw [List.mem_singleton.mp new]
      exact ram x member
  · intro file stored
    rcases sound.kept file stored with left | ahead
    · exact Or.inl left
    rcases files file stored with left | upTo
    · exact Or.inl left
    apply Or.inr
    intro p out
    rw [after] at out
    rcases List.mem_append.mp out with old | new
    · exact ahead p (before ▸ old)
    · rw [List.mem_singleton.mp new]
      exact upTo
  · exact (Change.start c seq permitted idle held).bounded sound
  · exact sound.distinct
  · exact sound.paths
  · exact sound.used

theorem Sound.write (place : c.ram = before ++ event.enqueueSeq :: after) :
    Sound { c with
      ram := before ++ after
      files := c.files ++ [⟨c.nextUuid, event⟩]
      nextUuid := c.nextUuid + 1 } := by
  constructor
  · exact sound.rising
  · intro x member
    apply sound.behind
    rw [place]
    simp only [List.mem_append, List.mem_cons] at member ⊢
    tauto
  · intro file stored
    rcases List.mem_append.mp stored with old | new
    · exact sound.kept file old
    · rw [List.mem_singleton.mp new]
      exact Or.inr (sound.behind _ (by simp [place]))
  · exact (Change.write c before after event place).bounded sound
  · have distinct := sound.distinct
    rw [place] at distinct
    refine (List.Perm.nodup_iff ?_).mpr distinct
    simp only [fileSeqs, List.map_append, List.map_cons, List.map_nil, List.append_assoc,
      List.cons_append]
    apply List.Perm.append_left
    rw [← List.append_assoc]
    exact List.perm_append_singleton _ _
  · simp only [List.map_append, List.map_cons, List.map_nil]
    apply List.nodup_append.mpr
    refine ⟨sound.paths, List.nodup_singleton _, ?_⟩
    intro path member new same
    obtain ⟨file, stored, rfl⟩ := List.mem_map.mp member
    rw [List.mem_singleton.mp same]
    exact Nat.ne_of_lt (sound.used file stored)
  · intro file stored
    rcases List.mem_append.mp stored with old | new
    · exact Nat.lt_succ_of_lt (sound.used file old)
    · rw [List.mem_singleton.mp new]
      exact Nat.lt_succ_self _

theorem Sound.drop {leftovers : List SpoolPath}
    (kept : ∀ other ∈ c.leftovers, other = path ∨ other ∈ leftovers) :
    Sound { c with
      files := c.files.filter fun file => file.path ≠ path
      leftovers := leftovers } := by
  have within : (c.files.filter fun file => file.path ≠ path).Sublist c.files := List.filter_sublist
  constructor
  · exact sound.rising
  · exact sound.behind
  · intro file stored
    obtain ⟨stored, other⟩ := List.mem_filter.mp stored
    apply (sound.kept file stored).imp_left
    intro left
    rcases kept _ left with same | still
    · simp [same] at other
    · exact still
  · exact (Change.drop c path leftovers kept).bounded sound
  · exact sound.distinct.sublist ((within.map _).append_left _)
  · exact sound.paths.sublist (within.map _)
  · exact fun file stored => sound.used file (within.subset stored)

theorem Sound.change (front : c.shutdown = false → AtFront c)
    (change : Change c c') : Sound c' := by
  cases change with
  | settle _ ram held inflight posted files leftovers counter uuids shutdown =>
    have change : Change c c' :=
      .settle _ _ ram held inflight posted files leftovers counter uuids shutdown
    have outgoing : c'.outgoing.Sublist c.outgoing := by
      unfold outgoing
      rw [posted]
      split
      next out =>
        obtain ⟨was, same⟩ := inflight out
        rw [if_pos was, same]
      · simp
    exact sound.fewer change ram outgoing files leftovers uuids
  | join => exact sound.join
  | take seq idle origin =>
    apply sound.fewer (.take c seq idle origin) (List.Sublist.refl _) ?_ rfl
      (fun _ member => member) rfl
    simp [outgoing, idle]
  | start _ permitted idle held => exact sound.start (front permitted) idle permitted held
  | post seq ram held inflight given =>
    apply sound.fewer (.post c seq ram held inflight given) given ?_ rfl
      (fun _ member => member) rfl
    simp [outgoing, held, inflight]
  | write _ _ _ place => exact sound.write place
  | drop _ _ kept => exact sound.drop kept

end Custody

namespace Forwarder

variable {s s' : Forwarder}

structure Invariant (s : Forwarder) : Prop where
  orderly : Orderly s
  sound : s.custody.Sound
  fenced : s.shutdownRequested = false → Fenced s
  formed : s.shutdownRequested = false → s.conveyor.WellFormed

theorem tickets_of_held {consumer : Consumer} (held : consumer.held = some seq) :
    ∃ slot, consumer.tickets = [⟨seq, slot⟩] ∧ consumer.spent = [] := by
  cases consumer with
  | ready handle | posting handle =>
    cases held
    exact ⟨_, rfl, rfl⟩
  | retaining _ stage =>
    cases held
    cases stage <;> exact ⟨_, rfl, rfl⟩
  | receiving | deferring | finishing => cases held

theorem ram_in_line (orderly : Orderly s) (online : s.shutdownRequested = false)
    (member : x ∈ s.custody.ram) : x ∈ ranks s.conveyor.line := by
  simp only [custody, List.mem_append] at member
  simp only [conveyor, line, ranks_append, List.mem_append]
  rcases member with (consumer | queue) | lane
  · left; left; cases place : s.consumer with
    | ready handle | posting handle =>
      obtain ⟨event, path⟩ := handle
      cases path <;> simp_all [Consumer.ram, Consumer.tickets, Handle.ticket]
    | retaining _ stage =>
      cases stage <;> simp_all [Consumer.ram, Consumer.tickets, Event.ticket]
    | deferring handle stage =>
      simp [orderly.deferred handle stage place] at online
    | receiving | finishing => simp [place, Consumer.ram] at consumer
  · left; left; right
    obtain ⟨item, queued, holds⟩ := List.mem_flatMap.mp queue
    cases item with
    | event =>
      rw [QueueItem.ram, List.mem_singleton] at holds
      rw [holds]
      exact List.mem_map_of_mem (List.mem_map_of_mem queued)
    | spooled => cases holds
  · cases place : s.lane with
    | spooling _ stage => cases stage <;> simp_all [Lane.ram, Lane.tickets, Event.ticket]
    | free => simp [place, Lane.ram] at lane
    | checking event | admitting event => simp_all [Lane.ram, Lane.tickets, Event.ticket]

/-- Before a shutdown the consumer's event is at the front of everything. -/
theorem Invariant.atFront (invariant : Invariant s) (online : s.shutdownRequested = false) :
    s.custody.AtFront := by
  intro seq held
  have formed := invariant.formed online
  obtain ⟨slot, tickets, unspent⟩ := tickets_of_held held
  have front : s.conveyor.line = ⟨seq, slot⟩ :: ((s.queue.getD []).map QueueItem.ticket ++
      s.waiting.map Candidate.ticket ++ s.lane.tickets) := by
    simp [conveyor, line, tickets]
  refine ⟨?_, ?_, ?_⟩
  · intro p posted
    exact formed.left_lt_line posted (t := ⟨seq, slot⟩) (by simp [front])
  · intro x member
    obtain ⟨ticket, inLine, rfl⟩ := List.mem_map.mp (ram_in_line invariant.orderly online member)
    exact formed.front_le front inLine
  · intro file stored
    have located := formed.located (file.path, file.event.enqueueSeq) (List.mem_map_of_mem stored)
    rcases located with spent | inLine
    · left
      simp only [conveyor, unspent, List.nil_append] at spent
      exact spent
    · exact Or.inr (formed.front_le front inLine)

theorem Invariant.step (invariant : Invariant s) (stepped : s.step a = some s') : Invariant s' := by
  have change := step_change invariant.orderly stepped
  have online : s'.shutdownRequested = false → s.shutdownRequested = false := by
    intro still
    cases requested : s.shutdownRequested with
    | false => rfl
    | true =>
      have requested : s'.shutdownRequested = true := change.shutdown_kept requested
      simp [still] at requested
  constructor
  · exact invariant.orderly.step stepped
  · exact invariant.sound.change invariant.atFront change
  · intro still
    have before := online still
    exact (invariant.fenced before).step invariant.orderly (invariant.formed before) before stepped
  · intro still
    have before := online still
    exact (invariant.formed before).moves (step_moves invariant.orderly (invariant.fenced before)
      (invariant.formed before) before stepped)

end Forwarder

end Vpsman.Forward
