import Vpsman.Forward.Invariant

/-! # Posts succeed in sequence order

Within a process the sequence numbers of successful posts are strictly increasing. What a
process leaves on disk is not older than its last post, so the next process continues
where it stopped, as long as its counter does.
-/

namespace Vpsman.Forward

open Lib Conveyor

theorem foldl_max_le {files : List SpoolFile} :
    start ≤ files.foldl (fun seq file => max seq file.event.enqueueSeq) start ∧
      ∀ file ∈ files, file.event.enqueueSeq ≤
        files.foldl (fun seq file => max seq file.event.enqueueSeq) start := by
  induction files generalizing start with
  | nil => simp
  | cons head _ ih =>
    obtain ⟨base, all⟩ := @ih (max start head.event.enqueueSeq)
    rw [List.foldl_cons]
    constructor
    · omega
    · intro file member
      rcases List.mem_cons.mp member with rfl | later
      · omega
      · exact all file later

theorem catalogue_spec (directory : SpoolDirectory) :
    Rising (catalogue (directory.files.map SpoolFile.candidate)) ∧
      (catalogue (directory.files.map SpoolFile.candidate)).Perm
        (directory.files.map SpoolFile.candidate) := by
  have paths := directory.paths_distinct
  have seqs := directory.seqs_distinct
  apply @ReplayIndex.insertAll_spec {} _ List.Pairwise.nil
  · simpa [SpoolFile.candidate, Function.comp_def] using paths
  · simpa [SpoolFile.candidate, Function.comp_def] using seqs

attribute [local simp] SpoolDirectory.boot Forward.boot Forwarder.waiting

theorem SpoolDirectory.boot_line (directory : SpoolDirectory) (clock others : Nat) :
    (directory.boot clock others).conveyor.line =
      (catalogue (directory.files.map SpoolFile.candidate)).map Candidate.ticket := by
  simp [Forwarder.conveyor, Forwarder.line, Consumer.tickets, Lane.tickets]

theorem SpoolDirectory.boot_formed (directory : SpoolDirectory) :
    (directory.boot clock others).conveyor.WellFormed := by
  obtain ⟨rising, same⟩ := catalogue_spec directory
  have line := directory.boot_line clock others
  have entries : ∀ candidate ∈ catalogue (directory.files.map SpoolFile.candidate),
      ∃ file ∈ directory.files, file.candidate = candidate := by
    intro candidate member
    exact List.mem_map.mp (same.subset member)
  have ranks_line : ranks (directory.boot clock others).conveyor.line =
      (catalogue (directory.files.map SpoolFile.candidate)).map Candidate.enqueueSeq := by
    rw [line]
    simp [ranks, Candidate.ticket]
  have slots_line : slots (directory.boot clock others).conveyor.line =
      (catalogue (directory.files.map SpoolFile.candidate)).map Candidate.path := by
    rw [line]
    simp [slots, Candidate.ticket, Function.comp_def]
  constructor
  · rw [ranks_line]
    exact List.pairwise_map.mpr rising
  · rw [ranks_line]
    intro rank member
    obtain ⟨candidate, listed, rfl⟩ := List.mem_map.mp member
    obtain ⟨file, stored, rfl⟩ := entries candidate listed
    exact foldl_max_le.2 file stored
  · rw [slots_line]
    apply (same.map Candidate.path).nodup_iff.mpr
    simpa [SpoolFile.candidate, Function.comp_def] using directory.paths_distinct
  · rw [slots_line]
    intro slot member
    obtain ⟨candidate, listed, rfl⟩ := List.mem_map.mp member
    obtain ⟨file, stored, rfl⟩ := entries candidate listed
    exact directory.paths_used file stored
  · intro item stored
    obtain ⟨file, present, rfl⟩ := List.mem_map.mp stored
    right
    rw [line]
    have listed : file.candidate ∈ catalogue (directory.files.map SpoolFile.candidate) :=
      same.mem_iff.mpr (List.mem_map_of_mem present)
    exact List.mem_map_of_mem listed

theorem SpoolDirectory.boot_invariant (directory : SpoolDirectory) :
    (directory.boot clock others).Invariant := by
  obtain ⟨_, same⟩ := catalogue_spec directory
  have waiting : (directory.boot clock others).waiting =
      catalogue (directory.files.map SpoolFile.candidate) := by
    simp
  constructor
  · exact ⟨trivial, by simp, by
      simp⟩
  · constructor
    · exact List.Pairwise.nil
    · simp [Forwarder.custody, Consumer.ram, Lane.ram]
    · exact fun _ _ => Or.inr fun p member => absurd member (List.not_mem_nil)
    · intro x member
      obtain ⟨file, stored, rfl⟩ := List.mem_map.mp
        (show x ∈ directory.files.map (fun file => file.event.enqueueSeq) from member)
      exact foldl_max_le.2 file stored
    · exact directory.seqs_distinct
    · exact directory.paths_distinct
    · exact directory.paths_used
  · intro _
    constructor
    · rw [waiting]
      intro candidate member
      obtain ⟨file, stored, rfl⟩ := List.mem_map.mp (same.subset member)
      exact List.mem_map_of_mem stored
    · simp
    · simp
    · exact fun _ => ⟨rfl, rfl⟩
    · simp
  · exact fun _ => directory.boot_formed

/-- What a process leaves on disk, as the next one finds it. -/
def Forwarder.Invariant.directory {s : Forwarder} (invariant : s.Invariant) : SpoolDirectory where
  files := s.files
  nextUuid := s.nextUuid
  paths_distinct := invariant.sound.paths
  seqs_distinct := (List.nodup_append.mp invariant.sound.distinct).2.1
  paths_used := invariant.sound.used

/-- A process posts in strictly increasing order, and only events it found on disk or
    numbered itself. -/
theorem SpoolDirectory.run_spec (directory : SpoolDirectory)
    (ran : run Forwarder.step (directory.boot clock others) actions = some s) :
    s.Invariant ∧ s.posted.Pairwise (· < ·) ∧
      ∀ seq ∈ s.posted, (∃ file ∈ directory.files, file.event.enqueueSeq = seq) ∨
        (directory.boot clock others).enqueueSeq < seq := by
  let known (seq : Nat) : Prop := (∃ file ∈ directory.files, file.event.enqueueSeq = seq) ∨
    (directory.boot clock others).enqueueSeq < seq
  let inv (s : Forwarder) : Prop := s.Invariant ∧
    (directory.boot clock others).enqueueSeq ≤ s.enqueueSeq ∧ ∀ seq ∈ s.custody.seqs, known seq
  have kept : ∀ s a s', inv s → True → s.step a = some s' → inv s' := by
    rintro s a s' ⟨invariant, base, origin⟩ _ stepped
    have change := step_change invariant.orderly stepped
    refine ⟨invariant.step stepped, base.trans change.counter_le, change.seqs_known origin ?_⟩
    exact fun seq above _ => Or.inr (base.trans_lt above)
  have booted : inv (directory.boot clock others) := by
    refine ⟨directory.boot_invariant, le_rfl, ?_⟩
    exact fun seq member => Or.inl (List.mem_map.mp member)
  obtain ⟨invariant, _, origin⟩ := run_preserves kept booted (fun _ _ => trivial) ran
  refine ⟨invariant, ?_, ?_⟩
  · exact invariant.sound.rising.sublist (List.sublist_append_left _ _)
  · intro seq posted
    apply origin
    simp only [Custody.seqs, List.mem_append]
    exact Or.inl (Or.inl (Or.inl posted))

/-- Over two processes on one spool directory the numbers of successful posts never fall
    and repeat only for files the second process found, provided the second counter does
    not start below what was posted and no file the first process was done with is left. -/
theorem posts_in_order_across_restart (directory : SpoolDirectory)
    (clock others clock' others' : Nat) (before after : List Action) (s₁ s₂ : Forwarder)
    (first : run Forwarder.step (directory.boot clock others) before = some s₁)
    (second : run Forwarder.step (s₁.restart clock' others') after = some s₂)
    (forward : ∀ seq ∈ s₁.posted, seq ≤ (s₁.restart clock' others').enqueueSeq)
    (cleaned : ∀ file ∈ s₁.files, file.path ∉ s₁.leftovers) :
    (s₁.posted ++ s₂.posted).Pairwise (· ≤ ·) ∧
      ∀ seq, 1 < (s₁.posted ++ s₂.posted).count seq →
        ∃ file ∈ s₁.files, file.event.enqueueSeq = seq := by
  obtain ⟨invariant, rising₁, _⟩ := directory.run_spec first
  obtain ⟨_, rising₂, origin⟩ := invariant.directory.run_spec second
  constructor
  · apply List.pairwise_append.mpr
    refine ⟨rising₁.imp le_of_lt, rising₂.imp le_of_lt, ?_⟩
    intro p posted q later
    rcases origin q later with ⟨file, stored, rfl⟩ | fresh
    · have ahead := (invariant.sound.kept file stored).resolve_left (cleaned file stored)
      exact ahead p (List.mem_append_left _ posted)
    · exact (forward p posted).trans fresh.le
  · intro seq repeated
    have once₁ := List.nodup_iff_count_le_one.mp (rising₁.imp ne_of_lt) seq
    have once₂ := List.nodup_iff_count_le_one.mp (rising₂.imp ne_of_lt) seq
    rw [List.count_append] at repeated
    have posted₁ : seq ∈ s₁.posted := List.count_pos_iff.mp (by omega)
    have posted₂ : seq ∈ s₂.posted := List.count_pos_iff.mp (by omega)
    rcases origin seq posted₂ with stored | fresh
    · exact stored
    · exact absurd (forward seq posted₁) (Nat.not_le_of_lt fresh)

def emptySpool : SpoolDirectory where
  files := []
  nextUuid := 0
  paths_distinct := List.nodup_nil
  seqs_distinct := List.nodup_nil
  paths_used := by simp

/-- One event on the direct path, posted and finished. -/
def directEvent : List Action :=
  [.enqueue 7 true, .checkPending false, .admitEvent (.send .sent), .receive .readable, .startPost,
    .finishPost .accepted, .finishEvent true]

/-- Write, account and publish the event of the lane. -/
def spoolLane : List Action :=
  [.spoolEvent true, .spoolEvent true, .spoolEvent true]

/-- Replay the lowest candidate and post it. -/
def replayOne : List Action :=
  [.refreshIndex, .popNext, .replayCandidate .sent, .receive .readable, .startPost,
    .finishPost .accepted]

/-- The second event finds the queue full while the first is retried and made durable at
    the head; the process dies after the second event's post, before its file is gone. -/
def overflowRun : List Action :=
  [.enqueue 7 true, .checkPending false, .admitEvent (.send .sent), .receive .readable, .startPost,
    .enqueue 8 true, .checkPending false, .admitEvent (.send .targetQueueFull)] ++ spoolLane ++
  [.finishPost .sessionNotActive, .persistHead true, .persistHead true, .startPost,
    .finishPost .accepted, .finishEvent true] ++ replayOne

def overflowed : Forwarder :=
  (run Forwarder.step (emptySpool.boot 1000 0) overflowRun).getD (emptySpool.boot 1000 0)

def resumed : Forwarder :=
  (run Forwarder.step (overflowed.restart 2000 0) (replayOne ++ [.finishEvent true])).getD
    (overflowed.restart 2000 0)

theorem overflow_and_restart_in_order :
    overflowed.posted ++ resumed.posted = [1001, 1002, 1002] ∧
      (overflowed.posted ++ resumed.posted).Pairwise (· ≤ ·) ∧
      ∀ seq, 1 < (overflowed.posted ++ resumed.posted).count seq →
        ∃ file ∈ overflowed.files, file.event.enqueueSeq = seq :=
  ⟨by decide, posts_in_order_across_restart emptySpool 1000 0 2000 0 overflowRun
    (replayOne ++ [.finishEvent true]) overflowed resumed (by decide) (by decide) (by decide)
    (by decide)⟩

/-- A spooled event whose file could not be removed after its post, then a second one. -/
def undeletedRun : List Action :=
  [.enqueue 7 true, .checkPending false, .admitEvent .ramFull] ++ spoolLane ++ replayOne ++
  [.finishEvent false, .enqueue 8 true, .checkPending false] ++ spoolLane ++ replayOne ++
  [.finishEvent true]

/-- The numbers fall when the clock is set back across the restart, and when a posted
    file that could not be removed is found again. -/
theorem order_lost_across_restart :
    (∃ s₁ s₂, run Forwarder.step (emptySpool.boot 1000 0) directEvent = some s₁ ∧
      run Forwarder.step (s₁.restart 500 0) directEvent = some s₂ ∧
      s₁.posted ++ s₂.posted = [1001, 501]) ∧
    ∃ s₁ s₂, run Forwarder.step (emptySpool.boot 1000 0) undeletedRun = some s₁ ∧
      run Forwarder.step (s₁.restart 2000 0) replayOne = some s₂ ∧
      s₁.posted ++ s₂.posted = [1001, 1002, 1001] :=
  ⟨⟨_, _, rfl, rfl, by decide⟩, ⟨_, _, rfl, rfl, by decide⟩⟩

/-- In every run no event is posted twice, and none is held twice, in memory or in a file; what is
    held is not older than what was posted, but for files that could not be deleted. -/
theorem events_held_once (directory : SpoolDirectory)
    (ran : run Forwarder.step (directory.boot clock others) actions = some s) :
    s.posted.Nodup ∧ (s.custody.ram ++ s.custody.fileSeqs).Nodup ∧
      ∀ seq ∈ s.posted, (∀ held ∈ s.custody.ram, seq ≤ held) ∧
        ∀ file ∈ s.files, file.path ∈ s.leftovers ∨ seq ≤ file.event.enqueueSeq := by
  obtain ⟨invariant, rising, _⟩ := directory.run_spec ran
  have sound := invariant.sound
  refine ⟨rising.imp ne_of_lt, sound.distinct, fun seq posted => ?_⟩
  have out : seq ∈ s.custody.outgoing := List.mem_append_left _ posted
  exact ⟨fun held member => sound.behind held member seq out,
    fun file stored => (sound.kept file stored).imp_right (· seq out)⟩

theorem overflow_held_once :
    overflowed.posted = [1001, 1002] ∧ (overflowed.custody.ram ++ overflowed.custody.fileSeqs).Nodup :=
  ⟨by decide, (events_held_once emptySpool
    (show run _ (emptySpool.boot 1000 0) overflowRun = some _ by decide)).2.1⟩

end Vpsman.Forward
