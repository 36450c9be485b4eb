import Mathlib.Data.List.Sort

/-! # Spooled events and the index they are replayed from

The forwarder is modelled for one target. Of an event the model keeps what decides its
way: its sequence number, its creation second, whether its body decodes and whether it
carries the replay mark. A spool file is known by the uuid in its name; uuids are taken
to be fresh.
-/

namespace Vpsman.Forward

/-- The uuid in the name of a file of the pending directory. -/
abbrev SpoolPath := Nat

structure Event where
  enqueueSeq : Nat
  createdUnix : Nat
  /-- The body decodes as the ingest message of the event's kind. -/
  decodes : Bool
  spooledReplay : Bool
deriving DecidableEq, Repr

/-- Setting the replay mark re-encodes the body, so it fails when the body does not
    decode. -/
def Event.markSpooledReplay (event : Event) : Option Event :=
  if event.decodes then some { event with spooledReplay := true } else none

def Event.markedSpooledReplay (event : Event) : Bool :=
  event.decodes && event.spooledReplay

@[simp] theorem Event.enqueueSeq_marked (event : Event) :
    (event.markSpooledReplay.getD event).enqueueSeq = event.enqueueSeq := by
  unfold markSpooledReplay
  split <;> rfl

theorem Event.enqueueSeq_of_mark {event marked : Event}
    (mark : event.markSpooledReplay = some marked) : marked.enqueueSeq = event.enqueueSeq := by
  simpa [mark] using event.enqueueSeq_marked

structure SpoolFile where
  path : SpoolPath
  event : Event
deriving DecidableEq, Repr

structure Candidate where
  path : SpoolPath
  createdUnix : Nat
  enqueueSeq : Nat
deriving DecidableEq, Repr

/-- The catalogue entry of a file: name and header, not its body. -/
def SpoolFile.candidate (file : SpoolFile) : Candidate where
  path := file.path
  createdUnix := file.event.createdUnix
  enqueueSeq := file.event.enqueueSeq

/-- Key order of the index: sequence number, creation second, path. -/
def Candidate.upTo (a b : Candidate) : Prop :=
  a.enqueueSeq < b.enqueueSeq ∨ a.enqueueSeq = b.enqueueSeq ∧
    (a.createdUnix < b.createdUnix ∨ a.createdUnix = b.createdUnix ∧ a.path ≤ b.path)

instance : DecidableRel Candidate.upTo := fun a b => by
  unfold Candidate.upTo
  infer_instance

/-- One target's part of the replay index: its candidates in key order, and whether the
    target is scheduled or blocked. -/
structure ReplayIndex where
  initialized : Bool := false
  candidates : List Candidate := []
  scheduled : Bool := false
  blocked : Bool := false
deriving DecidableEq, Repr

namespace ReplayIndex

/-- A path the index already holds is ignored. -/
def insert (index : ReplayIndex) (candidate : Candidate) : ReplayIndex :=
  if candidate.path ∈ index.candidates.map Candidate.path then index
  else
    { index with
      candidates := index.candidates.orderedInsert Candidate.upTo candidate
      scheduled := index.scheduled || !index.blocked }

def insertAll (index : ReplayIndex) (candidates : List Candidate) : ReplayIndex :=
  candidates.foldl insert index

/-- Take the target's lowest candidate, if the target is scheduled. -/
def popNext (index : ReplayIndex) : Option Candidate × ReplayIndex :=
  if index.scheduled then
    match index.candidates with
    | [] => (none, { index with scheduled := false })
    | candidate :: rest =>
      (some candidate, { index with candidates := rest, scheduled := false })
  else (none, index)

def blockTarget (index : ReplayIndex) : ReplayIndex :=
  { index with blocked := true, scheduled := false }

def scheduleIfCandidates (index : ReplayIndex) : ReplayIndex :=
  { index with scheduled :=
      index.scheduled || !index.blocked && !index.candidates.isEmpty }

def unblockTarget (index : ReplayIndex) : ReplayIndex :=
  if index.blocked then { index with blocked := false }.scheduleIfCandidates else index

variable (index : ReplayIndex)

@[simp] theorem candidates_blockTarget :
    index.blockTarget.candidates = index.candidates := rfl

@[simp] theorem candidates_scheduleIfCandidates :
    index.scheduleIfCandidates.candidates = index.candidates := rfl

@[simp] theorem candidates_unblockTarget : index.unblockTarget.candidates = index.candidates := by
  unfold unblockTarget
  split <;> rfl

@[simp] theorem initialized_blockTarget :
    index.blockTarget.initialized = index.initialized := rfl

@[simp] theorem initialized_scheduleIfCandidates :
    index.scheduleIfCandidates.initialized = index.initialized := rfl

@[simp] theorem initialized_insert : (index.insert candidate).initialized = index.initialized := by
  unfold insert
  split <;> rfl

theorem initialized_insertAll (candidates : List Candidate) :
    (index.insertAll candidates).initialized = index.initialized := by
  induction candidates generalizing index with
  | nil => rfl
  | cons _ _ ih => exact (ih _).trans index.initialized_insert

end ReplayIndex

/-- Candidates in increasing order of their sequence numbers. -/
def Rising (candidates : List Candidate) : Prop :=
  candidates.Pairwise fun a b => a.enqueueSeq < b.enqueueSeq

variable {a b : Candidate}

theorem upTo_of_lt (lt : a.enqueueSeq < b.enqueueSeq) : a.upTo b :=
  Or.inl lt

theorem not_upTo_of_lt (lt : b.enqueueSeq < a.enqueueSeq) : ¬ a.upTo b := by
  unfold Candidate.upTo
  omega

theorem lt_of_upTo (upTo : a.upTo b) (ne : a.enqueueSeq ≠ b.enqueueSeq) :
    a.enqueueSeq < b.enqueueSeq := by
  unfold Candidate.upTo at upTo
  omega

variable {candidates : List Candidate} {candidate : Candidate}

theorem orderedInsert_below (below : ∀ other ∈ candidates, candidate.enqueueSeq < other.enqueueSeq) :
    candidates.orderedInsert Candidate.upTo candidate = candidate :: candidates := by
  cases candidates with
  | nil => rfl
  | cons head =>
    exact List.orderedInsert_cons_of_le _ _ (upTo_of_lt (below head List.mem_cons_self))

theorem orderedInsert_above (above : ∀ other ∈ candidates, other.enqueueSeq < candidate.enqueueSeq) :
    candidates.orderedInsert Candidate.upTo candidate = candidates ++ [candidate] := by
  induction candidates with
  | nil => rfl
  | cons head _ ih =>
    rw [List.orderedInsert_of_not_le _ _ (not_upTo_of_lt (above head List.mem_cons_self)),
      ih fun other member => above other (List.mem_cons_of_mem _ member), List.cons_append]

theorem Rising.orderedInsert (rising : Rising candidates)
    (apart : ∀ other ∈ candidates, candidate.enqueueSeq ≠ other.enqueueSeq) :
    Rising (candidates.orderedInsert Candidate.upTo candidate) := by
  induction candidates with
  | nil => exact List.pairwise_singleton _ _
  | cons head _ ih =>
    obtain ⟨first, tail⟩ := List.pairwise_cons.mp rising
    have headApart := apart head List.mem_cons_self
    rw [List.orderedInsert_cons]
    split
    next upTo =>
      have below := lt_of_upTo upTo headApart
      refine List.pairwise_cons.mpr ⟨?_, rising⟩
      intro other member
      rcases List.mem_cons.mp member with rfl | later
      · exact below
      · exact below.trans (first other later)
    next above =>
      refine List.pairwise_cons.mpr
        ⟨?_, ih tail fun other member => apart other (List.mem_cons_of_mem _ member)⟩
      intro other member
      rcases (List.mem_orderedInsert _).mp member with rfl | later
      · exact lt_of_le_of_ne (Nat.le_of_not_lt fun lt => above (upTo_of_lt lt)) headApart.symm
      · exact first other later

namespace ReplayIndex

variable {index : ReplayIndex}

theorem candidates_insert_below (fresh : candidate.path ∉ index.candidates.map Candidate.path)
    (below : ∀ other ∈ index.candidates, candidate.enqueueSeq < other.enqueueSeq) :
    (index.insert candidate).candidates = candidate :: index.candidates := by
  simp only [insert, if_neg fresh, orderedInsert_below below]

theorem candidates_insertAll_above (rising : Rising (index.candidates ++ arrivals))
    (distinct : ((index.candidates ++ arrivals).map Candidate.path).Nodup) :
    (index.insertAll arrivals).candidates = index.candidates ++ arrivals := by
  induction arrivals generalizing index with
  | nil => simp [insertAll]
  | cons candidate rest ih =>
    have fresh : candidate.path ∉ index.candidates.map Candidate.path := by
      rw [List.map_append, List.map_cons] at distinct
      exact fun member =>
        (List.nodup_append.mp distinct).2.2 _ member _ List.mem_cons_self rfl
    have above : ∀ other ∈ index.candidates, other.enqueueSeq < candidate.enqueueSeq :=
      fun other member =>
        (List.pairwise_append.mp rising).2.2 other member candidate List.mem_cons_self
    have placed : (index.insert candidate).candidates = index.candidates ++ [candidate] := by
      simp only [insert, if_neg fresh, orderedInsert_above above]
    have rest := @ih (index.insert candidate)
    rw [placed, List.append_assoc, List.singleton_append] at rest
    exact rest rising distinct

/-- Candidates in any order, with different paths and sequence numbers, end up in
    increasing order, none of them missing. -/
theorem insertAll_spec {candidates : List Candidate} (rising : Rising index.candidates)
    (paths : ((index.candidates ++ candidates).map Candidate.path).Nodup)
    (seqs : ((index.candidates ++ candidates).map Candidate.enqueueSeq).Nodup) :
    Rising (index.insertAll candidates).candidates ∧
      (index.insertAll candidates).candidates.Perm (index.candidates ++ candidates) := by
  induction candidates generalizing index with
  | nil => simpa [insertAll] using rising
  | cons candidate rest ih =>
    have apart : ∀ {β : Type} (f : Candidate → β),
        ((index.candidates ++ candidate :: rest).map f).Nodup →
          f candidate ∉ index.candidates.map f := by
      intro β f distinct member
      rw [List.map_append, List.map_cons] at distinct
      exact (List.nodup_append.mp distinct).2.2 _ member _ List.mem_cons_self rfl
    have placed : (index.insert candidate).candidates =
        index.candidates.orderedInsert Candidate.upTo candidate := by
      simp only [insert, if_neg (apart Candidate.path paths)]
    have moved : ((index.insert candidate).candidates ++ rest).Perm
        (index.candidates ++ candidate :: rest) := by
      rw [placed]
      exact ((List.perm_orderedInsert _ _ _).append_right _).trans List.perm_middle.symm
    have step := @ih (index.insert candidate)
      (by
        rw [placed]
        refine rising.orderedInsert fun other member same =>
          apart Candidate.enqueueSeq seqs ?_
        exact same ▸ List.mem_map_of_mem member)
      ((moved.map _).nodup_iff.mpr paths) ((moved.map _).nodup_iff.mpr seqs)
    exact ⟨step.1, step.2.trans moved⟩

end ReplayIndex

end Vpsman.Forward
