import Mathlib.Data.Prod.Lex
import Mathlib.Data.Finset.Basic
import Vpsman.Lib.HashMap
import Vpsman.Lib.Machine
import Vpsman.Lib.OrderedMap

/-! # The replay index over all targets

Spooled events wait per target, in the order of their sequence numbers. Targets take turns
through a queue of tokens; a token whose target was blocked in the meantime is stale and is
dropped when its turn comes.
-/

namespace Vpsman.Forward

open Vpsman.Lib

variable {Target Path : Type} [DecidableEq Target] [LinearOrder Path]

structure GatewayPendingSpoolCandidate (Target Path : Type) where
  targetKey : Target
  path : Path
  createdUnix : Nat
  enqueueSeq : Nat
  diskBytes : Nat
  deriving Repr, DecidableEq

/-- Sequence number, creation second and path decide, in this order. -/
abbrev ReplayOrder (Path : Type) := ℕ ×ₗ ℕ ×ₗ Path

def GatewayPendingSpoolCandidate.order (candidate : GatewayPendingSpoolCandidate Target Path) :
    ReplayOrder Path :=
  toLex (candidate.enqueueSeq, toLex (candidate.createdUnix, candidate.path))

structure GatewaySpoolReplayIndex (Target Path : Type) [LinearOrder Path] where
  initialized : Bool := false
  candidates : HashMap Target
    (OrderedMap (ReplayOrder Path) (GatewayPendingSpoolCandidate Target Path)) := ∅
  readyTargets : List Target := []
  scheduledTargets : Finset Target := ∅
  blockedTargets : Finset Target := ∅
  knownPaths : Finset Path := ∅

namespace GatewaySpoolReplayIndex

/-- Give the target a token if it has none. -/
def schedule (index : GatewaySpoolReplayIndex Target Path) (targetKey : Target) :
    GatewaySpoolReplayIndex Target Path :=
  if targetKey ∈ index.scheduledTargets then index
  else
    { index with
      scheduledTargets := insert targetKey index.scheduledTargets
      readyTargets := index.readyTargets ++ [targetKey] }

/-- Put the candidate among those of its target. -/
def store (index : GatewaySpoolReplayIndex Target Path)
    (candidate : GatewayPendingSpoolCandidate Target Path) : GatewaySpoolReplayIndex Target Path :=
  let waiting := (index.candidates.lookup candidate.targetKey).getD .empty
  { index with
    knownPaths := Insert.insert candidate.path index.knownPaths
    candidates := index.candidates.insert candidate.targetKey
      (waiting.insert candidate.order candidate) }

def insert (index : GatewaySpoolReplayIndex Target Path)
    (candidate : GatewayPendingSpoolCandidate Target Path) : GatewaySpoolReplayIndex Target Path :=
  if candidate.path ∈ index.knownPaths then index
  else
    let index := index.store candidate
    if candidate.targetKey ∉ index.blockedTargets then index.schedule candidate.targetKey else index

/-- Take the candidate out from among those of its target, whose token is spent. -/
def take (index : GatewaySpoolReplayIndex Target Path) (targetKey : Target) (ready : List Target)
    (waiting : OrderedMap (ReplayOrder Path) (GatewayPendingSpoolCandidate Target Path))
    (entry : ReplayOrder Path × GatewayPendingSpoolCandidate Target Path) :
    GatewaySpoolReplayIndex Target Path :=
  let rest := waiting.remove entry.1
  { index with
    readyTargets := ready
    scheduledTargets := index.scheduledTargets.erase targetKey
    knownPaths := index.knownPaths.erase entry.2.path
    candidates := if rest.isEmpty then index.candidates.erase targetKey
      else index.candidates.insert targetKey rest }

/-- The loop of `pop_next` over the tokens that are left. -/
def popFrom : List Target → GatewaySpoolReplayIndex Target Path →
    Option (GatewayPendingSpoolCandidate Target Path) × GatewaySpoolReplayIndex Target Path
  | [], index => (none, { index with readyTargets := [] })
  | targetKey :: ready, index =>
    if targetKey ∉ index.scheduledTargets then popFrom ready index
    else
      match (index.candidates.lookup targetKey).bind fun waiting =>
          waiting.firstKeyValue.map fun entry => (waiting, entry) with
      | none => popFrom ready { index with
          scheduledTargets := index.scheduledTargets.erase targetKey
          candidates := index.candidates.erase targetKey }
      | some (waiting, entry) => (some entry.2, index.take targetKey ready waiting entry)

def popNext (index : GatewaySpoolReplayIndex Target Path) :
    Option (GatewayPendingSpoolCandidate Target Path) × GatewaySpoolReplayIndex Target Path :=
  popFrom index.readyTargets index

def blockTarget (index : GatewaySpoolReplayIndex Target Path) (targetKey : Target) :
    GatewaySpoolReplayIndex Target Path :=
  { index with
    blockedTargets := Insert.insert targetKey index.blockedTargets
    scheduledTargets := index.scheduledTargets.erase targetKey }

def unblockTarget (index : GatewaySpoolReplayIndex Target Path) (targetKey : Target) :
    GatewaySpoolReplayIndex Target Path :=
  if targetKey ∈ index.blockedTargets then
    let index := { index with blockedTargets := index.blockedTargets.erase targetKey }
    if targetKey ∈ index.candidates then index.schedule targetKey else index
  else index

def scheduleIfCandidates (index : GatewaySpoolReplayIndex Target Path) (targetKey : Target) :
    GatewaySpoolReplayIndex Target Path :=
  if targetKey ∉ index.blockedTargets ∧ targetKey ∈ index.candidates then index.schedule targetKey
  else index

def Holds (index : GatewaySpoolReplayIndex Target Path)
    (candidate : GatewayPendingSpoolCandidate Target Path) : Prop :=
  ∃ waiting, index.candidates.lookup candidate.targetKey = some waiting ∧
    (candidate.order, candidate) ∈ waiting.entries

/-- How the parts of the index belong together. -/
structure Sound (index : GatewaySpoolReplayIndex Target Path) : Prop where
  keyed : ∀ {targetKey waiting}, index.candidates.lookup targetKey = some waiting →
    ∀ entry ∈ waiting.entries, entry.1 = entry.2.order ∧ entry.2.targetKey = targetKey
  nonempty : ∀ {targetKey waiting}, index.candidates.lookup targetKey = some waiting →
    waiting.entries ≠ []
  known : ∀ {path}, path ∈ index.knownPaths ↔ ∃ candidate, index.Holds candidate ∧ candidate.path = path
  unique : ∀ {first second}, index.Holds first → index.Holds second → first.path = second.path →
    first = second
  tokens : ∀ {targetKey}, targetKey ∈ index.scheduledTargets → targetKey ∈ index.readyTargets
  unblocked : ∀ {targetKey}, targetKey ∈ index.scheduledTargets → targetKey ∉ index.blockedTargets
  waits : ∀ {targetKey}, targetKey ∈ index.scheduledTargets → targetKey ∈ index.candidates

variable {index : GatewaySpoolReplayIndex Target Path}
  {candidate : GatewayPendingSpoolCandidate Target Path} {targetKey : Target}

theorem Holds.target (held : index.Holds candidate) : candidate.targetKey ∈ index.candidates := by
  obtain ⟨waiting, found, _⟩ := held
  exact AList.lookup_isSome.mp (found ▸ rfl)

theorem Sound.empty : ({} : GatewaySpoolReplayIndex Target Path).Sound where
  keyed := fun found => nomatch found
  nonempty := fun found => nomatch found
  known := by
    intro path
    refine ⟨fun member => absurd member (Finset.notMem_empty _), ?_⟩
    rintro ⟨candidate, ⟨waiting, found, _⟩, _⟩
    cases found
  unique := by
    rintro first second ⟨waiting, found, _⟩
    cases found
  tokens := fun member => absurd member (Finset.notMem_empty _)
  unblocked := fun member => absurd member (Finset.notMem_empty _)
  waits := fun member => absurd member (Finset.notMem_empty _)

/-- The index changes only in its tokens. -/
structure SameCandidates (index index' : GatewaySpoolReplayIndex Target Path) : Prop where
  candidates : index'.candidates = index.candidates
  knownPaths : index'.knownPaths = index.knownPaths

theorem SameCandidates.holds
    (same : SameCandidates index index') : index'.Holds candidate ↔ index.Holds candidate := by
  unfold Holds
  rw [same.candidates]

theorem Sound.retoken (sound : index.Sound) (same : SameCandidates index index')
    (tokens : ∀ {targetKey}, targetKey ∈ index'.scheduledTargets → targetKey ∈ index'.readyTargets)
    (unblocked : ∀ {targetKey}, targetKey ∈ index'.scheduledTargets →
      targetKey ∉ index'.blockedTargets)
    (waits : ∀ {targetKey}, targetKey ∈ index'.scheduledTargets → targetKey ∈ index.candidates) :
    index'.Sound where
  keyed := by
    rw [same.candidates]
    exact sound.keyed
  nonempty := by
    rw [same.candidates]
    exact sound.nonempty
  known := by
    intro path
    simp [same.knownPaths, same.holds, sound.known]
  unique := fun first second => sound.unique (same.holds.mp first) (same.holds.mp second)
  tokens := tokens
  unblocked := unblocked
  waits := by
    rw [same.candidates]
    exact waits

theorem schedule_same : SameCandidates index (index.schedule targetKey) := by
  unfold schedule
  split
  all_goals exact ⟨rfl, rfl⟩

theorem blockedTargets_schedule :
    (index.schedule targetKey).blockedTargets = index.blockedTargets := by
  unfold schedule
  split <;> rfl

theorem mem_scheduledTargets_schedule :
    other ∈ (index.schedule targetKey).scheduledTargets ↔
      other = targetKey ∨ other ∈ index.scheduledTargets := by
  unfold schedule
  split
  next scheduled =>
    refine ⟨.inr, ?_⟩
    rintro (rfl | member)
    · exact scheduled
    · exact member
  · exact Finset.mem_insert

theorem still_scheduled (scheduled : other ∈ index.scheduledTargets) :
    other ∈ (index.schedule targetKey).scheduledTargets :=
  mem_scheduledTargets_schedule.mpr (.inr scheduled)

theorem Sound.schedule (sound : index.Sound) (free : targetKey ∉ index.blockedTargets)
    (waiting : targetKey ∈ index.candidates) : (index.schedule targetKey).Sound := by
  refine sound.retoken schedule_same ?_ ?_ ?_
  · intro other scheduled
    rw [mem_scheduledTargets_schedule] at scheduled
    unfold GatewaySpoolReplayIndex.schedule
    split
    next present =>
      rcases scheduled with rfl | scheduled
      · exact sound.tokens present
      · exact sound.tokens scheduled
    · rcases scheduled with rfl | scheduled
      · exact List.mem_append_right _ List.mem_cons_self
      · exact List.mem_append_left _ (sound.tokens scheduled)
  · intro other scheduled
    rw [blockedTargets_schedule]
    rcases mem_scheduledTargets_schedule.mp scheduled with rfl | scheduled
    · exact free
    · exact sound.unblocked scheduled
  · intro other scheduled
    rcases mem_scheduledTargets_schedule.mp scheduled with rfl | scheduled
    · exact waiting
    · exact sound.waits scheduled

/-! ## Candidates in and out -/

omit [DecidableEq Target] [LinearOrder Path] in
theorem path_of_order {first second : GatewayPendingSpoolCandidate Target Path}
    (same : first.order = second.order) : first.path = second.path :=
  congrArg (fun order : ReplayOrder Path => (ofLex (ofLex order).2).2) same

section Sound

variable (sound : index.Sound)
include sound

section

variable (fresh : candidate.path ∉ index.knownPaths)
include fresh

theorem Sound.place_free (found : index.candidates.lookup targetKey = some waiting)
    (member : entry ∈ waiting.entries) : entry.1 ≠ candidate.order := by
  obtain ⟨order, target⟩ := sound.keyed found entry member
  intro same
  have held : index.Holds entry.2 := ⟨waiting, target ▸ found, order ▸ member⟩
  exact fresh (sound.known.mpr ⟨entry.2, held, path_of_order (order.symm.trans same)⟩)

theorem mem_store_entries :
    entry ∈ (((index.candidates.lookup candidate.targetKey).getD .empty).insert candidate.order
      candidate).entries ↔ entry = (candidate.order, candidate) ∨
        ∃ waiting, index.candidates.lookup candidate.targetKey = some waiting ∧
          entry ∈ waiting.entries := by
  rw [OrderedMap.mem_insert]
  refine or_congr_right ?_
  cases found : index.candidates.lookup candidate.targetKey with
  | none =>
    refine ⟨fun member => absurd member.1 List.not_mem_nil, ?_⟩
    rintro ⟨waiting, absurdity, _⟩
    cases absurdity
  | some waiting =>
    refine ⟨fun member => ⟨waiting, rfl, member.1⟩, ?_⟩
    rintro ⟨same, found', member⟩
    cases found'
    exact ⟨member, sound.place_free fresh found member⟩

theorem holds_store :
    (index.store candidate).Holds other ↔ other = candidate ∨ index.Holds other := by
  unfold Holds store
  rw [HashMap.lookup_insert_eq]
  by_cases same : other.targetKey = candidate.targetKey
  · rw [if_pos same, same]
    simp only [Option.some_inj, exists_eq_left', mem_store_entries sound fresh]
    refine or_congr_left ⟨fun equal => (Prod.mk.inj equal).2, fun equal => by rw [equal]⟩
  · rw [if_neg same]
    refine ⟨.inr, ?_⟩
    rintro (rfl | held)
    · exact absurd rfl same
    · exact held

theorem Sound.store :
    (index.store candidate).Sound where
  keyed := by
    intro targetKey waiting found entry member
    rcases HashMap.lookup_insert_cases found with ⟨rfl, rfl⟩ | found
    · rcases (mem_store_entries sound fresh).mp member with rfl | ⟨waiting, found, member⟩
      · exact ⟨rfl, rfl⟩
      · exact sound.keyed found entry member
    · exact sound.keyed found entry member
  nonempty := by
    intro targetKey waiting found
    rcases HashMap.lookup_insert_cases found with ⟨-, rfl⟩ | found
    · exact List.ne_nil_of_mem ((mem_store_entries sound fresh).mpr (.inl rfl))
    · exact sound.nonempty found
  known := by
    intro path
    simp only [holds_store sound fresh]
    change path ∈ Insert.insert candidate.path index.knownPaths ↔ _
    rw [Finset.mem_insert, sound.known]
    constructor
    · rintro (rfl | ⟨other, held, rfl⟩)
      · exact ⟨candidate, .inl rfl, rfl⟩
      · exact ⟨other, .inr held, rfl⟩
    · rintro ⟨other, rfl | held, rfl⟩
      · exact .inl rfl
      · exact .inr ⟨other, held, rfl⟩
  unique := by
    have apart {other} (held : index.Holds other) : other.path ≠ candidate.path :=
      fun same => fresh (sound.known.mpr ⟨other, held, same⟩)
    intro first second
    rw [holds_store sound fresh, holds_store sound fresh]
    rintro (rfl | held) (rfl | held') same
    · rfl
    · exact absurd same.symm (apart held')
    · exact absurd same (apart held)
    · exact sound.unique held held' same
  tokens := sound.tokens
  unblocked := sound.unblocked
  waits := fun scheduled => (AList.mem_insert _).mpr (.inr (sound.waits scheduled))

end

theorem Sound.insert : (index.insert candidate).Sound := by
  unfold GatewaySpoolReplayIndex.insert
  split
  · exact sound
  next fresh =>
    have stored := sound.store fresh
    dsimp only
    split
    next free =>
      exact stored.schedule free ((AList.mem_insert _).mpr (.inl rfl))
    · exact stored

theorem Sound.blockTarget : (index.blockTarget targetKey).Sound := by
  refine sound.retoken ⟨rfl, rfl⟩ ?_ ?_ ?_
  · exact fun scheduled => sound.tokens (Finset.mem_of_mem_erase scheduled)
  · intro other scheduled blocked
    obtain ⟨different, scheduled⟩ := Finset.mem_erase.mp scheduled
    rcases Finset.mem_insert.mp blocked with rfl | blocked
    · exact different rfl
    · exact sound.unblocked scheduled blocked
  · exact fun scheduled => sound.waits (Finset.mem_of_mem_erase scheduled)

theorem Sound.unblockTarget : (index.unblockTarget targetKey).Sound := by
  unfold GatewaySpoolReplayIndex.unblockTarget
  split
  · have freed : ({ index with
        blockedTargets := index.blockedTargets.erase targetKey } :
        GatewaySpoolReplayIndex Target Path).Sound := by
      refine sound.retoken ⟨rfl, rfl⟩ sound.tokens ?_ sound.waits
      exact fun scheduled blocked => sound.unblocked scheduled (Finset.mem_of_mem_erase blocked)
    dsimp only
    split
    next waiting =>
      exact freed.schedule (Finset.notMem_erase _ _) waiting
    · exact freed
  · exact sound

theorem Sound.scheduleIfCandidates : (index.scheduleIfCandidates targetKey).Sound := by
  unfold GatewaySpoolReplayIndex.scheduleIfCandidates
  split
  next holds =>
    exact sound.schedule holds.1 holds.2
  · exact sound

/-! ## Turns -/

theorem Sound.first (scheduled : targetKey ∈ index.scheduledTargets) :
    ∃ waiting candidate, index.candidates.lookup targetKey = some waiting ∧
      waiting.firstKeyValue = some (candidate.order, candidate) ∧ candidate.targetKey = targetKey := by
  obtain ⟨waiting, found⟩ := Option.isSome_iff_exists.mp (AList.lookup_isSome.mpr (sound.waits scheduled))
  obtain ⟨⟨order, candidate⟩, rest, entries⟩ := List.exists_cons_of_ne_nil (sound.nonempty found)
  have first : waiting.firstKeyValue = some (order, candidate) :=
    List.head?_eq_some_iff.mpr ⟨rest, entries⟩
  obtain ⟨keyed, target⟩ := sound.keyed found _ (OrderedMap.firstKeyValue_eq_some first).1
  exact ⟨waiting, candidate, found, keyed ▸ first, target⟩

/-- The turn goes to the first token that is not stale. -/
theorem popFrom_cases (tokens : ∀ targetKey ∈ index.scheduledTargets, targetKey ∈ ready) :
    (popFrom ready index = (none, { index with readyTargets := [] }) ∧ index.scheduledTargets = ∅) ∨
    ∃ rest waiting candidate, popFrom ready index =
        (some candidate, index.take candidate.targetKey rest waiting (candidate.order, candidate)) ∧
      candidate.targetKey ∈ index.scheduledTargets ∧
      (∀ targetKey ∈ index.scheduledTargets, targetKey ≠ candidate.targetKey → targetKey ∈ rest) ∧
      index.candidates.lookup candidate.targetKey = some waiting ∧
      waiting.firstKeyValue = some (candidate.order, candidate) := by
  induction ready with
  | nil =>
    refine .inl ⟨rfl, Finset.eq_empty_of_forall_notMem fun targetKey scheduled => ?_⟩
    exact absurd (tokens targetKey scheduled) List.not_mem_nil
  | cons targetKey ready ih =>
    by_cases scheduled : targetKey ∈ index.scheduledTargets
    · obtain ⟨waiting, candidate, found, first, rfl⟩ := sound.first scheduled
      refine .inr ⟨ready, waiting, candidate, ?_, scheduled, ?_, found, first⟩
      · rw [popFrom, if_neg (not_not.mpr scheduled), found, Option.bind_some, first]
        rfl
      · intro other present different
        exact List.mem_of_ne_of_mem different (tokens other present)
    · rw [popFrom, if_pos scheduled]
      refine ih ?_
      intro other present
      refine List.mem_of_ne_of_mem ?_ (tokens other present)
      rintro rfl
      exact scheduled present

section Take

variable {waiting : OrderedMap (ReplayOrder Path) (GatewayPendingSpoolCandidate Target Path)}
  {ready : List Target}

omit sound in
theorem lookup_take :
    (index.take targetKey ready waiting entry).candidates.lookup other =
      if other = targetKey then
        (if (waiting.remove entry.1).isEmpty then none else some (waiting.remove entry.1))
      else index.candidates.lookup other := by
  unfold take
  dsimp only
  split
  · exact HashMap.lookup_erase_eq _ _ _
  · exact HashMap.lookup_insert_eq _

theorem Sound.holds_take (found : index.candidates.lookup candidate.targetKey = some waiting)
    (first : waiting.firstKeyValue = some (candidate.order, candidate)) :
    (index.take candidate.targetKey ready waiting (candidate.order, candidate)).Holds other ↔
      index.Holds other ∧ other ≠ candidate := by
  have member := (OrderedMap.firstKeyValue_eq_some first).1
  unfold Holds
  rw [lookup_take]
  by_cases same : other.targetKey = candidate.targetKey
  · rw [if_pos same, same, found]
    simp only [Option.some_inj, exists_eq_left']
    constructor
    · rintro ⟨rest, left, present⟩
      rw [Option.ite_none_left_eq_some] at left
      cases left.2
      obtain ⟨present, different⟩ := waiting.mem_remove.mp present
      refine ⟨present, ?_⟩
      rintro rfl
      exact different rfl
    · rintro ⟨present, different⟩
      have apart : other.order ≠ candidate.order := by
        intro equal
        refine different (sound.unique ⟨waiting, same ▸ found, present⟩ ⟨waiting, found, member⟩ ?_)
        exact path_of_order equal
      have left := waiting.mem_remove.mpr ⟨present, apart⟩
      refine ⟨waiting.remove candidate.order, ?_, left⟩
      rw [if_neg]
      exact fun empty => OrderedMap.isEmpty_iff.mp empty _ left
  · rw [if_neg same]
    refine (and_iff_left_of_imp ?_).symm
    rintro _ rfl
    exact same rfl

theorem Sound.take (found : index.candidates.lookup candidate.targetKey = some waiting)
    (first : waiting.firstKeyValue = some (candidate.order, candidate))
    (left : ∀ targetKey ∈ index.scheduledTargets, targetKey ≠ candidate.targetKey →
      targetKey ∈ ready) :
    (index.take candidate.targetKey ready waiting (candidate.order, candidate)).Sound where
  keyed := by
    intro targetKey rest stored entry member
    rw [lookup_take] at stored
    split at stored
    next same =>
      rw [Option.ite_none_left_eq_some] at stored
      cases stored.2
      exact sound.keyed (same ▸ found) entry (waiting.mem_remove.mp member).1
    · exact sound.keyed stored entry member
  nonempty := by
    intro targetKey rest stored
    rw [lookup_take] at stored
    split at stored
    · rw [Option.ite_none_left_eq_some] at stored
      cases stored.2
      exact fun empty => stored.1 (List.isEmpty_iff.mpr empty)
    · exact sound.nonempty stored
  known := by
    intro path
    have held : index.Holds candidate :=
      ⟨waiting, found, (OrderedMap.firstKeyValue_eq_some first).1⟩
    simp only [sound.holds_take found first]
    change path ∈ index.knownPaths.erase candidate.path ↔ _
    rw [Finset.mem_erase, sound.known]
    constructor
    · rintro ⟨different, other, present, rfl⟩
      exact ⟨other, ⟨present, fun same => different (congrArg _ same)⟩, rfl⟩
    · rintro ⟨other, ⟨present, different⟩, rfl⟩
      exact ⟨fun same => different (sound.unique present held same), other, present, rfl⟩
  unique := by
    intro one two
    rw [sound.holds_take found first, sound.holds_take found first]
    exact fun here there => sound.unique here.1 there.1
  tokens := by
    intro other scheduled
    obtain ⟨different, scheduled⟩ := Finset.mem_erase.mp scheduled
    exact left other scheduled different
  unblocked := fun scheduled => sound.unblocked (Finset.mem_of_mem_erase scheduled)
  waits := by
    intro other scheduled
    obtain ⟨different, scheduled⟩ := Finset.mem_erase.mp scheduled
    rw [← AList.lookup_isSome, lookup_take, if_neg different, AList.lookup_isSome]
    exact sound.waits scheduled

end Take

/-- What a turn does: nothing is scheduled, or the first candidate of a scheduled target goes. -/
inductive Turn (index : GatewaySpoolReplayIndex Target Path) :
    Option (GatewayPendingSpoolCandidate Target Path) × GatewaySpoolReplayIndex Target Path → Prop
  | idle (idle : index.scheduledTargets = ∅) : Turn index (none, { index with readyTargets := [] })
  | taken {candidate index'} (scheduled : candidate.targetKey ∈ index.scheduledTargets)
      (held : index.Holds candidate)
      (least : ∀ other, index.Holds other → other.targetKey = candidate.targetKey →
        candidate.order ≤ other.order)
      (left : ∀ other, index'.Holds other ↔ index.Holds other ∧ other ≠ candidate)
      (scheduledTargets : index'.scheduledTargets = index.scheduledTargets.erase candidate.targetKey)
      (blockedTargets : index'.blockedTargets = index.blockedTargets)
      (sound : index'.Sound) : Turn index (some candidate, index')

theorem Sound.popNext : index.Turn index.popNext := by
  rcases popFrom_cases sound (fun _ => sound.tokens) with
    ⟨popped, idle⟩ | ⟨rest, waiting, candidate, popped, scheduled, left, found, first⟩
  · rw [GatewaySpoolReplayIndex.popNext, popped]
    exact .idle idle
  rw [GatewaySpoolReplayIndex.popNext, popped]
  obtain ⟨member, least⟩ := OrderedMap.firstKeyValue_eq_some first
  refine .taken scheduled ⟨waiting, found, member⟩ ?_ (fun _ => sound.holds_take found first)
    rfl rfl (sound.take found first left)
  rintro other ⟨others, found', present⟩ same
  rw [same, found] at found'
  cases found'
  exact least _ present

end Sound

/-! ## Every sequence of calls -/

inductive Call (Target Path : Type)
  | insert (candidate : GatewayPendingSpoolCandidate Target Path)
  | popNext
  | blockTarget (targetKey : Target)
  | unblockTarget (targetKey : Target)
  | scheduleIfCandidates (targetKey : Target)

/-- The index with an account of what its caller has put in and taken out. -/
structure Session (Target Path : Type) [LinearOrder Path] where
  index : GatewaySpoolReplayIndex Target Path := {}
  /-- The candidates inserted and not yet popped; one with the path of another held candidate
      does not count as inserted. -/
  held : Finset (GatewayPendingSpoolCandidate Target Path) := ∅
  /-- The targets popped from that were not rescheduled, blocked or given a candidate since. -/
  owed : Finset Target := ∅
  /-- The targets blocked and not unblocked since. -/
  blocked : Finset Target := ∅

def Session.call (session : Session Target Path) : Call Target Path → Session Target Path
  | .insert candidate =>
    let index := session.index.insert candidate
    if ∃ other ∈ session.held, other.path = candidate.path then { session with index }
    else
      { session with
        index
        held := Insert.insert candidate session.held
        owed := session.owed.erase candidate.targetKey }
  | .popNext =>
    match session.index.popNext with
    | (none, index) => { session with index }
    | (some candidate, index) =>
      { session with
        index
        held := session.held.erase candidate
        owed := Insert.insert candidate.targetKey session.owed }
  | .blockTarget targetKey =>
    { session with
      index := session.index.blockTarget targetKey
      owed := session.owed.erase targetKey
      blocked := Insert.insert targetKey session.blocked }
  | .unblockTarget targetKey =>
    { session with
      index := session.index.unblockTarget targetKey
      blocked := session.blocked.erase targetKey }
  | .scheduleIfCandidates targetKey =>
    { session with
      index := session.index.scheduleIfCandidates targetKey
      owed := session.owed.erase targetKey }

/-- The account is right, and a target with candidates is in turn, blocked, or owed a turn. -/
structure Session.Accounted (session : Session Target Path) : Prop where
  sound : session.index.Sound
  held : ∀ candidate, session.index.Holds candidate ↔ candidate ∈ session.held
  turns : ∀ candidate, session.index.Holds candidate →
    candidate.targetKey ∈ session.index.scheduledTargets ∨
    candidate.targetKey ∈ session.index.blockedTargets ∨ candidate.targetKey ∈ session.owed
  blocked : session.index.blockedTargets = session.blocked

theorem insert_known (known : candidate.path ∈ index.knownPaths) : index.insert candidate = index :=
  if_pos known

theorem blockedTargets_insert :
    (index.insert candidate).blockedTargets = index.blockedTargets := by
  unfold insert
  split
  · rfl
  · dsimp only
    split
    · exact blockedTargets_schedule
    · rfl

/-- A new candidate is stored, and its target is in turn unless it is blocked. -/
theorem insert_fresh (fresh : candidate.path ∉ index.knownPaths) :
    SameCandidates (index.store candidate) (index.insert candidate) ∧
    index.scheduledTargets ⊆ (index.insert candidate).scheduledTargets ∧
    (candidate.targetKey ∈ (index.insert candidate).scheduledTargets ∨
      candidate.targetKey ∈ index.blockedTargets) := by
  unfold insert
  rw [if_neg fresh]
  dsimp only
  split
  · exact ⟨schedule_same, fun _ scheduled => still_scheduled scheduled,
      .inl (mem_scheduledTargets_schedule.mpr (.inl rfl))⟩
  next blocked =>
    exact ⟨⟨rfl, rfl⟩, subset_rfl, .inr (not_not.mp blocked)⟩

theorem blockedTargets_unblockTarget :
    (index.unblockTarget targetKey).blockedTargets = index.blockedTargets.erase targetKey := by
  unfold unblockTarget
  split
  · dsimp only
    split
    · exact blockedTargets_schedule
    · rfl
  next free => exact (Finset.erase_eq_of_notMem free).symm

theorem unblockTarget_cases (index : GatewaySpoolReplayIndex Target Path) (targetKey : Target) :
    SameCandidates index (index.unblockTarget targetKey) ∧
    index.scheduledTargets ⊆ (index.unblockTarget targetKey).scheduledTargets ∧
    ∀ other ∈ index.blockedTargets, other ∈ index.candidates →
      other ∈ (index.unblockTarget targetKey).scheduledTargets ∨
      other ∈ (index.unblockTarget targetKey).blockedTargets := by
  unfold unblockTarget
  split
  · dsimp only
    split
    · refine ⟨⟨schedule_same.candidates, schedule_same.knownPaths⟩,
        fun _ scheduled => still_scheduled scheduled, ?_⟩
      intro other blocked _
      rw [mem_scheduledTargets_schedule, blockedTargets_schedule]
      by_cases same : other = targetKey
      · exact .inl (.inl same)
      · exact .inr (Finset.mem_erase.mpr ⟨same, blocked⟩)
    next none =>
      refine ⟨⟨rfl, rfl⟩, subset_rfl, ?_⟩
      intro other blocked waiting
      refine .inr (Finset.mem_erase.mpr ⟨?_, blocked⟩)
      rintro rfl
      exact none waiting
  · exact ⟨⟨rfl, rfl⟩, subset_rfl, fun _ blocked _ => .inr blocked⟩

theorem scheduleIfCandidates_cases (index : GatewaySpoolReplayIndex Target Path)
    (targetKey : Target) :
    SameCandidates index (index.scheduleIfCandidates targetKey) ∧
    (index.scheduleIfCandidates targetKey).blockedTargets = index.blockedTargets ∧
    index.scheduledTargets ⊆ (index.scheduleIfCandidates targetKey).scheduledTargets ∧
    (targetKey ∈ index.candidates →
      targetKey ∈ (index.scheduleIfCandidates targetKey).scheduledTargets ∨
      targetKey ∈ index.blockedTargets) := by
  unfold scheduleIfCandidates
  split
  · exact ⟨schedule_same, blockedTargets_schedule, fun _ => still_scheduled,
      fun _ => .inl (mem_scheduledTargets_schedule.mpr (.inl rfl))⟩
  next kept =>
    refine ⟨⟨rfl, rfl⟩, rfl, subset_rfl, fun waiting => .inr ?_⟩
    by_contra free
    exact kept ⟨free, waiting⟩

namespace Session.Accounted

variable {session : Session Target Path}

variable (accounted : session.Accounted)
include accounted

theorem known :
    candidate.path ∈ session.index.knownPaths ↔
      ∃ other ∈ session.held, other.path = candidate.path := by
  simp [accounted.sound.known, accounted.held]

theorem insert : (session.call (.insert candidate)).Accounted := by
  unfold Session.call
  dsimp only
  split
  next already =>
    rw [insert_known (accounted.known.mpr already)]
    exact accounted
  next new =>
    have fresh : candidate.path ∉ session.index.knownPaths := fun known => new (accounted.known.mp known)
    obtain ⟨same, scheduled, turn⟩ := insert_fresh fresh
    have holds (other) : (session.index.insert candidate).Holds other ↔
        other = candidate ∨ other ∈ session.held := by
      rw [same.holds, holds_store accounted.sound fresh, accounted.held]
    refine ⟨accounted.sound.insert, ?_, ?_, blockedTargets_insert.trans accounted.blocked⟩
    · intro other
      rw [holds, Finset.mem_insert]
    intro other held
    rw [blockedTargets_insert]
    by_cases target : other.targetKey = candidate.targetKey
    · rw [target]
      exact turn.imp_right .inl
    · rcases (holds other).mp held with rfl | held
      · exact absurd rfl target
      · refine (accounted.turns other ((accounted.held other).mpr held)).imp (@scheduled _) ?_
        exact Or.imp_right fun owed => Finset.mem_erase.mpr ⟨target, owed⟩

theorem popNext : (session.call .popNext).Accounted := by
  have turn := accounted.sound.popNext
  unfold Session.call
  generalize session.index.popNext = popped at turn ⊢
  cases turn with
  | idle idle =>
    refine ⟨accounted.sound.retoken ⟨rfl, rfl⟩ ?_ accounted.sound.unblocked accounted.sound.waits,
      accounted.held, accounted.turns, accounted.blocked⟩
    intro targetKey scheduled
    rw [idle] at scheduled
    exact absurd scheduled (Finset.notMem_empty _)
  | @taken candidate index' scheduled held least left scheduledTargets blockedTargets sound =>
    refine ⟨sound, ?_, ?_, blockedTargets.trans accounted.blocked⟩
    · intro other
      rw [left, accounted.held, Finset.mem_erase, and_comm]
    intro other present
    rw [scheduledTargets, blockedTargets]
    by_cases target : other.targetKey = candidate.targetKey
    · exact .inr (.inr (Finset.mem_insert.mpr (.inl target)))
    · refine (accounted.turns other ((left other).mp present).1).imp ?_ ?_
      · exact fun scheduled => Finset.mem_erase.mpr ⟨target, scheduled⟩
      · exact Or.imp_right Finset.mem_insert_of_mem

theorem blockTarget : (session.call (.blockTarget targetKey)).Accounted := by
  refine ⟨accounted.sound.blockTarget, accounted.held, ?_,
    congrArg (Insert.insert targetKey) accounted.blocked⟩
  intro candidate held
  by_cases target : candidate.targetKey = targetKey
  · exact .inr (.inl (Finset.mem_insert.mpr (.inl target)))
  · refine (accounted.turns candidate held).imp ?_ (Or.imp ?_ ?_)
    · exact fun scheduled => Finset.mem_erase.mpr ⟨target, scheduled⟩
    · exact Finset.mem_insert_of_mem
    · exact fun owed => Finset.mem_erase.mpr ⟨target, owed⟩

theorem unblockTarget : (session.call (.unblockTarget targetKey)).Accounted := by
  obtain ⟨same, scheduled, blocked⟩ := session.index.unblockTarget_cases targetKey
  refine ⟨accounted.sound.unblockTarget, fun _ => same.holds.trans (accounted.held _), ?_,
    blockedTargets_unblockTarget.trans (congrArg (·.erase targetKey) accounted.blocked)⟩
  intro candidate held
  have before := same.holds.mp held
  rcases accounted.turns candidate before with here | here | owed
  · exact .inl (scheduled here)
  · exact (blocked _ here before.target).imp_right .inl
  · exact .inr (.inr owed)

theorem scheduleIfCandidates : (session.call (.scheduleIfCandidates targetKey)).Accounted := by
  obtain ⟨same, blocked, scheduled, turn⟩ := session.index.scheduleIfCandidates_cases targetKey
  refine ⟨accounted.sound.scheduleIfCandidates, fun _ => same.holds.trans (accounted.held _), ?_,
    blocked.trans accounted.blocked⟩
  intro candidate held
  have before := same.holds.mp held
  unfold Session.call
  rw [blocked]
  by_cases target : candidate.targetKey = targetKey
  · rw [target]
    exact (turn (target ▸ before.target)).imp_right .inl
  · refine (accounted.turns candidate before).imp (@scheduled _) ?_
    exact Or.imp_right fun owed => Finset.mem_erase.mpr ⟨target, owed⟩

theorem call (call : Call Target Path) : (session.call call).Accounted := by
  cases call with
  | insert => exact accounted.insert
  | popNext => exact accounted.popNext
  | blockTarget => exact accounted.blockTarget
  | unblockTarget => exact accounted.unblockTarget
  | scheduleIfCandidates => exact accounted.scheduleIfCandidates

end Session.Accounted

/-- The session after the calls, from an empty index. -/
def Session.after (calls : List (Call Target Path)) : Session Target Path :=
  calls.foldl Session.call {}

theorem Session.after_accounted (calls : List (Call Target Path)) :
    (Session.after calls).Accounted := by
  have start : ({} : Session Target Path).Accounted := by
    refine ⟨.empty, ?_, ?_, rfl⟩
    · intro candidate
      refine ⟨?_, fun member => absurd member (Finset.notMem_empty _)⟩
      rintro ⟨waiting, found, _⟩
      cases found
    · rintro candidate ⟨waiting, found, _⟩
      cases found
  exact List.foldlRecOn calls Session.call start fun _ accounted call _ => accounted.call call

def pending (index : GatewaySpoolReplayIndex Target Path) :
    List (GatewayPendingSpoolCandidate Target Path) :=
  index.candidates.entries.flatMap fun entry => entry.2.entries.map Prod.snd

theorem Sound.mem_pending (sound : index.Sound) : candidate ∈ index.pending ↔ index.Holds candidate := by
  simp only [pending, List.mem_flatMap, List.mem_map]
  constructor
  · rintro ⟨stored, member, entry, present, rfl⟩
    have found := AList.mem_lookup_iff.mpr member
    obtain ⟨order, target⟩ := sound.keyed found entry present
    exact ⟨stored.2, target ▸ found, order ▸ present⟩
  · rintro ⟨waiting, found, present⟩
    exact ⟨⟨_, waiting⟩, AList.mem_lookup_iff.mp found, _, present, rfl⟩

/-- The index is a queue per target: it holds what was inserted and not popped, a turn takes
    the least candidate of a target that is not blocked, and if no target is owed a turn then
    only blocked ones are passed over. -/
theorem Session.multi_queue (calls : List (Call Target Path)) :
    let session := Session.after calls
    (∀ candidate, candidate ∈ session.index.pending ↔ candidate ∈ session.held) ∧
    (∀ candidate, (∃ other ∈ session.held, other.path = candidate.path) →
      session.index.insert candidate = session.index) ∧
    (∀ candidate, session.index.popNext.1 = some candidate →
      candidate ∈ session.held ∧ candidate.targetKey ∉ session.blocked ∧
      ∀ other ∈ session.held, other.targetKey = candidate.targetKey →
        candidate.order ≤ other.order) ∧
    (session.owed = ∅ → session.index.popNext.1 = none →
      ∀ candidate ∈ session.held, candidate.targetKey ∈ session.blocked) := by
  have accounted := Session.after_accounted calls
  generalize Session.after calls = session at accounted
  have turn := accounted.sound.popNext
  dsimp only
  rw [← accounted.blocked]
  refine ⟨?_, ?_, ?_, ?_⟩
  · intro candidate
    exact accounted.sound.mem_pending.trans (accounted.held candidate)
  · exact fun candidate already => insert_known (accounted.known.mpr already)
  · intro candidate popped
    generalize session.index.popNext = result at turn popped
    cases turn with
    | idle => cases popped
    | taken scheduled held least =>
      cases popped
      refine ⟨(accounted.held _).mp held, accounted.sound.unblocked scheduled, ?_⟩
      exact fun other present => least other ((accounted.held other).mpr present)
  · intro settled popped candidate held
    generalize session.index.popNext = result at turn popped
    cases turn with
    | idle idle =>
      have turns := accounted.turns candidate ((accounted.held candidate).mpr held)
      rw [idle, settled] at turns
      simpa using turns
    | taken => cases popped

/-- Two targets in turn: the later file of the first is sent first, for its number is lower, and
    its other file has to wait when the target is blocked; the second is unblocked in time. -/
def sampleCalls : List (Call Nat Nat) :=
  [.blockTarget 1, .insert ⟨0, 1, 100, 5, 64⟩, .insert ⟨0, 2, 101, 3, 64⟩, .insert ⟨1, 3, 99, 9, 64⟩,
    .popNext, .scheduleIfCandidates 0, .blockTarget 0, .unblockTarget 1, .popNext,
    .scheduleIfCandidates 1]

theorem Session.sample_passes_blocked :
    (Session.after sampleCalls).owed = ∅ ∧ (Session.after sampleCalls).index.popNext.1 = none ∧
    ⟨0, 1, 100, 5, 64⟩ ∈ (Session.after sampleCalls).held ∧
    0 ∈ (Session.after sampleCalls).blocked := by
  have settled : (Session.after sampleCalls).owed = ∅ := by decide +kernel
  have passed : (Session.after sampleCalls).index.popNext.1 = none := by decide +kernel
  have held : ⟨0, 1, 100, 5, 64⟩ ∈ (Session.after sampleCalls).held := by decide +kernel
  exact ⟨settled, passed, held, (Session.multi_queue sampleCalls).2.2.2 settled passed _ held⟩

end GatewaySpoolReplayIndex
end Vpsman.Forward
