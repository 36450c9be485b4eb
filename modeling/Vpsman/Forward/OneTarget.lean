import Vpsman.Forward.Spool
import Vpsman.Forward.SpoolFile
import Vpsman.Forward.TargetIndex

/-! # The forwarder's part of the index and of the spool files

The forwarder is modelled for one target and with what decides the way of an event. Its index
is the index over all targets when there is one, and its catalogue entries and events are
what the name, the header and the body of a spool file give.
-/

namespace Vpsman.Forward

open Vpsman.Lib

variable {candidate other : GatewayPendingSpoolCandidate Unit SpoolPath}

def GatewayPendingSpoolCandidate.single (candidate : GatewayPendingSpoolCandidate Unit SpoolPath) :
    Candidate where
  path := candidate.path
  createdUnix := candidate.createdUnix
  enqueueSeq := candidate.enqueueSeq

theorem upTo_single : candidate.single.upTo other.single ↔ candidate.order ≤ other.order := by
  simp [Candidate.upTo, GatewayPendingSpoolCandidate.single, GatewayPendingSpoolCandidate.order,
    Prod.Lex.toLex_le_toLex]

namespace GatewaySpoolReplayIndex

variable {index : GatewaySpoolReplayIndex Unit SpoolPath}

/-- The entries of the one target. -/
def line (index : GatewaySpoolReplayIndex Unit SpoolPath) :
    List (ReplayOrder SpoolPath × GatewayPendingSpoolCandidate Unit SpoolPath) :=
  (index.candidates.lookup ()).elim [] (·.entries)

def single (index : GatewaySpoolReplayIndex Unit SpoolPath) : ReplayIndex where
  initialized := index.initialized
  candidates := index.line.map (·.2.single)
  scheduled := () ∈ index.scheduledTargets
  blocked := () ∈ index.blockedTargets

theorem Sound.keyed_line (sound : index.Sound) : ∀ entry ∈ index.line, entry.1 = entry.2.order := by
  unfold line
  cases found : index.candidates.lookup () with
  | none => simp
  | some => exact fun entry member => (sound.keyed found entry member).1

theorem Sound.mem_line (sound : index.Sound) : candidate ∈ index.line.map Prod.snd ↔ index.Holds candidate := by
  simp only [List.mem_map, Prod.exists, exists_eq_right, Holds, line]
  cases found : index.candidates.lookup () with
  | none => simp
  | some waiting =>
    simp only [Option.elim_some, Option.some_inj, exists_eq_left']
    refine ⟨?_, fun member => ⟨_, member⟩⟩
    rintro ⟨order, member⟩
    obtain rfl : order = candidate.order := (sound.keyed found _ member).1
    exact member

theorem Sound.isEmpty_line (sound : index.Sound) :
    index.line.isEmpty = decide (() ∉ index.candidates) := by
  simp only [← AList.lookup_eq_none, line]
  cases found : index.candidates.lookup () with
  | none => rfl
  | some waiting => simpa using sound.nonempty found

theorem Sound.known_single (sound : index.Sound) :
    candidate.path ∈ index.knownPaths ↔
      candidate.single.path ∈ index.single.candidates.map Candidate.path := by
  simp only [sound.known, ← sound.mem_line, single, List.mem_map]
  grind [GatewayPendingSpoolCandidate.single]

theorem map_put {entries : List (ReplayOrder SpoolPath × GatewayPendingSpoolCandidate Unit SpoolPath)}
    (keyed : ∀ entry ∈ entries, entry.1 = entry.2.order)
    (apart : ∀ entry ∈ entries, entry.1 ≠ candidate.order) :
    (OrderedMap.put candidate.order candidate entries).map (·.2.single) =
      (entries.map (·.2.single)).orderedInsert Candidate.upTo candidate.single := by
  induction entries with
  | nil => rfl
  | cons entry rest ih =>
    rw [List.forall_mem_cons] at keyed apart
    simp only [OrderedMap.put, List.map_cons, List.orderedInsert_cons, upTo_single, ← keyed.1]
    rcases lt_or_gt_of_ne apart.1 with below | above
    · rw [if_neg below.not_gt, if_neg apart.1.symm, if_neg below.not_ge, List.map_cons,
        ih keyed.2 apart.2]
    · rw [if_pos above, if_pos above.le, List.map_cons, List.map_cons]

theorem single_schedule : (index.schedule ()).single = { index.single with scheduled := true } := by
  unfold schedule
  split
  next scheduled => simp [single, scheduled]
  · simp [single, line]

section Sound

variable (sound : index.Sound)
include sound

theorem single_store (fresh : candidate.path ∉ index.knownPaths) :
    (index.store candidate).single = { index.single with
      candidates := index.single.candidates.orderedInsert Candidate.upTo candidate.single } := by
  have stored : (index.store candidate).line = OrderedMap.put candidate.order candidate index.line := by
    simp only [line, store, HashMap.lookup_insert_eq, if_true, Option.elim_some, OrderedMap.insert]
    cases index.candidates.lookup () <;> rfl
  have apart : ∀ entry ∈ index.line, entry.1 ≠ candidate.order := by
    intro entry member same
    have held := sound.mem_line.mp (List.mem_map_of_mem member)
    refine fresh (sound.known.mpr ⟨entry.2, held, path_of_order ?_⟩)
    rw [← sound.keyed_line entry member, same]
  simp only [single, stored, ← map_put sound.keyed_line apart]
  rfl

theorem single_insert : (index.insert candidate).single = index.single.insert candidate.single := by
  by_cases known : candidate.path ∈ index.knownPaths
  · rw [insert_known known, ReplayIndex.insert, if_pos (sound.known_single.mp known)]
  have stored := single_store sound known
  rw [insert, if_neg known, ReplayIndex.insert, if_neg (mt sound.known_single.mpr known)]
  dsimp only
  split
  next free =>
    have free : () ∉ index.blockedTargets := free
    rw [single_schedule, stored]
    simp [single, free]
  next blocked =>
    have blocked : () ∈ index.blockedTargets := not_not.mp blocked
    rw [stored]
    simp [single, blocked]

theorem single_popNext :
    (index.popNext.1.map (·.single), index.popNext.2.single) = index.single.popNext := by
  rcases popFrom_cases sound (fun _ => sound.tokens) with
    ⟨popped, idle⟩ | ⟨ready, waiting, candidate, popped, scheduled, -, found, first⟩
  · rw [popNext, popped]
    simp [ReplayIndex.popNext, single, idle, line]
  obtain ⟨rest, entries⟩ := List.head?_eq_some_iff.mp first
  have removed : (waiting.remove candidate.order).entries = rest := by
    have increasing := waiting.increasing
    rw [entries, List.pairwise_cons] at increasing
    simp only [OrderedMap.remove, entries]
    rw [List.filter_cons_of_neg (by simp), List.filter_eq_self]
    exact fun entry member => by simpa using (increasing.1 entry member).ne'
  have before : index.line = (candidate.order, candidate) :: rest := by
    rw [line, show index.candidates.lookup () = some waiting from found]
    exact entries
  have after : (index.take candidate.targetKey ready waiting (candidate.order, candidate)).line =
      rest := by
    rw [line, lookup_take, if_pos rfl]
    split
    next empty => exact (removed.symm.trans (List.isEmpty_iff.mp empty)).symm
    · exact removed
  have turn : () ∈ index.scheduledTargets := scheduled
  rw [popNext, popped]
  simp only [ReplayIndex.popNext, single, before, after, turn, decide_true, if_true, List.map_cons]
  simp [take]

theorem single_scheduleIfCandidates :
    (index.scheduleIfCandidates ()).single = index.single.scheduleIfCandidates := by
  have waiting := sound.isEmpty_line
  unfold scheduleIfCandidates ReplayIndex.scheduleIfCandidates
  split
  next ready =>
    rw [single_schedule]
    simp [single, waiting, ready]
  next idle =>
    rw [not_and_or] at idle
    rcases idle with blocked | none
    · simp [single, not_not.mp blocked]
    · simp [single, waiting, none]

theorem single_unblockTarget : (index.unblockTarget ()).single = index.single.unblockTarget := by
  have waiting := sound.isEmpty_line
  have freed : line { index with blockedTargets := index.blockedTargets.erase () } = index.line := rfl
  unfold unblockTarget ReplayIndex.unblockTarget ReplayIndex.scheduleIfCandidates
  split
  next blocked =>
    dsimp only
    split
    next present =>
      rw [single_schedule]
      simp [single, freed, waiting, blocked, present]
    next none => simp [single, freed, waiting, blocked, none]
  next free => simp [single, free]

end Sound

theorem single_blockTarget : (index.blockTarget ()).single = index.single.blockTarget := by
  simp [blockTarget, ReplayIndex.blockTarget, single, line]

/-- A call on the index of one target. -/
def singleCall (index : ReplayIndex) : Call Unit SpoolPath → ReplayIndex
  | .insert candidate => index.insert candidate.single
  | .popNext => index.popNext.2
  | .blockTarget _ => index.blockTarget
  | .unblockTarget _ => index.unblockTarget
  | .scheduleIfCandidates _ => index.scheduleIfCandidates

theorem single_call {session : Session Unit SpoolPath} (sound : session.index.Sound)
    (call : Call Unit SpoolPath) :
    (session.call call).index.single = singleCall session.index.single call := by
  cases call with
  | insert =>
    refine .trans ?_ (single_insert sound)
    unfold Session.call
    dsimp only
    split <;> rfl
  | popNext =>
    rw [singleCall, ← single_popNext sound, Session.call]
    cases popped : session.index.popNext with
    | mk result => cases result <;> rfl
  | blockTarget => exact single_blockTarget
  | unblockTarget => exact single_unblockTarget sound
  | scheduleIfCandidates => exact single_scheduleIfCandidates sound

/-- With one target the index over all targets is the forwarder's, after any calls, and gives
    out the same candidates. -/
theorem single_after (calls : List (Call Unit SpoolPath)) :
    (Session.after calls).index.single = calls.foldl singleCall {} ∧
      (Session.after calls).index.popNext.1.map (·.single) = (calls.foldl singleCall {}).popNext.1 := by
  have same : (Session.after calls).index.single = calls.foldl singleCall {} := by
    induction calls using List.reverseRecOn with
    | nil => rfl
    | append_singleton calls call ih =>
      rw [Session.after, List.foldl_append, List.foldl_append, List.foldl_cons, List.foldl_cons, ← ih]
      exact single_call (Session.after_accounted calls).sound call
  refine ⟨same, ?_⟩
  rw [← same, ← single_popNext (Session.after_accounted calls).sound]

end GatewaySpoolReplayIndex

/-! ## Events -/

/-- What the forwarder goes by; `replayMark` reads the replay mark of a body that decodes. -/
def GatewayForwardEvent.single (replayMark : List UInt8 → Option Bool)
    (event : GatewayForwardEvent) : Event where
  enqueueSeq := event.enqueueSeq.toNat
  createdUnix := event.createdUnix.toNat
  decodes := (replayMark event.body).isSome
  spooledReplay := (replayMark event.body).getD false

/-- The name and the header of a written file give the forwarder's catalogue entry, and the
    whole file its event. -/
theorem spoolFile_single {codec : SpoolCodec} (lawful : codec.Lawful)
    (written : codec.spoolFileBytes event = .ok bytes) :
    (∃ createdUnix header, parseSpoolFilename (spoolFilename event.createdUnix targetKey uuid) =
        some (createdUnix, targetKey) ∧ codec.loadSpooledHeaderSync path bytes = .ok header ∧
      (SpoolFile.mk file (event.single replayMark)).candidate =
        ⟨file, createdUnix.toNat, header.enqueueSeq.toNat⟩) ∧
    (codec.decodeSpooledEvent path bytes).map (·.single replayMark) = .ok (event.single replayMark) := by
  refine ⟨⟨event.createdUnix, codec.headerOf event, parseSpoolFilename_spoolFilename,
    SpoolCodec.loadSpooledHeaderSync_spoolFileBytes lawful written, rfl⟩, ?_⟩
  rw [SpoolCodec.decodeSpooledEvent_spoolFileBytes lawful written]
  rfl

end Vpsman.Forward
