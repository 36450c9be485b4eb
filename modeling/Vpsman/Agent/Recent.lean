import Mathlib.Data.List.Induction
import Vpsman.Lib.Totals
import Vpsman.Agent.Output

/-! # The cache of recently completed commands

The cache keeps a bounded number of completed commands and a bounded number of output
bytes, and evicts the command that was remembered longest ago.
-/

namespace Vpsman.Agent

open Vpsman.Lib

structure RecentCommandEntry where
  payloadHash : String
  outputs : List SequencedCommandOutput
  terminalOutput : Option SequencedCommandOutput
  outputBytes : Nat
  truncated : Bool
  deriving Repr, DecidableEq

/-- The entries, and their keys in the order in which they were remembered. -/
structure RecentCommandCache where
  maxEntries : Nat := 512
  maxTotalOutputBytes : Nat := 8 * 1024 * 1024
  maxEntryOutputBytes : Nat := 1024 * 1024
  currentOutputBytes : Nat := 0
  entries : HashMap Uuid RecentCommandEntry := ∅
  order : List Uuid := []
  distinct : order.Nodup := by decide
  listed : ∀ jobId, jobId ∈ order ↔ jobId ∈ entries := by simp
  room : 0 < maxEntries := by decide

namespace RecentCommandCache

def get (cache : RecentCommandCache) (jobId : Uuid) : Option RecentCommandEntry :=
  cache.entries.lookup jobId

/-- Bytes left after the entry of `jobId`, if there is one, was taken out. -/
def bytesWithout (cache : RecentCommandCache) (jobId : Uuid) : Nat :=
  match cache.entries.lookup jobId with
  | some existing => cache.currentOutputBytes - existing.outputBytes
  | none => cache.currentOutputBytes

/-- Take the entry of a job out, before it is remembered anew. -/
def remove (cache : RecentCommandCache) (jobId : Uuid) : RecentCommandCache where
  maxEntries := cache.maxEntries
  maxTotalOutputBytes := cache.maxTotalOutputBytes
  maxEntryOutputBytes := cache.maxEntryOutputBytes
  currentOutputBytes := cache.bytesWithout jobId
  entries := cache.entries.erase jobId
  order := cache.order.filter (· ≠ jobId)
  distinct := cache.distinct.filter _
  listed := by
    intro key
    rw [List.mem_filter, AList.mem_erase, cache.listed, decide_eq_true_eq, and_comm]
  room := cache.room

/-- Evict the job that was remembered longest ago. -/
def popFront (cache : RecentCommandCache) : RecentCommandCache :=
  match front : cache.order with
  | [] => cache
  | expired :: rest =>
    { maxEntries := cache.maxEntries
      maxTotalOutputBytes := cache.maxTotalOutputBytes
      maxEntryOutputBytes := cache.maxEntryOutputBytes
      currentOutputBytes := cache.bytesWithout expired
      entries := cache.entries.erase expired
      order := rest
      distinct := (front ▸ cache.distinct).of_cons
      listed := by
        intro key
        have unique : expired ∉ rest := List.Nodup.notMem (front ▸ cache.distinct)
        rw [AList.mem_erase, ← cache.listed, front, List.mem_cons]
        constructor
        · intro later
          exact ⟨fun same => unique (same ▸ later), .inr later⟩
        · rintro ⟨other, same | later⟩
          · exact absurd same other
          · exact later
      room := cache.room }

/-- Evict while the cache is too full; every turn takes one job out of the order. -/
def evictWhile (tooFull : RecentCommandCache → Bool) : Nat → RecentCommandCache → RecentCommandCache
  | 0, cache => cache
  | turns + 1, cache =>
    if tooFull cache then evictWhile tooFull turns cache.popFront else cache

/-- Enter a job that has no entry as the newest one. -/
def append (cache : RecentCommandCache) (jobId : Uuid) (entry : RecentCommandEntry)
    (absent : jobId ∉ cache.order) : RecentCommandCache where
  maxEntries := cache.maxEntries
  maxTotalOutputBytes := cache.maxTotalOutputBytes
  maxEntryOutputBytes := cache.maxEntryOutputBytes
  currentOutputBytes := cache.currentOutputBytes + entry.outputBytes
  entries := cache.entries.insert jobId entry
  order := cache.order ++ [jobId]
  distinct := by
    rw [List.nodup_append_comm]
    exact List.nodup_cons.mpr ⟨absent, cache.distinct⟩
  listed := by
    intro key
    rw [List.mem_append, List.mem_singleton, AList.mem_insert, cache.listed, or_comm]
  room := cache.room

variable (cache : RecentCommandCache)

theorem popFront_order : cache.popFront.order = cache.order.tail := by
  unfold popFront
  split
  next empty =>
    rw [empty, List.tail_nil]
  next expired rest front =>
    exact (congrArg List.tail front).symm

variable (tooFull : RecentCommandCache → Bool)

theorem evictWhile_keeps {p : RecentCommandCache → Prop}
    (popped : ∀ cache, p cache → p cache.popFront) (turns : Nat) (holds : p cache) :
    p (evictWhile tooFull turns cache) := by
  induction turns generalizing cache with
  | zero => exact holds
  | succ turns ih =>
    rw [evictWhile]
    split
    · exact ih _ (popped _ holds)
    · exact holds

theorem evictWhile_order (turns : Nat) :
    ∃ count ≤ turns, (evictWhile tooFull turns cache).order = cache.order.drop count := by
  induction turns generalizing cache with
  | zero => exact ⟨0, le_rfl, rfl⟩
  | succ turns ih =>
    by_cases full : tooFull cache
    · obtain ⟨count, few, rest⟩ := ih cache.popFront
      refine ⟨count + 1, Nat.succ_le_succ few, ?_⟩
      rw [evictWhile, if_pos full, rest, popFront_order, List.drop_tail]
    · exact ⟨0, Nat.zero_le _, by rw [evictWhile, if_neg full, List.drop_zero]⟩

/-- With a turn for every job in the order, the loop ends by itself or with none left. -/
theorem evictWhile_ends (few : cache.order.length ≤ turns) :
    tooFull (evictWhile tooFull turns cache) = false ∨
      (evictWhile tooFull turns cache).order = [] := by
  induction turns generalizing cache with
  | zero => exact .inr (List.length_eq_zero_iff.mp (Nat.le_zero.mp few))
  | succ turns ih =>
    by_cases full : tooFull cache
    · rw [evictWhile, if_pos full]
      exact ih _ (by rw [popFront_order, List.length_tail]; omega)
    · rw [evictWhile, if_neg full]
      exact .inl (Bool.eq_false_iff.mpr full)

/-- Drop entries from the front until `outputBytes` more bytes fit. -/
def makeRoom (cache : RecentCommandCache) (outputBytes : Nat) : RecentCommandCache :=
  cache.evictWhile (fun cache => cache.maxTotalOutputBytes < cache.currentOutputBytes + outputBytes)
    cache.order.length

theorem makeRoom_order :
    ∃ count ≤ cache.order.length, (cache.makeRoom outputBytes).order = cache.order.drop count :=
  cache.evictWhile_order _ cache.order.length

theorem notMem_makeRoom : jobId ∉ ((cache.remove jobId).makeRoom outputBytes).order := by
  obtain ⟨count, _, rest⟩ := (cache.remove jobId).makeRoom_order
  intro member
  rw [rest] at member
  have kept := List.mem_of_mem_drop member
  simp [remove] at kept

def remember (cache : RecentCommandCache) (jobId : Uuid) (payloadHash : String)
    (outputs : List SequencedCommandOutput) (terminalOutput : Option SequencedCommandOutput)
    (truncated : Bool) : RecentCommandCache :=
  let outputBytes := sequencedCommandOutputsBytes outputs
  let replayTruncated := truncated || cache.maxEntryOutputBytes < outputBytes
  let entry : RecentCommandEntry :=
    { payloadHash := payloadHash
      outputs := if replayTruncated then [] else outputs
      terminalOutput := terminalOutput
      outputBytes := if replayTruncated then 0 else outputBytes
      truncated := replayTruncated }
  let entered := ((cache.remove jobId).makeRoom entry.outputBytes).append jobId entry
    (notMem_makeRoom cache)
  entered.evictWhile (fun cache => cache.maxEntries < cache.order.length) entered.order.length

theorem get_isSome : (cache.get jobId).isSome ↔ jobId ∈ cache.order := by
  rw [get, AList.lookup_isSome, cache.listed]

theorem evictWhile_length_ne_nil (turns : Nat) (entered : cache.order ≠ []) :
    (evictWhile (fun cache => cache.maxEntries < cache.order.length) turns cache).order ≠ [] := by
  induction turns generalizing cache with
  | zero => exact entered
  | succ turns ih =>
    by_cases full : cache.maxEntries < cache.order.length
    · rw [evictWhile, if_pos (decide_eq_true full)]
      refine ih cache.popFront fun emptied => ?_
      have remaining := congrArg List.length emptied
      have positive := cache.room
      rw [popFront_order, List.length_tail, List.length_nil] at remaining
      omega
    · rw [evictWhile, if_neg (by simpa using full)]
      exact entered

/-- Remembering a job puts it behind the others and drops some of these at the front. -/
theorem remember_order :
    ∃ count ≤ (cache.order.filter (· ≠ jobId)).length,
      (cache.remember jobId payloadHash outputs terminalOutput truncated).order =
        (cache.order.filter (· ≠ jobId)).drop count ++ [jobId] := by
  unfold remember
  dsimp only
  generalize entering : append _ jobId _ _ = entered
  obtain ⟨first, few, newest⟩ : ∃ first ≤ (cache.order.filter (· ≠ jobId)).length,
      entered.order = (cache.order.filter (· ≠ jobId)).drop first ++ [jobId] := by
    obtain ⟨first, few, roomy⟩ := (cache.remove jobId).makeRoom_order
    exact ⟨first, few, by rw [← entering]; exact congrArg (· ++ [jobId]) roomy⟩
  have inhabited : entered.order ≠ [] := by simp [newest]
  have remaining := entered.evictWhile_length_ne_nil entered.order.length inhabited
  obtain ⟨second, _, kept⟩ := entered.evictWhile_order
    (fun cache => cache.maxEntries < cache.order.length) entered.order.length
  rw [kept, newest] at remaining ⊢
  generalize cache.order.filter (· ≠ jobId) = others at few remaining ⊢
  have short : second ≤ (others.drop first).length := by
    by_contra long
    refine remaining (List.drop_eq_nil_of_le ?_)
    rw [List.length_append, List.length_singleton]
    omega
  refine ⟨first + second, ?_, ?_⟩
  · rw [List.length_drop] at short
    omega
  · rw [List.drop_append_of_le_length short, List.drop_drop]

/-- The job just remembered is the last to be evicted. -/
theorem remember_getLast :
    (cache.remember jobId payloadHash outputs terminalOutput truncated).order.getLast? =
      some jobId := by
  obtain ⟨count, _, order⟩ := cache.remember_order
  rw [order, List.getLast?_concat]

theorem remember_mem :
    jobId ∈ (cache.remember jobId payloadHash outputs terminalOutput truncated).order :=
  List.mem_of_getLast? cache.remember_getLast

variable {jobId other : Uuid}

theorem mem_of_mem_remember (different : other ≠ jobId)
    (member : other ∈ (cache.remember jobId payloadHash outputs terminalOutput truncated).order) :
    other ∈ cache.order := by
  obtain ⟨count, _, order⟩ := cache.remember_order
  rw [order, List.mem_append, List.mem_singleton] at member
  rcases member with kept | same
  · exact List.mem_of_mem_filter (List.mem_of_mem_drop kept)
  · exact absurd same different

/-- The jobs that remembering `jobId` evicted, given the cache after it: jobs leave the
    order at its front. -/
def evictedBy (cache : RecentCommandCache) (jobId : Uuid) (remembered : RecentCommandCache) :
    List Uuid :=
  let others := cache.order.filter (· ≠ jobId)
  others.take (others.length + 1 - remembered.order.length)

theorem remember_keeps_or_evicts (member : other ∈ cache.order) (different : other ≠ jobId) :
    other ∈ (cache.remember jobId payloadHash outputs terminalOutput truncated).order ∨
      other ∈ cache.evictedBy jobId
        (cache.remember jobId payloadHash outputs terminalOutput truncated) := by
  obtain ⟨count, few, order⟩ := cache.remember_order
  have among : other ∈ cache.order.filter (· ≠ jobId) :=
    List.mem_filter.mpr ⟨member, by simpa using different⟩
  unfold evictedBy
  dsimp only
  rw [order]
  generalize cache.order.filter (· ≠ jobId) = others at few among ⊢
  have dropped : others.length + 1 - (others.drop count ++ [jobId]).length = count := by
    rw [List.length_append, List.length_drop, List.length_singleton]
    omega
  rw [dropped]
  rw [← List.take_append_drop count others, List.mem_append] at among
  rcases among with gone | kept
  · exact .inr gone
  · exact .inl (List.mem_append_left _ kept)

@[simp] theorem evictWhile_maxEntries (turns : Nat) :
    (evictWhile tooFull turns cache).maxEntries = cache.maxEntries := by
  refine evictWhile_keeps (p := fun kept => kept.maxEntries = cache.maxEntries) cache tooFull
    (fun kept same => ?_) turns rfl
  unfold popFront
  split <;> exact same

@[simp] theorem remember_maxEntries :
    (cache.remember jobId payloadHash outputs terminalOutput truncated).maxEntries =
      cache.maxEntries := by
  simp [remember, append, makeRoom, remove]

theorem evictWhile_length_le :
    (cache.evictWhile (fun cache => cache.maxEntries < cache.order.length)
      cache.order.length).order.length ≤ cache.maxEntries := by
  rcases cache.evictWhile_ends (fun cache => cache.maxEntries < cache.order.length) le_rfl with
    ended | empty
  · simpa using ended
  · simp [empty]

theorem remember_length_le :
    (cache.remember jobId payloadHash outputs terminalOutput truncated).order.length ≤
      cache.maxEntries := by
  refine le_trans (evictWhile_length_le _) (le_of_eq ?_)
  simp [append, makeRoom, remove]

/-- As long as a job stays in the cache, so do the jobs remembered after it. -/
theorem remember_behind (behind : ∃ older, cache.order = older ++ other :: newer)
    (fresh : jobId ∉ other :: newer)
    (kept : other ∈ (cache.remember jobId payloadHash outputs terminalOutput truncated).order) :
    ∃ older, (cache.remember jobId payloadHash outputs terminalOutput truncated).order =
      older ++ other :: (newer ++ [jobId]) := by
  obtain ⟨older, behind⟩ := behind
  have unique : other ∉ newer := by
    have distinct := cache.distinct
    rw [behind, List.nodup_append] at distinct
    exact (List.nodup_cons.mp distinct.2.1).1
  have others : cache.order.filter (· ≠ jobId) =
      older.filter (· ≠ jobId) ++ other :: newer := by
    have untouched : (other :: newer).filter (· ≠ jobId) = other :: newer := by
      refine List.filter_eq_self.mpr fun key member => ?_
      simpa using fun same : key = jobId => fresh (same ▸ member)
    rw [behind, List.filter_append, untouched]
  obtain ⟨count, _, order⟩ := cache.remember_order
  rw [others] at order
  rw [order] at kept ⊢
  generalize older.filter (· ≠ jobId) = rest at kept ⊢
  -- dropping past `other` would leave only newer jobs
  have few : count ≤ rest.length := by
    by_contra many
    rw [List.drop_append, List.drop_eq_nil_of_le (by omega), List.nil_append,
      show count - rest.length = count - rest.length - 1 + 1 by omega, List.drop_succ_cons,
      List.mem_append, List.mem_singleton] at kept
    rcases kept with later | same
    · exact unique (List.mem_of_mem_drop later)
    · exact fresh (same ▸ List.mem_cons_self)
  refine ⟨rest.drop count, ?_⟩
  rw [List.drop_append_of_le_length few]
  simp

/-! ## Any number of calls -/

theorem order_perm : cache.order.Perm cache.entries.keys :=
  (List.perm_ext_iff_of_nodup cache.distinct cache.entries.nodupKeys).mpr cache.listed

/-- The byte counter is the sum over the entries, and within its limit. -/
structure Coherent (cache : RecentCommandCache) : Prop where
  roomy : cache.maxEntryOutputBytes ≤ cache.maxTotalOutputBytes
  counted : cache.currentOutputBytes = HashMap.total RecentCommandEntry.outputBytes cache.entries
  within : cache.currentOutputBytes ≤ cache.maxTotalOutputBytes

theorem Coherent.append {cache : RecentCommandCache} (fits : cache.Coherent ∧
      cache.currentOutputBytes + entry.outputBytes ≤ cache.maxTotalOutputBytes)
    (absent : jobId ∉ cache.order) : (cache.append jobId entry absent).Coherent := by
  refine ⟨fits.1.roomy, ?_, fits.2⟩
  have total := HashMap.total_erase RecentCommandEntry.outputBytes cache.entries jobId
  rw [AList.lookup_eq_none.mpr (mt (cache.listed jobId).mpr absent), Option.elim,
    Nat.zero_add] at total
  dsimp only [RecentCommandCache.append]
  rw [HashMap.total_insert, total, fits.1.counted, Nat.add_comm]

section

variable {cache} (coherent : cache.Coherent)
include coherent

theorem bytesWithout_spec (jobId : Uuid) :
    cache.bytesWithout jobId =
        HashMap.total RecentCommandEntry.outputBytes (cache.entries.erase jobId) ∧
      cache.bytesWithout jobId ≤ cache.maxTotalOutputBytes := by
  have total := HashMap.total_erase RecentCommandEntry.outputBytes cache.entries jobId
  have within := coherent.within
  rw [← coherent.counted] at total
  unfold bytesWithout
  cases found : cache.entries.lookup jobId with
  | none | some =>
    rw [found, Option.elim] at total
    dsimp only
    omega

theorem Coherent.remove (jobId : Uuid) : (cache.remove jobId).Coherent :=
  ⟨coherent.roomy, (bytesWithout_spec coherent jobId).1, (bytesWithout_spec coherent jobId).2⟩

theorem Coherent.popFront :
    cache.popFront.Coherent ∧ cache.popFront.maxTotalOutputBytes = cache.maxTotalOutputBytes := by
  unfold RecentCommandCache.popFront
  split
  · exact ⟨coherent, rfl⟩
  next expired _ _ =>
    have freed := bytesWithout_spec coherent expired
    exact ⟨⟨coherent.roomy, freed.1, freed.2⟩, rfl⟩

theorem Coherent.makeRoom (small : outputBytes ≤ cache.maxTotalOutputBytes) :
    (cache.makeRoom outputBytes).Coherent ∧ (cache.makeRoom outputBytes).currentOutputBytes +
      outputBytes ≤ (cache.makeRoom outputBytes).maxTotalOutputBytes := by
  unfold RecentCommandCache.makeRoom
  generalize full : (fun cache : RecentCommandCache =>
    decide (cache.maxTotalOutputBytes < cache.currentOutputBytes + outputBytes)) = tooFull
  obtain ⟨kept, same⟩ := evictWhile_keeps
    (p := fun kept => kept.Coherent ∧ kept.maxTotalOutputBytes = cache.maxTotalOutputBytes) cache
    tooFull (fun _ kept => kept.1.popFront.imp_right fun same => same.trans kept.2)
    cache.order.length ⟨coherent, rfl⟩
  refine ⟨kept, ?_⟩
  rcases cache.evictWhile_ends tooFull le_rfl with ended | empty
  · rw [← full] at ended ⊢
    simpa using ended
  · have keys := order_perm (evictWhile tooFull cache.order.length cache)
    rw [empty, List.nil_perm, AList.keys, List.keys, List.map_eq_nil_iff] at keys
    rwa [kept.counted, same, HashMap.total, keys, List.map_nil, List.sum_nil, Nat.zero_add]

theorem Coherent.remember :
    (cache.remember jobId payloadHash outputs terminalOutput truncated).Coherent := by
  refine evictWhile_keeps _ _ (fun _ kept => kept.popFront.1) _
    (.append ((coherent.remove jobId).makeRoom ?_) (notMem_makeRoom cache))
  have roomy := coherent.roomy
  dsimp only [RecentCommandCache.remove]
  grind

end

structure Remembered where
  jobId : Uuid
  payloadHash : String
  outputs : List SequencedCommandOutput
  terminalOutput : Option SequencedCommandOutput
  truncated : Bool

theorem listed_empty (jobId : Uuid) :
    jobId ∈ ([] : List Uuid) ↔ jobId ∈ (∅ : HashMap Uuid RecentCommandEntry) := by
  simp

theorem room_empty : 0 < 512 := by decide

def rememberAll (calls : List Remembered) : RecentCommandCache :=
  calls.foldl (fun cache call => cache.remember call.jobId call.payloadHash call.outputs
    call.terminalOutput call.truncated)
    { distinct := List.nodup_nil, listed := listed_empty, room := room_empty }

/-- The jobs by the time when each was last remembered. -/
def byLastRemember (calls : List Remembered) : List Uuid :=
  calls.foldl (fun order call => order.filter (· ≠ call.jobId) ++ [call.jobId]) []

/-- The order lists the keys, the bytes are counted and bounded, and the cache holds the jobs
    that were remembered last. -/
theorem recent_commands_bounded (calls : List Remembered) :
    let cache := rememberAll calls
    cache.order.Nodup ∧ cache.order.Perm cache.entries.keys ∧
    cache.currentOutputBytes = (cache.entries.entries.map fun entry => entry.2.outputBytes).sum ∧
    cache.currentOutputBytes ≤ cache.maxTotalOutputBytes ∧
    cache.entries.entries.length ≤ cache.maxEntries ∧
    (∀ call ∈ calls.getLast?, (cache.get call.jobId).isSome) ∧
    cache.order <:+ byLastRemember calls := by
  suffices holds : (rememberAll calls).Coherent ∧
      (rememberAll calls).order <:+ byLastRemember calls ∧
      (rememberAll calls).order.length ≤ (rememberAll calls).maxEntries ∧
      ∀ call ∈ calls.getLast?, call.jobId ∈ (rememberAll calls).order by
    obtain ⟨coherent, newest, few, last⟩ := holds
    have keys := order_perm (rememberAll calls)
    refine ⟨(rememberAll calls).distinct, keys, coherent.counted, coherent.within, ?_,
      fun call member => (get_isSome _).mpr (last call member), newest⟩
    rwa [keys.length_eq, AList.keys, List.keys, List.length_map] at few
  induction calls using List.reverseRecOn with
  | nil => exact ⟨⟨by decide, rfl, Nat.zero_le _⟩, List.suffix_refl _, Nat.zero_le _, nofun⟩
  | append_singleton calls call ih =>
    simp only [rememberAll, byLastRemember, List.foldl_append, List.foldl_cons, List.foldl_nil,
      List.getLast?_concat, Option.mem_some_iff, forall_eq'] at ih ⊢
    refine ⟨ih.1.remember, ?_, ?_, remember_mem _⟩
    · obtain ⟨count, -, order⟩ := remember_order _
      rw [order]
      exact List.suffix_append_self_iff.mpr ((List.drop_suffix _ _).trans (ih.2.1.filter _))
    · rw [remember_maxEntries]
      exact remember_length_le _

end RecentCommandCache
end Vpsman.Agent
