import Mathlib.Data.List.Nodup
import Mathlib.Data.List.Perm.Basic

/-! # A conveyor of ranked items, some of which are also stored

Items join a line at its end under a rank higher than any given out before and leave it
at the front. On the way an item may be put into a numbered slot of a store; the slot
outlives the item's place in the line until it is cleared. As long as every change of
the line is one of the moves below, the ranks leave in increasing order and whatever is
stored is either still in line or known to be spent.
-/

namespace Vpsman.Lib

structure Ticket where
  rank : Nat
  slot : Option Nat
deriving DecidableEq, Repr

structure Conveyor where
  line : List Ticket
  /-- Ranks that left at the front, oldest first. -/
  left : List Nat
  /-- Slots of items that are no longer in line. -/
  spent : List Nat
  /-- Contents of the store: slot and rank. -/
  stored : List (Nat × Nat)
  topRank : Nat
  nextSlot : Nat

namespace Conveyor

def slots (line : List Ticket) : List Nat :=
  line.filterMap Ticket.slot

def ranks (line : List Ticket) : List Nat :=
  line.map Ticket.rank

@[simp] theorem slots_append : slots (first ++ second) = slots first ++ slots second :=
  List.filterMap_append

@[simp] theorem slots_cons : slots (t :: rest) = t.slot.toList ++ slots rest := by
  cases h : t.slot <;> simp [slots, h]

@[simp] theorem slots_nil : slots [] = [] := rfl

@[simp] theorem ranks_append : ranks (first ++ second) = ranks first ++ ranks second :=
  List.map_append

@[simp] theorem ranks_cons : ranks (t :: rest) = t.rank :: ranks rest := rfl

@[simp] theorem ranks_nil : ranks [] = [] := rfl

theorem mem_slots {line : List Ticket} : slot ∈ slots line ↔ ∃ rank, ⟨rank, some slot⟩ ∈ line := by
  simp only [slots, List.mem_filterMap]
  constructor
  · rintro ⟨⟨rank, _⟩, member, rfl⟩
    exact ⟨rank, member⟩
  · rintro ⟨rank, member⟩
    exact ⟨_, member, rfl⟩

theorem rank_unique {line : List Ticket} (distinct : (slots line).Nodup)
    (first : ⟨r₁, some slot⟩ ∈ line) (second : ⟨r₂, some slot⟩ ∈ line) : r₁ = r₂ := by
  induction line with
  | nil => simp at first
  | cons _ _ ih =>
    rw [slots_cons, List.nodup_append] at distinct
    obtain ⟨_, tail, apart⟩ := distinct
    rcases List.mem_cons.mp first with here₁ | later₁ <;>
      rcases List.mem_cons.mp second with here₂ | later₂
    · have same := here₁.trans here₂.symm
      simpa using same
    · subst here₁
      exact absurd rfl (apart slot (by simp) slot (mem_slots.mpr ⟨r₂, later₂⟩))
    · subst here₂
      exact absurd rfl (apart slot (by simp) slot (mem_slots.mpr ⟨r₁, later₁⟩))
    · exact ih tail later₁ later₂

structure WellFormed (c : Conveyor) : Prop where
  rising : (c.left ++ ranks c.line).Pairwise (· < ·)
  bounded : ∀ rank ∈ c.left ++ ranks c.line, rank ≤ c.topRank
  distinct : (c.spent ++ slots c.line).Nodup
  issued : ∀ slot ∈ c.spent ++ slots c.line, slot < c.nextSlot
  located : ∀ item ∈ c.stored, item.1 ∈ c.spent ∨ ⟨item.2, some item.1⟩ ∈ c.line

inductive Move : Conveyor → Conveyor → Prop
  /-- Ranks are also given out elsewhere. -/
  | skip (c : Conveyor) (others : Nat) : Move c { c with topRank := c.topRank + others }
  | join (c : Conveyor) :
      Move c { c with line := c.line ++ [⟨c.topRank + 1, none⟩], topRank := c.topRank + 1 }
  | deliver (c : Conveyor) (t : Ticket) (rest : List Ticket) (front : c.line = t :: rest) :
      Move c { c with
        line := rest, left := c.left ++ [t.rank], spent := t.slot.toList ++ c.spent }
  | discard (c : Conveyor) (t : Ticket) (rest : List Ticket) (spent : List Nat)
      (front : c.line = t :: rest) (order : spent.Perm (t.slot.toList ++ c.spent)) :
      Move c { c with line := rest, spent := spent }
  /-- An item that is not stored may be lost anywhere in line. -/
  | lose (c : Conveyor) (before after : List Ticket) (rank : Nat)
      (place : c.line = before ++ ⟨rank, none⟩ :: after) :
      Move c { c with line := before ++ after }
  | store (c : Conveyor) (before after : List Ticket) (rank : Nat)
      (place : c.line = before ++ ⟨rank, none⟩ :: after) :
      Move c { c with
        line := before ++ ⟨rank, some c.nextSlot⟩ :: after
        stored := c.stored ++ [(c.nextSlot, rank)]
        nextSlot := c.nextSlot + 1 }
  | clear (c : Conveyor) (slot : Nat) :
      Move c { c with
        spent := c.spent.filter (· ≠ slot)
        stored := c.stored.filter fun item => item.1 ≠ slot }

abbrev Moves : Conveyor → Conveyor → Prop :=
  Relation.ReflTransGen Move

namespace WellFormed

variable {c c' : Conveyor}

variable (formed : WellFormed c)
include formed

theorem left_lt_line (left : p ∈ c.left) (member : t ∈ c.line) : p < t.rank :=
  (List.pairwise_append.mp formed.rising).2.2 p left t.rank (List.mem_map_of_mem member)

theorem line_rising : (ranks c.line).Pairwise (· < ·) :=
  (List.pairwise_append.mp formed.rising).2.1

theorem slots_nodup : (slots c.line).Nodup :=
  (List.nodup_append.mp formed.distinct).2.1

theorem front_le (front : c.line = t :: rest) (member : other ∈ c.line) : t.rank ≤ other.rank := by
  have rising := formed.line_rising
  rw [front] at member rising
  rcases List.mem_cons.mp member with same | behind
  · exact Nat.le_of_eq (congrArg Ticket.rank same.symm)
  · exact Nat.le_of_lt ((List.pairwise_cons.mp rising).1 _ (List.mem_map_of_mem behind))

theorem stored_rank
    (inLine : ⟨rank, some slot⟩ ∈ c.line) (stored : (slot, held) ∈ c.stored) : held = rank := by
  rcases formed.located _ stored with spent | placed
  · exact absurd rfl
      ((List.nodup_append.mp formed.distinct).2.2 slot spent slot (mem_slots.mpr ⟨rank, inLine⟩))
  · exact rank_unique formed.slots_nodup placed inLine

theorem spent_not_in_line (spent : slot ∈ c.spent) : slot ∉ slots c.line :=
  fun member => (List.nodup_append.mp formed.distinct).2.2 slot spent slot member rfl

/-- Leaving at the front, with or without being delivered. -/
theorem advance {spent left : List Nat}
    (front : c.line = t :: rest) (order : spent.Perm (t.slot.toList ++ c.spent))
    (gone : left = c.left ∨ left = c.left ++ [t.rank]) :
    WellFormed { c with line := rest, spent := spent, left := left } := by
  obtain ⟨rising, bounded, distinct, issued, located⟩ := formed
  simp only [front, slots_cons, ranks_cons] at rising bounded distinct issued located
  have within : (left ++ ranks rest).Sublist (c.left ++ t.rank :: ranks rest) := by
    rcases gone with rfl | rfl
    · exact List.Sublist.append_left (List.sublist_cons_self _ _) _
    · simp
  have swapped : (spent ++ slots rest).Perm (c.spent ++ (t.slot.toList ++ slots rest)) :=
    (order.append_right _).trans (by
      rw [← List.append_assoc]
      exact List.perm_append_comm.append_right _)
  refine ⟨rising.sublist within, fun rank member => bounded rank (within.subset member),
    swapped.nodup_iff.mpr distinct, fun slot member => issued slot (swapped.subset member), ?_⟩
  intro item stored
  rcases located item stored with was | placed
  · exact Or.inl (order.mem_iff.mpr (List.mem_append_right _ was))
  · rcases List.mem_cons.mp placed with here | behind
    · exact Or.inl (order.mem_iff.mpr (by simp [← here]))
    · exact Or.inr behind

theorem lose (place : c.line = before ++ ⟨rank, none⟩ :: after) :
    WellFormed { c with line := before ++ after } := by
  obtain ⟨rising, bounded, distinct, issued, located⟩ := formed
  simp only [place, slots_append, ranks_append, slots_cons, ranks_cons, Option.toList_none,
    List.nil_append] at rising bounded distinct issued located
  have within : (c.left ++ ranks (before ++ after)).Sublist
      (c.left ++ (ranks before ++ rank :: ranks after)) := by
    simp
  refine ⟨rising.sublist within, fun rank member => bounded rank (within.subset member),
    by simpa using distinct, by simpa using issued, ?_⟩
  intro item stored
  rcases located item stored with was | placed
  · exact Or.inl was
  · simp only [List.mem_append, List.mem_cons, Ticket.mk.injEq, reduceCtorEq, and_false,
      false_or] at placed
    exact Or.inr (List.mem_append.mpr placed)

theorem store (place : c.line = before ++ ⟨rank, none⟩ :: after) :
    WellFormed { c with
      line := before ++ ⟨rank, some c.nextSlot⟩ :: after
      stored := c.stored ++ [(c.nextSlot, rank)]
      nextSlot := c.nextSlot + 1 } := by
  obtain ⟨rising, bounded, distinct, issued, located⟩ := formed
  simp only [place, slots_append, ranks_append, slots_cons, ranks_cons, Option.toList_none,
    List.nil_append] at rising bounded distinct issued located
  have moved : (c.spent ++ slots (before ++ ⟨rank, some c.nextSlot⟩ :: after)).Perm
      (c.nextSlot :: (c.spent ++ (slots before ++ slots after))) := by
    simp only [slots_append, slots_cons, Option.toList_some, List.singleton_append]
    rw [← List.append_assoc, ← List.append_assoc]
    exact List.perm_middle
  refine ⟨by simpa using rising, by simpa using bounded, ?_, ?_, ?_⟩
  · refine moved.nodup_iff.mpr (List.nodup_cons.mpr ⟨?_, distinct⟩)
    exact fun member => absurd (issued _ member) (Nat.lt_irrefl _)
  · intro slot member
    rcases List.mem_cons.mp (moved.subset member) with rfl | old
    · exact Nat.lt_succ_self _
    · exact Nat.lt_succ_of_lt (issued slot old)
  · intro item stored
    rcases List.mem_append.mp stored with old | new
    · rcases located item old with was | placed
      · exact Or.inl was
      · simp only [List.mem_append, List.mem_cons, Ticket.mk.injEq, reduceCtorEq, and_false,
          false_or] at placed
        simp only [List.mem_append, List.mem_cons]
        tauto
    · obtain rfl := List.mem_singleton.mp new
      exact Or.inr (by simp)

theorem join :
    WellFormed
      { c with line := c.line ++ [⟨c.topRank + 1, none⟩], topRank := c.topRank + 1 } := by
  obtain ⟨rising, bounded, distinct, issued, located⟩ := formed
  refine ⟨?_, ?_, by simpa using distinct, by simpa using issued, ?_⟩
  · simp only [ranks_append, ranks_cons, ranks_nil, ← List.append_assoc]
    refine List.pairwise_append.mpr ⟨rising, List.pairwise_singleton _ _, ?_⟩
    intro rank member new same
    rw [List.mem_singleton.mp same]
    exact Nat.lt_succ_of_le (bounded rank member)
  · intro rank member
    simp only [ranks_append, ← List.append_assoc, ranks_cons, ranks_nil] at member
    rcases List.mem_append.mp member with old | new
    · exact Nat.le_succ_of_le (bounded rank old)
    · exact Nat.le_of_eq (List.mem_singleton.mp new)
  · intro item stored
    exact (located item stored).imp_right (List.mem_append_left _)

theorem clear :
    WellFormed { c with
      spent := c.spent.filter (· ≠ slot)
      stored := c.stored.filter fun item => item.1 ≠ slot } := by
  obtain ⟨rising, bounded, distinct, issued, located⟩ := formed
  have within : (c.spent.filter (· ≠ slot) ++ slots c.line).Sublist (c.spent ++ slots c.line) :=
    List.Sublist.append_right List.filter_sublist _
  refine ⟨rising, bounded, distinct.sublist within, fun s member => issued s (within.subset member),
    ?_⟩
  intro item stored
  obtain ⟨stored, other⟩ := List.mem_filter.mp stored
  exact (located item stored).imp_left fun spent => List.mem_filter.mpr ⟨spent, other⟩

theorem move (moved : Move c c') : WellFormed c' := by
  cases moved with
  | skip =>
    exact ⟨formed.rising, fun rank member => Nat.le_add_right_of_le (formed.bounded rank member),
      formed.distinct, formed.issued, formed.located⟩
  | join => exact formed.join
  | deliver _ _ front => exact formed.advance front (List.Perm.refl _) (Or.inr rfl)
  | discard _ _ _ front order => exact formed.advance front order (Or.inl rfl)
  | lose _ _ _ place => exact formed.lose place
  | store _ _ _ place => exact formed.store place
  | clear => exact formed.clear

theorem moves (moved : Moves c c') : WellFormed c' := by
  induction moved with
  | refl => exact formed
  | tail _ last ih => exact ih.move last

end WellFormed

end Conveyor

end Vpsman.Lib
