import Mathlib.Data.List.Sort

/-! # Neighbours in a sorted list

A check for conflicts among many elements sorts them and compares neighbours only. It is
exact when a conflict of an element with a later one implies a conflict with everything
in between, as for intervals sorted by their start.
-/

namespace Vpsman.Lib

variable {α : Type}

/-- `slice::windows(2)`. -/
def windows (elements : List α) : List (α × α) := elements.zip elements.tail

theorem windows_cons_cons (first second : α) :
    windows (first :: second :: rest) = (first, second) :: windows (second :: rest) := rfl

variable {le conflict : α → α → Prop}

theorem pairwise_of_windows (sorted : elements.Pairwise le)
    (near : ∀ a, ∀ b ∈ elements, ∀ c, le a b → le b c → conflict a c → conflict a b)
    (clear : ∀ pair ∈ windows elements, ¬ conflict pair.1 pair.2) :
    elements.Pairwise fun a b => ¬ conflict a b := by
  induction elements with
  | nil => exact .nil
  | cons first rest ih =>
    rw [List.pairwise_cons] at sorted
    cases rest with
    | nil => exact List.pairwise_singleton _ _
    | cons second =>
      have apart : ¬ conflict first second := clear _ List.mem_cons_self
      refine List.pairwise_cons.mpr ⟨fun later member => ?_, ?_⟩
      · rcases List.mem_cons.mp member with rfl | further
        · exact apart
        · intro clash
          have before : le first second := sorted.1 second List.mem_cons_self
          have after : le second later := (List.pairwise_cons.mp sorted.2).1 later further
          exact apart (near first second (by simp) later before after clash)
      · refine ih sorted.2 (fun a b member => ?_) fun pair member => ?_
        · exact near a b (List.mem_cons_of_mem _ member)
        · exact clear pair (List.mem_cons_of_mem _ member)

/-- The check on the sorted list is a check on the list itself. -/
theorem pairwise_of_sorted_windows [DecidableRel le] [Std.Total le] [IsTrans α le]
    {elements : List α} (symmetric : ∀ {a b}, conflict a b → conflict b a)
    (near : ∀ a, ∀ b ∈ elements, ∀ c, le a b → le b c → conflict a c → conflict a b)
    (clear : ∀ pair ∈ windows (elements.insertionSort le), ¬ conflict pair.1 pair.2) :
    elements.Pairwise fun a b => ¬ conflict a b := by
  have apart := pairwise_of_windows (List.pairwise_insertionSort le elements)
    (fun a b member => near a b ((List.mem_insertionSort le).mp member)) clear
  exact ((List.perm_insertionSort le elements).pairwise_iff
    fun clear clash => clear (symmetric clash)).mp apart

theorem windows_of_pairwise (apart : elements.Pairwise fun a b => ¬ conflict a b) :
    ∀ pair ∈ windows elements, ¬ conflict pair.1 pair.2 := by
  induction elements with
  | nil => simp [windows]
  | cons _ rest ih =>
    cases rest with
    | nil => simp [windows]
    | cons second =>
      rw [List.pairwise_cons] at apart
      rw [windows_cons_cons, List.forall_mem_cons]
      exact ⟨apart.1 second List.mem_cons_self, ih apart.2⟩

end Vpsman.Lib
