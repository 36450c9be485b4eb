import Mathlib.Data.List.Basic

/-! # Sequences of checks

What a sequence of fallible steps that came through says about each of them.
-/

namespace Vpsman.Lib

section Checks

variable {ε α β : Type}

theorem check_then_ok {check : Except ε Unit} {rest : Except ε α} :
    (check >>= fun _ => rest) = .ok result ↔ check = .ok () ∧ rest = .ok result := by
  cases check with
  | error =>
    constructor
    · intro failed
      cases failed
    · rintro ⟨failed, -⟩
      cases failed
  | ok => exact ⟨fun done => ⟨rfl, done⟩, fun both => both.2⟩

/-- Go on only if the condition holds. -/
def demand (condition : Prop) [Decidable condition] (error : ε) : Except ε Unit :=
  if condition then .ok () else .error error

theorem demand_ok [Decidable condition] {error : ε} :
    demand condition error = .ok passed ↔ condition := by
  by_cases holds : condition <;> simp [demand]

theorem bind_ok {next : α → Except ε β} :
    (step >>= next) = .ok result ↔ ∃ value, step = .ok value ∧ next value = .ok result := by
  cases step <;> simp [bind, Except.bind]

theorem map_ok {step : Except ε α} {f : α → β} :
    step.map f = .ok result ↔ ∃ value, step = .ok value ∧ f value = result := by
  cases step <;> simp [Except.map]

theorem forM_ok {check : α → Except ε Unit} {elements : List α} :
    elements.forM check = .ok () ↔ ∀ element ∈ elements, check element = .ok () := by
  induction elements with
  | nil => exact ⟨fun _ _ member => absurd member List.not_mem_nil, fun _ => rfl⟩
  | cons _ _ ih =>
    rw [List.forM_eq_forM, List.forM_cons, check_then_ok, ← List.forM_eq_forM, ih,
      List.forall_mem_cons]

theorem forall₂_of_mapM {f : α → Except ε β} {elements : List α} {results : List β}
    (collected : elements.mapM f = .ok results) :
    List.Forall₂ (fun element result => f element = .ok result) elements results := by
  induction elements generalizing results with
  | nil =>
    cases collected
    exact .nil
  | cons _ _ ih =>
    rw [List.mapM_cons] at collected
    obtain ⟨first, found, collected⟩ := bind_ok.mp collected
    obtain ⟨others, gathered, same⟩ := bind_ok.mp collected
    cases same
    exact .cons found (ih gathered)

end Checks

section Collect

variable {α β : Type} {f : α → Option β} {elements : List α}

theorem mapM_isSome (each : ∀ element ∈ elements, (f element).isSome) :
    (elements.mapM f).isSome := by
  induction elements with
  | nil => rfl
  | cons _ _ ih =>
    rw [List.forall_mem_cons] at each
    obtain ⟨first, found⟩ := Option.isSome_iff_exists.mp each.1
    obtain ⟨others, collected⟩ := Option.isSome_iff_exists.mp (ih each.2)
    simp [found, collected]

variable {results : List β}

variable (collected : elements.mapM f = some results)
include collected

theorem gives_of_mapM :
    List.Forall₂ (fun element result => f element = some result) elements results := by
  induction elements generalizing results with
  | nil =>
    cases collected
    exact .nil
  | cons _ _ ih =>
    rw [List.mapM_cons, Option.bind_eq_bind, Option.bind_eq_some_iff] at collected
    obtain ⟨first, found, collected⟩ := collected
    rw [Option.bind_eq_bind, Option.bind_eq_some_iff] at collected
    obtain ⟨others, collected, same⟩ := collected
    cases same
    exact .cons found (ih collected)

theorem mem_of_mapM : result ∈ results ↔ ∃ element ∈ elements, f element = some result := by
  replace collected := gives_of_mapM collected
  induction collected with
  | nil => simp
  | cons found _ ih =>
    simp only [List.mem_cons, exists_eq_or_imp, found, Option.some.injEq, ih]
    rw [eq_comm]

theorem exists_of_mapM : ∀ element ∈ elements, ∃ result, f element = some result := by
  replace collected := gives_of_mapM collected
  induction collected with
  | nil => exact fun _ member => absurd member List.not_mem_nil
  | cons found _ ih => exact List.forall_mem_cons.mpr ⟨⟨_, found⟩, ih⟩

/-- What is collected when each element can only give one result. -/
theorem eq_map_of_mapM
    (only : ∀ element ∈ elements, ∀ result, f element = some result → result = g element) :
    results = elements.map g := by
  replace collected := gives_of_mapM collected
  induction collected with
  | nil => rfl
  | cons found _ ih =>
    rw [List.forall_mem_cons] at only
    rw [List.map_cons, only.1 _ found, ih only.2]

end Collect

theorem filter_eq_singleton {α : Type} {p : α → Bool} {elements : List α} {element : α}
    (alone : elements.Pairwise fun a b => ¬ (p a ∧ p b)) (member : element ∈ elements)
    (holds : p element) : elements.filter p = [element] := by
  induction elements with
  | nil => exact absurd member List.not_mem_nil
  | cons first _ ih =>
    rw [List.pairwise_cons] at alone
    rcases List.mem_cons.mp member with rfl | later
    · rw [List.filter_cons_of_pos holds, List.filter_eq_nil_iff.mpr]
      intro other present both
      exact alone.1 other present ⟨holds, both⟩
    · rw [List.filter_cons_of_neg fun first => alone.1 element later ⟨first, holds⟩]
      exact ih alone.2 later

end Vpsman.Lib
