import Mathlib.Data.List.Induction

/-! # Runs of an executable transition system

A system is a step function that returns nothing when an action is not enabled.
Every choice the environment makes, including how threads interleave, is part of
the action, so a run is determined by its starting state and its list of actions.
-/

namespace Vpsman.Lib

variable {σ α : Type}

/-- Perform the actions from left to right; fails at the first disabled one. -/
def run (step : σ → α → Option σ) (start : σ) (actions : List α) : Option σ :=
  actions.foldlM step start

@[simp] theorem run_nil (step : σ → α → Option σ) : run step s [] = some s := rfl

theorem run_cons (step : σ → α → Option σ) (s : σ) (a : α) (rest : List α) :
    run step s (a :: rest) = (step s a).bind fun next => run step next rest := by
  rfl

theorem run_append (step : σ → α → Option σ) :
    run step s (first ++ second) = (run step s first).bind fun next => run step next second := by
  simp only [run, List.foldlM_append]
  rfl

variable {step : σ → α → Option σ} {s s' : σ}

theorem guard_some [Decidable enabled]
    (stepped : (if enabled then some s else none) = some s') : enabled ∧ s = s' := by
  rwa [Option.ite_none_right_eq_some, Option.some_inj] at stepped

theorem run_cons_some {a : α} {rest : List α} (runs : run step s (a :: rest) = some s') :
    ∃ next, step s a = some next ∧ run step next rest = some s' := by
  rw [run_cons, Option.bind_eq_some_iff] at runs
  exact runs

theorem run_append_some {first second : List α} (runs : run step s (first ++ second) = some s') :
    ∃ mid, run step s first = some mid ∧ run step mid second = some s' := by
  rw [run_append, Option.bind_eq_some_iff] at runs
  exact runs

/-- What every allowed action preserves holds at the end of every allowed run. -/
theorem run_preserves {inv : σ → Prop} {allowed : α → Prop}
    (kept : ∀ s a s', inv s → allowed a → step s a = some s' → inv s') :
    ∀ {actions : List α} {s s' : σ}, inv s → (∀ a ∈ actions, allowed a) →
      run step s actions = some s' → inv s' := by
  intro actions
  induction actions with
  | nil =>
    intro s s' holds _ runs
    rw [run_nil, Option.some_inj] at runs
    exact runs ▸ holds
  | cons a _ ih =>
    intro s s' holds all runs
    obtain ⟨next, stepped, runs⟩ := run_cons_some runs
    exact ih (kept s a next holds (all a List.mem_cons_self) stepped)
      (fun b member => all b (List.mem_cons_of_mem a member)) runs

/-- What holds after the actions and did not hold before them came true with one of them and
    has held ever since. -/
theorem foldl_came_true {step : σ → α → σ} {start : σ} (holds : σ → Prop) (initially : ¬ holds start)
    {actions : List α} (ended : holds (actions.foldl step start)) :
    ∃ before action after, actions = before ++ action :: after ∧ ¬ holds (before.foldl step start) ∧
      ∀ middle rest, after = middle ++ rest →
        holds ((before ++ action :: middle).foldl step start) := by
  induction actions using List.reverseRecOn with
  | nil => exact absurd ended initially
  | append_singleton actions last ih =>
    by_cases already : holds (actions.foldl step start)
    · obtain ⟨before, action, after, rfl, not_yet, since⟩ := ih already
      refine ⟨before, action, after ++ [last], by simp, not_yet, fun middle rest split => ?_⟩
      rcases List.eq_nil_or_concat rest with rfl | ⟨others, final, rfl⟩
      · rw [List.append_nil] at split
        rw [← split]
        simpa using ended
      · rw [List.concat_eq_append, ← List.append_assoc] at split
        exact since middle others (List.append_inj' split rfl).1
    · refine ⟨actions, last, [], rfl, already, fun middle rest split => ?_⟩
      obtain ⟨rfl, -⟩ := List.append_eq_nil_iff.mp split.symm
      exact ended

/-- Some run from a starting state that satisfies `start` ends in the state. -/
def Reachable (step : σ → α → Option σ) (start : σ → Prop) (s : σ) : Prop :=
  ∃ s₀ actions, start s₀ ∧ run step s₀ actions = some s

theorem Reachable.initial {start : σ → Prop} {s : σ} (h : start s) : Reachable step start s :=
  ⟨s, [], h, rfl⟩

theorem Reachable.extend {start : σ → Prop} {actions : List α} (reach : Reachable step start s)
    (runs : run step s actions = some s') : Reachable step start s' := by
  obtain ⟨s₀, before, starts, ran⟩ := reach
  refine ⟨s₀, before ++ actions, starts, ?_⟩
  rw [run_append, ran]
  exact runs

theorem Reachable.invariant {start inv : σ → Prop} (base : ∀ s, start s → inv s)
    (kept : ∀ s a s', inv s → step s a = some s' → inv s') {s : σ} (reach : Reachable step start s) :
    inv s := by
  obtain ⟨s₀, actions, starts, ran⟩ := reach
  have always : ∀ s a s', inv s → True → step s a = some s' → inv s' :=
    fun s a s' holds _ stepped => kept s a s' holds stepped
  exact run_preserves always (base s₀ starts) (fun _ _ => trivial) ran

/-- The same system with some actions ruled out, depending on the state they start from. -/
def restrict (step : σ → α → Option σ) (allowed : σ → α → Prop)
    [∀ s a, Decidable (allowed s a)] (s : σ) (a : α) : Option σ :=
  if allowed s a then step s a else none

theorem restrict_eq_some {allowed : σ → α → Prop} [∀ s a, Decidable (allowed s a)] {a : α} :
    restrict step allowed s a = some s' ↔ allowed s a ∧ step s a = some s' :=
  Option.ite_none_right_eq_some

end Vpsman.Lib
