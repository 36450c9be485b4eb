import Mathlib.Logic.Relation
import Mathlib.Data.List.Basic

/-! # Computations that may return early

A handler changes its state as it goes and returns early at the first operation that
fails. What it changed before the failure stays changed. Whatever every single change
is related by, the whole run is related by its reflexive transitive closure, also when
the run stops half-way.
-/

namespace Vpsman.Lib

/-- A computation on a state `σ`; no result means that it returned early. -/
def Fallible (σ α : Type) := σ → Option α × σ

namespace Fallible

variable {σ α β : Type}

def bind (first : Fallible σ α) (next : α → Fallible σ β) : Fallible σ β := fun s =>
  match first s with
  | (some value, s') => next value s'
  | (none, s') => (none, s')

instance : Monad (Fallible σ) where
  pure value := fun s => (some value, s)
  bind := bind

def fail : Fallible σ α := fun s => (none, s)

def read (f : σ → α) : Fallible σ α := fun s => (some (f s), s)

def update (f : σ → σ) : Fallible σ Unit := fun s => (some (), f s)

/-- Perform the computation for one element after the other. -/
def each (perform : α → Fallible σ Unit) : List α → Fallible σ Unit
  | [] => pure ()
  | element :: rest => do
    perform element
    each perform rest

@[simp] theorem pure_apply : (pure value : Fallible σ α) s = (some value, s) := rfl

theorem bind_apply (first : Fallible σ α) (next : α → Fallible σ β) (s : σ) :
    (first >>= next) s =
      match first s with
      | (some value, s') => next value s'
      | (none, s') => (none, s') :=
  rfl

@[simp] theorem read_bind (f : σ → α) (next : α → Fallible σ β) (s : σ) :
    (read f >>= next) s = next (f s) s := rfl

@[simp] theorem update_bind (f : σ → σ) (next : Unit → Fallible σ β) (s : σ) :
    (update f >>= next) s = next () (f s) := rfl

/-- Run from `s`, the computation only makes changes that `change` allows. -/
def Performs (change : σ → σ → Prop) (m : Fallible σ α) (s : σ) : Prop :=
  Relation.ReflTransGen change s (m s).2

variable {change : σ → σ → Prop}

namespace Performs

theorem pure (value : α) : Performs change (Pure.pure value) s := .refl

theorem fail : Performs change (Fallible.fail : Fallible σ α) s := .refl

theorem update (allowed : change s (f s)) : Performs change (Fallible.update f) s :=
  .single allowed

theorem read {next : α → Fallible σ β}
    (performs : Performs change (next (f s)) s) : Performs change (Fallible.read f >>= next) s :=
  performs

theorem bind {next : α → Fallible σ β} (performs : Performs change first s)
    (after : ∀ value s', first s = (some value, s') → Performs change (next value) s') :
    Performs change (first >>= next) s := by
  unfold Performs at performs ⊢
  rw [bind_apply]
  cases result : first s with
  | mk value s' =>
    rw [result] at performs
    cases value with
    | none => exact performs
    | some value => exact performs.trans (after value s' result)

/-- A loop whose body only makes allowed changes, from any state, does so as a whole. -/
theorem each (allowed : ∀ element s, Performs change (perform element) s) :
    ∀ (elements : List α) (s : σ), Performs change (Fallible.each perform elements) s
  | [], _ => pure ()
  | element :: rest, s => bind (allowed element s) fun _ s' _ => each allowed rest s'

end Performs
end Fallible
end Vpsman.Lib