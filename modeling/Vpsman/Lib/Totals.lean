import Mathlib.Algebra.Order.Ring.Int
import Vpsman.Lib.HashMap

/-! # Totals over a map

The sum of a quantity over the values of a finite map, and what putting an entry in and
taking one out do to it. The number of values with a property is the total of an indicator.
-/

namespace Vpsman.Lib.HashMap

variable {κ ν : Type}

def total (f : ν → Nat) (m : HashMap κ ν) : Nat := (m.entries.map fun entry => f entry.2).sum

theorem total_indicator (p : ν → Bool) (m : HashMap κ ν) :
    total (fun value => if p value then 1 else 0) m =
      (m.entries.filter fun entry => p entry.2).length := by
  unfold total
  induction m.entries with
  | nil => rfl
  | cons _ _ ih =>
    rw [List.map_cons, List.sum_cons, ih, List.filter_cons]
    dsimp only
    split
    · rw [List.length_cons, Nat.add_comm]
    · exact Nat.zero_add _

variable [DecidableEq κ]

theorem sum_kerase (entries : List (Sigma fun _ : κ => ν)) :
    ((entries.dlookup k).elim 0 f) + ((entries.kerase k).map fun entry => f entry.2).sum =
      (entries.map fun entry => f entry.2).sum := by
  induction entries with
  | nil => rfl
  | cons entry rest ih =>
    by_cases same : k = entry.1
    · obtain ⟨key, value⟩ := entry
      subst same
      have erased : List.kerase k (⟨k, value⟩ :: rest) = rest := List.kerase_cons_eq rfl
      rw [List.dlookup_cons_eq, erased]
      rfl
    · rw [List.dlookup_cons_ne _ _ same, List.kerase_cons_ne same, List.map_cons, List.sum_cons,
        List.map_cons, List.sum_cons, ← ih]
      omega

theorem total_erase (f : ν → Nat) (m : HashMap κ ν) (k : κ) :
    ((m.lookup k).elim 0 f) + total f (m.erase k) = total f m :=
  sum_kerase m.entries

theorem total_insert (f : ν → Nat) (m : HashMap κ ν) (k : κ) (v : ν) :
    total f (m.insert k v) = f v + total f (m.erase k) := by
  rfl

end Vpsman.Lib.HashMap
