import Mathlib.Data.List.AList

/-! # Finite maps with a retained part

A hash map is an association list with distinct keys, taken from Mathlib. Only
the operation that keeps the entries passing a test is added here: expiry sweeps
and cache evictions are all instances of it.
-/

namespace Vpsman.Lib

/-- A finite map with distinct keys; iteration order is not part of its meaning. -/
abbrev HashMap (κ ν : Type) := AList fun _ : κ => ν

namespace HashMap

variable {κ ν : Type}

/-- What a sweep with `f` leaves of one entry. -/
def visit (f : κ → ν → Option ν) (entry : Sigma fun _ : κ => ν) : Option (Sigma fun _ : κ => ν) :=
  (f entry.1 entry.2).map fun value => ⟨entry.1, value⟩

theorem keys_visit_sublist (entries : List (Sigma fun _ : κ => ν)) :
    (entries.filterMap (visit f)).keys.Sublist entries.keys := by
  induction entries with
  | nil => exact List.Sublist.refl _
  | cons entry _ ih =>
    cases kept : f entry.1 entry.2 with
    | none =>
      simp only [List.filterMap_cons, visit, kept, Option.map_none]
      exact ih.cons entry.1
    | some =>
      simp only [List.filterMap_cons, visit, kept, Option.map_some]
      exact ih.cons_cons entry.1

/-- Visit every entry, dropping it or storing a new value under its key. -/
def retainMap (f : κ → ν → Option ν) (m : HashMap κ ν) : HashMap κ ν :=
  ⟨m.entries.filterMap (visit f), List.Nodup.sublist (keys_visit_sublist m.entries) m.nodupKeys⟩

/-- Keep the entries for which `keep` holds. -/
def retain (keep : κ → ν → Bool) (m : HashMap κ ν) : HashMap κ ν :=
  retainMap (fun k v => if keep k v then some v else none) m

variable [DecidableEq κ]

theorem lookup_retainMap (f : κ → ν → Option ν) :
    (retainMap f m).lookup k = (m.lookup k).bind (f k) := by
  apply Option.ext
  intro value
  rw [← Option.mem_def, AList.mem_lookup_iff, Option.bind_eq_some_iff]
  simp only [retainMap, List.mem_filterMap, visit, Option.map_eq_some_iff]
  constructor
  · rintro ⟨⟨key, old⟩, member, new, kept, same⟩
    obtain ⟨rfl, rfl⟩ := Sigma.mk.inj same
    exact ⟨old, AList.mem_lookup_iff.mpr member, kept⟩
  · rintro ⟨old, found, kept⟩
    exact ⟨⟨k, old⟩, AList.mem_lookup_iff.mp found, value, kept, rfl⟩

theorem lookup_retain (keep : κ → ν → Bool) (m : HashMap κ ν) (k : κ) :
    (retain keep m).lookup k = (m.lookup k).filter (keep k) := by
  rw [retain, lookup_retainMap]
  cases m.lookup k with
  | none | some => rfl

variable (m : HashMap κ ν)

theorem lookup_insert_eq : (m.insert k v).lookup k' = if k' = k then some v else m.lookup k' := by
  by_cases same : k' = k
  · subst same
    rw [AList.lookup_insert, if_pos rfl]
  · rw [AList.lookup_insert_ne same, if_neg same]

theorem lookup_erase_eq (k k' : κ) :
    (m.erase k).lookup k' = if k' = k then none else m.lookup k' := by
  by_cases same : k' = k
  · subst same
    rw [AList.lookup_erase, if_pos rfl]
  · rw [AList.lookup_erase_ne same, if_neg same]

variable {m}

theorem lookup_insert_cases (found : (m.insert k v).lookup k' = some w) :
    k' = k ∧ w = v ∨ m.lookup k' = some w := by
  rw [lookup_insert_eq] at found
  split at found
  next same =>
    exact .inl ⟨same, (Option.some.inj found).symm⟩
  · exact .inr found

theorem lookup_of_erase (found : (m.erase k).lookup k' = some w) :
    k' ≠ k ∧ m.lookup k' = some w := by
  rw [lookup_erase_eq] at found
  exact Option.ite_none_left_eq_some.mp found

variable (m)

theorem mem_keys_iff_lookup : k ∈ m.keys ↔ ∃ v, m.lookup k = some v := by
  rw [← AList.mem_keys, ← AList.lookup_isSome, Option.isSome_iff_exists]

end HashMap
end Vpsman.Lib
