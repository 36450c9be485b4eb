import Mathlib.Data.List.Sort

/-! # Maps in the order of their keys

A map whose entries stand in increasing order of their keys, with the operations of a
B-tree map: putting an entry in, taking one out, and looking at the first one.
-/

namespace Vpsman.Lib

structure OrderedMap (κ ν : Type) [LinearOrder κ] where
  entries : List (κ × ν)
  increasing : entries.Pairwise fun first second => first.1 < second.1

namespace OrderedMap

variable {κ ν : Type} [LinearOrder κ]

def empty : OrderedMap κ ν := ⟨[], .nil⟩

/-- Put an entry in its place, instead of the one with the same key. -/
def put (key : κ) (value : ν) : List (κ × ν) → List (κ × ν)
  | [] => [(key, value)]
  | entry :: rest =>
    if key < entry.1 then (key, value) :: entry :: rest
    else if key = entry.1 then (key, value) :: rest
    else entry :: put key value rest

theorem mem_put {entries : List (κ × ν)}
    (increasing : entries.Pairwise fun first second => first.1 < second.1) :
    entry ∈ put key value entries ↔ entry = (key, value) ∨ entry ∈ entries ∧ entry.1 ≠ key := by
  induction entries with
  | nil => simp [put]
  | cons first _ ih =>
    obtain ⟨above, tail⟩ := List.pairwise_cons.mp increasing
    rw [put]
    rcases lt_trichotomy key first.1 with below | same | beyond
    · rw [if_pos below, List.mem_cons]
      refine or_congr_right (Iff.symm (and_iff_left_of_imp ?_))
      intro member
      rcases List.mem_cons.mp member with rfl | later
      · exact ne_of_gt below
      · exact ne_of_gt (below.trans (above entry later))
    · rw [if_neg (same ▸ lt_irrefl _), if_pos same, List.mem_cons, List.mem_cons]
      refine or_congr_right ⟨fun later => ⟨.inr later, ?_⟩, ?_⟩
      · exact ne_of_gt (same ▸ above entry later)
      · rintro ⟨rfl | later, different⟩
        · exact absurd same.symm different
        · exact later
    · rw [if_neg (not_lt_of_gt beyond), if_neg (ne_of_gt beyond), List.mem_cons, List.mem_cons, ih tail]
      constructor
      · rintro (rfl | rfl | ⟨later, different⟩)
        · exact .inr ⟨.inl rfl, ne_of_lt beyond⟩
        · exact .inl rfl
        · exact .inr ⟨.inr later, different⟩
      · rintro (rfl | ⟨rfl | later, different⟩)
        · exact .inr (.inl rfl)
        · exact .inl rfl
        · exact .inr (.inr ⟨later, different⟩)

theorem put_increasing {entries : List (κ × ν)}
    (increasing : entries.Pairwise fun first second => first.1 < second.1) :
    (put key value entries).Pairwise fun first second => first.1 < second.1 := by
  induction entries with
  | nil => exact List.pairwise_singleton _ _
  | cons _ _ ih =>
    obtain ⟨above, tail⟩ := List.pairwise_cons.mp increasing
    rw [put]
    split
    next below =>
      refine List.pairwise_cons.mpr ⟨?_, increasing⟩
      intro entry member
      rcases List.mem_cons.mp member with rfl | later
      · exact below
      · exact below.trans (above entry later)
    · split
      next same =>
        exact List.pairwise_cons.mpr ⟨fun entry later => same ▸ above entry later, tail⟩
      next notBelow different =>
        refine List.pairwise_cons.mpr ⟨?_, ih tail⟩
        intro entry member
        rcases (mem_put tail).mp member with rfl | ⟨later, _⟩
        · exact lt_of_le_of_ne (not_lt.mp notBelow) (Ne.symm different)
        · exact above entry later

def insert (map : OrderedMap κ ν) (key : κ) (value : ν) : OrderedMap κ ν :=
  ⟨put key value map.entries, put_increasing map.increasing⟩

def remove (map : OrderedMap κ ν) (key : κ) : OrderedMap κ ν :=
  ⟨map.entries.filter (·.1 ≠ key), map.increasing.filter _⟩

def firstKeyValue (map : OrderedMap κ ν) : Option (κ × ν) := map.entries.head?

def isEmpty (map : OrderedMap κ ν) : Bool := map.entries.isEmpty

variable (map : OrderedMap κ ν)

theorem mem_insert :
    entry ∈ (map.insert key value).entries ↔
      entry = (key, value) ∨ entry ∈ map.entries ∧ entry.1 ≠ key :=
  mem_put map.increasing

theorem mem_remove : entry ∈ (map.remove key).entries ↔ entry ∈ map.entries ∧ entry.1 ≠ key := by
  simp [remove]

def keys (map : OrderedMap κ ν) : List κ := map.entries.map Prod.fst

def values (map : OrderedMap κ ν) : List ν := map.entries.map Prod.snd

def get (map : OrderedMap κ ν) (key : κ) : Option ν :=
  (map.entries.find? (·.1 = key)).map Prod.snd

/-- `retain`, by the keys. -/
def retain (map : OrderedMap κ ν) (keep : κ → Bool) : OrderedMap κ ν :=
  ⟨map.entries.filter (fun entry => keep entry.1), map.increasing.filter _⟩

/-- `collect`: the last entry of a key counts. -/
def ofList (entries : List (κ × ν)) : OrderedMap κ ν :=
  entries.foldl (fun map entry => map.insert entry.1 entry.2) empty

instance [DecidableEq ν] : DecidableEq (OrderedMap κ ν) := fun left right =>
  decidable_of_iff (left.entries = right.entries)
    ⟨fun same => by cases left; cases right; cases same; rfl, congrArg entries⟩

@[simp] theorem mem_keys_insert :
    other ∈ (map.insert key value).keys ↔ other = key ∨ other ∈ map.keys := by
  simp only [keys, List.mem_map, mem_insert, Prod.exists, exists_and_right, exists_eq_right]
  constructor
  · rintro ⟨held, same | ⟨member, _⟩⟩
    · exact .inl (Prod.mk.inj same).1
    · exact .inr ⟨held, member⟩
  · rintro (rfl | ⟨held, member⟩)
    · exact ⟨value, .inl rfl⟩
    · by_cases same : other = key
      · exact ⟨value, .inl (by rw [same])⟩
      · exact ⟨held, .inr ⟨member, same⟩⟩

@[simp] theorem mem_keys_remove :
    other ∈ (map.remove key).keys ↔ other ∈ map.keys ∧ other ≠ key := by
  simp [keys, mem_remove]

@[simp] theorem mem_keys_retain :
    key ∈ (map.retain keep).keys ↔ key ∈ map.keys ∧ keep key = true := by
  simp [keys, retain]

@[simp] theorem keys_empty : (empty : OrderedMap κ ν).keys = [] := rfl

theorem firstKeyValue_eq_some {map : OrderedMap κ ν} (first : map.firstKeyValue = some entry) :
    entry ∈ map.entries ∧ ∀ other ∈ map.entries, entry.1 ≤ other.1 := by
  obtain ⟨rest, split⟩ := List.head?_eq_some_iff.mp first
  have increasing := map.increasing
  rw [split] at increasing
  rw [split]
  refine ⟨List.mem_cons_self, ?_⟩
  intro other member
  rcases List.mem_cons.mp member with rfl | later
  · exact le_refl _
  · exact le_of_lt ((List.pairwise_cons.mp increasing).1 other later)

theorem isEmpty_iff {map : OrderedMap κ ν} : map.isEmpty ↔ ∀ entry, entry ∉ map.entries := by
  rw [isEmpty, List.isEmpty_iff, List.eq_nil_iff_forall_not_mem]

end OrderedMap
end Vpsman.Lib
