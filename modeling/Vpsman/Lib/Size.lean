import Vpsman.Lib.Check
import Vpsman.Lib.Decimal
import Vpsman.Lib.Net
import Mathlib.Algebra.BigOperators.Ring.List
import Mathlib.Algebra.Order.BigOperators.Group.List
import Mathlib.Algebra.Order.Ring.Nat

/-! # Sizes

The bytes of texts that are put together from others, sums of costs over lists, and sums
that saturate.
-/

namespace Vpsman.Lib

/-! ## Texts -/

theorem size_ascii {text : Text} (ascii : ∀ c ∈ text, c.toNat < 128) :
    (String.ofList text).utf8ByteSize = text.length := by
  have bytes := congrArg List.length (utf8Bytes_ascii ascii)
  rwa [List.length_map] at bytes

theorem digitChar_ascii (small : digit < 16) : (Nat.digitChar digit).toNat < 128 := by
  have all : ∀ digit < 16, (Nat.digitChar digit).toNat < 128 := by decide
  exact all digit small

theorem ascii_of_mem_toDigits (proper : 1 < base) (most : base ≤ 16)
    (member : c ∈ Nat.toDigits base n) : c.toNat < 128 := by
  induction n using Nat.strongRecOn with
  | ind n ih =>
    rw [Nat.toDigits_eq_if proper] at member
    split at member
    · rw [List.mem_singleton.mp member]
      exact digitChar_ascii (by omega)
    · rcases List.mem_append.mp member with higher | last
      · exact ih (n / base) (Nat.div_lt_self (by omega) proper) higher
      · rw [List.mem_singleton.mp last]
        exact digitChar_ascii (Nat.lt_of_lt_of_le (Nat.mod_lt n (by omega)) most)

theorem size_toDigits_le (proper : 1 < base) (most : base ≤ 16)
    (positive : 0 < width) (small : n < base ^ width) :
    (String.ofList (Nat.toDigits base n)).utf8ByteSize ≤ width := by
  rw [size_ascii fun _ member => ascii_of_mem_toDigits proper most member]
  exact (Nat.length_toDigits_le_iff proper positive).mpr small

theorem size_toString_le (positive : 0 < width) (small : n < 10 ^ width) :
    (toString n).utf8ByteSize ≤ width := by
  exact size_toDigits_le (by decide) (by decide) positive small

theorem size_join : (String.join texts).utf8ByteSize = (texts.map String.utf8ByteSize).sum := by
  induction texts with
  | nil => rfl
  | cons _ _ ih => simp [ih]

theorem size_intercalate_le (separator : String) :
    (separator.intercalate texts).utf8ByteSize ≤
      (texts.map fun text => text.utf8ByteSize + separator.utf8ByteSize).sum := by
  induction texts with
  | nil => exact Nat.le_refl 0
  | cons _ rest ih =>
    cases rest with
    | nil => simp
    | cons =>
      rw [String.intercalate_cons_cons, String.utf8ByteSize_append, String.utf8ByteSize_append,
        List.map_cons, List.sum_cons]
      exact Nat.add_le_add_left ih _

/-! ## Costs -/

variable {α β : Type}

variable {items : List α}

theorem sum_map_le_mul (each : ∀ item ∈ items, cost item ≤ bound) :
    (items.map cost).sum ≤ items.length * bound := by
  have total := List.sum_le_card_nsmul (items.map cost) bound (by simpa using each)
  simpa using total

theorem sum_optional_le (cost : α → Nat) (condition : Bool)
    (size : cost item ≤ bound) : ((if condition then [item] else []).map cost).sum ≤ bound := by
  split
  · simpa using size
  · exact Nat.zero_le bound

theorem sum_map_flatMap (cost : β → Nat) :
    ((items.flatMap f).map cost).sum = (items.map fun item => ((f item).map cost).sum).sum := by
  induction items with
  | nil => rfl
  | cons _ _ ih => simp [ih]

theorem sum_sum_comm (xs : List α) (ys : List β) (cost : α → β → Nat) :
    (xs.map fun x => (ys.map (cost x)).sum).sum =
      (ys.map fun y => (xs.map fun x => cost x y).sum).sum := by
  induction xs with
  | nil => simp
  | cons _ _ ih => simp [ih]

theorem sum_zipIdx (items : List α) (cost : α → Nat) :
    (items.zipIdx.map fun entry => cost entry.1).sum = (items.map cost).sum := by
  conv_rhs => rw [← List.zipIdx_map_fst 0 items]
  rw [List.map_map]
  rfl

theorem sum_mapM_le (cost : β → Nat) (bound : α → Nat) (collected : items.mapM f = some results)
    (each : ∀ item ∈ items, ∀ result, f item = some result → cost result ≤ bound item) :
    (results.map cost).sum ≤ (items.map bound).sum := by
  replace collected := gives_of_mapM collected
  induction collected with
  | nil => exact Nat.le_refl 0
  | cons found _ ih =>
    rw [List.forall_mem_cons] at each
    exact Nat.add_le_add (each.1 _ found) (ih each.2)

/-! ## Numbers, identifiers and addresses -/

theorem size_int64_le (n : Int64) : (toString n).utf8ByteSize ≤ 20 := by
  have below := n.toInt_lt
  have above := n.le_toInt
  change (toString n.toInt).utf8ByteSize ≤ 20
  cases number : n.toInt with
  | ofNat m =>
    have small : m < 10 ^ 19 := by
      rw [number, Int.ofNat_eq_natCast] at below
      omega
    exact (size_toString_le (by decide) small).trans (by decide)
  | negSucc m =>
    have small : m + 1 < 10 ^ 19 := by
      omega
    have digits := size_toString_le (by decide) small
    change ("-" ++ toString (m + 1)).utf8ByteSize ≤ 20
    rw [String.utf8ByteSize_append]
    exact Nat.add_le_add (Nat.le_refl 1) digits

@[simp] theorem length_hexDigits : (hexDigits width n).length = width := by
  induction width generalizing n with
  | zero => rfl
  | succ _ ih => simp [hexDigits, ih]

theorem ascii_of_mem_hexDigits (member : c ∈ hexDigits width n) : c.toNat < 128 := by
  induction width generalizing n with
  | zero => exact absurd member List.not_mem_nil
  | succ _ ih =>
    rcases List.mem_append.mp member with higher | last
    · exact ih higher
    · rw [List.mem_singleton.mp last]
      exact digitChar_ascii (Nat.mod_lt n (by decide))

theorem Uuid.size_hyphenated (id : Uuid) : id.hyphenated.utf8ByteSize = 36 := by
  unfold hyphenated
  rw [size_ascii]
  · simp
  · intro c member
    simp only [List.cons_append, List.append_assoc, List.mem_append, List.mem_cons] at member
    rcases member with part | rfl | part | rfl | part | rfl | part | rfl | part <;>
      first | exact ascii_of_mem_hexDigits part | decide

namespace IpAddr

theorem size_dotted_le (address : BitVec 32) : (dotted address).utf8ByteSize ≤ 16 := by
  refine (size_intercalate_le _).trans ?_
  rw [List.map_map]
  refine Nat.le_trans (sum_map_le_mul fun shift _ => ?_) (Nat.le_refl (4 * 4))
  have digits : (toString ((address >>> shift).toNat % 256)).utf8ByteSize ≤ 3 :=
    size_toString_le (by decide) (Nat.lt_trans (Nat.mod_lt _ (by decide)) (by decide))
  exact Nat.add_le_add digits (Nat.le_refl 1)

theorem size_hexGroups_le (small : ∀ group ∈ groups, group < 65536) :
    (hexGroups groups).utf8ByteSize ≤ groups.length * 5 := by
  refine (size_intercalate_le _).trans ?_
  rw [List.map_map]
  refine sum_map_le_mul fun group member => ?_
  have digits : (String.ofList (Nat.toDigits 16 group)).utf8ByteSize ≤ 4 :=
    size_toDigits_le (by decide) (by decide) (by decide) (small group member)
  exact Nat.add_le_add digits (Nat.le_refl 1)

theorem segments_small (address : BitVec 128) : ∀ group ∈ segments address, group < 65536 := by
  intro group member
  obtain ⟨shift, -, rfl⟩ := List.mem_map.mp member
  exact Nat.mod_lt _ (by decide)

theorem size_colonHex_le : (colonHex address).utf8ByteSize ≤ 42 := by
  have small := segments_small address
  have count : (segments address).length = 8 := rfl
  unfold colonHex
  split
  · have mapped := size_dotted_le (address.truncate 32)
    rw [String.utf8ByteSize_append]
    change 7 + _ ≤ 42
    omega
  · dsimp only
    split
    · generalize longestZeroRun (segments address) 0 = run
      have before := size_hexGroups_le fun group (member : group ∈ (segments address).take run.1) =>
        small group (List.mem_of_mem_take member)
      have after := size_hexGroups_le
        fun group (member : group ∈ (segments address).drop (run.1 + run.2)) =>
          small group (List.mem_of_mem_drop member)
      rw [List.length_take, count] at before
      rw [List.length_drop, count] at after
      rw [String.utf8ByteSize_append, String.utf8ByteSize_append]
      change _ + 2 + _ ≤ 42
      omega
    · have all := size_hexGroups_le small
      omega

theorem size_text_le (address : IpAddr) : address.text.utf8ByteSize ≤ 42 := by
  cases address with
  | v4 address => exact (size_dotted_le address).trans (by decide)
  | v6 => exact size_colonHex_le

end IpAddr

/-! ## Saturating sums -/

theorem satAdd_min : satAdd (min a u64Max) (min b u64Max) = min (a + b) u64Max := by
  unfold satAdd
  omega

theorem satMul_min : satMul (min a u64Max) b = min (a * b) u64Max := by
  unfold satMul
  rcases Nat.eq_zero_or_pos b with rfl | positive
  · rfl
  rcases Nat.le_total a u64Max with small | large
  · rw [Nat.min_eq_left small]
  · have product : a ≤ a * b := Nat.le_mul_of_pos_right a positive
    have limit : u64Max ≤ u64Max * b := Nat.le_mul_of_pos_right u64Max positive
    rw [Nat.min_eq_right large]
    omega

theorem foldl_satAdd {cost bound : α → Nat}
    (each : ∀ item ∈ items, cost item = min (bound item) u64Max) (total : Nat) :
    items.foldl (fun total item => satAdd total (cost item)) (min total u64Max) =
      min (total + (items.map bound).sum) u64Max := by
  induction items generalizing total with
  | nil => rfl
  | cons _ _ ih =>
    rw [List.forall_mem_cons] at each
    rw [List.foldl_cons, each.1, satAdd_min, ih each.2, List.map_cons, List.sum_cons, Nat.add_assoc]

end Vpsman.Lib
