import Vpsman.PortForward.Accepted
import Vpsman.PortForward.Render

/-! # The arithmetic of rendering

What is computed in machine words is what natural numbers give, and for accepted rules
nothing leaves its type.
-/

namespace Vpsman.PortForward

open Vpsman.Lib Vpsman.Lib.Nft

/-! ## Ports -/

theorem PortRange.checkedCardinality_eq {range : PortRange}
    (computed : range.checkedCardinality = some count) : count = range.cardinality := by
  simp only [checkedCardinality, Option.bind_eq_bind, Option.bind_eq_some_iff, checkedSub_eq_some,
    within_eq_some] at computed
  obtain ⟨_, ⟨-, rfl⟩, -, rfl⟩ := computed
  rfl

theorem PortRange.checkedCardinality_of_ordered {range : PortRange} (ordered : range.Ordered) :
    range.checkedCardinality = some range.cardinality := by
  have bound := range.end_.toNat_lt
  simp only [checkedCardinality, Option.bind_eq_bind, Option.bind_eq_some_iff, checkedSub_eq_some,
    within_eq_some]
  refine ⟨_, ⟨ordered, rfl⟩, ?_, rfl⟩
  omega

theorem PortRange.cardinality_le (range : PortRange) : range.cardinality ≤ 65536 := by
  have bound := range.end_.toNat_lt
  unfold cardinality
  omega

/-- The elements of one shifted mapping. -/
def shiftedPorts (mapping : PortForwardMapping) : List (Range × Nat) :=
  (List.range mapping.incoming.cardinality).map fun offset =>
    (⟨mapping.incoming.start.toNat + offset, mapping.incoming.start.toNat + offset⟩,
      mapping.target.start.toNat + offset)

theorem checkedShiftedPorts_eq
    (computed : checkedShiftedPorts mapping = some ports) : ports = shiftedPorts mapping := by
  rw [checkedShiftedPorts, Option.bind_eq_bind, Option.bind_eq_some_iff] at computed
  obtain ⟨count, counted, computed⟩ := computed
  obtain rfl := PortRange.checkedCardinality_eq counted
  refine eq_map_of_mapM computed fun offset _ element found => ?_
  simp only [Option.bind_eq_bind, Option.bind_eq_some_iff, within_eq_some, Option.pure_def,
    Option.some.injEq] at found
  obtain ⟨_, ⟨-, rfl⟩, _, ⟨-, rfl⟩, rfl⟩ := found
  rfl

theorem checkedShiftedPorts_isSome
    (ordered : mapping.incoming.Ordered) : (checkedShiftedPorts mapping).isSome := by
  rw [checkedShiftedPorts, PortRange.checkedCardinality_of_ordered ordered]
  refine mapM_isSome fun offset member => ?_
  have small := List.mem_range.mp member
  have count := mapping.incoming.cardinality_le
  have start := mapping.incoming.start.toNat_lt
  have target := mapping.target.start.toNat_lt
  have first : within (2 ^ 32) (mapping.incoming.start.toNat + offset) =
      some (mapping.incoming.start.toNat + offset) := within_eq_some.mpr ⟨by omega, rfl⟩
  have second : within (2 ^ 32) (mapping.target.start.toNat + offset) =
      some (mapping.target.start.toNat + offset) := within_eq_some.mpr ⟨by omega, rfl⟩
  simp only [first, second, Option.bind_eq_bind, Option.bind_some, Option.pure_def, Option.isSome_some]

variable {mappings : List PortForwardMapping}

theorem checkedShiftedElements_eq (computed : checkedShiftedElements mappings = some elements) :
    elements = shiftedElements mappings := by
  rw [checkedShiftedElements, Option.map_eq_some_iff] at computed
  obtain ⟨parts, collected, rfl⟩ := computed
  rw [eq_map_of_mapM collected fun _ _ _ found => checkedShiftedPorts_eq found]
  rfl

theorem checkedShiftedElements_isSome (ordered : ∀ mapping ∈ mappings, mapping.incoming.Ordered) :
    (checkedShiftedElements mappings).isSome := by
  rw [checkedShiftedElements, Option.isSome_map]
  exact mapM_isSome fun mapping member =>
    checkedShiftedPorts_isSome (ordered mapping (List.mem_filter.mp member).1)

/-! ## Pools -/

theorem checkedPoolElements_eq (positive : ∀ endpoint ∈ endpoints, 0 < endpoint.1)
    (fits : start + (endpoints.map (·.1)).sum ≤ u64Max) :
    checkedPoolElements start endpoints = some (poolElements start endpoints) := by
  induction endpoints generalizing start with
  | nil => rfl
  | cons endpoint rest ih =>
    obtain ⟨weight, targetIp, port⟩ := endpoint
    rw [List.forall_mem_cons] at positive
    rw [List.map_cons, List.sum_cons] at fits
    have sum : checkedAdd start weight = some (start + weight) :=
      checkedAdd_eq_some.mpr ⟨by omega, rfl⟩
    have end_ : checkedSub (start + weight) 1 = some (start + weight - 1) :=
      checkedSub_eq_some.mpr ⟨by omega, rfl⟩
    have next : checkedAdd (start + weight - 1) 1 = some (start + weight) :=
      checkedAdd_eq_some.mpr ⟨by omega, by omega⟩
    have later : checkedPoolElements (start + weight) rest =
        some (poolElements (start + weight) rest) := ih positive.2 (by omega)
    simp [checkedPoolElements, poolElements, sum, end_, next, later]

theorem poolElements_below (positive : ∀ endpoint ∈ endpoints, 0 < endpoint.1)
    (member : element ∈ poolElements start endpoints) :
    element.1.start < start + (endpoints.map (·.1)).sum ∧
      element.1.end_ < start + (endpoints.map (·.1)).sum ∧
      ∃ endpoint ∈ endpoints, endpoint.2 = element.2 := by
  induction endpoints generalizing start with
  | nil => exact absurd member List.not_mem_nil
  | cons endpoint _ ih =>
    obtain ⟨weight, targetIp, port⟩ := endpoint
    rw [List.forall_mem_cons] at positive
    rw [List.map_cons, List.sum_cons]
    rcases List.mem_cons.mp member with rfl | later
    · refine ⟨?_, ?_, _, List.mem_cons_self, rfl⟩ <;> dsimp only <;> omega
    · obtain ⟨first, last, found, present, same⟩ := ih positive.2 later
      refine ⟨by omega, by omega, found, List.mem_cons_of_mem _ present, same⟩

theorem length_portList {row : PortForwardUpstream} (ordered : row.ports.Ordered) :
    row.portList.length = row.ports.cardinality := by
  unfold PortRange.Ordered at ordered
  rw [PortForwardUpstream.portList, List.length_range', PortRange.cardinality]
  omega

variable {pool : PortForwardPool}

theorem sum_endpoints (ordered : ∀ row ∈ pool.enabled, row.ports.Ordered) :
    (pool.endpoints.map (·.1)).sum = pool.totalWeight := by
  unfold PortForwardPool.endpoints PortForwardPool.totalWeight
  generalize pool.enabled = rows at ordered ⊢
  induction rows with
  | nil => rfl
  | cons row _ ih =>
    rw [List.forall_mem_cons] at ordered
    rw [List.flatMap_cons, List.map_append, List.sum_append, ih ordered.2, List.map_cons,
      List.sum_cons, List.map_map]
    have same : (row.portList.map fun _ => row.weight.toNat).sum =
        row.weight.toNat * row.ports.cardinality := by
      rw [List.map_const', List.sum_replicate_nat, length_portList ordered.1, Nat.mul_comm]
    exact congrArg (· + _) same

theorem mem_endpoints (member : endpoint ∈ pool.endpoints) :
    ∃ row ∈ pool.enabled, endpoint.1 = row.weight.toNat ∧ endpoint.2.1 = row.targetIp ∧
      endpoint.2.2 ∈ row.portList := by
  obtain ⟨row, enabled, listed⟩ := List.mem_flatMap.mp member
  obtain ⟨port, present, rfl⟩ := List.mem_map.mp listed
  exact ⟨row, enabled, rfl, rfl, present⟩

theorem checkedTotalWeight_of_fits (ordered : ∀ row ∈ pool.enabled, row.ports.Ordered)
    (fits : pool.totalWeight ≤ u64Max) : pool.checkedTotalWeight = some pool.totalWeight := by
  unfold PortForwardPool.checkedTotalWeight
  unfold PortForwardPool.totalWeight at fits ⊢
  rw [← Nat.zero_add (List.sum _)] at fits ⊢
  -- the running total is generalized: it is what the rows before contribute
  generalize 0 = total at fits ⊢
  generalize pool.enabled = rows at ordered fits ⊢
  induction rows generalizing total with
  | nil => rfl
  | cons row _ ih =>
    rw [List.forall_mem_cons] at ordered
    rw [List.map_cons, List.sum_cons] at fits ⊢
    have product : within (2 ^ 64) (row.weight.toNat * row.ports.cardinality) =
        some (row.weight.toNat * row.ports.cardinality) := by
      refine within_eq_some.mpr ⟨?_, rfl⟩
      unfold u64Max at fits
      omega
    have sum : checkedAdd total (row.weight.toNat * row.ports.cardinality) =
        some (total + row.weight.toNat * row.ports.cardinality) :=
      checkedAdd_eq_some.mpr ⟨by omega, rfl⟩
    rw [List.foldlM_cons, PortRange.checkedCardinality_of_ordered ordered.1]
    simp only [Option.bind_eq_bind, Option.bind_some, product, sum]
    rw [← Nat.add_assoc] at fits ⊢
    exact ih _ ordered.2 fits

theorem PortForwardRule.Sound.enabled_rows {rule : PortForwardRule} (sound : rule.Sound)
    (present : rule.pool = some pool) :
    ∀ row ∈ pool.enabled, row.ports.Ordered ∧ 0 < row.weight.toNat :=
  fun row enabled => sound.rows pool present row (List.mem_filter.mp enabled).1

theorem endpoints_positive (rows : ∀ row ∈ pool.enabled, row.ports.Ordered ∧ 0 < row.weight.toNat) :
    ∀ endpoint ∈ pool.endpoints, 0 < endpoint.1 := by
  intro endpoint member
  obtain ⟨row, enabled, weight, -⟩ := mem_endpoints member
  rw [weight]
  exact (rows row enabled).2

theorem checkedPool_eq (rows : ∀ row ∈ pool.enabled, row.ports.Ordered ∧ 0 < row.weight.toNat)
    (weight : pool.totalWeight ≤ 2 ^ 32 - 1) :
    checkedPoolElements 0 pool.endpoints = some (poolElements 0 pool.endpoints) ∧
      pool.checkedTotalWeight = some pool.totalWeight := by
  have ordered : ∀ row ∈ pool.enabled, row.ports.Ordered := fun row enabled => (rows row enabled).1
  have fits : pool.totalWeight ≤ u64Max := weight.trans (by decide)
  refine ⟨checkedPoolElements_eq (endpoints_positive rows) ?_, checkedTotalWeight_of_fits ordered fits⟩
  rw [Nat.zero_add, sum_endpoints ordered]
  exact fits

theorem pool_arithmetic {rule : PortForwardRule} (sound : rule.Sound) (dnat : rule.mode = .dnat)
    (present : rule.pool = some pool) :
    checkedPoolElements 0 pool.endpoints = some (poolElements 0 pool.endpoints) ∧
      pool.checkedTotalWeight = some pool.totalWeight :=
  checkedPool_eq (sound.enabled_rows present) (sound.weight dnat pool present)

end Vpsman.PortForward
