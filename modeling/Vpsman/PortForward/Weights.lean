import Vpsman.PortForward.Arithmetic

/-! # The weights of a pool

The map of a pool gives each endpoint as many consecutive selector values as its row has
weight. Rows of one address do not share a port, so no other row adds to an endpoint.
-/

namespace Vpsman.PortForward

open Vpsman.Lib Vpsman.Lib.Nft

variable {pool : PortForwardPool} {protocol : PortForwardProtocol}
  {endpoints : List (Nat × IpAddr × Nat)} {start value : Nat}

/-- What the map and the modulus have to be for the weights of the rows. -/
structure HonoursWeights (pool : PortForwardPool) (modulus : Nat)
    (elements : List (Range × IpAddr × Nat)) : Prop where
  apart : elements.Pairwise fun left right =>
    ∀ value, ¬ (left.1.Contains value ∧ right.1.Contains value)
  covers : ∀ value, (∃ element ∈ elements, element.1.Contains value) ↔ value < modulus
  narrow : ∀ element ∈ elements, element.1.start < 2 ^ 32 ∧ element.1.end_ < 2 ^ 32
  enabled : ∀ element ∈ elements, ∃ row ∈ pool.upstreams, row.enabled ∧
    row.targetIp = element.2.1 ∧ row.ports.toRange.Contains element.2.2
  weight : ∀ row ∈ pool.upstreams, row.enabled → ∀ port, row.ports.toRange.Contains port →
    ((List.range modulus).countP fun value => lookup elements value = some (row.targetIp, port)) =
      row.weight.toNat

/-! ## The intervals -/

section

variable (positive : ∀ endpoint ∈ endpoints, 0 < endpoint.1)
include positive

theorem poolElements_covers :
    (∃ element ∈ poolElements start endpoints, element.1.Contains value) ↔
      start ≤ value ∧ value < start + (endpoints.map (·.1)).sum := by
  induction endpoints generalizing start with
  | nil => simp [poolElements]
  | cons _ _ ih =>
    rw [List.forall_mem_cons] at positive
    rw [poolElements, List.exists_mem_cons_iff, ih positive.2, List.map_cons, List.sum_cons]
    simp only [Range.Contains]
    omega

theorem poolElements_apart :
    (poolElements start endpoints).Pairwise fun left right =>
      ∀ value, ¬ (left.1.Contains value ∧ right.1.Contains value) := by
  induction endpoints generalizing start with
  | nil => exact .nil
  | cons _ _ ih =>
    rw [List.forall_mem_cons] at positive
    apply List.Pairwise.cons _ (ih positive.2)
    intro element member value ⟨first, later⟩
    have after := ((poolElements_covers positive.2).mp ⟨element, member, later⟩).1
    simp only [Range.Contains] at first
    omega

theorem count_poolElements :
    ((List.range' start (endpoints.map (·.1)).sum).countP fun value =>
        lookup (poolElements start endpoints) value = some target) =
      ((endpoints.filter (·.2 = target)).map (·.1)).sum := by
  induction endpoints generalizing start with
  | nil => rfl
  | cons endpoint rest ih =>
    rw [List.forall_mem_cons] at positive
    have first : ∀ value ∈ List.range' start endpoint.1,
        lookup (poolElements start (endpoint :: rest)) value = some endpoint.2 := by
      intro value member
      rw [List.mem_range'_1] at member
      rw [poolElements, lookup_cons, if_pos (by simp only [Range.Contains]; omega)]
    have later : ∀ value ∈ List.range' (start + endpoint.1) (rest.map (·.1)).sum,
        lookup (poolElements start (endpoint :: rest)) value =
          lookup (poolElements (start + endpoint.1) rest) value := by
      intro value member
      rw [List.mem_range'_1] at member
      rw [poolElements, lookup_cons, if_neg (by simp only [Range.Contains]; omega)]
    have others : ((List.range' (start + endpoint.1) (rest.map (·.1)).sum).countP fun value =>
        lookup (poolElements start (endpoint :: rest)) value = some target) = _ :=
      List.countP_congr fun value member => by rw [later value member]
    rw [List.map_cons, List.sum_cons, ← List.range'_append_1, List.countP_append, others,
      ih positive.2]
    by_cases same : endpoint.2 = target
    · rw [List.countP_eq_length.mpr fun value member => by simp [first value member, same]]
      simp [same]
    · rw [List.countP_eq_zero.mpr fun value member => by simp [first value member, same]]
      simp [same]

end

/-! ## The rows -/

theorem validateUpstreams_apart
    (valid : validateUpstreams pool .dnat protocol endpointCount previous rows = .ok ()) :
    rows.Pairwise (fun left right =>
        ¬ (left.targetIp = right.targetIp ∧ left.ports.Overlaps right.ports)) ∧
      ∀ row ∈ rows, ∀ other ∈ previous,
        ¬ (other.targetIp = row.targetIp ∧ other.ports.Overlaps row.ports) := by
  induction rows generalizing previous with
  | nil => simp
  | cons row _ ih =>
    simp only [validateUpstreams, check_then_ok] at valid
    have checked := valid.1
    simp only [validateUpstream, if_true, check_then_ok, poolCheck_ok] at checked
    obtain ⟨apart, before⟩ := ih valid.2
    simp only [List.mem_append, List.mem_singleton] at before
    rw [List.pairwise_cons, List.forall_mem_cons]
    exact ⟨⟨fun other later => before other later row (.inr rfl), apart⟩, checked.2.2.2.2.1,
      fun other later earlier known => before other later earlier (.inl known)⟩

theorem endpoints_apart (apart : pool.upstreams.Pairwise fun left right =>
      ¬ (left.targetIp = right.targetIp ∧ left.ports.Overlaps right.ports)) :
    pool.endpoints.Pairwise fun left right => left.2 ≠ right.2 := by
  have enabled := apart.sublist (List.filter_sublist (p := (·.enabled)))
  rw [PortForwardPool.endpoints, List.pairwise_flatMap]
  constructor
  · intro row _
    rw [List.pairwise_map]
    exact List.Pairwise.imp (fun different same => different (congrArg Prod.snd same))
      List.nodup_range'
  · apply enabled.imp
    intro left right separate first inFirst second inSecond same
    obtain ⟨port, listed, rfl⟩ := List.mem_map.mp inFirst
    obtain ⟨port', listed', rfl⟩ := List.mem_map.mp inSecond
    obtain ⟨sameIp, rfl⟩ := Prod.mk.inj same
    simp only [PortForwardUpstream.portList, List.mem_range'_1] at listed listed'
    apply separate
    refine ⟨sameIp, ?_⟩
    simp only [PortRange.Overlaps, Range.Overlaps, PortRange.toRange]
    omega

theorem sum_of_endpoint (distinct : pool.endpoints.Pairwise fun left right => left.2 ≠ right.2)
    (enabled : row ∈ pool.enabled) (inRange : row.ports.toRange.Contains port) :
    ((pool.endpoints.filter (·.2 = (row.targetIp, port))).map (·.1)).sum = row.weight.toNat := by
  have listed : port ∈ row.portList := by
    simp only [Range.Contains, PortRange.toRange] at inRange
    simp only [PortForwardUpstream.portList, List.mem_range'_1]
    omega
  have member : (row.weight.toNat, row.targetIp, port) ∈ pool.endpoints :=
    List.mem_flatMap.mpr ⟨row, enabled, List.mem_map_of_mem listed⟩
  rw [filter_eq_singleton _ member (by simp)]
  · simp
  · apply distinct.imp
    intro left right different
    simp only [decide_eq_true_eq]
    exact fun both => different (both.1.trans both.2.symm)

theorem poolElements_honour (rows : ∀ row ∈ pool.enabled, row.ports.Ordered ∧ 0 < row.weight.toNat)
    (weight : pool.totalWeight ≤ 2 ^ 32 - 1)
    (distinct : pool.endpoints.Pairwise fun left right => left.2 ≠ right.2) :
    HonoursWeights pool pool.totalWeight (poolElements 0 pool.endpoints) := by
  have positive := endpoints_positive rows
  have total := sum_endpoints fun row enabled => (rows row enabled).1
  constructor
  case apart => exact poolElements_apart positive
  case covers =>
    intro value
    rw [poolElements_covers positive, total]
    omega
  case narrow =>
    intro element member
    obtain ⟨first, last, -⟩ := poolElements_below positive member
    omega
  case enabled =>
    intro element member
    obtain ⟨-, -, endpoint, listed, same⟩ := poolElements_below positive member
    obtain ⟨row, enabled, -, sameIp, port⟩ := mem_endpoints listed
    simp only [PortForwardUpstream.portList, List.mem_range'_1] at port
    obtain ⟨present, on⟩ := List.mem_filter.mp enabled
    refine ⟨row, present, on, by rw [← same, sameIp], ?_⟩
    simp only [Range.Contains, PortRange.toRange, ← same]
    omega
  case weight =>
    intro row present on port inRange
    have enabled : row ∈ pool.enabled := List.mem_filter.mpr ⟨present, on⟩
    rw [← total, List.range_eq_range', count_poolElements positive,
      sum_of_endpoint distinct enabled inRange]

/-- An accepted pool is rendered so that every endpoint is chosen as often as its row weighs. -/
theorem pool_weights_honoured (valid : validatePortForwardPool pool .dnat protocol = .ok ())
    (ruleIndex : Nat) (rule : PortForwardRule) (transport : Transport) :
    ∃ family elements selector,
      renderMap ruleIndex pool = some (.pool ruleIndex, .endpoints family elements) ∧
      renderTranslation ruleIndex rule pool transport =
        some (.natPool transport family selector pool.totalWeight (.pool ruleIndex)) ∧
      HonoursWeights pool pool.totalWeight elements := by
  obtain ⟨-, -, -, strategy, nonempty⟩ := validatePortForwardPool_sound valid
  obtain ⟨measured, weight⟩ := validatePortForwardPool_measured valid
  simp only [validatePortForwardPool, check_then_ok, forM_ok, poolCheck_ok] at valid
  have distinct := endpoints_apart (validateUpstreams_apart valid.2.2.2.2.2.2.2.2.2.1).1
  have rows : ∀ row ∈ pool.enabled, row.ports.Ordered ∧ 0 < row.weight.toNat :=
    fun row enabled => measured row (List.mem_filter.mp enabled).1
  obtain ⟨elements, modulus⟩ := checkedPool_eq rows (weight rfl)
  obtain ⟨first, others, upstreams⟩ := List.exists_cons_of_ne_nil nonempty
  have family : pool.family = some first.targetIp.family := by
    simp [PortForwardPool.family, upstreams]
  have translated : ∃ selector, renderTranslation ruleIndex rule pool transport = some
      (.natPool transport first.targetIp.family selector pool.totalWeight (.pool ruleIndex)) := by
    rcases strategy rfl with same | same | same <;>
      exact ⟨_, by simp [renderTranslation, modulus, family, same]; rfl⟩
  obtain ⟨selector, translation⟩ := translated
  exact ⟨_, _, selector, by simp [renderMap, elements, family], translation,
    poolElements_honour rows (weight rfl) distinct⟩

/-- Two ports of weight two beside one of weight one. -/
def weightedPool : PortForwardPool where
  incoming := [⟨80, 80⟩]
  strategy := .roundRobin
  upstreams := [⟨1, .v4 0x0a000002, none, ⟨8080, 8081⟩, 2, .primary, true, none⟩,
    ⟨2, .v4 0x0a000003, none, ⟨8080, 8080⟩, 1, .primary, true, none⟩]
  connectTimeoutSecs := none
  retryPolicy := none

theorem weighted_pool_rendered :
    validatePortForwardPool weightedPool .dnat .tcp = .ok () ∧
      ∃ family elements, renderMap 0 weightedPool = some (.pool 0, .endpoints family elements) ∧
        HonoursWeights weightedPool 5 elements := by
  have valid : validatePortForwardPool weightedPool .dnat .tcp = .ok () := by decide
  obtain ⟨family, elements, -, rendered, -, honours⟩ := pool_weights_honoured valid 0
    ⟨1, 1, "web", .tcp, none, [], some weightedPool, false, .dnat, none, none⟩ .tcp
  exact ⟨valid, family, elements, rendered, honours⟩

end Vpsman.PortForward
