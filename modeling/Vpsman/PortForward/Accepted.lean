import Vpsman.Lib.Check
import Vpsman.PortForward.Validate

/-! # What validation establishes

The facts about accepted rules that their rendering relies on.
-/

namespace Vpsman.PortForward

open Vpsman.Lib

@[simp] theorem require_ok [Decidable condition]
    {error : PortForwardValidationError} : require condition error = .ok () ↔ condition := by
  unfold require
  split <;> simp_all

@[simp] theorem poolCheck_ok [Decidable condition] :
    poolCheck condition message = .ok () ↔ condition := require_ok

/-! ## Ranges -/

def PortRange.Ordered (range : PortRange) : Prop := range.start.toNat ≤ range.end_.toNat

theorem PortRange.validate_ordered {range : PortRange} (valid : range.validate = .ok ()) :
    range.Ordered := by
  rw [validate, check_then_ok, require_ok, require_ok] at valid
  exact UInt16.le_iff_toNat_le.mp valid.2

instance : Std.Total PortRange.Le := ⟨fun left right => Nat.le_total left.key right.key⟩

instance : IsTrans PortRange PortRange.Le := ⟨fun _ _ _ => Nat.le_trans⟩

theorem PortRange.start_le_of_key_le {left right : PortRange} (le : left.key ≤ right.key) :
    left.start.toNat ≤ right.start.toNat := by
  have bound := right.end_.toNat_lt
  unfold key at le
  omega

theorem PortRange.overlaps_between {left between right : PortRange} (ordered : between.Ordered)
    (before : left.key ≤ between.key) (after : between.key ≤ right.key)
    (overlaps : left.Overlaps right) : left.Overlaps between :=
  ⟨Nat.le_trans (start_le_of_key_le before) ordered,
    Nat.le_trans (start_le_of_key_le after) overlaps.2⟩

theorem validateNonOverlapping_apart
    (ordered : ∀ range ∈ ranges, range.Ordered) (valid : validateNonOverlapping ranges = .ok ()) :
    ranges.Pairwise fun left right => ¬ left.Overlaps right := by
  rw [validateNonOverlapping, require_ok] at valid
  refine pairwise_of_sorted_windows Range.Overlaps.symm ?_ valid
  intro left between member right before after overlaps
  exact PortRange.overlaps_between (ordered between member) before after overlaps

/-! ## Rules -/

/-- The target of the mapping has one port, or one for each incoming port. -/
def PortForwardMapping.Fits (mapping : PortForwardMapping) : Prop :=
  mapping.target.isSingle ∨ mapping.target.cardinality = mapping.incoming.cardinality

/-- What rendering needs of a rule. -/
structure PortForwardRule.Sound (rule : PortForwardRule) : Prop where
  ordered : ∀ range ∈ rule.incomingRanges, range.Ordered
  apart : rule.incomingRanges.Pairwise fun left right => ¬ left.Overlaps right
  fits : rule.pool = none → ∀ mapping ∈ rule.mappings, mapping.Fits
  destination : rule.mode = .dnat → rule.pool = none → rule.targetIp.isSome
  pooled : ∀ pool ∈ rule.pool, rule.mode ≠ .redirect ∧ (rule.mode = .dnat →
    pool.strategy = .roundRobin ∨ pool.strategy = .random ∨ pool.strategy = .sourceIpHash) ∧
    pool.upstreams ≠ []
  rows : ∀ pool ∈ rule.pool, ∀ row ∈ pool.upstreams, row.ports.Ordered ∧ 0 < row.weight.toNat
  weight : rule.mode = .dnat → ∀ pool ∈ rule.pool, pool.totalWeight ≤ 2 ^ 32 - 1
  families : rule.mode ≠ .customAdapter → rule.nativeFamilies ≠ []

variable {rule : PortForwardRule} {pool : PortForwardPool}

theorem PortForwardRule.Sound.dnat_of_pool (sound : rule.Sound)
    (native : rule.mode ≠ .customAdapter) (present : rule.pool = some pool) :
    rule.mode = .dnat := by
  cases mode : rule.mode with
  | dnat => rfl
  | redirect => exact absurd mode (sound.pooled pool present).1
  | customAdapter => exact absurd mode native

theorem validateMappings_sound (valid : validateMappings mappings = .ok ()) :
    (∀ range ∈ mappings.map (·.incoming), range.Ordered) ∧
      ((mappings.map (·.incoming)).Pairwise fun left right => ¬ left.Overlaps right) ∧
      ∀ mapping ∈ mappings, mapping.Fits := by
  simp only [validateMappings, check_then_ok, forM_ok, require_ok] at valid
  obtain ⟨-, -, each, apart⟩ := valid
  have checked : ∀ mapping ∈ mappings, mapping.incoming.Ordered ∧ mapping.Fits := by
    intro mapping member
    have valid := each mapping member
    simp only [validateMapping, check_then_ok, require_ok] at valid
    exact ⟨PortRange.validate_ordered valid.1, valid.2.2⟩
  have ordered : ∀ range ∈ mappings.map (·.incoming), range.Ordered := by
    intro range member
    obtain ⟨mapping, present, rfl⟩ := List.mem_map.mp member
    exact (checked mapping present).1
  exact ⟨ordered, validateNonOverlapping_apart ordered apart,
    fun mapping member => (checked mapping member).2⟩

variable {protocol : PortForwardProtocol} {mode : PortForwardMode}

theorem validatePortForwardPool_sound (valid : validatePortForwardPool pool mode protocol = .ok ()) :
    (∀ range ∈ pool.incoming, range.Ordered) ∧
      (pool.incoming.Pairwise fun left right => ¬ left.Overlaps right) ∧
      mode ≠ .redirect ∧ (mode = .dnat →
        pool.strategy = .roundRobin ∨ pool.strategy = .random ∨ pool.strategy = .sourceIpHash) ∧
      pool.upstreams ≠ [] := by
  simp only [validatePortForwardPool, check_then_ok, forM_ok, poolCheck_ok] at valid
  obtain ⟨notRedirect, strategy, -, incoming, apart, upstreams, -⟩ := valid
  have ordered : ∀ range ∈ pool.incoming, range.Ordered :=
    fun range member => PortRange.validate_ordered (incoming range member)
  refine ⟨ordered, validateNonOverlapping_apart ordered apart, notRedirect, ?_, upstreams.1⟩
  exact fun dnat => strategy.resolve_left fun other => other dnat

theorem validateUpstreams_rows
    (valid : validateUpstreams pool mode protocol endpointCount previous rows = .ok ()) :
    ∀ row ∈ rows, row.ports.Ordered ∧ 0 < row.weight.toNat := by
  induction rows generalizing previous with
  | nil => exact fun _ member => absurd member List.not_mem_nil
  | cons _ _ ih =>
    simp only [validateUpstreams, check_then_ok] at valid
    rw [List.forall_mem_cons]
    refine ⟨?_, ih valid.2⟩
    have checked := valid.1
    simp only [validateUpstream, check_then_ok, poolCheck_ok] at checked
    exact ⟨PortRange.validate_ordered checked.1, UInt32.lt_iff_toNat_lt.mp checked.2.2.1⟩

theorem validatePortForwardPool_measured
    (valid : validatePortForwardPool pool mode protocol = .ok ()) :
    (∀ row ∈ pool.upstreams, row.ports.Ordered ∧ 0 < row.weight.toNat) ∧
      (mode = .dnat → pool.totalWeight ≤ 2 ^ 32 - 1) := by
  simp only [validatePortForwardPool, check_then_ok, forM_ok, poolCheck_ok] at valid
  obtain ⟨-, -, -, -, -, -, -, -, -, rows, -, weight, -⟩ := valid
  exact ⟨validateUpstreams_rows rows, fun dnat => weight.resolve_left fun other => other dnat⟩

theorem validateModeFields_family (valid : validateModeFields rule = .ok ())
    (redirect : rule.mode = .redirect) : rule.addressFamily ≠ none := by
  simp only [validateModeFields, redirect, require_ok] at valid
  exact valid.2.2.2.1

theorem nativeFamilies_ne_nil (native : rule.mode ≠ .customAdapter)
    (family : rule.mode = .redirect → rule.addressFamily ≠ none)
    (destination : rule.mode = .dnat → rule.pool = none → rule.targetIp.isSome)
    (upstreams : ∀ pool ∈ rule.pool, pool.upstreams ≠ []) : rule.nativeFamilies ≠ [] := by
  unfold PortForwardRule.nativeFamilies
  cases mode : rule.mode with
  | customAdapter => exact absurd mode native
  | redirect =>
    cases given : rule.addressFamily with
    | none => exact absurd given (family mode)
    | some address => cases address <;> exact List.cons_ne_nil _ _
  | dnat =>
    cases target : rule.targetIp with
    | some => exact List.cons_ne_nil _ _
    | none =>
      cases pool : rule.pool with
      | none =>
        have some := destination mode pool
        rw [target] at some
        cases some
      | some pool' =>
        obtain ⟨row, rest, rows⟩ := List.exists_cons_of_ne_nil (upstreams pool' pool)
        simp [rows]

theorem validateModeFields_destination (valid : validateModeFields rule = .ok ())
    (dnat : rule.mode = .dnat) (single : rule.pool = none) : rule.targetIp.isSome := by
  cases target : rule.targetIp with
  | some => rfl
  | none =>
    simp only [validateModeFields, dnat, single, target] at valid
    cases valid

theorem validatePortForwardRule_sound (valid : validatePortForwardRule rule = .ok ()) :
    rule.Sound := by
  simp only [validatePortForwardRule, check_then_ok, require_ok] at valid
  obtain ⟨-, -, fields, valid⟩ := valid
  cases pool : rule.pool with
  | some pool' =>
    simp only [pool, check_then_ok] at valid
    obtain ⟨ordered, apart, fit⟩ := validatePortForwardPool_sound valid.2
    obtain ⟨rows, weight⟩ := validatePortForwardPool_measured valid.2
    have ranges : rule.incomingRanges = pool'.incoming := by
      simp [PortForwardRule.incomingRanges, pool]
    exact {
      ordered := ranges ▸ ordered
      apart := ranges ▸ apart
      fits := by simp [pool]
      destination := by simp [pool]
      pooled := by simpa [pool] using fit
      rows := by simpa [pool] using rows
      weight := by simpa [pool] using weight
      families := fun native => nativeFamilies_ne_nil native (validateModeFields_family fields)
        (by simp [pool]) (by simpa [pool] using fit.2.2) }
  | none =>
    simp only [pool] at valid
    obtain ⟨ordered, apart, fits⟩ := validateMappings_sound valid
    have ranges : rule.incomingRanges = rule.mappings.map (·.incoming) := by
      simp [PortForwardRule.incomingRanges, pool]
    exact {
      ordered := ranges ▸ ordered
      apart := ranges ▸ apart
      fits := fun _ => fits
      destination := validateModeFields_destination fields
      pooled := by simp [pool]
      rows := by simp [pool]
      weight := by simp [pool]
      families := fun native => nativeFamilies_ne_nil native (validateModeFields_family fields)
        (validateModeFields_destination fields) (by simp [pool]) }

theorem validateRules_sound
    (valid : validateRules ids rules = .ok ()) : ∀ rule ∈ rules, rule.Sound := by
  induction rules generalizing ids with
  | nil => exact fun _ member => absurd member List.not_mem_nil
  | cons _ _ ih =>
    simp only [validateRules, check_then_ok] at valid
    rw [List.forall_mem_cons]
    exact ⟨validatePortForwardRule_sound valid.2.1, ih valid.2.2⟩

/-! ## Claims -/

namespace PortClaim

instance : Std.Total Le := ⟨fun left right => Nat.le_total left.key right.key⟩

instance : IsTrans PortClaim Le := ⟨fun _ _ _ => Nat.le_trans⟩

theorem Overlaps.symm {left right : PortClaim} (overlaps : left.Overlaps right) :
    right.Overlaps left :=
  ⟨overlaps.1.symm, overlaps.2.1.symm, Range.Overlaps.symm overlaps.2.2⟩

theorem range_key_lt (range : PortRange) : range.key < 65536 ^ 2 := by
  have start := range.start.toNat_lt
  have end_ := range.end_.toNat_lt
  unfold PortRange.key
  omega

theorem between_same {left between right : PortClaim} (before : left.key ≤ between.key)
    (after : between.key ≤ right.key) (family : left.family = right.family)
    (transport : left.transport = right.transport) :
    left.family = between.family ∧ left.transport = between.transport ∧
      left.incoming.key ≤ between.incoming.key ∧ between.incoming.key ≤ right.incoming.key := by
  obtain ⟨family₁, transport₁, left⟩ := left
  obtain ⟨family₂, transport₂, between⟩ := between
  obtain ⟨family₃, transport₃, right⟩ := right
  obtain rfl : family₁ = family₃ := family
  obtain rfl : transport₁ = transport₃ := transport
  have second := range_key_lt between
  have third := range_key_lt right
  cases family₁ <;> cases transport₁ <;> cases family₂ <;> cases transport₂ <;>
    simp [key] at before after ⊢ <;> omega

theorem overlaps_between {left between right : PortClaim} (ordered : between.incoming.Ordered)
    (before : left.key ≤ between.key) (after : between.key ≤ right.key)
    (overlaps : left.Overlaps right) : left.Overlaps between := by
  obtain ⟨family, transport, before, after⟩ := between_same before after overlaps.1 overlaps.2.1
  exact ⟨family, transport, PortRange.overlaps_between ordered before after overlaps.2.2⟩

end PortClaim

theorem mem_claims :
    claim ∈ rule.claims ↔ claim.family ∈ rule.nativeFamilies ∧
      claim.transport ∈ rule.protocol.transports ∧ claim.incoming ∈ rule.incomingRanges := by
  constructor
  · intro member
    simp only [PortForwardRule.claims, List.mem_flatMap, List.mem_map] at member
    obtain ⟨family, native, transport, carried, incoming, present, rfl⟩ := member
    exact ⟨native, carried, present⟩
  · rintro ⟨native, carried, present⟩
    simp only [PortForwardRule.claims, List.mem_flatMap, List.mem_map]
    exact ⟨_, native, _, carried, _, present, rfl⟩

theorem validateCrossRuleOverlaps_apart
    (sound : ∀ rule ∈ rules, rule.Sound) (valid : validateCrossRuleOverlaps rules = .ok ()) :
    (rules.flatMap (·.claims)).Pairwise fun left right => ¬ left.Overlaps right := by
  rw [validateCrossRuleOverlaps, require_ok] at valid
  refine pairwise_of_sorted_windows PortClaim.Overlaps.symm ?_ valid
  intro left between member right before after overlaps
  obtain ⟨rule, present, claimed⟩ := List.mem_flatMap.mp member
  have ordered := (sound rule present).ordered _ (mem_claims.mp claimed).2.2
  exact PortClaim.overlaps_between ordered before after overlaps

variable {config : AgentPortForwardingConfig}

theorem validatePortForwardingConfig_sound
    (valid : validatePortForwardingConfig codec config = .ok ()) :
    (∀ rule ∈ config.rules, rule.Sound) ∧
      (config.rules.flatMap (·.claims)).Pairwise fun left right => ¬ left.Overlaps right := by
  simp only [validatePortForwardingConfig, check_then_ok] at valid
  obtain ⟨-, -, -, -, -, -, rules, -, -, cross⟩ := valid
  have sound := validateRules_sound rules
  exact ⟨sound, validateCrossRuleOverlaps_apart sound cross⟩

theorem validatePortForwardingConfig_limits
    (valid : validatePortForwardingConfig codec config = .ok ()) :
    config.rules.length ≤ maxRules ∧ estimatedNftProgramBytes config.rules ≤ maxNftScriptBytes := by
  simp only [validatePortForwardingConfig, check_then_ok, require_ok] at valid
  obtain ⟨-, -, few, -, -, -, -, -, size, -⟩ := valid
  exact ⟨few, size⟩

end Vpsman.PortForward
