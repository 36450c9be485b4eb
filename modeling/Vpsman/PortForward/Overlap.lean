import Mathlib.Data.List.Perm.Basic
import Vpsman.PortForward.Accepted

/-! # The check for overlaps

No port of an accepted configuration is claimed twice, and the order of its rules does not
matter: neither to whether it is accepted nor to its hash.
-/

namespace Vpsman.PortForward

open Vpsman.Lib

/-- The range of the rule takes the port. A rule with an adapter has no family here. -/
def PortForwardRule.TakesPort (rule : PortForwardRule) (incoming : PortRange) (family : Family)
    (transport : Transport) (port : Nat) : Prop :=
  family ∈ rule.nativeFamilies ∧ transport ∈ rule.protocol.transports ∧
    incoming.toRange.Contains port

/-- No two ranges take a port twice. -/
structure AgentPortForwardingConfig.Apart (config : AgentPortForwardingConfig) : Prop where
  ranges : (config.rules.flatMap fun rule => rule.incomingRanges.map (rule, ·)).Pairwise
    fun left right => ∀ family transport port, ¬ (left.1.TakesPort left.2 family transport port ∧
      right.1.TakesPort right.2 family transport port)
  within : ∀ rule ∈ config.rules, rule.incomingRanges.Pairwise fun left right =>
    ∀ port, ¬ (left.toRange.Contains port ∧ right.toRange.Contains port)

variable {codec : Codec} {config : AgentPortForwardingConfig} {rules rules' : List PortForwardRule}

theorem overlaps_of_contains {left right : PortRange}
    (both : left.toRange.Contains port ∧ right.toRange.Contains port) : left.Overlaps right := by
  simp only [Range.Contains] at both
  simp only [PortRange.Overlaps, Range.Overlaps]
  omega

theorem apart_of_accepted (valid : validatePortForwardingConfig codec config = .ok ()) :
    config.Apart := by
  obtain ⟨sound, claims⟩ := validatePortForwardingConfig_sound valid
  rw [List.pairwise_flatMap] at claims
  constructor
  · rw [List.pairwise_flatMap]
    constructor
    · intro rule member
      rw [List.pairwise_map]
      apply (sound rule member).apart.imp
      intro left right apart family transport port both
      exact apart (overlaps_of_contains ⟨both.1.2.2, both.2.2.2⟩)
    · apply claims.2.imp
      intro left right apart first inLeft second inRight family transport port both
      obtain ⟨incoming, listed, rfl⟩ := List.mem_map.mp inLeft
      obtain ⟨incoming', listed', rfl⟩ := List.mem_map.mp inRight
      exact apart ⟨family, transport, incoming⟩ (mem_claims.mpr ⟨both.1.1, both.1.2.1, listed⟩)
        ⟨family, transport, incoming'⟩ (mem_claims.mpr ⟨both.2.1, both.2.2.1, listed'⟩)
        ⟨rfl, rfl, overlaps_of_contains ⟨both.1.2.2, both.2.2.2⟩⟩
  · intro rule member
    apply (sound rule member).apart.imp
    exact fun apart _ both => apart (overlaps_of_contains both)

/-! ## The order of the rules -/

theorem desiredHash_of_perm (distinct : (rules.map (·.id)).Nodup) (perm : rules'.Perm rules) :
    portForwardingDesiredHash codec rules' = portForwardingDesiredHash codec rules := by
  let le := fun left right : PortForwardRule => left.id.toNat ≤ right.id.toNat
  have : Std.Total le := ⟨fun _ _ => Nat.le_total _ _⟩
  have : IsTrans PortForwardRule le := ⟨fun _ _ _ => Nat.le_trans⟩
  have sorted : rules'.insertionSort le = rules.insertionSort le := by
    apply List.Perm.eq_of_pairwise _ (List.pairwise_insertionSort le rules')
      (List.pairwise_insertionSort le rules)
      (((List.perm_insertionSort le rules').trans perm).trans (List.perm_insertionSort le rules).symm)
    intro left right inLeft inRight before after
    rw [List.mem_insertionSort] at inLeft inRight
    exact List.inj_on_of_nodup_map distinct (perm.mem_iff.mp inLeft) inRight
      (BitVec.eq_of_toNat_eq (Nat.le_antisymm before after))
  exact congrArg (codec.payloadHash ∘ codec.encodeRules) sorted

theorem validateRules_ok : validateRules ids rules = .ok () ↔
    (rules.map (·.id)).Nodup ∧ ∀ rule ∈ rules, rule.id ∉ ids ∧
      validatePortForwardRule rule = .ok () := by
  induction rules generalizing ids with
  | nil => simp; rfl
  | cons _ _ ih =>
    simp only [validateRules, check_then_ok, require_ok, ih, List.map_cons, List.nodup_cons,
      List.mem_map, List.mem_cons, not_or]
    grind

theorem validateCleanupRules_congr (same : ∀ rule, rule ∈ rules ↔ rule ∈ rules') :
    validateCleanupRules rules ids cleanups = validateCleanupRules rules' ids cleanups := by
  induction cleanups generalizing ids with
  | nil => rfl
  | cons _ _ ih => simp [validateCleanupRules, same, ih]

theorem estimatedNftProgramBytes_of_perm (perm : rules.Perm rules') :
    estimatedNftProgramBytes rules = estimatedNftProgramBytes rules' := by
  have : RightCommutative fun total rule => satAdd total (estimatedRuleBytes rule) := by
    constructor
    intro total first second
    simp only [satAdd]
    omega
  exact (perm.filter _).foldl_eq _

theorem accepted_of_perm (perm : config.rules.Perm rules)
    (valid : validatePortForwardingConfig codec config = .ok ()) :
    validatePortForwardingConfig codec { config with rules } = .ok () := by
  have claims := (validatePortForwardingConfig_sound valid).2
  have cross : validateCrossRuleOverlaps rules = .ok () := by
    rw [validateCrossRuleOverlaps, require_ok]
    apply windows_of_pairwise
    have sorted := (List.perm_insertionSort PortClaim.Le _).trans
      (perm.symm.flatMap_right (·.claims))
    exact (sorted.pairwise_iff fun apart overlaps => apart overlaps.symm).mpr claims
  simp only [validatePortForwardingConfig, check_then_ok, require_ok, validateRules_ok] at valid ⊢
  obtain ⟨schema, versions, few, present, spelled, hash, ⟨distinct, each⟩, cleanup, size, -⟩ := valid
  rw [desiredHash_of_perm distinct perm.symm, validateCleanupRules_congr
    (fun _ => perm.symm.mem_iff), ← estimatedNftProgramBytes_of_perm perm, ← perm.length_eq]
  simp only [← perm.mem_iff]
  refine ⟨schema, versions, few, ?_, spelled, hash, ⟨(perm.map _).nodup_iff.mp distinct, each⟩,
    cleanup, size, cross⟩
  apply present.imp_left
  intro empty
  rw [empty] at perm
  exact perm.nil_eq.symm

/-- What is claimed twice is refused, and configurations that differ in the order of their rules
    are accepted or refused alike. -/
theorem overlap_check_exact (codec : Codec) (config : AgentPortForwardingConfig) :
    (validatePortForwardingConfig codec config = .ok () → config.Apart) ∧
    (¬ config.Apart → ∃ error, validatePortForwardingConfig codec config = .error error) ∧
    ∀ rules, config.rules.Perm rules → (config.rules.map (·.id)).Nodup →
      portForwardingDesiredHash codec rules = portForwardingDesiredHash codec config.rules ∧
      (validatePortForwardingConfig codec { config with rules } = .ok () ↔
        validatePortForwardingConfig codec config = .ok ()) := by
  refine ⟨apart_of_accepted, ?_, ?_⟩
  · intro clash
    cases outcome : validatePortForwardingConfig codec config with
    | ok => exact absurd (apart_of_accepted outcome) clash
    | error error => exact ⟨error, rfl⟩
  · intro rules perm distinct
    exact ⟨desiredHash_of_perm distinct perm.symm, accepted_of_perm perm.symm,
      accepted_of_perm perm⟩

end Vpsman.PortForward
