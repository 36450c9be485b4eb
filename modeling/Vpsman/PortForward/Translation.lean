import Vpsman.PortForward.Accepted
import Vpsman.PortForward.Render

/-! # What the chain of a rule does

Among the mappings of a rule at most one has a given port. Whichever of the three kinds of
statements implements it, the port comes out as the mapping says, and the statements of the
other kinds do not match.
-/

namespace Vpsman.PortForward

open Vpsman.Lib Vpsman.Lib.Nft

/-- The port that a mapping sends an incoming port to. -/
def PortForwardMapping.translate (mapping : PortForwardMapping) (port : Nat) : Nat :=
  if mapping.target.isSingle then mapping.target.start.toNat
  else mapping.target.start.toNat + (port - mapping.incoming.start.toNat)

def PortForwardMapping.Takes (mapping : PortForwardMapping) (port : Nat) : Prop :=
  mapping.incoming.toRange.Contains port

instance (mapping : PortForwardMapping) (port : Nat) : Decidable (mapping.Takes port) :=
  inferInstanceAs (Decidable (Range.Contains _ _))

/-- The only one of the mappings that has the port. -/
structure Sole (mapping : PortForwardMapping) (mappings : List PortForwardMapping) (port : Nat) :
    Prop where
  member : mapping ∈ mappings
  takes : mapping.Takes port
  only : ∀ other ∈ mappings, other.Takes port → other = mapping

variable {mapping : PortForwardMapping} {mappings : List PortForwardMapping} {port : Nat}

theorem PortForwardMapping.translate_of_identity (identity : mappingIsIdentity mapping)
    (takes : mapping.Takes port) : mapping.translate port = port := by
  obtain ⟨incoming, target⟩ := mapping
  obtain rfl : incoming = target := by simpa [mappingIsIdentity] using identity
  obtain ⟨low, high⟩ := takes
  simp only [PortRange.toRange] at low high
  unfold translate
  split
  next single =>
    have same : incoming.start = incoming.end_ := by simpa [PortRange.isSingle] using single
    rw [← same] at high
    exact Nat.le_antisymm low high
  · exact Nat.add_sub_cancel' low

theorem PortForwardMapping.translate_of_fixed (fixed : mappingIsFixed mapping) :
    mapping.translate port = mapping.target.start.toNat := by
  simp only [mappingIsFixed, Bool.and_eq_true] at fixed
  rw [translate, if_pos fixed.1]

theorem PortForwardMapping.translate_of_shifted (shifted : mappingIsShifted mapping) :
    mapping.translate port =
      mapping.target.start.toNat + (port - mapping.incoming.start.toNat) := by
  simp only [mappingIsShifted, Bool.and_eq_true, Bool.not_eq_true'] at shifted
  rw [translate, if_neg (by simp [shifted.1])]

theorem mapping_kinds :
    mappingIsIdentity mapping ∨
      (mappingIsFixed mapping ∧ ¬ mappingIsIdentity mapping) ∨
      (mappingIsShifted mapping ∧ ¬ mappingIsFixed mapping ∧ ¬ mappingIsIdentity mapping) := by
  unfold mappingIsFixed mappingIsShifted
  cases mappingIsIdentity mapping <;> cases mapping.target.isSingle <;> simp

/-! ## Ranges that keep the port -/

theorem identityRanges_hit (identity : mappingIsIdentity mapping) (sole : Sole mapping mappings port) :
    ∃ range ∈ identityRanges mappings, range.Contains port :=
  ⟨_, List.mem_map_of_mem (List.mem_filter.mpr ⟨sole.member, identity⟩), sole.takes⟩

theorem identityRanges_miss (other : ¬ mappingIsIdentity mapping) (sole : Sole mapping mappings port) :
    ¬ ∃ range ∈ identityRanges mappings, range.Contains port := by
  rintro ⟨range, member, contains⟩
  obtain ⟨found, present, rfl⟩ := List.mem_map.mp member
  obtain ⟨present, identity⟩ := List.mem_filter.mp present
  obtain rfl := sole.only found present contains
  exact other identity

/-! ## Ranges with one target port -/

theorem mem_fixedElements (member : element ∈ fixedElements mappings) :
    ∃ mapping ∈ mappings, mappingIsFixed mapping ∧
      element = (mapping.incoming.toRange, mapping.target.start.toNat) := by
  obtain ⟨mapping, present, rfl⟩ := List.mem_map.mp member
  obtain ⟨present, fixed⟩ := List.mem_filter.mp present
  exact ⟨mapping, present, fixed, rfl⟩

theorem fixedElements_hit (fixed : mappingIsFixed mapping) (sole : Sole mapping mappings port) :
    lookup (fixedElements mappings) port = some (mapping.translate port) := by
  rw [PortForwardMapping.translate_of_fixed fixed]
  have member := List.mem_map_of_mem
    (f := fun m : PortForwardMapping => (m.incoming.toRange, m.target.start.toNat))
    (List.mem_filter.mpr ⟨sole.member, fixed⟩)
  refine lookup_eq_some member sole.takes ?_
  intro element present contains
  obtain ⟨found, foundIn, -, rfl⟩ := mem_fixedElements present
  rw [sole.only found foundIn contains]

theorem fixedElements_miss (other : ¬ mappingIsFixed mapping) (sole : Sole mapping mappings port) :
    lookup (fixedElements mappings) port = none := by
  refine lookup_eq_none fun element present contains => ?_
  obtain ⟨found, foundIn, fixed, rfl⟩ := mem_fixedElements present
  obtain rfl := sole.only found foundIn contains
  exact other fixed

/-! ## Ranges shifted port by port -/

theorem mem_shiftedElements :
    element ∈ shiftedElements mappings ↔ ∃ mapping ∈ mappings, mappingIsShifted mapping ∧
      ∃ offset < mapping.incoming.cardinality,
        element = (⟨mapping.incoming.start.toNat + offset, mapping.incoming.start.toNat + offset⟩,
          mapping.target.start.toNat + offset) := by
  simp only [shiftedElements, List.mem_flatMap, List.mem_filter, List.mem_map, List.mem_range,
    and_assoc, eq_comm]

theorem offset_takes (ordered : mapping.incoming.Ordered)
    (bound : offset < mapping.incoming.cardinality)
    (same : mapping.incoming.start.toNat + offset = port) : mapping.Takes port := by
  simp only [PortRange.cardinality, PortRange.Ordered] at bound ordered
  constructor <;> simp only [PortRange.toRange] <;> omega

theorem shiftedElements_hit (ordered : ∀ mapping ∈ mappings, mapping.incoming.Ordered)
    (shifted : mappingIsShifted mapping) (sole : Sole mapping mappings port) :
    lookup (shiftedElements mappings) port = some (mapping.translate port) := by
  rw [PortForwardMapping.translate_of_shifted shifted]
  obtain ⟨low, high⟩ := sole.takes
  simp only [PortRange.toRange] at low high
  have bound : port - mapping.incoming.start.toNat < mapping.incoming.cardinality := by
    unfold PortRange.cardinality
    omega
  have member := mem_shiftedElements.mpr ⟨mapping, sole.member, shifted, _, bound, rfl⟩
  refine lookup_eq_some member ⟨by simp only; omega, by simp only; omega⟩ ?_
  intro element present contains
  obtain ⟨found, foundIn, -, offset, bound, rfl⟩ := mem_shiftedElements.mp present
  have same := Nat.le_antisymm contains.1 contains.2
  obtain rfl := sole.only found foundIn (offset_takes (ordered found foundIn) bound same)
  simp only at same ⊢
  omega

/-! ## The statements of a rule -/

/-- The maps that the statements of a rule without a pool refer to. -/
structure HasRuleMaps (table : NatTable) (ruleIndex : Nat) (transport : Transport)
    (mappings : List PortForwardMapping) : Prop where
  fixed : mappings.any mappingIsFixed →
    table.map? (.fixed ruleIndex transport) = some (.services true (fixedElements mappings))
  shifted : mappings.any mappingIsShifted →
    table.map? (.shifted ruleIndex transport) = some (.services false (shiftedElements mappings))

variable {table : NatTable} {call : ChainName → Flow → Outcome} {packet : Packet} {flow : Flow}
  {ruleIndex : Nat} {target : NatTarget}

theorem mappingStatements_run
    (maps : HasRuleMaps table ruleIndex packet.transport mappings)
    (ordered : ∀ mapping ∈ mappings, mapping.incoming.Ordered)
    (sole : Sole mapping mappings packet.port)
    (reaches : ∀ ip, target = .address ip → packet.family = ip.family) :
    table.runStatements call packet
        (mappingStatements ruleIndex mappings target packet.transport) flow =
      .verdict { flow with translation := some ⟨target, mapping.translate packet.port⟩ } := by
  have any_of {kind : PortForwardMapping → Bool} (holds : kind mapping) : mappings.any kind :=
    List.any_eq_true.mpr ⟨mapping, sole.member, holds⟩
  have identityPasses (other : ¬ mappingIsIdentity mapping) : table.runStatement call packet flow
      (.nat packet.transport (identityRanges mappings) target) = .next flow :=
    Table.runStatement_nat_next (identityRanges_miss other sole)
  rw [mappingStatements, List.append_assoc]
  -- The statement of the mapping's own kind ends the hook; those before it do not match.
  rcases mapping_kinds with identity | ⟨fixed, notIdentity⟩ | ⟨shifted, notFixed, notIdentity⟩
  · apply Table.runStatements_append_verdict
    apply Table.runStatements_optional_verdict (any_of identity)
    rw [Table.runStatement, if_pos ⟨rfl, identityRanges_hit identity sole⟩,
      PortForwardMapping.translate_of_identity identity sole.takes]
    exact Table.translate_verdict reaches
  · rw [Table.runStatements_append
      (Table.runStatements_optional_next fun _ => identityPasses notIdentity)]
    apply Table.runStatements_append_verdict
    apply Table.runStatements_optional_verdict (any_of fixed)
    rw [Table.runStatement_natMapped (maps.fixed (any_of fixed)), fixedElements_hit fixed sole]
    exact Table.translate_verdict reaches
  · have fixedPasses : mappings.any mappingIsFixed → table.runStatement call packet flow
        (.natMapped packet.transport target (.fixed ruleIndex packet.transport)) = .next flow := by
      intro present
      rw [Table.runStatement_natMapped (maps.fixed present), fixedElements_miss notFixed sole]
    rw [Table.runStatements_append
      (Table.runStatements_optional_next fun _ => identityPasses notIdentity),
      Table.runStatements_append (Table.runStatements_optional_next fixedPasses)]
    apply Table.runStatements_optional_verdict (any_of shifted)
    rw [Table.runStatement_natMapped (maps.shifted (any_of shifted)),
      shiftedElements_hit ordered shifted sole]
    exact Table.translate_verdict reaches

end Vpsman.PortForward
