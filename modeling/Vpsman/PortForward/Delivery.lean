import Vpsman.PortForward.Estimate

/-! # The installed table implements the declared mappings -/

namespace Vpsman.PortForward

open Vpsman.Lib Vpsman.Lib.Nft

/-- A packet of this family and transport to this port is for the rule. -/
def PortForwardRule.Claims (rule : PortForwardRule) (family : Family) (transport : Transport)
    (port : Nat) : Prop :=
  rule.Serves family transport ∧ ∃ range ∈ rule.incomingRanges, range.toRange.Contains port

instance (rule : PortForwardRule) (family : Family) (transport : Transport) (port : Nat) :
    Decidable (rule.Claims family transport port) :=
  inferInstanceAs (Decidable (_ ∧ _))

variable {rules : List PortForwardRule} {rule : PortForwardRule}

/-! ## Claims do not meet -/

theorem claims_apart
    (apart : (rules.flatMap (·.claims)).Pairwise fun left right => ¬ left.Overlaps right)
    (family : Family) (transport : Transport) (port : Nat) :
    rules.Pairwise fun left right =>
      ¬ (left.Claims family transport port ∧ right.Claims family transport port) := by
  refine (List.pairwise_flatMap.mp apart).2.imp ?_
  rintro left right clear ⟨⟨serves, range, present, contains⟩, serves', range', present', contains'⟩
  have claimed : (⟨family, transport, range⟩ : PortClaim) ∈ left.claims :=
    mem_claims.mpr ⟨serves.1, serves.2, present⟩
  have claimed' : (⟨family, transport, range'⟩ : PortClaim) ∈ right.claims :=
    mem_claims.mpr ⟨serves'.1, serves'.2, present'⟩
  exact clear _ claimed _ claimed' ⟨rfl, rfl, Range.overlaps_of_contains contains contains'⟩

variable {transport : Transport} {family : Family} {port : Nat}

theorem position_unique
    (apart : rules.Pairwise fun left right =>
      ¬ (left.Claims family transport port ∧ right.Claims family transport port)) {i j : Nat}
    (first : rules[i]? = some rule) (second : rules[j]? = some rule')
    (claims : rule.Claims family transport port) (claims' : rule'.Claims family transport port) :
    i = j := by
  obtain ⟨boundI, rfl⟩ := List.getElem?_eq_some_iff.mp first
  obtain ⟨boundJ, rfl⟩ := List.getElem?_eq_some_iff.mp second
  rw [List.pairwise_iff_getElem] at apart
  rcases Nat.lt_trichotomy i j with before | same | after
  · exact absurd ⟨claims, claims'⟩ (apart i j boundI boundJ before)
  · exact same
  · exact absurd ⟨claims', claims⟩ (apart j i boundJ boundI after)

theorem mappings_apart (sound : rule.Sound) (single : rule.pool = none) (port : Nat) :
    rule.mappings.Pairwise fun left right => ¬ (left.Takes port ∧ right.Takes port) := by
  have apart := sound.apart
  rw [PortForwardRule.incomingRanges, single] at apart
  refine (List.pairwise_map.mp apart).imp fun clear both => clear ?_
  exact Range.overlaps_of_contains both.1 both.2

variable {mapping : PortForwardMapping}

theorem sole_of_takes (sound : rule.Sound) (single : rule.pool = none)
    (member : mapping ∈ rule.mappings) (takes : mapping.Takes port) :
    Sole mapping rule.mappings port where
  member := member
  takes := takes
  only := by
    intro other present takes'
    have alone := filter_eq_singleton (p := fun mapping => mapping.Takes port)
      (by simpa using mappings_apart sound single port) member (by simpa using takes)
    have found : other ∈ rule.mappings.filter fun mapping => mapping.Takes port :=
      List.mem_filter.mpr ⟨present, by simpa using takes'⟩
    rwa [alone, List.mem_singleton] at found

/-! ## Dispatch -/

variable {hash : String} {table : NatTable} {call : ChainName → Flow → Outcome} {packet : Packet}
  {flow flow' : Flow}

theorem mem_populatedDispatches :
    (family, transport) ∈ populatedDispatches rules ↔ ∃ rule ∈ rules, rule.Serves family transport := by
  simp only [populatedDispatches, List.mem_filter, List.any_eq_true, decide_eq_true_eq]
  refine and_iff_right ?_
  cases family <;> cases transport <;> decide

theorem mem_dispatchElements :
    element ∈ dispatchElements rules family transport ↔ ∃ ruleIndex rule,
      rules[ruleIndex]? = some rule ∧ rule.Serves family transport ∧
        ∃ range ∈ rule.incomingRanges, element = (range.toRange, .rule ruleIndex transport) := by
  simp only [dispatchElements, List.mem_flatMap, List.mem_ite_nil_right, List.mem_map]
  constructor
  · rintro ⟨⟨rule, ruleIndex⟩, position, serves, range, present, rfl⟩
    exact ⟨ruleIndex, rule, List.mem_zipIdx_iff_getElem?.mp position, serves, range, present, rfl⟩
  · rintro ⟨ruleIndex, rule, position, serves, range, present, rfl⟩
    have placed := List.mem_zipIdx_iff_getElem? (x := (rule, ruleIndex)).mpr position
    exact ⟨_, placed, serves, range, present, rfl⟩

variable {ruleIndex : Nat}

theorem dispatchElements_hit (position : rules[ruleIndex]? = some rule)
    (apart : rules.Pairwise fun left right =>
      ¬ (left.Claims family transport port ∧ right.Claims family transport port))
    (claims : rule.Claims family transport port) :
    lookup (dispatchElements rules family transport) port = some (.rule ruleIndex transport) := by
  obtain ⟨serves, range, present, contains⟩ := id claims
  have member := mem_dispatchElements.mpr ⟨ruleIndex, rule, position, serves, range, present, rfl⟩
  refine lookup_eq_some member contains ?_
  intro element found contains'
  obtain ⟨other, rule', position', serves', range', present', rfl⟩ := mem_dispatchElements.mp found
  rw [position_unique apart position position' claims ⟨serves', range', present', contains'⟩]

theorem dispatchElements_miss (unclaimed : ∀ rule ∈ rules, ¬ rule.Claims family transport port) :
    lookup (dispatchElements rules family transport) port = none := by
  refine lookup_eq_none fun element found contains => ?_
  obtain ⟨ruleIndex, rule, position, serves, range, present, rfl⟩ := mem_dispatchElements.mp found
  exact unclaimed rule (List.mem_of_getElem? position) ⟨serves, range, present, contains⟩

variable {target : NatTarget}

theorem natTarget_family (serves : rule.Serves packet.family packet.transport)
    (named : rule.natTarget = some target) :
    ∀ ip, target = .address ip → packet.family = ip.family := by
  rintro ip rfl
  have native := serves.1
  cases mode : rule.mode with
  | dnat =>
    simp only [PortForwardRule.natTarget, mode, Option.map_eq_some_iff] at named
    obtain ⟨targetIp, found, same⟩ := named
    obtain rfl := NatTarget.address.inj same
    simpa [PortForwardRule.nativeFamilies, mode, found] using native
  | redirect | customAdapter => simp [PortForwardRule.natTarget, mode] at named

section Rendered

variable (rendered : renderTable hash rules = some table)
include rendered

theorem dispatch_unclaimed
    (unclaimed : ∀ rule ∈ rules, ¬ rule.Claims packet.family packet.transport packet.port) :
    table.runStatements call packet (renderDispatchChain rules).statements flow = .next flow := by
  apply Table.runStatements_next
  intro statement member
  obtain ⟨⟨family, transport⟩, populated, rfl⟩ := List.mem_map.mp member
  by_cases same : (family, transport) = (packet.family, packet.transport)
  · obtain ⟨rfl, rfl⟩ := Prod.mk.inj same
    rw [Table.runStatement_dispatch (dispatch_map? rendered populated),
      dispatchElements_miss unclaimed]
  · exact Table.runStatement_dispatch_next same

theorem dispatch_claimed (position : rules[ruleIndex]? = some rule)
    (apart : rules.Pairwise fun left right =>
      ¬ (left.Claims packet.family packet.transport packet.port ∧
        right.Claims packet.family packet.transport packet.port))
    (claims : rule.Claims packet.family packet.transport packet.port)
    (ended : call (.rule ruleIndex packet.transport) flow = .verdict flow') :
    table.runStatements call packet (renderDispatchChain rules).statements flow =
      .verdict flow' := by
  have populated := mem_populatedDispatches.mpr ⟨rule, List.mem_of_getElem? position, claims.1⟩
  obtain ⟨before, after, split, notBefore⟩ := List.eq_append_cons_of_mem populated
  rw [renderDispatchChain, split, List.map_append, List.map_cons]
  have passed : table.runStatements call packet
      (before.map fun d => .dispatch d.1 d.2 (.dispatch d.1 d.2)) flow = .next flow := by
    apply Table.runStatements_next
    intro statement member
    obtain ⟨⟨family, transport⟩, present, rfl⟩ := List.mem_map.mp member
    exact Table.runStatement_dispatch_next fun same => notBefore (same ▸ present)
  rw [Table.runStatements_append passed, Table.runStatements,
    Table.runStatement_dispatch (dispatch_map? rendered populated),
    dispatchElements_hit position apart claims]
  simp [ended]

/-! ## Hooks -/

theorem runHook_local (inbound : hook ≠ .postrouting) (toLocal : packet.toLocal) :
    table.runHook hook packet flow =
      table.runStatements (table.runChain packet 15) packet
        (renderDispatchChain rules).statements flow := by
  obtain ⟨name, found⟩ := find?_local_hook rendered inbound
  have jumped : table.runChain packet Table.jumpDepth .dispatch flow =
      table.runStatements (table.runChain packet 15) packet
        (renderDispatchChain rules).statements flow := by
    rw [Table.jumpDepth, Table.runChain, dispatch_chain? rendered]
  rw [Table.runHook, found, ← jumped]
  simp only [hookChain, Table.runStatements, Table.runStatement, toLocal, if_true]
  split <;> simp_all

theorem runHook_postrouting_owned (masquerades : rules.any (·.masquerade)) (owned : flow.owned) :
    table.runHook .postrouting packet flow = .verdict { flow with masqueraded := true } := by
  rw [Table.runHook, find?_postrouting rendered, if_pos masquerades]
  simp [postroutingChain, Table.runStatements, Table.runStatement, owned]

theorem runHook_postrouting_other
    (other : flow.owned = false) : table.runHook .postrouting packet flow = .next flow := by
  rw [Table.runHook, find?_postrouting rendered]
  cases rules.any (·.masquerade) with
  | false => rfl
  | true => simp [postroutingChain, Table.runStatements, Table.runStatement, other]

/-! ## Rules -/

/-- The chain of a rule translates a packet as the mapping with its port says. -/
theorem ruleChain_run (sound : rule.Sound)
    (position : rules[ruleIndex]? = some rule) (single : rule.pool = none)
    (serves : rule.Serves packet.family packet.transport) (named : rule.natTarget = some target)
    (member : mapping ∈ rule.mappings) (takes : mapping.Takes packet.port) (depth : Nat) :
    table.runChain packet (depth + 1) (.rule ruleIndex packet.transport) {} =
      .verdict { owned := rule.masquerade,
                 translation := some ⟨target, mapping.translate packet.port⟩ } := by
  have own : renderRuleChain ruleIndex rule packet.transport = some {
      name := .rule ruleIndex packet.transport
      hook := none
      statements := .counter rule.masquerade (ruleComment rule) ::
        mappingStatements ruleIndex rule.mappings target packet.transport } := by
    simp [renderRuleChain, ruleTranslation, single, named]
  have ordered : ∀ mapping ∈ rule.mappings, mapping.incoming.Ordered := by
    intro mapping present
    apply sound.ordered
    rw [PortForwardRule.incomingRanges, single]
    exact List.mem_map_of_mem present
  rw [Table.runChain, rule_chain? rendered position serves.2 own]
  exact mappingStatements_run (rule_maps rendered position single serves.2) ordered
    (sole_of_takes sound single member takes) (natTarget_family serves named)

end Rendered

/-! ## The table as a whole -/

theorem table_translates (rendered : renderTable hash rules = some table)
    (sound : ∀ rule ∈ rules, rule.Sound)
    (apart : rules.Pairwise fun left right =>
      ¬ (left.Claims packet.family packet.transport packet.port ∧
        right.Claims packet.family packet.transport packet.port))
    (inbound : hook ≠ .postrouting) (toLocal : packet.toLocal) (member : rule ∈ rules)
    (single : rule.pool = none) (serves : rule.Serves packet.family packet.transport)
    (named : rule.natTarget = some target) (mapped : mapping ∈ rule.mappings)
    (takes : mapping.Takes packet.port) :
    table.deliver hook packet = some {
      owned := rule.masquerade
      translation := some ⟨target, mapping.translate packet.port⟩
      masqueraded := rule.masquerade } := by
  obtain ⟨ruleIndex, position⟩ := List.mem_iff_getElem?.mp member
  have claims : rule.Claims packet.family packet.transport packet.port := by
    refine ⟨serves, mapping.incoming, ?_, takes⟩
    rw [PortForwardRule.incomingRanges, single]
    exact List.mem_map_of_mem mapped
  have ran := ruleChain_run rendered (sound rule member) position single serves named mapped takes 14
  have entered := dispatch_claimed rendered position apart claims ran
  rw [Table.deliver, runHook_local rendered inbound toLocal, entered]
  cases masquerade : rule.masquerade with
  | true =>
    have any : rules.any (·.masquerade) := List.any_eq_true.mpr ⟨rule, member, masquerade⟩
    simp [runHook_postrouting_owned rendered any]
  | false => simp [runHook_postrouting_other rendered]

theorem table_passes (rendered : renderTable hash rules = some table)
    (unclaimed : ∀ rule ∈ rules, ¬ rule.Claims packet.family packet.transport packet.port)
    (inbound : hook ≠ .postrouting) (toLocal : packet.toLocal) :
    table.deliver hook packet = some {} := by
  rw [Table.deliver, runHook_local rendered inbound toLocal, dispatch_unclaimed rendered unclaimed]
  simp [runHook_postrouting_other rendered]

theorem mem_native_rules (member : rule ∈ config.rules) (inFamily : family ∈ rule.nativeFamilies) :
    rule ∈ (nativeConfig codec config).rules := by
  refine List.mem_filter.mpr ⟨member, ?_⟩
  cases mode : rule.mode with
  | dnat | redirect => rfl
  | customAdapter => simp [PortForwardRule.nativeFamilies, mode] at inFamily

theorem natTarget_of_native (sound : rule.Sound) (native : rule.mode ≠ .customAdapter)
    (single : rule.pool = none) :
    ∃ target, rule.natTarget = some target ∧
      (rule.mode = .dnat ∧ (∃ ip, rule.targetIp = some ip ∧ target = .address ip) ∨
        rule.mode = .redirect ∧ target = .here) := by
  cases mode : rule.mode with
  | dnat =>
    obtain ⟨targetIp, found⟩ := Option.isSome_iff_exists.mp (sound.destination mode single)
    exact ⟨.address targetIp, by simp [PortForwardRule.natTarget, mode, found],
      .inl ⟨rfl, targetIp, found, rfl⟩⟩
  | redirect => exact ⟨.here, by simp [PortForwardRule.natTarget, mode], .inr ⟨rfl, rfl⟩⟩
  | customAdapter => exact absurd mode native

end Vpsman.PortForward
