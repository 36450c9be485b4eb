import Vpsman.PortForward.Arithmetic
import Vpsman.PortForward.Translation

/-! # What the names of a rendered table refer to

Every map and chain that a statement of the table names is in the table, once.
-/

namespace Vpsman.PortForward

open Vpsman.Lib Vpsman.Lib.Nft

variable {hash : String} {rules : List PortForwardRule} {table : NatTable}

/-! ## Parts of the table -/

theorem renderTable_parts (rendered : renderTable hash rules = some table) :
    ∃ maps chains, renderTranslationMaps rules = some maps ∧ renderRuleChains rules = some chains ∧
      table.maps = renderDispatchMaps rules ++ maps ∧
      table.chains = [hookChain .prerouting .prerouting, hookChain .output .output,
          renderDispatchChain rules] ++ chains ++
        (if rules.any (·.masquerade) then [postroutingChain] else []) := by
  simp only [renderTable, Option.bind_eq_bind, Option.bind_eq_some_iff, Option.pure_def,
    Option.some.injEq] at rendered
  obtain ⟨maps, translation, chains, perRule, rfl⟩ := rendered
  exact ⟨maps, chains, translation, perRule, rfl, rfl⟩

variable {rule : PortForwardRule} {maps : List (MapName × MapBody ChainName)} {ruleIndex : Nat}
  {body : MapBody ChainName}

theorem mem_renderRuleMaps (rendered : renderRuleMaps ruleIndex rule = some maps)
    (member : (name, body) ∈ maps) :
    name = .pool ruleIndex ∨ ∃ transport ∈ rule.protocol.transports,
      (name = .fixed ruleIndex transport ∧ body = .services true (fixedElements rule.mappings)) ∨
      (name = .shifted ruleIndex transport ∧
        body = .services false (shiftedElements rule.mappings)) := by
  unfold renderRuleMaps at rendered
  split at rendered
  · simp only [renderMap, Option.map_eq_some_iff, Option.bind_eq_bind, Option.bind_eq_some_iff,
      Option.pure_def, Option.some.injEq] at rendered
    obtain ⟨_, ⟨family, -, elements, -, rfl⟩, rfl⟩ := rendered
    rw [List.mem_singleton, Prod.mk.injEq] at member
    exact .inl member.1
  · rw [Option.bind_eq_bind, Option.bind_eq_some_iff] at rendered
    obtain ⟨shifted, computed, rendered⟩ := rendered
    obtain rfl := checkedShiftedElements_eq computed
    obtain rfl := Option.some.inj rendered
    obtain ⟨transport, carried, member⟩ := List.mem_flatMap.mp member
    rcases List.mem_append.mp member with member | member
    · have same := List.mem_singleton.mp (List.mem_ite_nil_right.mp member).2
      exact .inr ⟨transport, carried, .inl (Prod.mk.inj same)⟩
    · have same := List.mem_singleton.mp (List.mem_ite_nil_right.mp member).2
      exact .inr ⟨transport, carried, .inr (Prod.mk.inj same)⟩

variable {entry : MapName × MapBody ChainName}

theorem mem_renderTranslationMaps (rendered : renderTranslationMaps rules = some maps) :
    entry ∈ maps ↔ ∃ ruleIndex rule, rules[ruleIndex]? = some rule ∧
      ∃ own, renderRuleMaps ruleIndex rule = some own ∧ entry ∈ own := by
  rw [renderTranslationMaps, Option.map_eq_some_iff] at rendered
  obtain ⟨parts, collected, rfl⟩ := rendered
  rw [List.mem_flatten]
  constructor
  · rintro ⟨own, part, member⟩
    obtain ⟨⟨rule, ruleIndex⟩, position, rendered⟩ := (mem_of_mapM collected).mp part
    exact ⟨ruleIndex, rule, List.mem_zipIdx_iff_getElem?.mp position, own, rendered, member⟩
  · rintro ⟨ruleIndex, rule, position, own, rendered, member⟩
    refine ⟨own, (mem_of_mapM collected).mpr ⟨(rule, ruleIndex), ?_, rendered⟩, member⟩
    exact List.mem_zipIdx_iff_getElem?.mpr position

variable {chain : NatChain}

theorem mem_renderRuleChains (rendered : renderRuleChains rules = some chains) :
    chain ∈ chains ↔ ∃ ruleIndex rule, rules[ruleIndex]? = some rule ∧
      ∃ transport ∈ rule.protocol.transports,
        renderRuleChain ruleIndex rule transport = some chain := by
  rw [mem_of_mapM rendered]
  simp only [List.mem_flatMap, List.mem_map]
  constructor
  · rintro ⟨_, ⟨⟨rule, ruleIndex⟩, position, transport, carried, rfl⟩, rendered⟩
    exact ⟨ruleIndex, rule, List.mem_zipIdx_iff_getElem?.mp position, transport, carried, rendered⟩
  · rintro ⟨ruleIndex, rule, position, transport, carried, rendered⟩
    have present := List.mem_zipIdx_iff_getElem? (x := (rule, ruleIndex)).mpr position
    exact ⟨_, ⟨_, present, transport, carried, rfl⟩, rendered⟩

variable {transport : Transport}

theorem renderRuleChain_parts (rendered : renderRuleChain ruleIndex rule transport = some chain) :
    chain.name = .rule ruleIndex transport ∧ chain.hook = none := by
  obtain ⟨_, -, rfl⟩ := Option.map_eq_some_iff.mp rendered
  exact ⟨rfl, rfl⟩

/-! ## Maps -/

/-- The rule whose maps have the name. -/
def MapName.ruleIndex? : MapName → Option Nat
  | .dispatch _ _ => none
  | .fixed ruleIndex _ | .shifted ruleIndex _ | .pool ruleIndex => some ruleIndex

theorem ruleIndex_of_mem (found : renderRuleMaps ruleIndex rule = some maps)
    (member : (name, body) ∈ maps) : name.ruleIndex? = some ruleIndex := by
  rcases mem_renderRuleMaps found member with rfl | ⟨_, -, ⟨rfl, -⟩ | ⟨rfl, -⟩⟩ <;> rfl

variable (rendered : renderTable hash rules = some table)
include rendered

theorem mem_maps :
    entry ∈ table.maps ↔ entry ∈ renderDispatchMaps rules ∨
      ∃ ruleIndex rule, rules[ruleIndex]? = some rule ∧
        ∃ own, renderRuleMaps ruleIndex rule = some own ∧ entry ∈ own := by
  obtain ⟨maps, -, translation, -, all, -⟩ := renderTable_parts rendered
  rw [all, List.mem_append, mem_renderTranslationMaps translation]

theorem dispatch_map? (populated : (family, transport) ∈ populatedDispatches rules) :
    table.map? (.dispatch family transport) =
      some (.verdicts (dispatchElements rules family transport)) := by
  apply Table.map?_eq_some
  · exact (mem_maps rendered).mpr (.inl (List.mem_map.mpr ⟨_, populated, rfl⟩))
  intro other member
  rcases (mem_maps rendered).mp member with member | ⟨ruleIndex, rule, -, own, found, member⟩
  · obtain ⟨⟨family', transport'⟩, -, same⟩ := List.mem_map.mp member
    obtain ⟨name, rfl⟩ := Prod.mk.inj same
    obtain ⟨rfl, rfl⟩ := MapName.dispatch.inj name
    rfl
  · rcases mem_renderRuleMaps found member with name | ⟨_, -, ⟨name, -⟩ | ⟨name, -⟩⟩ <;> cases name

/-- A map of a rule is found under its name, if the rule has no other of that name. -/
theorem rule_map?
    (position : rules[ruleIndex]? = some rule) (found : renderRuleMaps ruleIndex rule = some maps)
    (member : (name, body) ∈ maps)
    (unique : ∀ other, (name, other) ∈ maps → other = body) : table.map? name = some body := by
  have index := ruleIndex_of_mem found member
  apply Table.map?_eq_some
  · exact (mem_maps rendered).mpr (.inr ⟨ruleIndex, rule, position, maps, found, member⟩)
  intro other present
  rcases (mem_maps rendered).mp present with present | ⟨index', rule', position', maps', found', present⟩
  · obtain ⟨_, -, same⟩ := List.mem_map.mp present
    obtain ⟨rfl, -⟩ := Prod.mk.inj same
    cases index
  · obtain rfl := Option.some.inj ((ruleIndex_of_mem found' present).symm.trans index)
    obtain rfl := Option.some.inj (position'.symm.trans position)
    obtain rfl := Option.some.inj (found'.symm.trans found)
    exact unique other present

theorem exists_renderRuleMaps (position : rules[ruleIndex]? = some rule) :
    ∃ maps, renderRuleMaps ruleIndex rule = some maps := by
  obtain ⟨_, -, translation, -⟩ := renderTable_parts rendered
  rw [renderTranslationMaps, Option.map_eq_some_iff] at translation
  obtain ⟨_, collected, -⟩ := translation
  exact exists_of_mapM collected (rule, ruleIndex) (List.mem_zipIdx_iff_getElem?.mpr position)

theorem rule_maps (position : rules[ruleIndex]? = some rule) (single : rule.pool = none)
    (carried : transport ∈ rule.protocol.transports) :
    HasRuleMaps table ruleIndex transport rule.mappings := by
  obtain ⟨maps, found⟩ := exists_renderRuleMaps rendered position
  have parts := found
  rw [renderRuleMaps, single, Option.bind_eq_bind, Option.bind_eq_some_iff] at parts
  obtain ⟨shifted, computed, same⟩ := parts
  obtain rfl := checkedShiftedElements_eq computed
  obtain rfl := Option.some.inj same
  constructor
  · intro present
    refine rule_map? rendered position found (List.mem_flatMap.mpr ⟨transport, carried, ?_⟩) ?_
    · simp [present]
    · intro other member
      rcases mem_renderRuleMaps found member with name | ⟨_, -, ⟨-, rfl⟩ | ⟨name, -⟩⟩
      · cases name
      · rfl
      · cases name
  · intro present
    refine rule_map? rendered position found (List.mem_flatMap.mpr ⟨transport, carried, ?_⟩) ?_
    · simp [present]
    · intro other member
      rcases mem_renderRuleMaps found member with name | ⟨_, -, ⟨name, -⟩ | ⟨-, rfl⟩⟩
      · cases name
      · cases name
      · rfl

/-! ## Chains -/

theorem mem_chains :
    chain ∈ table.chains ↔ chain = hookChain .prerouting .prerouting ∨
      chain = hookChain .output .output ∨ chain = renderDispatchChain rules ∨
      (∃ ruleIndex rule, rules[ruleIndex]? = some rule ∧ ∃ transport ∈ rule.protocol.transports,
        renderRuleChain ruleIndex rule transport = some chain) ∨
      (rules.any (·.masquerade) ∧ chain = postroutingChain) := by
  obtain ⟨-, chains, -, perRule, -, all⟩ := renderTable_parts rendered
  rw [all, ← mem_renderRuleChains perRule]
  simp

theorem dispatch_chain? : table.chain? .dispatch = some (renderDispatchChain rules) := by
  have dispatch : renderDispatchChain rules ∈ table.chains :=
    (mem_chains rendered).mpr (.inr (.inr (.inl rfl)))
  refine table.chain?_eq_some dispatch ?_
  intro other member same
  rcases (mem_chains rendered).mp member with
    rfl | rfl | rfl | ⟨ruleIndex, rule, -, transport, -, found⟩ | ⟨-, rfl⟩
  · cases same
  · cases same
  · rfl
  · rw [(renderRuleChain_parts found).1] at same
    cases same
  · cases same

theorem rule_chain?
    (position : rules[ruleIndex]? = some rule) (carried : transport ∈ rule.protocol.transports)
    (own : renderRuleChain ruleIndex rule transport = some chain) :
    table.chain? (.rule ruleIndex transport) = some chain := by
  rw [← (renderRuleChain_parts own).1]
  apply table.chain?_eq_some
  · exact (mem_chains rendered).mpr
      (.inr (.inr (.inr (.inl ⟨ruleIndex, rule, position, transport, carried, own⟩))))
  intro other member same
  rw [(renderRuleChain_parts own).1] at same
  rcases (mem_chains rendered).mp member with
    rfl | rfl | rfl | ⟨index, rule', position', transport', -, found⟩ | ⟨-, rfl⟩
  · cases same
  · cases same
  · cases same
  · rw [(renderRuleChain_parts found).1] at same
    obtain ⟨rfl, rfl⟩ := ChainName.rule.inj same
    obtain rfl := Option.some.inj (position'.symm.trans position)
    exact Option.some.inj (found.symm.trans own)
  · cases same

/-! ## Base chains -/

theorem find?_local_hook (inbound : hook ≠ .postrouting) :
    ∃ name, table.chains.find? (fun chain => chain.hook = some hook) = some (hookChain name hook) := by
  obtain ⟨-, chains, -, -, -, all⟩ := renderTable_parts rendered
  rw [all]
  cases hook with
  | prerouting => exact ⟨.prerouting, rfl⟩
  | output => exact ⟨.output, rfl⟩
  | postrouting => exact absurd rfl inbound

theorem find?_postrouting :
    table.chains.find? (fun chain => chain.hook = some .postrouting) =
      if rules.any (·.masquerade) then some postroutingChain else none := by
  obtain ⟨-, chains, -, perRule, -, all⟩ := renderTable_parts rendered
  have passed : chains.find? (fun chain => chain.hook = some .postrouting) = none := by
    refine List.find?_eq_none.mpr fun chain member => ?_
    obtain ⟨_, _, -, _, -, found⟩ := (mem_renderRuleChains perRule).mp member
    simp [(renderRuleChain_parts found).2]
  rw [all, List.find?_append, List.find?_append, passed]
  cases rules.any (·.masquerade) <;> rfl

end Vpsman.PortForward
