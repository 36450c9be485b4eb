import Vpsman.Lib.Sha256
import Vpsman.PortForward.TextSize
import Mathlib.Tactic.Ring

/-! # The estimate bounds the script

Validation estimates the size of the script rule by rule. Each rule pays for its elements in
the dispatch maps, its own maps and its chains; what is left is in the script once.
-/

namespace Vpsman.PortForward

open Vpsman.Lib Vpsman.Lib.Nft

/-! ## The estimate without saturation -/

def mappingBytes (mappings : List PortForwardMapping) : Nat :=
  ruleProgramBytes + mappings.length * dispatchElementBytes + mappings.countP mappingIsFixed * 48 +
    ((mappings.filter mappingIsShifted).map fun mapping => mapping.incoming.cardinality * 20).sum

def poolBytes (pool : PortForwardPool) : Nat :=
  ruleProgramBytes + pool.incoming.length * dispatchElementBytes +
    (pool.enabled.map fun row => row.ports.cardinality).sum * 160

/-- How many dispatch maps have the ports of the rule. -/
def PortForwardRule.spread (rule : PortForwardRule) : Nat :=
  rule.protocol.transports.length * rule.nativeFamilies.length

def ruleBytes (rule : PortForwardRule) : Nat :=
  match rule.pool with
  | some pool => poolBytes pool * rule.spread
  | none => mappingBytes rule.mappings * rule.spread

theorem estimatedMappingBytes_eq :
    estimatedMappingBytes mappings = min (mappingBytes mappings) u64Max := by
  have shifted : (mappings.filter mappingIsShifted).foldl
      (fun bytes mapping => satAdd bytes (satMul mapping.incoming.cardinality 20)) 0 = _ :=
    foldl_satAdd (fun _ _ => rfl) 0
  have program : ruleProgramBytes = min ruleProgramBytes u64Max := by decide
  unfold estimatedMappingBytes
  dsimp only
  rw [shifted, program, satMul, satMul, satAdd_min, satAdd_min, satAdd_min, Nat.zero_add]
  rfl

theorem estimatedPoolBytes_eq : estimatedPoolBytes pool = min (poolBytes pool) u64Max := by
  have counted : pool.enabled.foldl (fun sum row => satAdd sum row.ports.cardinality) 0 = _ :=
    foldl_satAdd (fun row _ => (Nat.min_eq_left (row.ports.cardinality_le.trans (by decide))).symm) 0
  have program : ruleProgramBytes = min ruleProgramBytes u64Max := by decide
  unfold estimatedPoolBytes
  dsimp only
  rw [counted, satMul_min, program, satMul, satAdd_min, satAdd_min, Nat.zero_add]
  rfl

theorem estimatedRuleBytes_eq : estimatedRuleBytes rule = min (ruleBytes rule) u64Max := by
  unfold estimatedRuleBytes ruleBytes
  cases rule.pool with
  | some =>
    dsimp only
    rw [estimatedPoolBytes_eq, satMul_min]
    rfl
  | none =>
    dsimp only
    rw [estimatedMappingBytes_eq, satMul_min]
    rfl

theorem estimatedNftProgramBytes_eq (rules : List PortForwardRule) :
    estimatedNftProgramBytes rules =
      min (2048 + ((rules.filter (·.mode ≠ .customAdapter)).map ruleBytes).sum) u64Max := by
  exact foldl_satAdd (fun rule _ => estimatedRuleBytes_eq) 2048

/-! ## Dispatch maps -/

section

variable {rules : List PortForwardRule} {rule : PortForwardRule} {ruleIndex : Nat}

theorem nativeFamilies_cases (rule : PortForwardRule) :
    rule.nativeFamilies = [] ∨ rule.nativeFamilies = [.ipv4] ∨ rule.nativeFamilies = [.ipv6] ∨
      rule.nativeFamilies = [.ipv4, .ipv6] := by
  unfold PortForwardRule.nativeFamilies
  cases rule.mode with
  | customAdapter => simp
  | redirect => cases rule.addressFamily with
    | none => simp
    | some family => cases family <;> simp
  | dnat => cases rule.targetIp.or _ with
    | none => simp
    | some ip => cases ip <;> simp [IpAddr.family]

/-- Every dispatch there can be. -/
def dispatchKeys : List (Family × Transport) := [(.ipv4, .tcp), (.ipv4, .udp), (.ipv6, .tcp), (.ipv6, .udp)]

theorem sum_served :
    (dispatchKeys.map fun key => if rule.Serves key.1 key.2 then count else 0).sum =
      count * rule.spread := by
  rcases nativeFamilies_cases rule with families | families | families | families <;>
    cases protocol : rule.protocol <;>
    simp [dispatchKeys, PortForwardRule.Serves, PortForwardRule.spread, families,
      protocol,
      PortForwardProtocol.transports] <;> omega

theorem length_dispatchElements :
    (dispatchElements rules family transport).length =
      (rules.map fun rule =>
        if rule.Serves family transport then rule.incomingRanges.length else 0).sum := by
  rw [dispatchElements, List.length_flatMap, ← sum_zipIdx rules]
  congr 1
  refine List.map_congr_left fun entry _ => ?_
  obtain ⟨rule, ruleIndex⟩ := entry
  dsimp only
  split
  · rw [List.length_map]
  · rfl

theorem size_dispatchMap_le (few : rules.length ≤ 512) :
    (mapText (.dispatch family transport,
      .verdicts (dispatchElements rules family transport))).utf8ByteSize ≤
      104 + (dispatchElements rules family transport).length * 36 := by
  refine size_verdicts_le (fun _ none => by cases none) fun element member => ?_
  obtain ⟨⟨rule, ruleIndex⟩, placed, member⟩ := List.mem_flatMap.mp member
  obtain ⟨-, member⟩ := List.mem_ite_nil_right.mp member
  obtain ⟨range, -, rfl⟩ := List.mem_map.mp member
  have position := (List.getElem?_eq_some_iff.mp (List.mem_zipIdx_iff_getElem?.mp placed)).1
  exact ⟨range.size_le, ChainName.size_rule_le (by omega) transport⟩

theorem size_dispatchMaps_le (few : rules.length ≤ 512) :
    ((renderDispatchMaps rules).map fun map => (mapText map).utf8ByteSize).sum ≤
      416 + (rules.map fun rule => rule.incomingRanges.length * rule.spread * 36).sum := by
  have all : ((renderDispatchMaps rules).map fun map => (mapText map).utf8ByteSize).sum ≤
      (dispatchKeys.map fun key => 104 + (dispatchElements rules key.1 key.2).length * 36).sum := by
    rw [renderDispatchMaps, List.map_map]
    refine (List.sum_le_sum fun key _ => size_dispatchMap_le few).trans ?_
    exact (List.filter_sublist.map _).sum_le_sum fun _ _ => Nat.zero_le _
  refine all.trans (Nat.le_of_eq ?_)
  rw [List.sum_map_add, List.sum_map_mul_right]
  simp only [length_dispatchElements]
  rw [sum_sum_comm, List.sum_map_mul_right]
  simp only [sum_served]
  rfl

/-! ## Maps of a rule -/

theorem fixed_short (small : ruleIndex < 1000) (transport : Transport) :
    (MapName.fixed ruleIndex transport).Short := by
  rintro _ ⟨⟩
  exact small

theorem shifted_short (small : ruleIndex < 1000) (transport : Transport) :
    (MapName.shifted ruleIndex transport).Short := by
  rintro _ ⟨⟩
  exact small

theorem pool_short (small : ruleIndex < 1000) : (MapName.pool ruleIndex).Short := by
  rintro _ ⟨⟩
  exact small

theorem size_port_le (port : UInt16) : (toString port.toNat).utf8ByteSize ≤ 5 :=
  size_toString_le (by decide) (Nat.lt_trans port.toNat_lt (by decide))

theorem size_fixedMap_le (small : ruleIndex < 1000) (transport : Transport)
    (mappings : List PortForwardMapping) :
    (mapText (.fixed ruleIndex transport, .services true (fixedElements mappings))).utf8ByteSize ≤
      109 + mappings.countP mappingIsFixed * 21 := by
  have count : (fixedElements mappings).length = mappings.countP mappingIsFixed := by
    rw [fixedElements, List.length_map, List.countP_eq_length_filter]
  rw [← count]
  refine size_services_le (fixed_short small transport) fun element member => ?_
  obtain ⟨mapping, -, rfl⟩ := List.mem_map.mp member
  have range := mapping.incoming.size_le
  have port := size_port_le mapping.target.start
  dsimp only
  omega

theorem size_shiftedMap_le (small : ruleIndex < 1000) (transport : Transport)
    (mappings : List PortForwardMapping) :
    (mapText (.shifted ruleIndex transport, .services false (shiftedElements mappings))).utf8ByteSize ≤
      109 + ((mappings.filter mappingIsShifted).map fun mapping =>
        mapping.incoming.cardinality).sum * 17 := by
  have count : (shiftedElements mappings).length =
      ((mappings.filter mappingIsShifted).map fun mapping => mapping.incoming.cardinality).sum := by
    simp [shiftedElements]
  rw [← count]
  refine size_services_le (shifted_short small transport) fun element member => ?_
  obtain ⟨mapping, -, member⟩ := List.mem_flatMap.mp member
  obtain ⟨offset, inside, rfl⟩ := List.mem_map.mp member
  have bound := List.mem_range.mp inside
  have cardinality := mapping.incoming.cardinality_le
  have start := mapping.incoming.start.toNat_lt
  have target := mapping.target.start.toNat_lt
  -- both numbers are sums of two 16-bit ones, so they have six digits
  have first : (toString (mapping.incoming.start.toNat + offset)).utf8ByteSize ≤ 6 :=
    size_toString_le (by decide) (by omega)
  have second : (toString (mapping.target.start.toNat + offset)).utf8ByteSize ≤ 6 :=
    size_toString_le (by decide) (by omega)
  rw [renderRange, if_pos rfl]
  dsimp only
  omega

theorem length_poolElements : (poolElements start endpoints).length = endpoints.length := by
  induction endpoints generalizing start with
  | nil => rfl
  | cons _ _ ih => rw [poolElements, List.length_cons, List.length_cons, ih]

variable {pool : PortForwardPool}

theorem length_endpoints (ordered : ∀ row ∈ pool.enabled, row.ports.Ordered) :
    pool.endpoints.length = (pool.enabled.map fun row => row.ports.cardinality).sum := by
  rw [PortForwardPool.endpoints, List.length_flatMap]
  congr 1
  refine List.map_congr_left fun row enabled => ?_
  rw [List.length_map, length_portList (ordered row enabled)]

theorem size_poolMap_le (small : ruleIndex < 1000) (sound : rule.Sound) (dnat : rule.mode = .dnat)
    (present : rule.pool = some pool) :
    (mapText (.pool ruleIndex, .endpoints family (poolElements 0 pool.endpoints))).utf8ByteSize ≤
      124 + (pool.enabled.map fun row => row.ports.cardinality).sum * 76 := by
  have rows := sound.enabled_rows present
  have ordered : ∀ row ∈ pool.enabled, row.ports.Ordered := fun row enabled => (rows row enabled).1
  have weight := sound.weight dnat pool present
  rw [← length_endpoints ordered, ← length_poolElements]
  refine size_endpoints_le (pool_short small) fun element member => ?_
  obtain ⟨start, end_, endpoint, listed, same⟩ :=
    poolElements_below (endpoints_positive rows) member
  rw [sum_endpoints ordered] at start end_
  refine ⟨by omega, by omega, ?_⟩
  obtain ⟨row, -, -, -, port⟩ := mem_endpoints listed
  obtain ⟨_, bound, equal⟩ := List.mem_range'.mp port
  have last := row.ports.end_.toNat_lt
  rw [← same, equal]
  omega

def ruleMapBytes (rule : PortForwardRule) : Nat :=
  match rule.pool with
  | some pool => 124 + (pool.enabled.map fun row => row.ports.cardinality).sum * 76
  | none => rule.protocol.transports.length * (218 + rule.mappings.countP mappingIsFixed * 21 +
      ((rule.mappings.filter mappingIsShifted).map fun mapping =>
        mapping.incoming.cardinality).sum * 17)

variable {maps : List (MapName × MapBody ChainName)}

theorem size_ruleMaps_le (small : ruleIndex < 1000) (sound : rule.Sound)
    (native : rule.mode ≠ .customAdapter) (rendered : renderRuleMaps ruleIndex rule = some maps) :
    (maps.map fun map => (mapText map).utf8ByteSize).sum ≤ ruleMapBytes rule := by
  unfold renderRuleMaps at rendered
  unfold ruleMapBytes
  cases present : rule.pool with
  | some =>
    have dnat := sound.dnat_of_pool native present
    have elements := (pool_arithmetic sound dnat present).1
    simp only [present, renderMap, elements, Option.map_eq_some_iff, Option.bind_eq_bind,
      Option.bind_eq_some_iff, Option.pure_def, Option.some.injEq] at rendered
    obtain ⟨_, ⟨family, -, _, rfl, rfl⟩, rfl⟩ := rendered
    rw [List.map_singleton, List.sum_singleton]
    exact size_poolMap_le small sound dnat present
  | none =>
    rw [present, Option.bind_eq_bind, Option.bind_eq_some_iff] at rendered
    obtain ⟨shifted, computed, rendered⟩ := rendered
    obtain rfl := checkedShiftedElements_eq computed
    obtain rfl := Option.some.inj rendered
    rw [sum_map_flatMap]
    refine sum_map_le_mul fun transport _ => ?_
    rw [List.map_append, List.sum_append]
    have fixed := sum_optional_le (fun map => (mapText map).utf8ByteSize)
      (rule.mappings.any mappingIsFixed) (size_fixedMap_le small transport rule.mappings)
    have shifted := sum_optional_le (fun map => (mapText map).utf8ByteSize)
      (rule.mappings.any mappingIsShifted) (size_shiftedMap_le small transport rule.mappings)
    omega

/-! ## Chains of a rule -/

theorem size_mappingStatements_le (small : ruleIndex < 1000) (mappings : List PortForwardMapping)
    (target : NatTarget) (transport : Transport) :
    ((mappingStatements ruleIndex mappings target transport).map fun statement =>
      (statementText statement).utf8ByteSize).sum ≤ 314 + mappings.length * 13 := by
  have identity : (statementText (.nat transport (identityRanges mappings) target)).utf8ByteSize ≤
      76 + mappings.length * 13 := by
    have fewer : (identityRanges mappings).length ≤ mappings.length := by
      rw [identityRanges, List.length_map]
      exact List.length_filter_le _ _
    refine (size_nat_le transport target fun range member => ?_).trans (by omega)
    obtain ⟨mapping, -, rfl⟩ := List.mem_map.mp member
    exact mapping.incoming.size_le
  have fixed := size_natMapped_le transport target (fixed_short small transport)
  have shifted := size_natMapped_le transport target (shifted_short small transport)
  unfold mappingStatements
  rw [List.map_append, List.map_append, List.sum_append, List.sum_append]
  have first := sum_optional_le (fun statement => (statementText statement).utf8ByteSize)
    (mappings.any mappingIsIdentity) identity
  have second := sum_optional_le (fun statement => (statementText statement).utf8ByteSize)
    (mappings.any mappingIsFixed) fixed
  have third := sum_optional_le (fun statement => (statementText statement).utf8ByteSize)
    (mappings.any mappingIsShifted) shifted
  omega

theorem size_poolStatement_le (small : ruleIndex < 1000) (sound : rule.Sound)
    (dnat : rule.mode = .dnat) (present : rule.pool = some pool)
    (rendered : renderTranslation ruleIndex rule pool transport = some statement) :
    (statementText statement).utf8ByteSize ≤ 118 := by
  have total := (pool_arithmetic sound dnat present).2
  have weight := sound.weight dnat pool present
  have fits : pool.totalWeight < 10 ^ 10 := by omega
  have seed : (rule.id >>> 96).toNat < 10 ^ 10 := by
    rw [BitVec.toNat_ushiftRight, Nat.shiftRight_eq_div_pow]
    omega
  rw [renderTranslation, total, Option.bind_eq_bind, Option.bind_some, Option.bind_eq_bind,
    Option.bind_eq_some_iff] at rendered
  obtain ⟨family, -, rendered⟩ := rendered
  split at rendered
  · obtain rfl := Option.some.inj rendered
    exact size_natPool_le transport (pool_short small) (size_selectorText_le fits (by simp))
  · obtain rfl := Option.some.inj rendered
    exact size_natPool_le transport (pool_short small) (size_selectorText_le fits (by simp))
  · obtain rfl := Option.some.inj rendered
    refine size_natPool_le transport (pool_short small) (size_selectorText_le fits ?_)
    rintro _ _ ⟨⟩
    exact seed
  · cases rendered
  · cases rendered

def ruleChainBytes (rule : PortForwardRule) : Nat :=
  match rule.pool with
  | some _ => 278
  | none => 474 + rule.mappings.length * 13

theorem size_ruleChain_le (small : ruleIndex < 1000) (sound : rule.Sound)
    (native : rule.mode ≠ .customAdapter)
    (rendered : renderRuleChain ruleIndex rule transport = some chain) :
    (chainText chain).utf8ByteSize ≤ ruleChainBytes rule := by
  obtain ⟨translation, translated, rfl⟩ := Option.map_eq_some_iff.mp rendered
  have name := ChainName.size_rule_le small transport
  have counter := size_counter_le rule.masquerade (size_ruleComment_le rule)
  have hook : ((Option.map hookText none).getD "").utf8ByteSize = 0 := rfl
  rw [size_chainText]
  rw [hook, List.map_cons, List.sum_cons]
  unfold ruleTranslation at translated
  unfold ruleChainBytes
  cases present : rule.pool with
  | some =>
    rw [present] at translated
    obtain ⟨statement, chosen, rfl⟩ := Option.map_eq_some_iff.mp translated
    have size := size_poolStatement_le small sound (sound.dnat_of_pool native present) present chosen
    rw [List.map_singleton, List.sum_singleton]
    dsimp only
    omega
  | none =>
    rw [present] at translated
    obtain ⟨target, -, rfl⟩ := Option.map_eq_some_iff.mp translated
    have size := size_mappingStatements_le small rule.mappings target transport
    dsimp only
    omega

theorem ruleBytes_covers (sound : rule.Sound) (native : rule.mode ≠ .customAdapter) :
    rule.incomingRanges.length * rule.spread * 36 + ruleMapBytes rule +
      rule.protocol.transports.length * ruleChainBytes rule ≤ ruleBytes rule := by
  have families : 0 < rule.nativeFamilies.length := List.length_pos_of_ne_nil (sound.families native)
  have wide : rule.protocol.transports.length ≤ rule.spread := Nat.le_mul_of_pos_right _ families
  have some_transport : 0 < rule.protocol.transports.length := by cases rule.protocol <;> decide
  unfold ruleMapBytes ruleChainBytes ruleBytes PortForwardRule.incomingRanges
  generalize rule.protocol.transports.length = transports at *
  generalize rule.spread = spread at *
  cases rule.pool with
  | some pool =>
    dsimp only [poolBytes, ruleProgramBytes, dispatchElementBytes]
    generalize (pool.enabled.map fun row => row.ports.cardinality).sum = endpoints
    generalize pool.incoming.length = incoming
    calc incoming * spread * 36 + (124 + endpoints * 76) + transports * 278
        ≤ incoming * spread * 36 + spread * (124 + endpoints * 76) + spread * 278 := by
          have maps : 1 * (124 + endpoints * 76) ≤ spread * (124 + endpoints * 76) :=
            Nat.mul_le_mul_right _ (by omega)
          omega
      _ = (402 + incoming * 36 + endpoints * 76) * spread := by ring
      _ ≤ (768 + incoming * 96 + endpoints * 160) * spread := Nat.mul_le_mul_right _ (by omega)
  | none =>
    dsimp only [mappingBytes, ruleProgramBytes, dispatchElementBytes]
    rw [List.length_map, List.sum_map_mul_right]
    generalize ((rule.mappings.filter mappingIsShifted).map fun mapping =>
      mapping.incoming.cardinality).sum = shifted
    generalize rule.mappings.countP mappingIsFixed = fixed
    generalize rule.mappings.length = mappings
    calc mappings * spread * 36 + transports * (218 + fixed * 21 + shifted * 17) +
          transports * (474 + mappings * 13)
        ≤ mappings * spread * 36 + spread * (218 + fixed * 21 + shifted * 17) +
          spread * (474 + mappings * 13) := by
          have maps := Nat.mul_le_mul_right (218 + fixed * 21 + shifted * 17) wide
          have chains := Nat.mul_le_mul_right (474 + mappings * 13) wide
          omega
      _ = (692 + mappings * 49 + fixed * 21 + shifted * 17) * spread := by ring
      _ ≤ (768 + mappings * 96 + fixed * 48 + shifted * 20) * spread :=
          Nat.mul_le_mul_right _ (by omega)

/-! ## The table -/

theorem size_translationMaps_le (few : rules.length ≤ 512) (sound : ∀ rule ∈ rules, rule.Sound)
    (native : ∀ rule ∈ rules, rule.mode ≠ .customAdapter)
    (rendered : renderTranslationMaps rules = some maps) :
    (maps.map fun map => (mapText map).utf8ByteSize).sum ≤ (rules.map ruleMapBytes).sum := by
  rw [renderTranslationMaps, Option.map_eq_some_iff] at rendered
  obtain ⟨parts, collected, rfl⟩ := rendered
  rw [← sum_zipIdx rules, List.map_flatten, List.sum_flatten, List.map_map]
  refine sum_mapM_le _ _ collected fun entry placed part found => ?_
  have position := List.mem_zipIdx_iff_getElem?.mp placed
  have member : entry.1 ∈ rules := List.mem_of_getElem? position
  have bound := (List.getElem?_eq_some_iff.mp position).1
  exact size_ruleMaps_le (by omega) (sound _ member) (native _ member) found

theorem size_ruleChains_le (few : rules.length ≤ 512) (sound : ∀ rule ∈ rules, rule.Sound)
    (native : ∀ rule ∈ rules, rule.mode ≠ .customAdapter)
    (rendered : renderRuleChains rules = some chains) :
    (chains.map fun chain => (chainText chain).utf8ByteSize).sum ≤
      (rules.map fun rule => rule.protocol.transports.length * ruleChainBytes rule).sum := by
  refine (sum_mapM_le _ (fun entry => ruleChainBytes entry.2.1) rendered ?_).trans (Nat.le_of_eq ?_)
  · intro entry placed chain found
    obtain ⟨⟨rule, ruleIndex⟩, place, here⟩ := List.mem_flatMap.mp placed
    obtain ⟨transport, -, rfl⟩ := List.mem_map.mp here
    have position := List.mem_zipIdx_iff_getElem?.mp place
    have member : rule ∈ rules := List.mem_of_getElem? position
    have bound := (List.getElem?_eq_some_iff.mp position).1
    exact size_ruleChain_le (by omega) (sound _ member) (native _ member) found
  · rw [sum_map_flatMap, ← sum_zipIdx rules]
    simp [Function.comp_def]

theorem size_dispatchChain_le (rules : List PortForwardRule) :
    (chainText (renderDispatchChain rules)).utf8ByteSize ≤ 262 := by
  have name : ChainName.dispatch.text.utf8ByteSize = 11 := by decide
  have hook : ((Option.map hookText none).getD "").utf8ByteSize = 0 := rfl
  have statements : ((renderDispatchChain rules).statements.map fun statement =>
      (statementText statement).utf8ByteSize).sum ≤ 236 := by
    have each : ∀ key ∈ populatedDispatches rules,
        (statementText (.dispatch key.1 key.2 (.dispatch key.1 key.2) : NatStatement)).utf8ByteSize ≤ 59 := by
      rintro ⟨family, transport⟩ -
      cases family <;> cases transport <;> decide
    have count : (populatedDispatches rules).length ≤ 4 := List.length_filter_le _ _
    rw [renderDispatchChain, List.map_map]
    exact (sum_map_le_mul each).trans (Nat.mul_le_mul_right 59 count)
  rw [size_chainText]
  change 15 + ChainName.dispatch.text.utf8ByteSize +
    ((Option.map hookText none).getD "").utf8ByteSize + _ ≤ 262
  omega

theorem size_tableText_le {hash : String} (hashed : hash.utf8ByteSize = 64) (few : rules.length ≤ 512)
    (sound : ∀ rule ∈ rules, rule.Sound) (native : ∀ rule ∈ rules, rule.mode ≠ .customAdapter)
    (rendered : renderTable hash rules = some table) :
    (tableText table).utf8ByteSize ≤ 1440 + (rules.map ruleBytes).sum := by
  simp only [renderTable, Option.bind_eq_bind, Option.bind_eq_some_iff, Option.pure_def,
    Option.some.injEq] at rendered
  obtain ⟨maps, translation, chains, perRule, rfl⟩ := rendered
  have dispatch := size_dispatchMaps_le few
  have own := size_translationMaps_le few sound native translation
  have chained := size_ruleChains_le few sound native perRule
  have dispatching := size_dispatchChain_le rules
  have covered : (rules.map fun rule => rule.incomingRanges.length * rule.spread * 36).sum +
      (rules.map ruleMapBytes).sum +
      (rules.map fun rule => rule.protocol.transports.length * ruleChainBytes rule).sum ≤
      (rules.map ruleBytes).sum := by
    rw [← List.sum_map_add, ← List.sum_map_add]
    exact List.sum_le_sum fun rule member => ruleBytes_covers (sound rule member) (native rule member)
  have comment : (ownedTableCommentPrefix ++ hash).utf8ByteSize = 85 := by
    have start : ownedTableCommentPrefix.utf8ByteSize = 21 := by decide
    rw [String.utf8ByteSize_append]
    omega
  have sets : ownershipSetText.utf8ByteSize ≤ 77 ∧
      (if rules.any (·.masquerade) then ownedFlowsSetText else "").utf8ByteSize ≤ 110 := by
    refine ⟨by decide, ?_⟩
    cases rules.any (·.masquerade) <;> decide
  have hooks : (chainText (hookChain .prerouting .prerouting)).utf8ByteSize ≤ 126 ∧
      (chainText (hookChain .output .output)).utf8ByteSize ≤ 118 := by decide +kernel
  have postrouting := sum_optional_le (fun chain => (chainText chain).utf8ByteSize)
    (rules.any (·.masquerade)) (show (chainText postroutingChain).utf8ByteSize ≤ 156 by decide +kernel)
  have fixed : "table inet vpsman_port_forward \x7b\n  comment \"".utf8ByteSize = 44 ∧
      "\"\n".utf8ByteSize = 2 ∧ "\x7d\n".utf8ByteSize = 2 := by decide
  unfold tableText
  simp only [String.utf8ByteSize_append, size_join, List.map_append, List.map_map, List.sum_append,
    List.map_cons, List.map_nil, List.sum_cons, List.sum_nil, Function.comp_def]
  rw [String.utf8ByteSize_append] at comment
  omega

end

/-! ## Rendering does not panic -/

theorem PortForwardPool.family_isSome {pool : PortForwardPool} (nonempty : pool.upstreams ≠ []) :
    ∃ family, pool.family = some family := by
  cases upstreams : pool.upstreams with
  | nil => exact absurd upstreams nonempty
  | cons row => exact ⟨row.targetIp.family, by simp [family, upstreams]⟩

theorem ruleTranslation_isSome (sound : rule.Sound) (native : rule.mode ≠ .customAdapter) :
    (ruleTranslation ruleIndex rule transport).isSome := by
  unfold ruleTranslation
  cases pool : rule.pool with
  | some pool' =>
    obtain ⟨-, strategies, nonempty⟩ := sound.pooled pool' pool
    obtain ⟨family, found⟩ := PortForwardPool.family_isSome nonempty
    have dnat := sound.dnat_of_pool native pool
    have total := (pool_arithmetic sound dnat pool).2
    rcases strategies dnat with strategy | strategy | strategy <;>
      simp [renderTranslation, total, found, strategy]
  | none =>
    cases mode : rule.mode with
    | dnat =>
      obtain ⟨targetIp, found⟩ := Option.isSome_iff_exists.mp (sound.destination mode pool)
      simp [PortForwardRule.natTarget, mode, found]
    | redirect => simp [PortForwardRule.natTarget, mode]
    | customAdapter => exact absurd mode native

theorem renderRuleMaps_isSome (sound : rule.Sound) (native : rule.mode ≠ .customAdapter) :
    (renderRuleMaps ruleIndex rule).isSome := by
  unfold renderRuleMaps
  cases pool : rule.pool with
  | some pool' =>
    obtain ⟨family, found⟩ := PortForwardPool.family_isSome (sound.pooled pool' pool).2.2
    have elements := (pool_arithmetic sound (sound.dnat_of_pool native pool) pool).1
    simp [renderMap, found, elements]
  | none =>
    have ordered : ∀ mapping ∈ rule.mappings, mapping.incoming.Ordered := by
      intro mapping member
      refine sound.ordered _ ?_
      rw [PortForwardRule.incomingRanges, pool]
      exact List.mem_map_of_mem member
    obtain ⟨shifted, computed⟩ := Option.isSome_iff_exists.mp (checkedShiftedElements_isSome ordered)
    simp [computed]

theorem renderTable_isSome (hash : String) (sound : ∀ rule ∈ rules, rule.Sound)
    (native : ∀ rule ∈ rules, rule.mode ≠ .customAdapter) :
    ∃ table, renderTable hash rules = some table := by
  have maps : (renderTranslationMaps rules).isSome := by
    rw [renderTranslationMaps, Option.isSome_map]
    refine mapM_isSome ?_
    rintro ⟨rule, ruleIndex⟩ placed
    have member : rule ∈ rules := List.mem_of_getElem? (List.mem_zipIdx_iff_getElem?.mp placed)
    exact renderRuleMaps_isSome (sound rule member) (native rule member)
  have chains : (renderRuleChains rules).isSome := by
    refine mapM_isSome ?_
    rintro ⟨ruleIndex, rule, transport⟩ placed
    simp only [List.mem_flatMap, List.mem_map] at placed
    obtain ⟨⟨rule, ruleIndex⟩, position, transport, -, same⟩ := placed
    have member : rule ∈ rules := List.mem_of_getElem? (List.mem_zipIdx_iff_getElem?.mp position)
    cases same
    change (renderRuleChain ruleIndex rule transport).isSome
    rw [renderRuleChain, Option.isSome_map]
    exact ruleTranslation_isSome (sound rule member) (native rule member)
  obtain ⟨_, maps⟩ := Option.isSome_iff_exists.mp maps
  obtain ⟨_, chains⟩ := Option.isSome_iff_exists.mp chains
  exact ⟨_, by simp [renderTable, maps, chains]; rfl⟩

section

variable {codec : Codec} {config : AgentPortForwardingConfig}

theorem native_sound (accepted : validatePortForwardingConfig codec config = .ok ()) :
    (∀ rule ∈ (nativeConfig codec config).rules, rule.Sound) ∧
      ∀ rule ∈ (nativeConfig codec config).rules, rule.mode ≠ .customAdapter :=
  ⟨fun rule member => (validatePortForwardingConfig_sound accepted).1 rule
    (List.mem_of_mem_filter member), fun _ member => of_decide_eq_true (List.mem_filter.mp member).2⟩

theorem renderProgram_of_accepted (accepted : validatePortForwardingConfig codec config = .ok ()) :
    ∃ table, renderTable (nativeConfig codec config).desiredHash (nativeConfig codec config).rules =
        some table ∧
      renderProgram codec config =
        some (if (nativeConfig codec config).rules.isEmpty then none else some table) := by
  obtain ⟨sound, native⟩ := native_sound accepted
  obtain ⟨table, rendered⟩ := renderTable_isSome (nativeConfig codec config).desiredHash sound native
  refine ⟨table, rendered, ?_⟩
  simp only [renderProgram, rendered]
  split <;> rfl

/-! ## Every accepted configuration is rendered -/

/-- The script removes the table that is there and installs the program. -/
theorem renderApplyScript_of_accepted
    (hashes : ∀ bytes, (codec.payloadHash bytes).utf8ByteSize = 64)
    (accepted : validatePortForwardingConfig codec config = .ok ())
    (rendered : renderProgram codec config = some program) (tableExists : Bool) :
    let script := (if tableExists then "delete table inet vpsman_port_forward\n" else "") ++
      (program.map tableText).getD ""
    renderApplyScript codec config tableExists = .ok script ∧
      script.utf8ByteSize ≤ estimatedNftProgramBytes config.rules := by
  obtain ⟨few, size⟩ := validatePortForwardingConfig_limits accepted
  -- an estimate that was accepted did not saturate
  have estimate := estimatedNftProgramBytes_eq config.rules
  have limit : maxNftScriptBytes < u64Max := by decide
  have delete : (if tableExists then "delete table inet vpsman_port_forward\n" else "").utf8ByteSize ≤ 38 := by
    cases tableExists <;> decide
  obtain ⟨table, ofTable, ofProgram⟩ := renderProgram_of_accepted accepted
  obtain rfl := Option.some.inj (rendered.symm.trans ofProgram)
  cases none : (nativeConfig codec config).rules.isEmpty with
  | true =>
    rw [none, if_pos rfl] at rendered
    refine ⟨?_, ?_⟩
    · rw [renderApplyScript, accepted, rendered]
      simp [Except.mapError]
    · simp
      omega
  | false =>
    obtain ⟨sound, native⟩ := native_sound accepted
    have fewNative : (nativeConfig codec config).rules.length ≤ 512 :=
      (List.length_filter_le _ _).trans few
    have hashed : (nativeConfig codec config).desiredHash.utf8ByteSize = 64 := by
      change (nativeHash codec (nativeConfig codec config).rules).utf8ByteSize = 64
      rw [nativeHash, none]
      exact hashes _
    have text := size_tableText_le hashed fewNative sound native ofTable
    change (tableText table).utf8ByteSize ≤
      1440 + ((config.rules.filter (·.mode ≠ .customAdapter)).map ruleBytes).sum at text
    have within : ((if tableExists then "delete table inet vpsman_port_forward\n" else "") ++
        tableText table).utf8ByteSize ≤ estimatedNftProgramBytes config.rules := by
      rw [String.utf8ByteSize_append]
      omega
    rw [none, if_neg Bool.false_ne_true] at rendered
    refine ⟨?_, within⟩
    rw [renderApplyScript, accepted, rendered]
    exact if_pos (within.trans size)

end

/-- The script of an accepted configuration is rendered, with arithmetic that stays in its
    types, and it is no longer than validation estimated. -/
theorem accepted_config_renders (codec : Codec)
    (hashes : ∀ bytes, (codec.payloadHash bytes).utf8ByteSize = 64)
    (config : AgentPortForwardingConfig)
    (accepted : validatePortForwardingConfig codec config = .ok ()) (tableExists : Bool) :
    ∃ script, renderApplyScript codec config tableExists = .ok script ∧
      script.utf8ByteSize ≤ estimatedNftProgramBytes config.rules := by
  obtain ⟨_, -, rendered⟩ := renderProgram_of_accepted accepted
  exact ⟨_, renderApplyScript_of_accepted hashes accepted rendered tableExists⟩

theorem size_sha256Hex : (Sha256.hex message).utf8ByteSize = 64 := by
  rw [Sha256.hex, size_ascii (Hex.forall_mem_encode (by decide)), Hex.length_encode]
  rfl

def sampleRule : PortForwardRule where
  id := 1
  revision := 1
  name := "web"
  protocol := .tcp
  targetIp := some (.v4 0x0a000002)
  mappings := [⟨⟨80, 80⟩, ⟨8080, 8080⟩⟩, ⟨⟨9000, 9002⟩, ⟨7000, 7002⟩⟩]
  pool := none
  masquerade := true
  mode := .dnat
  addressFamily := none
  adapter := none

/-- The JSON text of the list of the sample rule alone. -/
def sampleJson : String :=
  "[\x7b\"id\":\"00000000-0000-0000-0000-000000000001\",\"revision\":1,\"name\":\"web\"," ++
    "\"protocol\":\"tcp\",\"target_ip\":\"10.0.0.2\"," ++
    "\"mappings\":[\x7b\"incoming\":\x7b\"start\":80,\"end\":80\x7d," ++
    "\"target\":\x7b\"start\":8080," ++
    "\"end\":8080\x7d\x7d,\x7b\"incoming\":\x7b\"start\":9000,\"end\":9002\x7d," ++
    "\"target\":\x7b\"start\":7000,\"end\":7002\x7d\x7d],\"masquerade\":true\x7d]"

def sampleCodec : Codec where
  encodeRules rules := if rules = [sampleRule] then sampleJson.toUTF8.toList else []
  payloadHash := Sha256.hex

def sampleConfig : AgentPortForwardingConfig where
  desiredHash := "28a2c5f31cb42badb3fb5bf570354e0c88acb6d9f49e12eb686225121beb82e9"
  rules := [sampleRule]

theorem sample_config_accepted : validatePortForwardingConfig sampleCodec sampleConfig = .ok () := by
  decide +kernel

theorem sample_config_renders :
    ∃ script, renderApplyScript sampleCodec sampleConfig true = .ok script ∧
      script.utf8ByteSize ≤ estimatedNftProgramBytes sampleConfig.rules :=
  accepted_config_renders sampleCodec (fun _ => size_sha256Hex) sampleConfig
    sample_config_accepted true

end Vpsman.PortForward
