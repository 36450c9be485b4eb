import Vpsman.Lib.Nft
import Vpsman.PortForward.Validate

/-! # The NAT table of a configuration

A dispatch map for each family and transport sends the incoming ports of every rule to a
chain of that rule, whose statements translate through maps of the rule. Where the agent
would panic, on a rule that validation does not let through or on arithmetic that leaves its
type, there is no table.
-/

namespace Vpsman.PortForward

open Vpsman.Lib Vpsman.Lib.Nft

inductive MapName where
  | dispatch (family : Family) (transport : Transport)
  | fixed (ruleIndex : Nat) (transport : Transport)
  | shifted (ruleIndex : Nat) (transport : Transport)
  | pool (ruleIndex : Nat)
  deriving Repr, DecidableEq

inductive ChainName where
  | prerouting
  | output
  | dispatch
  | rule (ruleIndex : Nat) (transport : Transport)
  | postrouting
  deriving Repr, DecidableEq

abbrev NatTable := Table MapName ChainName

abbrev NatChain := ChainBody MapName ChainName

abbrev NatStatement := Statement MapName ChainName

/-! ## Dispatch -/

/-- The dispatch of this family and transport has the ports of the rule. -/
def PortForwardRule.Serves (rule : PortForwardRule) (family : Family) (transport : Transport) :
    Prop :=
  family ∈ rule.nativeFamilies ∧ transport ∈ rule.protocol.transports

instance (rule : PortForwardRule) (family : Family) (transport : Transport) :
    Decidable (rule.Serves family transport) :=
  inferInstanceAs (Decidable (_ ∧ _))

def populatedDispatches (rules : List PortForwardRule) : List (Family × Transport) :=
  [(.ipv4, .tcp), (.ipv4, .udp), (.ipv6, .tcp), (.ipv6, .udp)].filter fun (family, transport) =>
    rules.any fun rule => rule.Serves family transport

def dispatchElements (rules : List PortForwardRule) (family : Family) (transport : Transport) :
    List (Range × ChainName) :=
  rules.zipIdx.flatMap fun (rule, ruleIndex) =>
    if rule.Serves family transport then
      rule.incomingRanges.map fun range => (range.toRange, .rule ruleIndex transport)
    else []

def renderDispatchMaps (rules : List PortForwardRule) : List (MapName × MapBody ChainName) :=
  (populatedDispatches rules).map fun (family, transport) =>
    (.dispatch family transport, .verdicts (dispatchElements rules family transport))

def renderDispatchChain (rules : List PortForwardRule) : NatChain where
  name := .dispatch
  hook := none
  statements := (populatedDispatches rules).map fun (family, transport) =>
    .dispatch family transport (.dispatch family transport)

/-! ## Pools -/

/-- `PortRange::cardinality` in 32 bits. -/
def PortRange.checkedCardinality (range : PortRange) : Option Nat := do
  let difference ← checkedSub range.end_.toNat range.start.toNat
  within (2 ^ 32) (difference + 1)

def PortForwardUpstream.portList (row : PortForwardUpstream) : List Nat :=
  List.range' row.ports.start.toNat (row.ports.end_.toNat + 1 - row.ports.start.toNat)

/-- One interval of selector values for each endpoint, as wide as its weight. The weights
    are positive. -/
def poolElements : Nat → List (Nat × IpAddr × Nat) → List (Range × IpAddr × Nat)
  | _, [] => []
  | start, (weight, targetIp, port) :: rest =>
    (⟨start, start + weight - 1⟩, targetIp, port) :: poolElements (start + weight) rest

/-- The same in 64 bits. -/
def checkedPoolElements : Nat → List (Nat × IpAddr × Nat) → Option (List (Range × IpAddr × Nat))
  | _, [] => some []
  | start, (weight, targetIp, port) :: rest => do
    let sum ← checkedAdd start weight
    let end_ ← checkedSub sum 1
    let next ← checkedAdd end_ 1
    let later ← checkedPoolElements next rest
    pure ((⟨start, end_⟩, targetIp, port) :: later)

/-- The weight of all endpoints in 64 bits. -/
def PortForwardPool.checkedTotalWeight (pool : PortForwardPool) : Option Nat :=
  pool.enabled.foldlM (fun total row => do
    let count ← row.ports.checkedCardinality
    let weight ← within (2 ^ 64) (row.weight.toNat * count)
    checkedAdd total weight) 0

def PortForwardPool.endpoints (pool : PortForwardPool) : List (Nat × IpAddr × Nat) :=
  pool.enabled.flatMap fun row => row.portList.map fun port => (row.weight.toNat, row.targetIp, port)

def PortForwardPool.family (pool : PortForwardPool) : Option Family :=
  pool.upstreams.head?.map (·.targetIp.family)

def renderMap (ruleIndex : Nat) (pool : PortForwardPool) :
    Option (MapName × MapBody ChainName) := do
  let family ← pool.family
  let elements ← checkedPoolElements 0 pool.endpoints
  pure (.pool ruleIndex, .endpoints family elements)

def renderTranslation (ruleIndex : Nat) (rule : PortForwardRule) (pool : PortForwardPool)
    (transport : Transport) : Option NatStatement := do
  let total ← pool.checkedTotalWeight
  let family ← pool.family
  let selector ← match pool.strategy with
    | .roundRobin => some .numgenInc
    | .random => some .numgenRandom
    | .sourceIpHash => some (.jhash family (rule.id >>> 96).toNat)
    | .leastConnections | .consistentSourceIpHash => none
  pure (.natPool transport family selector total (.pool ruleIndex))

/-! ## Mappings -/

def fixedElements (mappings : List PortForwardMapping) : List (Range × Nat) :=
  (mappings.filter mappingIsFixed).map fun mapping =>
    (mapping.incoming.toRange, mapping.target.start.toNat)

def shiftedElements (mappings : List PortForwardMapping) : List (Range × Nat) :=
  (mappings.filter mappingIsShifted).flatMap fun mapping =>
    (List.range mapping.incoming.cardinality).map fun offset =>
      let incoming := mapping.incoming.start.toNat + offset
      (⟨incoming, incoming⟩, mapping.target.start.toNat + offset)

/-- The same in 32 bits, for one mapping. -/
def checkedShiftedPorts (mapping : PortForwardMapping) : Option (List (Range × Nat)) := do
  let count ← mapping.incoming.checkedCardinality
  (List.range count).mapM fun offset => do
    let incoming ← within (2 ^ 32) (mapping.incoming.start.toNat + offset)
    let target ← within (2 ^ 32) (mapping.target.start.toNat + offset)
    pure (⟨incoming, incoming⟩, target)

def checkedShiftedElements (mappings : List PortForwardMapping) : Option (List (Range × Nat)) :=
  ((mappings.filter mappingIsShifted).mapM checkedShiftedPorts).map List.flatten

def renderRuleMaps (ruleIndex : Nat) (rule : PortForwardRule) :
    Option (List (MapName × MapBody ChainName)) :=
  match rule.pool with
  | some pool => (renderMap ruleIndex pool).map fun map => [map]
  | none => do
    let shifted ← checkedShiftedElements rule.mappings
    pure <| rule.protocol.transports.flatMap fun transport =>
      (if rule.mappings.any mappingIsFixed then
        [(.fixed ruleIndex transport, .services true (fixedElements rule.mappings))] else []) ++
      (if rule.mappings.any mappingIsShifted then
        [(.shifted ruleIndex transport, .services false shifted)] else [])

def renderTranslationMaps (rules : List PortForwardRule) :
    Option (List (MapName × MapBody ChainName)) :=
  (rules.zipIdx.mapM fun (rule, ruleIndex) => renderRuleMaps ruleIndex rule).map List.flatten

/-- Where a rule without a pool sends its packets. -/
def PortForwardRule.natTarget (rule : PortForwardRule) : Option NatTarget :=
  match rule.mode with
  | .dnat => rule.targetIp.map .address
  | .redirect => some .here
  | .customAdapter => none

def identityRanges (mappings : List PortForwardMapping) : List Range :=
  (mappings.filter mappingIsIdentity).map (·.incoming.toRange)

def mappingStatements (ruleIndex : Nat) (mappings : List PortForwardMapping) (target : NatTarget)
    (transport : Transport) : List NatStatement :=
  (if mappings.any mappingIsIdentity then
    [.nat transport (identityRanges mappings) target] else []) ++
  (if mappings.any mappingIsFixed then
    [.natMapped transport target (.fixed ruleIndex transport)] else []) ++
  (if mappings.any mappingIsShifted then
    [.natMapped transport target (.shifted ruleIndex transport)] else [])

def ruleComment (rule : PortForwardRule) : String :=
  "vpsman-rule:" ++ rule.id.hyphenated ++ ":" ++ toString rule.revision

/-- What the chain of a rule does with the packets it counted. -/
def ruleTranslation (ruleIndex : Nat) (rule : PortForwardRule) (transport : Transport) :
    Option (List NatStatement) :=
  match rule.pool with
  | some pool => (renderTranslation ruleIndex rule pool transport).map fun statement => [statement]
  | none => rule.natTarget.map fun target =>
    mappingStatements ruleIndex rule.mappings target transport

def renderRuleChain (ruleIndex : Nat) (rule : PortForwardRule) (transport : Transport) :
    Option NatChain :=
  (ruleTranslation ruleIndex rule transport).map fun translation => {
    name := .rule ruleIndex transport
    hook := none
    statements := .counter rule.masquerade (ruleComment rule) :: translation }

def renderRuleChains (rules : List PortForwardRule) : Option (List NatChain) :=
  (rules.zipIdx.flatMap fun (rule, ruleIndex) =>
      rule.protocol.transports.map fun transport => (ruleIndex, rule, transport)).mapM
    fun (ruleIndex, rule, transport) => renderRuleChain ruleIndex rule transport

/-! ## The table -/

def hookChain (name : ChainName) (hook : Hook) : NatChain where
  name := name
  hook := some hook
  statements := [.jumpIfLocal .dispatch]

def postroutingChain : NatChain where
  name := .postrouting
  hook := some .postrouting
  statements := [.masqueradeOwned]

def ownedTableCommentPrefix : String := "vpsman-owned desired="

def renderTable (desiredHash : String) (rules : List PortForwardRule) : Option NatTable := do
  let translationMaps ← renderTranslationMaps rules
  let ruleChains ← renderRuleChains rules
  pure {
    comment := ownedTableCommentPrefix ++ desiredHash
    tracksFlows := rules.any (·.masquerade)
    maps := renderDispatchMaps rules ++ translationMaps
    chains := [hookChain .prerouting .prerouting, hookChain .output .output,
        renderDispatchChain rules] ++ ruleChains ++
      (if rules.any (·.masquerade) then [postroutingChain] else []) }

variable (codec : Codec)

def nativeHash (rules : List PortForwardRule) : String :=
  if rules.isEmpty then "" else portForwardingDesiredHash codec rules

/-- The part of the configuration that the NAT table implements. -/
def nativeConfig (config : AgentPortForwardingConfig) : AgentPortForwardingConfig :=
  let rules := config.rules.filter (·.mode ≠ .customAdapter)
  { schemaVersion := (rules.map (·.requiredSchemaVersion)).max?.getD 1
    desiredHash := nativeHash codec rules
    rules }

/-- The table to install, which is none at all without built-in rules. -/
def renderProgram (config : AgentPortForwardingConfig) : Option (Option NatTable) :=
  let native := nativeConfig codec config
  if native.rules.isEmpty then some none
  else (renderTable native.desiredHash native.rules).map some

/-- What becomes of the flow of a packet under an installed table or none. -/
def deliver (program : Option NatTable) (hook : Hook) (packet : Packet) : Option Flow :=
  match program with
  | some table => table.deliver hook packet
  | none => some {}

end Vpsman.PortForward
