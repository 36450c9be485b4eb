import Vpsman.PortForward.Config

/-! # Validation of port-forwarding configurations -/

namespace Vpsman.PortForward

open Vpsman.Lib

/-! ## Ranges and mappings -/

def validateNonOverlapping (ranges : List PortRange) : Except PortForwardValidationError Unit :=
  require (∀ pair ∈ windows (ranges.insertionSort PortRange.Le), ¬ pair.1.Overlaps pair.2)
    .incomingOverlap

def validateMapping (mapping : PortForwardMapping) : Except PortForwardValidationError Unit := do
  mapping.incoming.validate
  mapping.target.validate
  require (mapping.target.isSingle ∨ mapping.target.cardinality = mapping.incoming.cardinality)
    .targetCardinalityMismatch

def validateMappings (mappings : List PortForwardMapping) :
    Except PortForwardValidationError Unit := do
  require (mappings ≠ []) .mappingsEmpty
  require (mappings.length ≤ maxMappings) .mappingsTooMany
  mappings.forM validateMapping
  validateNonOverlapping (mappings.map (·.incoming))

def validateTargetIp (target : IpAddr) : Except PortForwardValidationError Unit :=
  require (¬ (target.isUnspecified || target.isLoopback || target.isMulticast ||
    target.isLinkLocal || target.isBroadcast)) .targetIpInvalid

/-! ## Pools -/

def poolCheck (condition : Prop) [Decidable condition] (message : String) :
    Except PortForwardValidationError Unit :=
  require condition (.poolInvalid message)

def validateFailurePolicy (mode : PortForwardMode) (protocol : PortForwardProtocol)
    (endpointCount : Nat) (policy : PortForwardFailurePolicy) :
    Except PortForwardValidationError Unit := do
  poolCheck (mode = .customAdapter ∧ protocol = .tcp ∧ 2 ≤ endpointCount)
    "failure exclusion requires a custom TCP pool with at least two endpoints"
  match policy with
  | .off => pure ()
  | .temporary threshold windowSecs retryAfterSecs =>
    poolCheck (0 < threshold ∧ 0 < windowSecs ∧ 0 < retryAfterSecs)
      "failure thresholds and intervals must be positive"
    poolCheck (windowSecs = retryAfterSecs) "failure window and exclusion interval must match"

/-- Check a row of a pool against the rows before it. -/
def validateUpstream (pool : PortForwardPool) (mode : PortForwardMode)
    (protocol : PortForwardProtocol) (endpointCount : Nat) (previous : List PortForwardUpstream)
    (row : PortForwardUpstream) : Except PortForwardValidationError Unit := do
  row.ports.validate
  poolCheck (row.id ∉ previous.map (·.id)) "upstream IDs must be unique"
  poolCheck (0 < row.weight) "upstream weight must be positive"
  if mode = .dnat then validateTargetIp row.targetIp
  else
    poolCheck (¬ row.targetIp.isUnspecified ∧ ¬ row.targetIp.isMulticast)
      "upstream target must be a usable unicast address"
  poolCheck (∀ other ∈ previous, ¬ (other.targetIp = row.targetIp ∧ other.ports.Overlaps row.ports))
    "upstream IP/port ranges overlap"
  poolCheck (row.role ≠ .backup ∨ mode = .customAdapter ∧
      (pool.strategy = .roundRobin ∨ pool.strategy = .leastConnections))
    "pool strategy does not support backups"
  match row.failurePolicy with
  | none => pure ()
  | some policy => validateFailurePolicy mode protocol endpointCount policy

def validateUpstreams (pool : PortForwardPool) (mode : PortForwardMode)
    (protocol : PortForwardProtocol) (endpointCount : Nat) :
    List PortForwardUpstream → List PortForwardUpstream → Except PortForwardValidationError Unit
  | _, [] => pure ()
  | previous, row :: rest => do
    validateUpstream pool mode protocol endpointCount previous row
    validateUpstreams pool mode protocol endpointCount (previous ++ [row]) rest

def PortForwardPool.enabled (pool : PortForwardPool) : List PortForwardUpstream :=
  pool.upstreams.filter (·.enabled)

/-- The weight of all endpoints of the enabled rows. -/
def PortForwardPool.totalWeight (pool : PortForwardPool) : Nat :=
  (pool.enabled.map fun row => row.weight.toNat * row.ports.cardinality).sum

def validateRetryPolicy (mode : PortForwardMode) (protocol : PortForwardProtocol)
    (retry : PortForwardRetryPolicy) : Except PortForwardValidationError Unit := do
  poolCheck (mode = .customAdapter ∧ protocol = .tcp) "connection retry applies to custom TCP pools"
  match retry with
  | .off => pure ()
  | .connectFailure maxAttempts retryBudgetSecs =>
    poolCheck ((∀ n ∈ maxAttempts, 0 < n) ∧ ∀ n ∈ retryBudgetSecs, 0 < n)
      "retry limits must be positive when supplied"

def validatePortForwardPool (pool : PortForwardPool) (mode : PortForwardMode)
    (protocol : PortForwardProtocol) : Except PortForwardValidationError Unit := do
  poolCheck (mode ≠ .redirect) "REDIRECT cannot use an upstream pool"
  poolCheck (mode ≠ .dnat ∨ pool.strategy = .roundRobin ∨ pool.strategy = .random ∨
      pool.strategy = .sourceIpHash)
    "DNAT pools use round robin, random, or source IP hash"
  poolCheck (pool.incoming ≠ [] ∧ pool.incoming.length ≤ maxMappings)
    "invalid pool incoming range count"
  pool.incoming.forM PortRange.validate
  validateNonOverlapping pool.incoming
  poolCheck (pool.upstreams ≠ [] ∧ pool.upstreams.length ≤ maxMappings) "invalid upstream row count"
  poolCheck (pool.upstreams.any (·.enabled)) "enable at least one upstream"
  poolCheck (pool.upstreams.any (·.role = .primary)) "keep at least one primary upstream"
  pool.upstreams.forM (·.ports.validate)
  let endpointCount := (pool.upstreams.map (·.ports.cardinality)).sum
  validateUpstreams pool mode protocol endpointCount [] pool.upstreams
  poolCheck (mode ≠ .dnat ∨ (pool.upstreams.map (·.targetIp.family)).dedup.length = 1)
    "pool cannot mix address families"
  poolCheck (mode ≠ .dnat ∨ pool.totalWeight ≤ 2 ^ 32 - 1)
    "expanded endpoint weights exceed 4294967295"
  match pool.connectTimeoutSecs with
  | none => pure ()
  | some timeout =>
    poolCheck (0 < timeout ∧ mode = .customAdapter ∧ protocol = .tcp)
      "connect timeout must be positive and applies to custom TCP pools"
  match pool.retryPolicy with
  | none => pure ()
  | some retry => validateRetryPolicy mode protocol retry

/-! ## Rules -/

/-- `Path::is_absolute`. -/
def isAbsolutePath (path : String) : Bool := path.toList.head? = some '/'

def validateAdapterCommand (command : RuntimeTunnelCommand) :
    Except PortForwardValidationError Unit :=
  require (command.argv ≠ [] ∧
      (∃ arg ∈ command.argv, "\x7brule_config_json\x7d".toList <:+: arg.toList) ∧
      command.argv.length ≤ 32 ∧ (∀ program ∈ command.argv.head?, isAbsolutePath program) ∧
      (∀ arg ∈ command.argv, arg ≠ "" ∧ arg.utf8ByteSize ≤ 4096 ∧ '\x00' ∉ arg.toList) ∧
      1 ≤ command.maxTimeoutSecs ∧ command.maxTimeoutSecs ≤ 120 ∧
      1024 ≤ command.maxOutputBytes ∧ command.maxOutputBytes ≤ 65536)
    .adapterCommandInvalid

def validateModeFields (rule : PortForwardRule) : Except PortForwardValidationError Unit :=
  match rule.mode with
  | .dnat => do
    match rule.pool with
    | none =>
      match rule.targetIp with
      | none => throw .targetIpInvalid
      | some targetIp => validateTargetIp targetIp
    | some _ => require (rule.targetIp = none) .modeFieldsInvalid
    require (rule.adapter = none ∧ rule.addressFamily = none) .modeFieldsInvalid
  | .redirect =>
    require (rule.pool = none ∧ rule.targetIp = none ∧ rule.adapter = none ∧
      rule.addressFamily ≠ none ∧ rule.masquerade = false) .modeFieldsInvalid
  | .customAdapter => do
    require (rule.addressFamily = none ∧ rule.masquerade = false) .modeFieldsInvalid
    match rule.adapter with
    | none => throw .modeFieldsInvalid
    | some adapter =>
      require (adapter.contractVersion = adapterContractVersion) .adapterCommandInvalid
      [adapter.apply, adapter.remove, adapter.status].forM validateAdapterCommand

def validatePortForwardRule (rule : PortForwardRule) : Except PortForwardValidationError Unit := do
  let name := trim rule.name.toList
  require (name ≠ []) .nameEmpty
  require ((String.ofList name).utf8ByteSize ≤ maxNameBytes) .nameTooLong
  validateModeFields rule
  match rule.pool with
  | some pool =>
    require (rule.mappings = [] ∧ rule.targetIp = none) .modeFieldsInvalid
    validatePortForwardPool pool rule.mode rule.protocol
  | none => validateMappings rule.mappings

namespace PortForwardRule

def incomingRanges (rule : PortForwardRule) : List PortRange :=
  match rule.pool with
  | some pool => pool.incoming
  | none => rule.mappings.map (·.incoming)

def requiredSchemaVersion (rule : PortForwardRule) : Nat :=
  if rule.pool.isSome ∨ rule.mode = .customAdapter then poolsSchemaVersion
  else if rule.mode ≠ .dnat then modesSchemaVersion
  else schemaVersion

/-- The families whose packets the built-in dispatch sends to the rule. -/
def nativeFamilies (rule : PortForwardRule) : List Family :=
  match rule.mode with
  | .dnat =>
    match rule.targetIp.or (rule.pool.bind fun pool => pool.upstreams.head?.map (·.targetIp)) with
    | some ip => [ip.family]
    | none => []
  | .redirect =>
    match rule.addressFamily with
    | some .ipv4 => [.ipv4]
    | some .ipv6 => [.ipv6]
    | some .both => [.ipv4, .ipv6]
    | none => []
  | .customAdapter => []

end PortForwardRule

/-! ## Claims of ports -/

/-- A range of incoming ports that a rule takes for one family and transport. -/
structure PortClaim where
  family : Family
  transport : Transport
  incoming : PortRange
  deriving Repr, DecidableEq

namespace PortClaim

/-- The sort key `(ipv6, transport, start, end)` as one number. -/
def key (claim : PortClaim) : Nat :=
  ((if claim.family = .ipv6 then 2 else 0) + if claim.transport = .udp then 1 else 0) * 65536 ^ 2 +
    claim.incoming.key

def Le (left right : PortClaim) : Prop := left.key ≤ right.key

instance : DecidableRel Le := fun left right => inferInstanceAs (Decidable (left.key ≤ right.key))

def Overlaps (left right : PortClaim) : Prop :=
  left.family = right.family ∧ left.transport = right.transport ∧
    left.incoming.Overlaps right.incoming

instance (left right : PortClaim) : Decidable (left.Overlaps right) :=
  inferInstanceAs (Decidable (_ ∧ _))

end PortClaim

def PortForwardRule.claims (rule : PortForwardRule) : List PortClaim :=
  rule.nativeFamilies.flatMap fun family =>
    rule.protocol.transports.flatMap fun transport =>
      rule.incomingRanges.map fun incoming => ⟨family, transport, incoming⟩

def validateCrossRuleOverlaps (rules : List PortForwardRule) :
    Except PortForwardValidationError Unit :=
  let claims := rules.flatMap (·.claims)
  require (∀ pair ∈ windows (claims.insertionSort PortClaim.Le),
    ¬ pair.1.Overlaps pair.2) .crossRuleOverlap

/-! ## Size of the program -/

def mappingIsIdentity (mapping : PortForwardMapping) : Bool := mapping.incoming == mapping.target

def mappingIsFixed (mapping : PortForwardMapping) : Bool :=
  mapping.target.isSingle && !mappingIsIdentity mapping

def mappingIsShifted (mapping : PortForwardMapping) : Bool :=
  !mapping.target.isSingle && !mappingIsIdentity mapping

def ruleProgramBytes : Nat := 768

def dispatchElementBytes : Nat := 96

def estimatedPoolBytes (pool : PortForwardPool) : Nat :=
  let endpoints := pool.enabled.foldl (fun sum row => satAdd sum row.ports.cardinality) 0
  satAdd (satAdd ruleProgramBytes (satMul pool.incoming.length dispatchElementBytes))
    (satMul endpoints 160)

def estimatedMappingBytes (mappings : List PortForwardMapping) : Nat :=
  let compactElements := satMul (mappings.countP mappingIsFixed) 48
  let shiftedElements := (mappings.filter mappingIsShifted).foldl
    (fun bytes mapping => satAdd bytes (satMul mapping.incoming.cardinality 20)) 0
  satAdd (satAdd (satAdd ruleProgramBytes (satMul mappings.length dispatchElementBytes))
    compactElements) shiftedElements

def estimatedRuleBytes (rule : PortForwardRule) : Nat :=
  let transports := rule.protocol.transports.length * rule.nativeFamilies.length
  match rule.pool with
  | some pool => satMul (estimatedPoolBytes pool) transports
  | none => satMul (estimatedMappingBytes rule.mappings) transports

def estimatedNftProgramBytes (rules : List PortForwardRule) : Nat :=
  (rules.filter (·.mode ≠ .customAdapter)).foldl
    (fun total rule => satAdd total (estimatedRuleBytes rule)) (2 * 1024)

/-! ## Configurations -/

/-- JSON encoding and hashing of rules. -/
structure Codec where
  /-- `serde_json::to_vec` of a list of rules. -/
  encodeRules : List PortForwardRule → List UInt8
  /-- The SHA-256 digest in hexadecimal. -/
  payloadHash : List UInt8 → String

variable (codec : Codec)

def portForwardingDesiredHash (rules : List PortForwardRule) : String :=
  codec.payloadHash (codec.encodeRules (rules.insertionSort fun l r => l.id.toNat ≤ r.id.toNat))

def isLowerHex (c : Char) : Bool := ('0' ≤ c && c ≤ '9') || ('a' ≤ c && c ≤ 'f')

/-- Every rule on its own, and that no id was used before. -/
def validateRules : List Uuid → List PortForwardRule → Except PortForwardValidationError Unit
  | _, [] => pure ()
  | ids, rule :: rest => do
    require (rule.id ∉ ids) .duplicateRuleId
    validatePortForwardRule rule
    validateRules (rule.id :: ids) rest

def validateCleanupRules (rules : List PortForwardRule) :
    List Uuid → List PortForwardCleanupRule → Except PortForwardValidationError Unit
  | _, [] => pure ()
  | ids, cleanup :: rest => do
    require (0 < cleanup.revision ∧ cleanup.ruleId ∉ ids ∧
      ∀ rule ∈ rules, ¬ (rule.id = cleanup.ruleId ∧ rule.mode = .customAdapter))
      .cleanupRuleIdInvalid
    validateCleanupRules rules (cleanup.ruleId :: ids) rest

def validatePortForwardingConfig (config : AgentPortForwardingConfig) :
    Except PortForwardValidationError Unit := do
  require ((config.schemaVersion = schemaVersion ∨ config.schemaVersion = modesSchemaVersion ∨
      config.schemaVersion = poolsSchemaVersion) ∧
    ¬ (config.schemaVersion = schemaVersion ∧
      (config.cleanupRules ≠ [] ∨ ∃ rule ∈ config.rules, rule.mode ≠ .dnat))) .schemaUnsupported
  require (∀ rule ∈ config.rules, rule.requiredSchemaVersion ≤ config.schemaVersion)
    .schemaUnsupported
  require (config.rules.length ≤ maxRules) .rulesTooMany
  require (config.rules = [] ∨ config.desiredHash ≠ "") .desiredHashMissing
  require (config.desiredHash = "" ∨
    config.desiredHash.utf8ByteSize = 64 ∧ config.desiredHash.toList.all isLowerHex)
    .desiredHashInvalid
  require (config.desiredHash = "" ∨
    config.desiredHash = portForwardingDesiredHash codec config.rules) .desiredHashMismatch
  validateRules [] config.rules
  validateCleanupRules config.rules [] config.cleanupRules
  require (estimatedNftProgramBytes config.rules ≤ maxNftScriptBytes) .programTooLarge
  validateCrossRuleOverlaps config.rules

end Vpsman.PortForward
