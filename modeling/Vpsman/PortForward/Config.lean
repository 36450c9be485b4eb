import Vpsman.Lib.Net
import Vpsman.Lib.Text
import Vpsman.Lib.Word
import Vpsman.Lib.Windows

/-! # Port-forwarding configurations and their validation

A rule sends the incoming ports of its mappings, or of its pool, to a target address
(DNAT), to other ports of the host itself (Redirect), or to an adapter of its own.
-/

namespace Vpsman.PortForward

open Vpsman.Lib

def schemaVersion : Nat := 1

def modesSchemaVersion : Nat := 2

def poolsSchemaVersion : Nat := 3

def adapterContractVersion : Nat := 2

def maxRules : Nat := 512

def maxMappings : Nat := 256

def maxNameBytes : Nat := 128

def maxNftScriptBytes : Nat := 8 * 1024 * 1024

inductive PortForwardMode where
  | dnat
  | redirect
  | customAdapter
  deriving Repr, DecidableEq

inductive PortForwardAddressFamily where
  | ipv4
  | ipv6
  | both
  deriving Repr, DecidableEq

inductive PortForwardProtocol where
  | tcp
  | udp
  | both
  deriving Repr, DecidableEq

def PortForwardProtocol.transports : PortForwardProtocol → List Transport
  | .tcp => [.tcp]
  | .udp => [.udp]
  | .both => [.tcp, .udp]

structure PortRange where
  start : UInt16
  end_ : UInt16
  deriving Repr, DecidableEq

structure PortForwardMapping where
  incoming : PortRange
  target : PortRange
  deriving Repr, DecidableEq

inductive PortForwardPoolStrategy where
  | roundRobin
  | random
  | sourceIpHash
  | leastConnections
  | consistentSourceIpHash
  deriving Repr, DecidableEq

inductive PortForwardUpstreamRole where
  | primary
  | backup
  deriving Repr, DecidableEq

inductive PortForwardFailurePolicy where
  | off
  | temporary (threshold windowSecs retryAfterSecs : Nat)
  deriving Repr, DecidableEq

inductive PortForwardRetryPolicy where
  | off
  | connectFailure (maxAttempts retryBudgetSecs : Option Nat)
  deriving Repr, DecidableEq

structure PortForwardUpstream where
  id : Uuid
  targetIp : IpAddr
  targetHostname : Option String
  ports : PortRange
  weight : UInt32
  role : PortForwardUpstreamRole
  enabled : Bool
  failurePolicy : Option PortForwardFailurePolicy
  deriving Repr, DecidableEq

structure PortForwardPool where
  incoming : List PortRange
  strategy : PortForwardPoolStrategy
  upstreams : List PortForwardUpstream
  connectTimeoutSecs : Option Nat
  retryPolicy : Option PortForwardRetryPolicy
  deriving Repr, DecidableEq

structure RuntimeTunnelCommand where
  argv : List String
  maxTimeoutSecs : Nat
  maxOutputBytes : Nat
  deriving Repr, DecidableEq

structure PortForwardAdapterCommands where
  definitionId : Uuid
  definitionName : String
  definitionHash : String
  contractVersion : Nat
  apply : RuntimeTunnelCommand
  remove : RuntimeTunnelCommand
  status : RuntimeTunnelCommand
  deriving Repr, DecidableEq

structure PortForwardRule where
  id : Uuid
  revision : Int64
  name : String
  protocol : PortForwardProtocol
  targetIp : Option IpAddr
  mappings : List PortForwardMapping
  pool : Option PortForwardPool
  masquerade : Bool
  mode : PortForwardMode
  addressFamily : Option PortForwardAddressFamily
  adapter : Option PortForwardAdapterCommands
  deriving Repr, DecidableEq

structure PortForwardCleanupRule where
  ruleId : Uuid
  revision : Int64
  deriving Repr, DecidableEq

structure AgentPortForwardingConfig where
  schemaVersion : Nat := PortForward.schemaVersion
  desiredHash : String := ""
  rules : List PortForwardRule := []
  cleanupRules : List PortForwardCleanupRule := []
  nativeCleanupPending : Bool := false
  deriving Repr, DecidableEq

inductive PortForwardValidationError where
  | poolInvalid (message : String)
  | portZero
  | rangeReversed
  | mappingsEmpty
  | mappingsTooMany
  | incomingOverlap
  | targetCardinalityMismatch
  | nameEmpty
  | nameTooLong
  | targetIpInvalid
  | modeFieldsInvalid
  | adapterCommandInvalid
  | schemaUnsupported
  | desiredHashMissing
  | desiredHashInvalid
  | desiredHashMismatch
  | rulesTooMany
  | programTooLarge
  | duplicateRuleId
  | cleanupRuleIdInvalid
  | crossRuleOverlap
  deriving Repr, DecidableEq

/-- Fail with this error unless the condition holds. -/
def require (condition : Prop) [Decidable condition] (error : PortForwardValidationError) :
    Except PortForwardValidationError Unit :=
  if condition then .ok () else .error error

namespace PortRange

def toRange (range : PortRange) : Range := ⟨range.start.toNat, range.end_.toNat⟩

/-- The number of ports; only asked of a range that is not reversed. -/
def cardinality (range : PortRange) : Nat := range.end_.toNat - range.start.toNat + 1

def isSingle (range : PortRange) : Bool := range.start == range.end_

def Overlaps (left right : PortRange) : Prop := left.toRange.Overlaps right.toRange

instance (left right : PortRange) : Decidable (left.Overlaps right) :=
  inferInstanceAs (Decidable (Range.Overlaps _ _))

def validate (range : PortRange) : Except PortForwardValidationError Unit := do
  require (range.start ≠ 0 ∧ range.end_ ≠ 0) .portZero
  require (range.start ≤ range.end_) .rangeReversed

/-- The sort key `(start, end)` as one number. -/
def key (range : PortRange) : Nat := range.start.toNat * 65536 + range.end_.toNat

def Le (left right : PortRange) : Prop := left.key ≤ right.key

instance : DecidableRel Le := fun left right => inferInstanceAs (Decidable (left.key ≤ right.key))

end PortRange

end Vpsman.PortForward
