import Vpsman.Lib.Text

/-! # What expressions are evaluated on -/

namespace Vpsman.Selector

open Vpsman.Lib

/-- JSON values as the server holds them; a number is an integer of 64 bits or, with the text
    it displays as, a finite decimal. -/
inductive Value where
  | null
  | bool (value : Bool)
  | integer (value : Int)
  | decimal (text : Text)
  | string (value : Text)
  | array (values : List Value)
  | object (members : List (Text × Value))

def Value.get : Value → Text → Option Value
  | .object members, name => members.lookup name
  | _, _ => none

structure VpsMetadata where
  id : Text
  displayName : Text
  status : Text
  tags : List Text
  registrationIp : Option Text := none
  lastIp : Option Text := none
  lastSeenAt : Option Text := none
  internalBuildNumber : Option Nat := none
  staleSince : Option Text := none
  staleReason : Option Text := none
  extra : Option Value := none

structure VpsRuleValue where
  valueRaw : Text

/-- The values of the rules that a VPS has, by key. -/
abbrev VpsRuleContext := List (Text × VpsRuleValue)

structure ExpressionContext where
  vps : Option VpsMetadata := none
  vpsRules : Option VpsRuleContext := none
  rule : Option Value := none
  event : Option Value := none
  query : Option Value := none
  server : Option Value := none
  job : Option Value := none
  schedule : Option Value := none
  alert : Option Value := none
  policyRule : Option Value := none
  telemetry : Option Value := none
  objects : List (Text × Value) := []
  eventPredicates : List Text := []

def ExpressionContext.forVps (vps : VpsMetadata) : ExpressionContext := { vps := some vps }

inductive FieldValue where
  | string (value : Text)
  | number (value : Int)
  | decimal (text : Text)
  deriving Repr, DecidableEq

/-! ## Values of fields -/

mutual

def Value.fieldValues : Value → Option (List FieldValue)
  | .string value => some [.string value]
  | .integer value => some [.number value]
  | .decimal text => some [.decimal text]
  | .bool value => some [.string (toString value).toList]
  | .array values => some (Value.flattened values)
  | .null | .object _ => none

/-- The values of those elements that have some. -/
def Value.flattened : List Value → List FieldValue
  | [] => []
  | value :: rest => (value.fieldValues.getD []) ++ Value.flattened rest

end

/-- The parts of a text between these characters. -/
def splitAll (separator : Char) : Text → List Text
  | [] => [[]]
  | c :: rest =>
    if c = separator then [] :: splitAll separator rest
    else
      match splitAll separator rest with
      | first :: others => (c :: first) :: others
      | [] => [[c]]

def jsonPathValues (value : Value) (path : Text) : Option (List FieldValue) := do
  let found ← (splitAll '.' path).foldlM
    (fun current segment => if segment.isEmpty then none else current.get segment) value
  found.fieldValues

/-- `trim_start_matches`: the text without this start, as often as it is there. -/
def trimStartMatches (start : Text) : Nat → Text → Text
  | 0, text => text
  | times + 1, text =>
    if start.isPrefixOf text then trimStartMatches start times (text.drop start.length) else text

def tagAliasValues (tags : List Text) (start : String) : List FieldValue :=
  tags.filterMap fun tag =>
    if startsWith start (asciiLower tag) then some (.string (tag.drop start.length)) else none

def optionStringValue (value : Option Text) : Option (List FieldValue) :=
  value.map fun value => [.string value]

def vpsFieldValues (vps : VpsMetadata) (field : Text) : Option (List FieldValue) :=
  if field = "vps.id".toList then some [.string vps.id]
  else if field = "vps.display_name".toList then some [.string vps.displayName]
  else if field = "vps.status".toList then some [.string vps.status]
  else if field = "vps.tag".toList then some (vps.tags.map .string)
  else if field = "vps.provider".toList then some (tagAliasValues vps.tags "provider:")
  else if field = "vps.country".toList then some (tagAliasValues vps.tags "country:")
  else if field = "vps.region".toList then some (tagAliasValues vps.tags "region:")
  else if field = "vps.registration_ip".toList then optionStringValue vps.registrationIp
  else if field = "vps.last_ip".toList then optionStringValue vps.lastIp
  else if field = "vps.last_seen_at".toList then optionStringValue vps.lastSeenAt
  else if field = "vps.internal_build_number".toList then
    vps.internalBuildNumber.map fun value => [.number value]
  else if field = "vps.stale_since".toList then optionStringValue vps.staleSince
  else if field = "vps.stale_reason".toList then optionStringValue vps.staleReason
  else if startsWith "vps." field then
    vps.extra.bind fun extra =>
      jsonPathValues extra (trimStartMatches "vps.".toList field.length field)
  else none

def vpsRuleField : Text := "vps.rules".toList

/-- The key of a field `vps.rules:<key>`. -/
def vpsRuleKey (field : Text) : Option Text :=
  if startsWith "vps.rules:" field then some (field.drop "vps.rules:".length) else none

def vpsRuleFieldValues (rules : Option VpsRuleContext) (field : Text) : Option (List FieldValue) :=
  if field = vpsRuleField then rules.map fun rules => rules.map fun rule => .string rule.1
  else do
    let key ← vpsRuleKey field
    let rules ← rules
    let rule ← rules.lookup key
    pure [.string rule.valueRaw]

def ExpressionContext.root (context : ExpressionContext) (name : Text) : Option Value :=
  if name = "rule".toList then context.rule
  else if name = "event".toList then context.event
  else if name = "query".toList then context.query
  else if name = "server".toList then context.server
  else if name = "job".toList then context.job
  else if name = "schedule".toList then context.schedule
  else if name = "alert".toList then context.alert
  else if name = "policy_rule".toList then context.policyRule
  else if name = "telemetry".toList then context.telemetry
  else context.objects.lookup name

end Vpsman.Selector
