import Vpsman.Lib.Precedence
import Vpsman.Selector.Token

/-! # The selector parser

With `fieldAliases` the expressions are fleet selectors, in which a word is a shorthand for a
predicate on a VPS; without, they search typed fields and their nesting is limited.
-/

namespace Vpsman.Selector

open Vpsman.Lib Vpsman.Lib.Precedence

inductive ComparisonOperator where
  | eq
  | notEq
  | lt
  | lte
  | gt
  | gte
  deriving Repr, DecidableEq

inductive ListValue where
  | literal (value : Text)
  | regex (pattern : Text)
  deriving Repr, DecidableEq

inductive Predicate where
  | bare (raw : Text)
  | comparison (field : Text) (operator : ComparisonOperator) (value : Text)
  | membership (field : Text) (negated : Bool) (values : List ListValue)
  | event (name : Text)
  | untagged
  deriving Repr, DecidableEq

abbrev Expression := Formula Predicate

/-- The regular expressions: the error of a pattern that does not compile, and whether a text
    has a match. -/
structure RegexEngine where
  compile : Text → Except String Unit
  isMatch : Text → Text → Bool

/-! ## Fields and shorthands -/

def canonicalField (field : Text) : Text :=
  let lower := asciiLower field
  if lower ∈ ["id", "client_id", "vps.id", "vps.client_id"].map String.toList then "vps.id".toList
  else if lower ∈ ["name", "display_name", "vps.name", "vps.display_name"].map String.toList then
    "vps.display_name".toList
  else if lower ∈ ["status", "vps.status"].map String.toList then "vps.status".toList
  else if lower ∈ ["tag", "tags", "vps.tag", "vps.tags"].map String.toList then "vps.tag".toList
  else if lower ∈ ["last_seen", "last_seen_at", "vps.last_seen", "vps.last_seen_at"].map
      String.toList then "vps.last_seen_at".toList
  else if lower ∈ ["region", "vps.region"].map String.toList then "vps.region".toList
  else lower

theorem canonicalField_asciiLower : canonicalField (asciiLower field) = canonicalField field := by
  simp only [canonicalField, asciiLower_asciiLower]

/-- The fields that have other names. -/
def canonicalNames : List Text :=
  ["vps.id", "vps.display_name", "vps.status", "vps.tag", "vps.last_seen_at", "vps.region"].map
    String.toList

theorem canonicalField_of_mem : ∀ name ∈ canonicalNames, canonicalField name = name := by decide

theorem canonicalField_cases (field : Text) :
    canonicalField field ∈ canonicalNames ∨ canonicalField field = asciiLower field := by
  unfold canonicalField canonicalNames
  dsimp only
  split_ifs <;> simp

theorem canonicalField_canonicalField (field : Text) :
    canonicalField (canonicalField field) = canonicalField field := by
  rcases canonicalField_cases field with known | lower
  · exact canonicalField_of_mem _ known
  · rw [lower, canonicalField_asciiLower, lower]

def eventPrefixes : List String :=
  ["interval.", "vps.status.", "vps.tag_event:", "vps.tag_event.added:", "vps.tag_event.removed:",
    "job.status:", "job.status.become_", "job.type:", "job.target.status:", "schedule.id:",
    "schedule.name:", "alert.severity:", "alert.category:"]

def eventNames : List String :=
  ["server.on_start", "schedule.due", "schedule.job_finished", "schedule.failed",
    "vps.tag_changed", "job.created", "alert.triggered", "alert.resolved", "telemetry.rollup",
    "telemetry.network_rate", "telemetry.tunnel"]

def isEventPredicate (raw : Text) : Bool :=
  let lower := asciiLower raw
  eventPrefixes.any (startsWith · lower) || lower ∈ eventNames.map String.toList

def isEventFieldAlias (nameSpace : Text) : Bool :=
  ["job.", "schedule.", "alert.", "telemetry."].any (startsWith · nameSpace)

/-- Membership of one literal in the tags. -/
def tagMembership (value : Text) : Predicate := .membership "vps.tag".toList false [.literal value]

def shorthandPredicate (nameSpace value : Text) : Predicate :=
  let lower := asciiLower nameSpace
  let onField (field : Text) : Predicate :=
    if field = "vps.tag".toList ∨ field = "vps.tags".toList then tagMembership value
    else .comparison field .eq value
  if lower = "id".toList then onField "vps.id".toList
  else if lower = "name".toList then onField "vps.display_name".toList
  else if lower = "status".toList then onField "vps.status".toList
  else if lower ∈ ["tag", "tags", "vps.tag", "vps.tags"].map String.toList then
    onField "vps.tag".toList
  else if lower = "provider".toList then tagMembership ("provider:".toList ++ value)
  else if lower = "country".toList then tagMembership ("country:".toList ++ value)
  else if lower = "region".toList then tagMembership ("region:".toList ++ value)
  else if startsWith "vps." lower then onField (canonicalField nameSpace)
  else if isEventFieldAlias lower then onField (canonicalField nameSpace)
  else tagMembership (nameSpace ++ ':' :: value)

/-- The predicate of a word that no operator follows. -/
def bareWord (fieldAliases : Bool) (raw : Text) : Except String Predicate :=
  if !fieldAliases then
    match splitOnce ':' raw with
    | some (field, value) =>
      if field.isEmpty ∨ value.isEmpty then .error "field:value requires both a field and a value"
      else .ok (.comparison (asciiLower field) .eq value)
    | none => .ok (.bare raw)
  else if asciiLower raw = "untagged".toList then .ok .untagged
  else if isEventPredicate raw then .ok (.event (asciiLower raw))
  else
    match splitOnce ':' raw with
    | some (nameSpace, value) =>
      if nameSpace.isEmpty then .error "selector namespace is empty"
      else if value.isEmpty then .error "selector value is empty"
      else .ok (shorthandPredicate nameSpace value)
    | none => .ok (.bare raw)

/-! ## Predicates -/

def comparisonOperator : TokenKind → Option ComparisonOperator
  | .eq => some .eq
  | .notEq => some .notEq
  | .lt => some .lt
  | .lte => some .lte
  | .gt => some .gt
  | .gte => some .gte
  | _ => none

def parseScalarValue : List TokenKind → Except String (Text × List TokenKind)
  | .word value :: rest | .string value :: rest => .ok (value, rest)
  | .regex _ :: _ => .error "regex scalar values are only supported in lists"
  | _ => .error "comparison is missing a scalar value"

variable (engine : RegexEngine)

def listValue : TokenKind → Except String ListValue
  | .word value | .string value => .ok (.literal value)
  | .regex pattern =>
    match engine.compile pattern with
    | .ok () => .ok (.regex pattern)
    | .error error => .error ("invalid regex list value: " ++ error)
  | _ => .error "membership list contains an invalid value"

/-- The values after the opening bracket; `first` while there is none yet. -/
def parseListItems (first : Bool) : List TokenKind → Except String (List ListValue × List TokenKind)
  | [] => .error "membership list is missing ]"
  | token :: rest =>
    if first ∧ token = .rightBracket then .error "membership list must not be empty"
    else
      match listValue engine token with
      | .error error => .error error
      | .ok value =>
        match rest with
        | .comma :: rest =>
          (parseListItems false rest).map fun (values, rest) => (value :: values, rest)
        | .rightBracket :: rest => .ok ([value], rest)
        | _ :: _ => .error "membership list values must be comma-separated"
        | [] => .error "membership list is missing ]"

def parseListValues : List TokenKind → Except String (List ListValue × List TokenKind)
  | .leftBracket :: rest => parseListItems engine true rest
  | _ => .error "membership comparison is missing ["

def fieldName (fieldAliases : Bool) (raw : Text) : Text :=
  if fieldAliases then canonicalField raw else asciiLower raw

def parsePredicate (fieldAliases : Bool) (raw : Text) (tokens : List TokenKind) :
    Except String (Predicate × List TokenKind) :=
  match tokens with
  | .in_ :: rest =>
    (parseListValues engine rest).map fun (values, rest) =>
      (.membership (fieldName fieldAliases raw) false values, rest)
  | .not :: .in_ :: rest =>
    (parseListValues engine rest).map fun (values, rest) =>
      (.membership (fieldName fieldAliases raw) true values, rest)
  | token :: rest =>
    match comparisonOperator token with
    | some operator =>
      (parseScalarValue rest).map fun (value, rest) =>
        (.comparison (fieldName fieldAliases raw) operator value, rest)
    | none => (bareWord fieldAliases raw).map fun predicate => (predicate, token :: rest)
  | [] => (bareWord fieldAliases raw).map fun predicate => (predicate, [])

/-! ## Expressions -/

def role (fieldAliases : Bool) : TokenKind → Role
  | .or => .or
  | .and => .and
  | .not => .not
  | .leftParen => .group
  | .rightParen => .close
  | .word _ => .word
  | .string _ => if fieldAliases then .other else .literal
  | _ => .other

def strayToken : TokenKind → String
  | .and | .or | .in_ => "operator is missing a left operand"
  | .rightParen => "unexpected closing parenthesis"
  | _ => "predicate must start with a field or shorthand term"

/-- What `parse_primary` does with the token that starts a predicate. -/
def primaryPredicate (fieldAliases : Bool) (token : TokenKind) (rest : List TokenKind) :
    Except String (Predicate × List TokenKind) :=
  match token with
  | .word raw => parsePredicate engine fieldAliases raw rest
  | .string raw => .ok (.bare raw, rest)
  | other => .error (strayToken other)

def nestingLimit : Nat := 64

def language (fieldAliases : Bool) : Language TokenKind Predicate String where
  role := role fieldAliases
  predicate := primaryPredicate engine fieldAliases
  limit := if fieldAliases then none else some nestingLimit
  tooDeep := "Search nesting exceeds 64 levels."
  incomplete := "expression is incomplete"
  stray token _ := strayToken token
  unclosed _ := "missing closing parenthesis"
  inGroup := id
  underNot := id
  afterAnd := id
  beside := id
  afterOr := id

/-- The expression that all tokens are. -/
def parseTokens (fieldAliases : Bool) (tokens : List TokenKind) : Except String Expression :=
  (language engine fieldAliases).parse "unexpected token after expression" tokens

end Vpsman.Selector
