import Vpsman.Lib.Glob
import Vpsman.Selector.Context
import Vpsman.Selector.Parser

/-! # Evaluation of expressions -/

namespace Vpsman.Selector

open Vpsman.Lib

/-! ## Literals -/

def utf8Bytes (text : Text) : List UInt8 := text.flatMap String.utf8EncodeChar

def hasGlob (text : Text) : Bool := text.contains '*' || text.contains '?'

/-- Matching is on bytes: a question mark stands for one byte. -/
def globMatches (value pattern : Text) : Bool := glob 63 42 (utf8Bytes value) (utf8Bytes pattern)

def literalMatches (value pattern : Text) (allowContains : Bool) : Bool :=
  let value := asciiLower value
  let pattern := asciiLower pattern
  if hasGlob pattern then globMatches value pattern
  else if allowContains then pattern <:+: value
  else value = pattern

/-! ## Numbers and times -/

/-- `str::parse` for signed integers of this many bits. -/
def parseSigned (bits : Nat) (text : Text) : Option Int :=
  let (negative, digits) := match text with
    | '-' :: digits => (true, digits)
    | '+' :: digits => (false, digits)
    | digits => (false, digits)
  if digits.isEmpty ∨ ¬ digits.all Char.isDigit then none
  else
    let magnitude : Int := digits.foldl (fun n c => n * 10 + (c.toNat - '0'.toNat)) 0
    let value := if negative then -magnitude else magnitude
    if -2 ^ (bits - 1) ≤ value ∧ value < 2 ^ (bits - 1) then some value else none

structure ParsedVpsRuleValue where
  raw : Text
  json : Value

/-- What matching uses of other libraries, and the parser of the values of VPS rules. -/
structure Externals where
  regex : RegexEngine
  /-- A text as a finite floating-point number, whose value is rational. -/
  parseFinite : Text → Option Rat
  /-- Seconds of an RFC 3339 time. -/
  parseRfc3339 : Text → Option Int
  supportedVpsRuleKeys : List Text
  parseVpsRuleValue : Text → Text → Except String ParsedVpsRuleValue

variable (externals : Externals)

def parseTimestamp (text : Text) : Option Int :=
  (parseSigned 64 text).or (externals.parseRfc3339 text)

def isOrderOperator : ComparisonOperator → Bool
  | .lt | .lte | .gt | .gte => true
  | .eq | .notEq => false

/-- Comparison by an order operator; the others do not come here. -/
def compareOrder {α : Type} [LT α] [DecidableLT α] (actual expected : α) :
    ComparisonOperator → Bool
  | .lt => actual < expected
  | .lte => ¬ expected < actual
  | .gt => expected < actual
  | .gte => ¬ actual < expected
  | .eq | .notEq => false

def fitsI64 (value : Int) : Bool := -2 ^ 63 ≤ value ∧ value < 2 ^ 63

def fieldValueTimestamp : FieldValue → Option Int
  | .string value => parseTimestamp externals value
  | .number value => if fitsI64 value then some value else none
  | .decimal text => do
    let value ← externals.parseFinite text
    if value.den = 1 ∧ -2 ^ 63 ≤ value.num ∧ value.num ≤ 2 ^ 63 then
      -- The cast saturates at the largest integer, to which 2 ^ 63 is rounded up.
      some (min value.num (2 ^ 63 - 1))
    else none

/-! ## Field values -/

def fieldValueLiteralMatches (actual : FieldValue) (expected : Text) : Bool :=
  match actual with
  | .string actual => literalMatches actual expected false
  | .number actual => parseSigned 128 expected = some actual
  | .decimal actual =>
    match externals.parseFinite actual, externals.parseFinite expected with
    | some actual, some expected => actual = expected
    | _, _ => false

/-- The comparison of times, where the values are not numbers of one kind. -/
def orderTimestamps (actual : FieldValue) (operator : ComparisonOperator) (expected : Text) :
    Bool :=
  match fieldValueTimestamp externals actual, parseTimestamp externals expected with
  | some actual, some expected => compareOrder actual expected operator
  | _, _ => false

def orderFieldValue (actual : FieldValue) (operator : ComparisonOperator) (expected : Text) :
    Bool :=
  match actual with
  | .number number =>
    match parseSigned 128 expected with
    | some expected => compareOrder number expected operator
    | none => orderTimestamps externals actual operator expected
  | .decimal text =>
    match externals.parseFinite text, externals.parseFinite expected with
    | some number, some expected => compareOrder number expected operator
    | _, _ => orderTimestamps externals actual operator expected
  | .string _ => orderTimestamps externals actual operator expected

def compareFieldValue (actual : FieldValue) (operator : ComparisonOperator) (expected : Text) :
    Bool :=
  match operator with
  | .eq => fieldValueLiteralMatches externals actual expected
  | .notEq => !fieldValueLiteralMatches externals actual expected
  | .lt | .lte | .gt | .gte => orderFieldValue externals actual operator expected

def regexMatches (pattern text : Text) : Bool :=
  match externals.regex.compile pattern with
  | .ok () => externals.regex.isMatch pattern text
  | .error _ => false

def listValuesMatch (actual : Text) (expected : List ListValue) : Bool :=
  expected.any fun
    | .literal expected => literalMatches actual expected false
    | .regex pattern => regexMatches externals pattern actual

def FieldValue.text : FieldValue → Text
  | .string value => value
  | .number value => (toString value).toList
  | .decimal text => text

def fieldValues (context : ExpressionContext) (field : Text) : Option (List FieldValue) :=
  let field := canonicalField field
  (vpsRuleFieldValues context.vpsRules field).or <|
    (context.vps.bind fun vps => vpsFieldValues vps field).or <| do
      let (root, path) ← splitOnce '.' field
      let value ← context.root root
      jsonPathValues value path

/-! ## VPS rules -/

def normalizedRuleValues (key : Text) (actual : VpsRuleValue) (expected : Text) :
    Option (Text × Text) := do
  let actual ← (externals.parseVpsRuleValue key actual.valueRaw).toOption
  let expected ← (externals.parseVpsRuleValue key expected).toOption
  pure (actual.raw, expected.raw)

/-- The rule that a field `vps.rules:<key>` names, if the VPS has it. -/
def namedRule (rules : Option VpsRuleContext) (field : Text) : Option (Text × VpsRuleValue) := do
  let key ← vpsRuleKey (asciiLower field)
  let rules ← rules
  let rule ← rules.lookup key
  pure (key, rule)

def vpsRuleExactComparisonMatches (rules : Option VpsRuleContext) (field : Text)
    (operator : ComparisonOperator) (expected : Text) : Bool :=
  match namedRule rules field with
  | none => false
  | some (key, rule) =>
    match normalizedRuleValues externals key rule expected with
    | none => false
    | some (actual, expected) =>
      let matched := asciiLower actual = asciiLower expected
      match operator with
      | .eq => matched
      | .notEq => ¬ matched
      | _ => false

def vpsRuleMembershipMatches (rules : Option VpsRuleContext) (field : Text) (negated : Bool)
    (values : List ListValue) : Bool :=
  match namedRule rules field with
  | none => false
  | some (key, rule) =>
    let matched := values.any fun
      | .regex pattern => regexMatches externals pattern rule.valueRaw
      | .literal expected =>
        if hasGlob expected then literalMatches rule.valueRaw expected false
        else (normalizedRuleValues externals key rule expected).any fun (actual, expected) =>
          asciiLower actual = asciiLower expected
    if negated then !matched else matched

def vpsRuleJsonInteger (value : Value) (field : String) : Option Int :=
  match value.get field.toList with
  | some (.integer value) => some value
  | some (.string text) => parseSigned 128 text
  | _ => none

def parsedVpsRuleJsonInteger (key text : Text) (field : String) : Option Int := do
  let parsed ← (externals.parseVpsRuleValue key text).toOption
  vpsRuleJsonInteger parsed.json field

structure BillingPriceOrderValue where
  amountMinor : Int
  currency : Text
  period : Text
  deriving Repr, DecidableEq

def parseBillingAmountMinor (text : Text) : Option Int := do
  let (whole, fraction) ← splitOnce '.' text
  if whole.isEmpty ∨ ¬ whole.all Char.isDigit ∨ fraction.length ≠ 2 ∨ ¬ fraction.all Char.isDigit
  then none
  else do
    let whole ← parseSigned 128 whole
    let fraction ← parseSigned 128 fraction
    let amount := whole * 100 + fraction
    if amount < 2 ^ 127 then some amount else none

def Value.asText : Value → Option Text
  | .string text => some text
  | _ => none

def billingPriceFromJson (value : Value) (allowZero : Bool) : Option BillingPriceOrderValue :=
  match value.get "disabled".toList with
  | some (.bool true) => none
  | _ => do
    let price ← (← value.get "price".toList).asText
    let amountMinor ← parseBillingAmountMinor price
    if !allowZero && amountMinor == 0 then none
    else do
      let currency ← (← value.get "currency".toList).asText
      let period ← (← value.get "period_code".toList).asText
      pure { amountMinor, currency := currency.map Char.toUpper, period := asciiLower period }

def billingPrice (text : Text) (allowZero : Bool) : Option BillingPriceOrderValue := do
  let parsed ← (externals.parseVpsRuleValue "billing.price".toList text).toOption
  billingPriceFromJson parsed.json allowZero

/-- Both texts as integers of the field that are in range, compared. -/
def orderIntegers (key actual expected : Text) (field : String) (inRange : Int → Bool)
    (operator : ComparisonOperator) : Bool :=
  match (parsedVpsRuleJsonInteger externals key actual field).filter inRange,
      (parsedVpsRuleJsonInteger externals key expected field).filter inRange with
  | some actual, some expected => compareOrder actual expected operator
  | _, _ => false

def vpsRuleOrderMatches (rules : Option VpsRuleContext) (field : Text)
    (operator : ComparisonOperator) (expected : Text) : Bool :=
  match namedRule rules field with
  | none => false
  | some (key, rule) =>
    if key = "traffic.reset_day".toList then
      orderIntegers externals key rule.valueRaw expected "day" (fun n => 1 ≤ n ∧ n ≤ 31) operator
    else if key ∈ ["traffic.quota.total", "traffic.quota.rx", "traffic.quota.tx"].map String.toList
    then orderIntegers externals key rule.valueRaw expected "bytes" (fun n => 0 ≤ n) operator
    else if key = "network.port_speed".toList then
      orderIntegers externals key rule.valueRaw expected "bps" (fun n => 0 < n) operator
    else if key = "billing.price".toList then
      match billingPrice externals rule.valueRaw true, billingPrice externals expected false with
      | some actual, some expected =>
        actual.currency = expected.currency ∧ actual.period = expected.period ∧
          compareOrder actual.amountMinor expected.amountMinor operator
      | _, _ => false
    else false

/-! ## Predicates and expressions -/

def bareMatches (context : ExpressionContext) (raw : Text) : Bool :=
  match context.vps with
  | none => false
  | some vps => literalMatches vps.id raw true || literalMatches vps.displayName raw true

def comparisonMatches (context : ExpressionContext) (field : Text) (operator : ComparisonOperator)
    (expected : Text) : Bool :=
  let ofRule := startsWith "vps.rules:" (asciiLower field)
  if !isOrderOperator operator && !hasGlob expected && ofRule then
    vpsRuleExactComparisonMatches externals context.vpsRules field operator expected
  else if isOrderOperator operator && ofRule then
    vpsRuleOrderMatches externals context.vpsRules field operator expected
  else
    match fieldValues context field with
    | none => false
    | some values => values.any fun actual => compareFieldValue externals actual operator expected

def membershipMatches (context : ExpressionContext) (field : Text) (negated : Bool)
    (values : List ListValue) : Bool :=
  if startsWith "vps.rules:" (asciiLower field) then
    vpsRuleMembershipMatches externals context.vpsRules field negated values
  else
    match fieldValues context field with
    | none => false
    | some actuals =>
      let matched := actuals.any fun actual => listValuesMatch externals actual.text values
      if negated then !matched else matched

def predicateMatches (context : ExpressionContext) : Predicate → Bool
  | .bare raw => bareMatches context raw
  | .comparison field operator value => comparisonMatches externals context field operator value
  | .membership field negated values => membershipMatches externals context field negated values
  | .event name => context.eventPredicates.contains name
  | .untagged => context.vps.any fun vps => vps.tags.isEmpty

def expressionMatches (context : ExpressionContext) (expression : Expression) : Bool :=
  expression.eval (predicateMatches externals context)

section Congruence

variable {context context' : ExpressionContext}

/-- A match on a field depends on the context only through the rules and the field's values. -/
theorem comparisonMatches_congr (rules : context'.vpsRules = context.vpsRules)
    (values : fieldValues context' field = fieldValues context field) :
    comparisonMatches externals context' field operator expected =
      comparisonMatches externals context field operator expected := by
  unfold comparisonMatches
  rw [rules, values]

theorem membershipMatches_congr (rules : context'.vpsRules = context.vpsRules)
    (values : fieldValues context' field = fieldValues context field) :
    membershipMatches externals context' field negated expected =
      membershipMatches externals context field negated expected := by
  unfold membershipMatches
  rw [rules, values]

end Congruence

/-- Externals of which a selector of ids uses nothing. -/
def noExternals : Externals where
  regex := { compile := fun _ => .error "no patterns", isMatch := fun _ _ => false }
  parseFinite _ := none
  parseRfc3339 _ := none
  supportedVpsRuleKeys := []
  parseVpsRuleValue _ _ := .error "no rules"

end Vpsman.Selector
