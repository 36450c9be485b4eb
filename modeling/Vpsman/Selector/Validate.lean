import Vpsman.Lib.Check
import Vpsman.Selector.Matching

/-! # From text to checked expressions -/

namespace Vpsman.Selector

open Vpsman.Lib

variable (externals : Externals)

def ruleValueSpelling : String :=
  "VPS rule values use vps.rules:<key>, for example vps.rules:traffic.reset_day"

def validateVpsRuleBare (raw : Text) : Except String Unit :=
  let raw := asciiLower raw
  if raw = vpsRuleField ∨ startsWith "vps.rules." raw then
    .error "choose a VPS rule; use vps.rules:<key>, for example vps.rules:traffic.reset_day"
  else .ok ()

def validateVpsRuleKey (key : Text) : Except String Unit :=
  if key ∈ externals.supportedVpsRuleKeys then .ok ()
  else .error ("unsupported VPS rule key `" ++ String.ofList key ++ "`")

def validateVpsRuleKeyPattern (pattern : Text) : Except String Unit :=
  if hasGlob pattern then .ok () else validateVpsRuleKey externals (asciiLower pattern)

/-- An exact value has to be one that the rule can have. -/
def validateVpsRuleValue (key value : Text) : Except String Unit :=
  if hasGlob value then .ok ()
  else
    match externals.parseVpsRuleValue key value with
    | .ok _ => .ok ()
    | .error error =>
      .error ("invalid value for VPS rule `" ++ String.ofList key ++ "`: " ++ error)

/-- What the right side of an ordered comparison of the rule has to be: the check and its
    description, if the rule can be compared at all. -/
def orderRequirement (key : Text) : Option ((Text → Bool) × String) :=
  let integer (field : String) (inRange : Int → Bool) (text : Text) : Bool :=
    (parsedVpsRuleJsonInteger externals key text field).any inRange
  if key = "traffic.reset_day".toList then
    some (integer "day" fun n => 1 ≤ n ∧ n ≤ 31, "a day from 1 to 31")
  else if key ∈ ["traffic.quota.total", "traffic.quota.rx", "traffic.quota.tx"].map String.toList
  then
    some (integer "bytes" fun n => 0 ≤ n,
      "a positive byte size using B, KB, MB, GB, TB, KiB, MiB, GiB, or TiB")
  else if key = "network.port_speed".toList then
    some (integer "bps" fun n => 0 < n, "a positive speed using bps, Kbps, Mbps, Gbps, or Tbps")
  else if key = "billing.price".toList then
    some (fun text => (billingPrice externals text false).isSome,
      "a positive amount with currency and period, such as 50 USD/m")
  else none

def validateVpsRuleOrderRhs (key expected : Text) : Except String Unit :=
  match orderRequirement externals key with
  | none => .error ("VPS rule `" ++ String.ofList key ++ "` does not support ordered comparisons")
  | some (valid, requirement) =>
    if valid expected then .ok ()
    else .error ("VPS rule `" ++ String.ofList key ++ "` ordered comparison requires " ++ requirement)

def validateVpsRuleComparison (field : Text) (operator : ComparisonOperator) (expected : Text) :
    Except String Unit :=
  let field := asciiLower field
  if field = vpsRuleField then
    match operator with
    | .eq => validateVpsRuleKeyPattern externals expected
    | .notEq => .error "vps.rules key absence uses !(vps.rules:<key>), not !="
    | .lt | .lte | .gt | .gte =>
      .error "vps.rules key presence does not support ordered comparisons"
  else
    match vpsRuleKey field with
    | none => if startsWith "vps.rules." field then .error ruleValueSpelling else .ok ()
    | some key => do
      validateVpsRuleKey externals key
      if isOrderOperator operator then validateVpsRuleOrderRhs externals key expected
      else validateVpsRuleValue externals key expected

def validateLiterals (check : Text → Except String Unit) (values : List ListValue) :
    Except String Unit :=
  values.forM fun
    | .literal value => check value
    | .regex _ => .ok ()

def validateVpsRuleMembership (field : Text) (negated : Bool) (values : List ListValue) :
    Except String Unit :=
  let field := asciiLower field
  if field = vpsRuleField then
    if negated then
      .error "vps.rules key absence uses unary ! around a presence expression, not `not in`"
    else validateLiterals (validateVpsRuleKeyPattern externals) values
  else
    match vpsRuleKey field with
    | some key => do
      validateVpsRuleKey externals key
      validateLiterals (validateVpsRuleValue externals key) values
    | none => if startsWith "vps.rules." field then .error ruleValueSpelling else .ok ()

def validatePredicate : Predicate → Except String Unit
  | .comparison field operator expected => validateVpsRuleComparison externals field operator expected
  | .membership field negated values => validateVpsRuleMembership externals field negated values
  | .bare raw => validateVpsRuleBare raw
  | .event _ | .untagged => .ok ()

def validateExpression : Expression → Except String Unit
  | .leaf predicate => validatePredicate externals predicate
  | .not inner => validateExpression inner
  | .and left right | .or left right => do
    validateExpression left
    validateExpression right

def maxFieldTokens : Nat := 1024

def parseExpressionWithAliases (input : Text) (fieldAliases : Bool) :
    Except String (Option Expression) := do
  let tokens ← tokenize input
  if !fieldAliases && maxFieldTokens < tokens.length then
    throw "Search expression is too large (maximum 1,024 tokens)."
  else if tokens.isEmpty then
    if (trim input).isEmpty then pure none else throw "expression is empty"
  else do
    let expression ← parseTokens externals.regex fieldAliases tokens
    validateExpression externals expression
    pure (some expression)

def parseExpression (input : Text) : Except String (Option Expression) :=
  parseExpressionWithAliases externals input true

variable {externals : Externals}

theorem parseTokens_nonempty (parsed : parseTokens engine true tokens = .ok expression) :
    tokens ≠ [] := by
  rintro rfl
  cases parsed

theorem parseExpression_some :
    parseExpression externals input = .ok (some expression) ↔
      ∃ tokens, tokenize input = .ok tokens ∧
        parseTokens externals.regex true tokens = .ok expression ∧
        validateExpression externals expression = .ok () := by
  rw [parseExpression, parseExpressionWithAliases, bind_ok]
  refine exists_congr fun tokens => and_congr_right fun _ => ?_
  constructor
  · intro parsed
    simp only [Bool.not_true, Bool.false_and, Bool.false_eq_true, if_false] at parsed
    split at parsed
    · split at parsed <;> cases parsed
    · obtain ⟨found, parsed, checked⟩ := bind_ok.mp parsed
      obtain ⟨valid, same⟩ := check_then_ok.mp checked
      cases same
      exact ⟨parsed, valid⟩
  · rintro ⟨parsed, valid⟩
    have nonempty : tokens.isEmpty = false := by simp [parseTokens_nonempty parsed]
    simp only [Bool.not_true, Bool.false_and, Bool.false_eq_true, if_false, nonempty, parsed]
    exact check_then_ok.mpr ⟨valid, rfl⟩

end Vpsman.Selector
