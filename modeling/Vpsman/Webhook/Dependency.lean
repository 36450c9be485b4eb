import Vpsman.Selector.Truth
import Vpsman.Template.Paths

/-! # What webhook rules read of a VPS

An event is matched against a rule's expression once for each VPS. Rows that were kept of
deleted VPSs take part only if a scan of the expression finds that it reads no more of a VPS
than its id, so the scan must not miss a field.
-/

namespace Vpsman.Selector.ExpressionContext

open Vpsman.Lib

def withEventPredicate (context : ExpressionContext) (predicate : Text) : ExpressionContext :=
  { context with eventPredicates := asciiLower predicate :: context.eventPredicates }

def withVpsRules (context : ExpressionContext) (vpsRules : VpsRuleContext) : ExpressionContext :=
  { context with vpsRules := some vpsRules }

def withJsonRoot (context : ExpressionContext) (root : Text) (value : Value) : ExpressionContext :=
  let root := asciiLower root
  if root = "rule".toList then { context with rule := some value }
  else if root = "event".toList then { context with event := some value }
  else if root = "query".toList then { context with query := some value }
  else if root = "server".toList then { context with server := some value }
  else if root = "job".toList then { context with job := some value }
  else if root = "schedule".toList then { context with schedule := some value }
  else if root = "alert".toList then { context with alert := some value }
  else if root = "policy_rule".toList then { context with policyRule := some value }
  else if root = "telemetry".toList then { context with telemetry := some value }
  else { context with objects := (root, value) :: context.objects }

end Vpsman.Selector.ExpressionContext

namespace Vpsman.Webhook

open Vpsman.Lib Vpsman.Lib.Precedence Vpsman.Selector Vpsman.Template

def eventExpressionRoots : List Text :=
  ["server", "job", "schedule", "alert", "telemetry", "event", "policy", "policy_rule",
    "traffic"].map String.toList

structure VpsRow where
  id : Text
  displayName : Text
  status : Text
  tags : List Text
  registrationIp : Option Text
  lastIp : Option Text
  lastSeenAt : Option Text
  internalBuildNumber : Nat
  staleSince : Option Text
  staleReason : Option Text
  capabilities : Value
  vpsRules : VpsRuleContext

structure EventRow where
  kind : Text
  eventPredicates : List Text
  payload : Value

inductive VpsExpressionDependency where
  | none
  | stableIdentity
  | liveState
  deriving Repr, DecidableEq

def VpsExpressionDependency.max : VpsExpressionDependency → VpsExpressionDependency →
    VpsExpressionDependency
  | .none, other | other, .none => other
  | .stableIdentity, .stableIdentity => .stableIdentity
  | _, _ => .liveState

def fieldDependency (field : Text) : VpsExpressionDependency :=
  if field = "vps.id".toList then .stableIdentity
  else if startsWith "vps." field then .liveState
  else .none

def predicateVpsDependency : Predicate → VpsExpressionDependency
  | .event _ => .none
  | .comparison field _ _ | .membership field _ _ => fieldDependency field
  | .bare _ | .untagged => .liveState

def expressionVpsDependency : Expression → VpsExpressionDependency
  | .leaf predicate => predicateVpsDependency predicate
  | .not inner => expressionVpsDependency inner
  | .and left right | .or left right =>
    (expressionVpsDependency left).max (expressionVpsDependency right)

def expressionContextWithEvent (context : ExpressionContext) (event : EventRow) :
    ExpressionContext :=
  let context := (event.kind :: event.eventPredicates).foldl .withEventPredicate context
  eventExpressionRoots.foldl (fun context root => (event.payload.get root).elim context
    (context.withJsonRoot root)) context

def VpsRow.metadata (vps : VpsRow) : VpsMetadata where
  id := vps.id
  displayName := vps.displayName
  status := vps.status
  tags := vps.tags
  registrationIp := vps.registrationIp
  lastIp := vps.lastIp
  lastSeenAt := vps.lastSeenAt
  internalBuildNumber := some vps.internalBuildNumber
  staleSince := vps.staleSince
  staleReason := vps.staleReason
  extra := some (.object [("capabilities".toList, vps.capabilities)])

def expressionContextForEvent (vps : VpsRow) (event : EventRow) : ExpressionContext :=
  let context := (ExpressionContext.forVps vps.metadata).withVpsRules vps.vpsRules
  expressionContextWithEvent context event

def expressionContextForSubjectlessEvent (event : EventRow) : ExpressionContext :=
  expressionContextWithEvent {} event

/-! ## The same event, another VPS -/

/-- The context with another VPS, or none. -/
def onVps (context : ExpressionContext) (vps : Option VpsRow) : ExpressionContext :=
  { context with vps := vps.map VpsRow.metadata, vpsRules := vps.map VpsRow.vpsRules }

theorem withJsonRoot_onVps (context : ExpressionContext) :
    (onVps context vps).withJsonRoot root value = onVps (context.withJsonRoot root value) vps := by
  simp only [ExpressionContext.withJsonRoot]
  split_ifs <;> rfl

theorem expressionContextWithEvent_onVps (context : ExpressionContext) (event : EventRow)
    (vps : Option VpsRow) :
    expressionContextWithEvent (onVps context vps) event =
      onVps (expressionContextWithEvent context event) vps := by
  have predicates (names : List Text) : names.foldl .withEventPredicate (onVps context vps) =
      onVps (names.foldl .withEventPredicate context) vps :=
    List.foldl_hom (onVps · vps) fun _ _ => rfl
  unfold expressionContextWithEvent
  dsimp only
  rw [predicates]
  refine List.foldl_hom (onVps · vps) fun context root => ?_
  cases event.payload.get root with
  | none => rfl
  | some => exact withJsonRoot_onVps context

/-- The rows are the same in what an expression with this dependency reads. -/
def VpsExpressionDependency.Alike (left right : Option VpsRow) : VpsExpressionDependency → Prop
  | .none => True
  | .stableIdentity => left.map VpsRow.id = right.map VpsRow.id
  | .liveState => left = right

section Alike

variable {left right : Option VpsRow} {context : ExpressionContext} {externals : Externals}

theorem alike_max {first second : VpsExpressionDependency}
    (alike : (first.max second).Alike left right) :
    first.Alike left right ∧ second.Alike left right := by
  cases first <;> cases second <;> first
    | exact ⟨alike, alike⟩
    | exact ⟨trivial, alike⟩
    | exact ⟨alike, trivial⟩
    | exact ⟨congrArg _ alike, alike⟩
    | exact ⟨alike, congrArg _ alike⟩

theorem not_rules (other : startsWith "vps." field = false) :
    startsWith "vps.rules:" field = false := by
  by_contra rules
  obtain ⟨rest, rfl⟩ := List.isPrefixOf_iff_prefix.mp (Bool.of_not_eq_false rules)
  cases other

theorem asciiLower_of_canonical (canonical : canonicalField field = field) :
    asciiLower field = field := by
  rcases canonicalField_cases field with known | lower
  · rw [canonical] at known
    exact (show ∀ name ∈ canonicalNames, asciiLower name = name by decide) field known
  · exact lower.symm.trans canonical

theorem fieldValues_of_other (canonical : canonicalField field = field)
    (other : startsWith "vps." field = false) (vps : Option VpsRow) :
    fieldValues (onVps context vps) field = rootFieldValues context field := by
  have noRules (rules : Option VpsRuleContext) : vpsRuleFieldValues rules field = none := by
    have differs : field ≠ vpsRuleField := by
      rintro rfl
      cases other
    simp [vpsRuleFieldValues, differs, vpsRuleKey, not_rules other]
  rw [fieldValues, canonical]
  dsimp only
  rw [noRules, bind_vpsFieldValues other]
  rfl

/-- Fields of rules are read only on the same VPS; any other field has the same values. -/
theorem field_alike (context : ExpressionContext) (canonical : canonicalField field = field)
    (alike : (fieldDependency field).Alike left right) :
    left = right ∨ startsWith "vps.rules:" (asciiLower field) = false ∧
      fieldValues (onVps context left) field = fieldValues (onVps context right) field := by
  rw [asciiLower_of_canonical canonical]
  unfold fieldDependency at alike
  split_ifs at alike with identity ofVps
  · subst identity
    refine .inr ⟨rfl, ?_⟩
    have values (vps : Option VpsRow) : fieldValues (onVps context vps) "vps.id".toList =
        ((vps.map VpsRow.id).map fun id => [.string id]).or
          (rootFieldValues context "vps.id".toList) := by
      cases vps <;> rfl
    rw [values, values, show left.map VpsRow.id = right.map VpsRow.id from alike]
  · exact .inl alike
  · have other := Bool.eq_false_iff.mpr ofVps
    rw [fieldValues_of_other canonical other, fieldValues_of_other canonical other]
    exact .inr ⟨not_rules other, rfl⟩

theorem predicateMatches_alike {predicate : Predicate} (canonical : HasCanonicalField predicate)
    (alike : (predicateVpsDependency predicate).Alike left right) :
    predicateMatches externals (onVps context left) predicate =
      predicateMatches externals (onVps context right) predicate := by
  cases predicate with
  | event => rfl
  | bare | untagged => rw [show left = right from alike]
  | comparison field =>
    rcases field_alike context (canonical field rfl) alike with rfl | ⟨plain, values⟩
    · rfl
    · simp only [predicateMatches, comparisonMatches, plain, values, Bool.and_false,
        Bool.false_eq_true, if_false]
  | membership field =>
    rcases field_alike context (canonical field rfl) alike with rfl | ⟨plain, values⟩
    · rfl
    · simp only [predicateMatches, membershipMatches, plain, values, Bool.false_eq_true, if_false]

theorem expressionMatches_alike (canonical : expression.All HasCanonicalField)
    (alike : (expressionVpsDependency expression).Alike left right) :
    expressionMatches externals (onVps context left) expression =
      expressionMatches externals (onVps context right) expression := by
  unfold expressionMatches
  induction expression with
  | leaf => exact predicateMatches_alike canonical alike
  | not _ ih => simp [Formula.eval, ih canonical alike]
  | and _ _ ihFirst ihSecond | or _ _ ihFirst ihSecond =>
    obtain ⟨first, second⟩ := alike_max alike
    simp [Formula.eval, ihFirst canonical.1 first, ihSecond canonical.2 second]

end Alike

/-- Whether an event matches depends on no more than the scan finds: on nothing of the VPS, so
    that there need not be one, or on its id alone. -/
theorem vps_dependency_sound (externals : Externals) (input : Text) (expression : Expression)
    (parsed : parseExpression externals input = .ok (some expression)) (event : EventRow)
    (left right : VpsRow) :
    let matched := fun context => expressionMatches externals context expression
    (expressionVpsDependency expression = .none →
      matched (expressionContextForEvent left event) =
          matched (expressionContextForEvent right event) ∧
        matched (expressionContextForEvent left event) =
          matched (expressionContextForSubjectlessEvent event)) ∧
    (expressionVpsDependency expression = .stableIdentity → left.id = right.id →
      matched (expressionContextForEvent left event) =
        matched (expressionContextForEvent right event)) := by
  intro matched
  have same (first second : Option VpsRow)
      (alike : (expressionVpsDependency expression).Alike first second) :
      matched (expressionContextWithEvent (onVps {} first) event) =
        matched (expressionContextWithEvent (onVps {} second) event) := by
    rw [expressionContextWithEvent_onVps, expressionContextWithEvent_onVps]
    exact expressionMatches_alike (parseExpression_hasCanonicalFields parsed) alike
  constructor
  · intro unread
    rw [unread] at same
    exact ⟨same (some left) (some right) trivial, same (some left) none trivial⟩
  · intro identity id
    rw [identity] at same
    exact same (some left) (some right) (congrArg some id)

def edgeRow (displayName : Text) (tags : List Text) : VpsRow where
  id := "edge".toList
  displayName := displayName
  status := "online".toList
  tags := tags
  registrationIp := none
  lastIp := none
  lastSeenAt := none
  internalBuildNumber := 7
  staleSince := none
  staleReason := none
  capabilities := .null
  vpsRules := []

def idIsEdge : Expression := .leaf (.comparison "vps.id".toList .eq "edge".toList)

theorem renamed_row_still_matches :
    parseExpression noExternals "id:edge".toList = .ok (some idIsEdge) ∧
      expressionVpsDependency idIsEdge = .stableIdentity ∧
      expressionMatches noExternals
          (expressionContextForEvent (edgeRow "old".toList []) ⟨"job.created".toList, [], .null⟩)
          idIsEdge =
        expressionMatches noExternals
          (expressionContextForEvent (edgeRow "new".toList ["a".toList])
            ⟨"job.created".toList, [], .null⟩)
          idIsEdge :=
  ⟨rfl, rfl, (vps_dependency_sound noExternals "id:edge".toList idIsEdge rfl _ _ _).2 rfl rfl⟩

end Vpsman.Webhook
