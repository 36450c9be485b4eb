import Vpsman.Selector.Matching

/-! # Event expressions of schedules

A schedule may run on alerts. Its expression names fields of the alert event only, and every
way to satisfy it goes through one of the two lifecycle events.
-/

namespace Vpsman.Selector

open Vpsman.Lib

def alertEventImmutableFields : List String :=
  ["event.id", "event.kind", "event.occurred_at", "event.recorded_at", "alert.id",
    "alert.public_id", "alert.episode_id", "alert.record_kind", "alert.category",
    "alert.severity", "alert.lifecycle_state", "alert.trigger_generation",
    "alert.source_status", "alert.resolution_reason", "alert.title", "alert.detail",
    "alert.client_id", "alert.target_kind", "alert.target_id", "policy.id", "policy.name",
    "policy_rule.id", "policy_rule.name", "policy_rule.rule_version", "policy_rule.rule_kind",
    "policy_rule.evidence_source", "policy_rule.system_seed_key",
    "policy_rule.trigger_meta_condition.kind",
    "policy_rule.trigger_meta_condition.window_seconds",
    "policy_rule.resolve_meta_condition.kind",
    "policy_rule.resolve_meta_condition.window_seconds"]

def alertEventCategories : List String :=
  ["agent_status", "network", "backup", "agent_update", "job", "capability_degraded", "traffic",
    "resource"]

def alertEventSeverities : List String := ["info", "warning", "critical"]

def alertTriggered : Text := "alert.triggered".toList

def alertResolved : Text := "alert.resolved".toList

theorem alertResolved_ne_triggered : alertResolved ≠ alertTriggered := by decide

/-- What follows the label, if the text starts with it. -/
def afterLabel (label : String) (text : Text) : Option Text :=
  if startsWith label text then some (text.drop label.toList.length) else none

def isUnsupportedAlertPredicate : Predicate → Bool
  | .bare _ | .untagged => true
  | .event name =>
    let name := asciiLower name
    !(name = alertTriggered || name = alertResolved ||
      (afterLabel "alert.category:" name).any (· ∈ alertEventCategories.map String.toList) ||
      (afterLabel "alert.severity:" name).any (· ∈ alertEventSeverities.map String.toList))
  | .comparison field _ _ | .membership field _ _ =>
    !(alertEventImmutableFields.any fun allowed => asciiLower field = asciiLower allowed.toList)

def containsUnsupportedAlertPredicate : Expression → Bool
  | .leaf predicate => isUnsupportedAlertPredicate predicate
  | .not inner => containsUnsupportedAlertPredicate inner
  | .and left right | .or left right =>
    containsUnsupportedAlertPredicate left || containsUnsupportedAlertPredicate right

def everyOrBranchHasLifecycleAnchor : Expression → Bool
  | .leaf (.event name) => name = alertTriggered || name = alertResolved
  | .leaf _ | .not _ => false
  | .and left right => everyOrBranchHasLifecycleAnchor left || everyOrBranchHasLifecycleAnchor right
  | .or left right => everyOrBranchHasLifecycleAnchor left && everyOrBranchHasLifecycleAnchor right

def validateAlertEventExpression (expression : Expression) : Except String Unit :=
  if containsUnsupportedAlertPredicate expression then .error "event_expression_not_alert_only"
  else if !everyOrBranchHasLifecycleAnchor expression then
    .error "event_expression_missing_lifecycle_anchor"
  else .ok ()

/-- Walk the expression outside negations, noting the lifecycle events in the two flags. -/
def visitAnchors : Expression → Bool × Bool → Bool × Bool
  | .leaf (.event name), (triggered, resolved) =>
    if name = alertTriggered then (true, resolved)
    else if name = alertResolved then (triggered, true)
    else (triggered, resolved)
  | .leaf _, flags | .not _, flags => flags
  | .and left right, flags | .or left right, flags => visitAnchors right (visitAnchors left flags)

/-- The lifecycle events that the expression names outside negations, as
    `(triggered, resolved)`. -/
def alertEventExpressionAnchorKinds (expression : Expression) : Bool × Bool :=
  visitAnchors expression (false, false)

/-- One of the noted lifecycle events is among those of the context. -/
def Anchored (context : ExpressionContext) (kinds : Bool × Bool) : Prop :=
  (alertTriggered ∈ context.eventPredicates ∧ kinds.1 = true) ∨
    (alertResolved ∈ context.eventPredicates ∧ kinds.2 = true)

variable {externals : Externals} {context : ExpressionContext}

theorem visitAnchors_keeps (expression : Expression)
    (anchored : Anchored context flags) : Anchored context (visitAnchors expression flags) := by
  induction expression generalizing flags with
  | leaf predicate =>
    cases predicate with
    | event =>
      obtain ⟨triggered, resolved⟩ := flags
      simp only [visitAnchors, Anchored] at anchored ⊢
      split_ifs <;> grind
    | bare | comparison | membership | untagged => exact anchored
  | not => exact anchored
  | and left right ihLeft ihRight | or left right ihLeft ihRight => exact ihRight (ihLeft anchored)

/-- An anchored expression that matches has met one of the events that the walk notes. -/
theorem visitAnchors_of_matches (anchors : everyOrBranchHasLifecycleAnchor expression = true)
    (matched : expressionMatches externals context expression = true) (flags : Bool × Bool) :
    Anchored context (visitAnchors expression flags) := by
  induction expression generalizing flags with
  | leaf predicate =>
    cases predicate with
    | event name =>
      have present : name ∈ context.eventPredicates := by
        simpa [expressionMatches, Formula.eval, predicateMatches] using matched
      simp only [everyOrBranchHasLifecycleAnchor, Bool.or_eq_true, decide_eq_true_eq] at anchors
      rcases anchors with triggered | resolved
      · rw [triggered] at present ⊢
        exact .inl ⟨present, by simp [visitAnchors]⟩
      · rw [resolved] at present ⊢
        exact .inr ⟨present, by simp [visitAnchors, alertResolved_ne_triggered]⟩
    | bare | comparison | membership | untagged => cases anchors
  | not => cases anchors
  | and _ right ihLeft ihRight =>
    simp only [expressionMatches, Formula.eval, Bool.and_eq_true] at matched
    simp only [everyOrBranchHasLifecycleAnchor, Bool.or_eq_true] at anchors
    rcases anchors with anchorsLeft | anchorsRight
    · exact visitAnchors_keeps right (ihLeft anchorsLeft matched.1 flags)
    · exact ihRight anchorsRight matched.2 _
  | or _ right ihLeft ihRight =>
    simp only [expressionMatches, Formula.eval, Bool.or_eq_true] at matched
    simp only [everyOrBranchHasLifecycleAnchor, Bool.and_eq_true] at anchors
    rcases matched with matchedLeft | matchedRight
    · exact visitAnchors_keeps right (ihLeft anchors.1 matchedLeft flags)
    · exact ihRight anchors.2 matchedRight _

theorem anchors_of_valid (valid : validateAlertEventExpression expression = .ok passed) :
    everyOrBranchHasLifecycleAnchor expression = true := by
  unfold validateAlertEventExpression at valid
  split_ifs at valid with unsupported missing
  simpa using missing

/-- A valid event expression matches only on the lifecycle events that its anchors name. -/
theorem alert_event_expression_fires_on_anchors (externals : Externals) (expression : Expression)
    (context : ExpressionContext) (valid : validateAlertEventExpression expression = .ok ())
    (matched : expressionMatches externals context expression = true) :
    ("alert.triggered".toList ∈ context.eventPredicates ∧
        (alertEventExpressionAnchorKinds expression).1 = true) ∨
      ("alert.resolved".toList ∈ context.eventPredicates ∧
        (alertEventExpressionAnchorKinds expression).2 = true) :=
  visitAnchors_of_matches (anchors_of_valid valid) matched (false, false)

/-- `alert.triggered && !alert.resolved || alert.resolved && alert.severity:critical`. -/
def sampleEventExpression : Expression :=
  .or (.and (.leaf (.event alertTriggered)) (.not (.leaf (.event alertResolved))))
    (.and (.leaf (.event alertResolved)) (.leaf (.event "alert.severity:critical".toList)))

def sampleEventContext : ExpressionContext := { eventPredicates := [alertTriggered] }

theorem sampleEventExpression_fires :
    validateAlertEventExpression sampleEventExpression = .ok () ∧
      expressionMatches noExternals sampleEventContext sampleEventExpression = true ∧
      (("alert.triggered".toList ∈ sampleEventContext.eventPredicates ∧
          (alertEventExpressionAnchorKinds sampleEventExpression).1 = true) ∨
        ("alert.resolved".toList ∈ sampleEventContext.eventPredicates ∧
          (alertEventExpressionAnchorKinds sampleEventExpression).2 = true)) := by
  have valid : validateAlertEventExpression sampleEventExpression = .ok () := by decide
  have matched : expressionMatches noExternals sampleEventContext sampleEventExpression = true := by
    simp [expressionMatches, sampleEventExpression, sampleEventContext, Formula.eval,
      predicateMatches, alertResolved_ne_triggered]
  exact ⟨valid, matched, alert_event_expression_fires_on_anchors _ _ _ valid matched⟩

end Vpsman.Selector
