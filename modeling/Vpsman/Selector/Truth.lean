import Vpsman.Policy.Evaluator
import Vpsman.Selector.ClientIds

/-! # Three-valued evaluation of expressions

Policies evaluate expressions on evidence that may be incomplete. A predicate whose field
has no value is unknown, and the connectives follow strong Kleene logic. What is known
agrees with the boolean match, and supplying values that were missing does not change it.
-/

namespace Vpsman.Policy.ExpressionTruth

def not : ExpressionTruth → ExpressionTruth
  | .holds => .fails
  | .fails => .holds
  | .unknown => .unknown

def and : ExpressionTruth → ExpressionTruth → ExpressionTruth
  | .fails, _ | _, .fails => .fails
  | .holds, .holds => .holds
  | _, _ => .unknown

def or : ExpressionTruth → ExpressionTruth → ExpressionTruth
  | .holds, _ | _, .holds => .holds
  | .fails, .fails => .fails
  | _, _ => .unknown

/-- The truth of a match that counts only if it is known. -/
def ofMatch (known matched : Bool) : ExpressionTruth :=
  if !known then .unknown else if matched then .holds else .fails

/-- A truth that is known is that of the match. -/
def Agrees (truth : ExpressionTruth) (matched : Bool) : Prop :=
  (truth = .holds → matched = true) ∧ (truth = .fails → matched = false)

/-- A truth that is known stays. -/
def Keeps (before after : ExpressionTruth) : Prop := before ≠ .unknown → after = before

theorem Agrees.not {truth : ExpressionTruth} (agrees : truth.Agrees matched) :
    truth.not.Agrees (!matched) := by
  unfold Agrees at *
  cases truth <;> simp_all [ExpressionTruth.not]

theorem Agrees.and {left : ExpressionTruth}
    (agreesLeft : left.Agrees matchedLeft) (agreesRight : right.Agrees matchedRight) :
    (left.and right).Agrees (matchedLeft && matchedRight) := by
  unfold Agrees at *
  cases left <;> cases right <;> simp_all [ExpressionTruth.and]

theorem Agrees.or {left : ExpressionTruth}
    (agreesLeft : left.Agrees matchedLeft) (agreesRight : right.Agrees matchedRight) :
    (left.or right).Agrees (matchedLeft || matchedRight) := by
  unfold Agrees at *
  cases left <;> cases right <;> simp_all [ExpressionTruth.or]

theorem Keeps.not {before : ExpressionTruth} (keeps : before.Keeps after) :
    before.not.Keeps after.not := by
  unfold Keeps at *
  cases before <;> simp_all [ExpressionTruth.not]

variable {left right left' right' : ExpressionTruth}

theorem Keeps.and (keepsLeft : left.Keeps left') (keepsRight : right.Keeps right') :
    (left.and right).Keeps (left'.and right') := by
  unfold Keeps at *
  cases left <;> cases right <;> cases left' <;> cases right' <;> simp_all [ExpressionTruth.and]

theorem Keeps.or (keepsLeft : left.Keeps left') (keepsRight : right.Keeps right') :
    (left.or right).Keeps (left'.or right') := by
  unfold Keeps at *
  cases left <;> cases right <;> cases left' <;> cases right' <;> simp_all [ExpressionTruth.or]

theorem ofMatch_agrees : (ofMatch known matched).Agrees matched := by
  unfold ofMatch Agrees
  cases known <;> cases matched <;> simp

theorem ofMatch_keeps (keeps : known = true → known' = true ∧ matched' = matched) :
    (ofMatch known matched).Keeps (ofMatch known' matched') := by
  cases known with
  | false => exact fun unknown => absurd rfl unknown
  | true =>
    obtain ⟨rfl, rfl⟩ := keeps rfl
    exact fun _ => rfl

end Vpsman.Policy.ExpressionTruth

namespace Vpsman.Selector

open Vpsman.Lib Vpsman.Policy

section Evaluation

variable (externals : Externals) (context : ExpressionContext)

def predicateTruth : Predicate → ExpressionTruth
  | .bare raw => .ofMatch context.vps.isSome (bareMatches context raw)
  | .comparison field operator value =>
    .ofMatch (fieldValues context field).isSome
      (comparisonMatches externals context field operator value)
  | .membership field negated values =>
    .ofMatch (fieldValues context field).isSome
      (membershipMatches externals context field negated values)
  | .event name => .ofMatch true (context.eventPredicates.contains name)
  | .untagged =>
    match context.vps with
    | some vps => .ofMatch true vps.tags.isEmpty
    | none => .unknown

def expressionTruth (expression : Expression) : ExpressionTruth :=
  expression.fold (predicateTruth externals context) .not .and .or

end Evaluation

/-! ## Supplying missing values -/

/-- A missing value may be supplied, and one that is there may grow. -/
inductive Supplied {α : Type} (grows : α → α → Prop) : Option α → Option α → Prop
  | missing (after : Option α) : Supplied grows none after
  | present {before after : α} (grown : grows before after) : Supplied grows (some before) (some after)

/-- Members are supplied that an object lacks or has as null; arrays stay as they are. -/
inductive Value.Grows : Value → Value → Prop
  | same (value : Value) : Grows value value
  | null (value : Value) : Grows .null value
  | object {members members' : List (Text × Value)} (grown : Text → Value)
      (kept : ∀ name value, members.lookup name = some value →
        members'.lookup name = some (grown name))
      (each : ∀ name value, members.lookup name = some value → Grows value (grown name)) :
      Grows (.object members) (.object members')

structure VpsMetadata.Grows (vps vps' : VpsMetadata) : Prop where
  id : vps'.id = vps.id
  displayName : vps'.displayName = vps.displayName
  status : vps'.status = vps.status
  tags : vps'.tags = vps.tags
  registrationIp : Supplied (· = ·) vps.registrationIp vps'.registrationIp
  lastIp : Supplied (· = ·) vps.lastIp vps'.lastIp
  lastSeenAt : Supplied (· = ·) vps.lastSeenAt vps'.lastSeenAt
  internalBuildNumber : Supplied (· = ·) vps.internalBuildNumber vps'.internalBuildNumber
  staleSince : Supplied (· = ·) vps.staleSince vps'.staleSince
  staleReason : Supplied (· = ·) vps.staleReason vps'.staleReason
  extra : Supplied Value.Grows vps.extra vps'.extra

structure ExpressionContext.Grows (context context' : ExpressionContext) : Prop where
  vps : Supplied VpsMetadata.Grows context.vps context'.vps
  vpsRules : context'.vpsRules = context.vpsRules
  /-- The named roots and the objects. -/
  root : ∀ name, Supplied Value.Grows (context.root name) (context'.root name)
  eventPredicates : context'.eventPredicates = context.eventPredicates

/-- No object is named like the VPS. -/
def ExpressionContext.NoVpsObject (context : ExpressionContext) : Prop :=
  context.objects.lookup "vps".toList = none

section Growing

variable {value value' : Value} {values : List FieldValue} {field : Text}

/-- What is known of a value that may be missing is known of the one supplied for it. -/
theorem Supplied.bind {after : Option α} (supplied : Supplied grows before after)
    (found : before.bind f = some result)
    (keeps : ∀ {a b}, grows a b → f a = some result → g b = some result) :
    after.bind g = some result := by
  cases supplied with
  | missing => cases found
  | present grown => exact keeps grown found

theorem Value.Grows.get (grows : value.Grows value') (found : value.get name = some member) :
    ∃ member', value'.get name = some member' ∧ member.Grows member' := by
  cases grows with
  | same => exact ⟨member, found, .same member⟩
  | null => cases found
  | object grown kept each => exact ⟨grown name, kept name member found, each name member found⟩

theorem Value.Grows.fieldValues (grows : value.Grows value') (found : value.fieldValues = some values) :
    value'.fieldValues = some values := by
  cases grows with
  | same => exact found
  | null | object => simp [Value.fieldValues] at found

theorem Value.Grows.jsonPathValues (grows : value.Grows value')
    (found : jsonPathValues value path = some values) : jsonPathValues value' path = some values := by
  unfold Selector.jsonPathValues at *
  generalize splitAll '.' path = segments at *
  induction segments generalizing value value' with
  | nil => exact grows.fieldValues found
  | cons segment _ ih =>
    rw [List.foldlM_cons] at found ⊢
    by_cases empty : segment.isEmpty
    · rw [if_pos empty] at found
      cases found
    rw [if_neg empty] at found ⊢
    cases member : value.get segment with
    | none =>
      rw [member] at found
      cases found
    | some =>
      obtain ⟨next', member', grown⟩ := grows.get member
      rw [member] at found
      rw [member']
      exact ih grown found

theorem Supplied.eq_or_none
    (supplied : Supplied (· = ·) before after) : before = none ∨ after = before := by
  cases supplied with
  | missing => exact .inl rfl
  | present same => exact .inr (congrArg some same.symm)

theorem Supplied.optionStringValue (supplied : Supplied (· = ·) before after)
    (found : optionStringValue before = some values) : optionStringValue after = some values := by
  rcases supplied.eq_or_none with rfl | rfl
  · cases found
  · exact found

theorem ite_keeps [Decidable condition] (found : (if condition then yes else no) = some result)
    (keepsYes : yes = some result → yes' = some result)
    (keepsNo : no = some result → no' = some result) :
    (if condition then yes' else no') = some result := by
  split
  · rw [if_pos ‹_›] at found
    exact keepsYes found
  · rw [if_neg ‹_›] at found
    exact keepsNo found

theorem vpsFieldValues_eq_none (other : startsWith "vps." field = false) :
    vpsFieldValues vps field = none := by
  have differs : ∀ name : String, startsWith "vps." name.toList = true → field ≠ name.toList := by
    rintro name starts rfl
    rw [other] at starts
    cases starts
  rw [vpsFieldValues, if_neg (differs "vps.id" rfl), if_neg (differs "vps.display_name" rfl),
    if_neg (differs "vps.status" rfl), if_neg (differs "vps.tag" rfl),
    if_neg (differs "vps.provider" rfl), if_neg (differs "vps.country" rfl),
    if_neg (differs "vps.region" rfl), if_neg (differs "vps.registration_ip" rfl),
    if_neg (differs "vps.last_ip" rfl), if_neg (differs "vps.last_seen_at" rfl),
    if_neg (differs "vps.internal_build_number" rfl), if_neg (differs "vps.stale_since" rfl),
    if_neg (differs "vps.stale_reason" rfl), other]
  rfl

/-- Whatever VPS there is, it has no value for a field of another root. -/
theorem bind_vpsFieldValues (other : startsWith "vps." field = false) (vps : Option VpsMetadata) :
    (vps.bind fun vps => vpsFieldValues vps field) = none :=
  Option.bind_eq_none_iff.mpr fun _ _ => vpsFieldValues_eq_none other

theorem VpsMetadata.Grows.fieldValues (grows : vps.Grows vps')
    (found : vpsFieldValues vps field = some values) : vpsFieldValues vps' field = some values := by
  unfold vpsFieldValues at found ⊢
  rw [grows.id, grows.displayName, grows.status, grows.tags]
  -- the seven fields that come from the id, the name, the status and the tags
  iterate 7 refine ite_keeps found (fun same => same) fun found => ?_
  refine ite_keeps found grows.registrationIp.optionStringValue fun found => ?_
  refine ite_keeps found grows.lastIp.optionStringValue fun found => ?_
  refine ite_keeps found grows.lastSeenAt.optionStringValue fun found => ?_
  refine ite_keeps found (fun found => ?_) fun found => ?_
  · rcases grows.internalBuildNumber.eq_or_none with missing | same
    · rw [missing] at found
      cases found
    · rw [same]
      exact found
  refine ite_keeps found grows.staleSince.optionStringValue fun found => ?_
  refine ite_keeps found grows.staleReason.optionStringValue fun found => ?_
  refine ite_keeps found (fun found => ?_) fun missing => missing
  exact grows.extra.bind found Value.Grows.jsonPathValues

/-- The value of a field whose start names one of the roots. -/
def rootFieldValues (context : ExpressionContext) (field : Text) : Option (List FieldValue) := do
  let (root, path) ← splitOnce '.' field
  let value ← context.root root
  jsonPathValues value path

theorem rootFieldValues_eq_none (noVps : context.NoVpsObject)
    (starts : startsWith "vps." field = true) : rootFieldValues context field = none := by
  obtain ⟨path, rfl⟩ := List.isPrefixOf_iff_prefix.mp starts
  have split : splitOnce '.' ("vps.".toList ++ path) = some ("vps".toList, path) :=
    splitOnce_append (show '.' ∉ "vps".toList by decide) path
  have root : context.root "vps".toList = none := noVps
  rw [rootFieldValues, split, Option.bind_eq_bind, Option.bind_some]
  dsimp only
  rw [root]
  rfl

variable {context context' : ExpressionContext}

theorem ExpressionContext.Grows.rootFieldValues (grows : context.Grows context')
    (found : rootFieldValues context field = some values) :
    rootFieldValues context' field = some values := by
  unfold Selector.rootFieldValues at found ⊢
  obtain ⟨parts, split, found⟩ := Option.bind_eq_some_iff.mp found
  rw [split]
  exact (grows.root parts.1).bind found Value.Grows.jsonPathValues

theorem ExpressionContext.Grows.fieldValues (grows : context.Grows context')
    (noVps : context.NoVpsObject) (found : fieldValues context field = some values) :
    fieldValues context' field = some values := by
  have unfolded : ∀ context : ExpressionContext, Selector.fieldValues context field =
      (vpsRuleFieldValues context.vpsRules (canonicalField field)).or
        ((context.vps.bind fun vps => vpsFieldValues vps (canonicalField field)).or
          (Selector.rootFieldValues context (canonicalField field))) := fun _ => rfl
  rw [unfolded] at found ⊢
  generalize canonicalField field = field at found ⊢
  rw [grows.vpsRules]
  cases ofRules : vpsRuleFieldValues context.vpsRules field with
  | some =>
    rw [ofRules] at found
    exact found
  | none =>
    rw [ofRules, Option.none_or] at found
    cases starts : startsWith "vps." field with
    | true =>
      rw [rootFieldValues_eq_none noVps starts, Option.or_none] at found
      rw [grows.vps.bind found VpsMetadata.Grows.fieldValues]
      rfl
    | false =>
      rw [bind_vpsFieldValues starts, Option.none_or] at found ⊢
      exact grows.rootFieldValues found

end Growing

section Results

variable {externals : Externals} {context context' : ExpressionContext}

theorem predicateTruth_agrees (predicate : Predicate) :
    (predicateTruth externals context predicate).Agrees
      (predicateMatches externals context predicate) := by
  cases predicate with
  | bare | comparison | membership | event => exact ExpressionTruth.ofMatch_agrees
  | untagged =>
    unfold predicateTruth predicateMatches
    cases context.vps with
    | none => exact ⟨fun unknown => (by cases unknown), fun _ => rfl⟩
    | some => exact ExpressionTruth.ofMatch_agrees

theorem ExpressionContext.Grows.fieldValues_eq (grows : context.Grows context')
    (noVps : context.NoVpsObject) (known : (Selector.fieldValues context field).isSome = true) :
    Selector.fieldValues context' field = Selector.fieldValues context field := by
  obtain ⟨values, found⟩ := Option.isSome_iff_exists.mp known
  rw [found]
  exact grows.fieldValues noVps found

theorem predicateTruth_keeps (grows : context.Grows context') (noVps : context.NoVpsObject)
    (predicate : Predicate) :
    (predicateTruth externals context predicate).Keeps
      (predicateTruth externals context' predicate) := by
  cases predicate with
  | bare =>
    have supplied := grows.vps
    unfold predicateTruth bareMatches
    generalize context.vps = before, context'.vps = after at supplied ⊢
    cases supplied with
    | missing => exact fun unknown => absurd rfl unknown
    | present grown =>
      apply ExpressionTruth.ofMatch_keeps
      dsimp only
      rw [grown.id, grown.displayName]
      exact fun _ => ⟨rfl, rfl⟩
  | comparison =>
    apply ExpressionTruth.ofMatch_keeps
    intro known
    have values := grows.fieldValues_eq noVps known
    exact ⟨by rw [values]; exact known, comparisonMatches_congr externals grows.vpsRules values⟩
  | membership =>
    apply ExpressionTruth.ofMatch_keeps
    intro known
    have values := grows.fieldValues_eq noVps known
    exact ⟨by rw [values]; exact known, membershipMatches_congr externals grows.vpsRules values⟩
  | event =>
    unfold predicateTruth
    rw [grows.eventPredicates]
    exact fun _ => rfl
  | untagged =>
    have supplied := grows.vps
    unfold predicateTruth
    generalize context.vps = before, context'.vps = after at supplied ⊢
    cases supplied with
    | missing => exact fun unknown => absurd rfl unknown
    | present grown =>
      dsimp only
      rw [grown.tags]
      exact fun _ => rfl

/-- What is known about an expression is how it matches, and it stays known whatever
    missing values are supplied. -/
theorem expression_truth_sound_and_monotone (externals : Externals) (expression : Expression)
    (context : ExpressionContext) (noVps : context.NoVpsObject) :
    ((expressionTruth externals context expression = .holds →
        expressionMatches externals context expression = true) ∧
      (expressionTruth externals context expression = .fails →
        expressionMatches externals context expression = false)) ∧
    ∀ context' : ExpressionContext, context.Grows context' →
      expressionTruth externals context expression ≠ .unknown →
      expressionTruth externals context' expression = expressionTruth externals context expression := by
  constructor
  · unfold expressionMatches
    rw [Formula.eval_eq_fold]
    exact Formula.fold_related ExpressionTruth.Agrees predicateTruth_agrees ExpressionTruth.Agrees.not
      ExpressionTruth.Agrees.and ExpressionTruth.Agrees.or expression
  · intro context' grows
    exact Formula.fold_related ExpressionTruth.Keeps (predicateTruth_keeps grows noVps)
      ExpressionTruth.Keeps.not ExpressionTruth.Keeps.and ExpressionTruth.Keeps.or expression

/-- An event of a VPS that is not known yet. -/
def levelThree : ExpressionContext :=
  { event := some (.object [("level".toList, .integer 3)]) }

def levelThreeOf (vps : VpsMetadata) : ExpressionContext := { levelThree with vps := some vps }

theorem levelThree_grows : levelThree.Grows (levelThreeOf vps) where
  vps := .missing _
  vpsRules := rfl
  root name := by
    have same : (levelThreeOf vps).root name = levelThree.root name := rfl
    rw [same]
    cases levelThree.root name with
    | none => exact .missing _
    | some value => exact .present (.same value)
  eventPredicates := rfl

/-- The event is on this VPS or has a high level. -/
def highLevel : Expression :=
  .or (.leaf (.comparison "vps.id".toList .eq "vps-a".toList))
    (.leaf (.comparison "event.level".toList .gt "2".toList))

theorem highLevel_stays_true :
    expressionTruth noExternals levelThree highLevel = .holds ∧
    expressionTruth noExternals (levelThreeOf (namedVps "vps-b")) highLevel = .holds := by
  have first : expressionTruth noExternals levelThree highLevel = .holds := by decide +kernel
  have same := (expression_truth_sound_and_monotone noExternals highLevel levelThree rfl).2
    (levelThreeOf (namedVps "vps-b")) levelThree_grows (by rw [first]; decide)
  exact ⟨first, same.trans first⟩

end Results
end Vpsman.Selector
