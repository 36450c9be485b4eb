import Vpsman.Selector.Grammar
import Vpsman.Template.Render

/-! # The paths a template refers to

Rendering reads the context only at the paths that are collected from the template, apart
from what every condition may use: the event and the matched VPSs.
-/

namespace Vpsman.Template

open Vpsman.Lib Vpsman.Lib.Precedence Vpsman.Selector

/-! ## Collecting -/

def joinedPath (path : Text) : Text := joinTexts ['.'] (pathSegments path)

def predicateField : Predicate → Option Text
  | .comparison field _ _ => some field
  | .membership field _ _ => some field
  | .bare _ | .event _ | .untagged => none

def expressionFields : Expression → List Text
  | .leaf predicate => (predicateField predicate).toList
  | .not inner => expressionFields inner
  | .and left right | .or left right => expressionFields left ++ expressionFields right

section Collect

variable (externals : Externals) (json : JsonCodec)

def collectConditionPaths (condition : Text) : Except TemplateError (List Text) :=
  match parseExpression externals condition with
  | .error error => fail error
  | .ok expression => .ok ((expression.map expressionFields).getD [])

def collectHelperPaths : HelperCall → Except TemplateError (List Text)
  | .map path => .ok [joinedPath path]
  | .filter condition => collectConditionPaths externals condition
  | .count (some condition) => collectConditionPaths externals condition
  | .length | .join _ | .split _ | .substr _ _ | .first | .last | .count none => .ok []

def collectPathExpression (path : PathExpr) : Except TemplateError (List Text) := do
  let others ← path.helpers.mapM (collectHelperPaths externals)
  return joinedPath path.base :: others.flatten

mutual

def collectPaths : List Node → Except TemplateError (List Text)
  | [] => .ok []
  | node :: rest => do
    let first ← collectNodePaths node
    let others ← collectPaths rest
    return first ++ others

def collectNodePaths : Node → Except TemplateError (List Text)
  | .text _ => .ok []
  | .placeholder path => collectPathExpression externals path
  | .forEach _ path body => do
    let first ← collectPathExpression externals path
    let others ← collectPaths body
    return first ++ others
  | .conditional branches elseBody => do
    let first ← collectBranchPaths branches
    let others ← collectPaths elseBody
    return first ++ others

def collectBranchPaths : List (Text × List Node) → Except TemplateError (List Text)
  | [] => .ok []
  | (condition, body) :: rest => do
    let first ← collectConditionPaths externals condition
    let inner ← collectPaths body
    let others ← collectBranchPaths rest
    return first ++ inner ++ others

end

def templateReferencedPaths (template : Text) : Except TemplateError (List Text) := do
  let nodes ← parseTemplate externals json template
  collectPaths externals nodes

end Collect

/-! ## What rendering reads -/

def jobRoot : Text := "job".toList

/-- The value of a path below the job. -/
def jobPath (root : Value) (rest : List Text) (literalObjects : Bool) : Value :=
  match root.get jobRoot with
  | none => .null
  | some job => belowRoot job rest literalObjects

/-- The values of a field below the job. -/
def jobField (root : Value) (path : Text) : Option (List FieldValue) :=
  (root.get jobRoot).bind fun job => jsonPathValues job path

/-- Whether objects on a path from the root are taken literally. -/
def namedLiteral (literalObjectPaths : List Text) (segments : List Text) : Bool :=
  literalObjectPaths.any fun start =>
    let start := pathSegments start
    !start.isEmpty && start.isPrefixOf segments

/-- The two contexts have the same members but for the job. -/
def SameButJob (left right : Value) : Prop := ∀ name, name ≠ jobRoot → left.get name = right.get name

/-- The jobs of the two contexts have the same values at this path, as a path of segments and
    as a field of a condition. -/
structure SameAt (literalObjectPaths : List Text) (left right : Value) (path : Text) : Prop where
  values : ∀ source rest, pathSegments source = jobRoot :: rest → joinedPath source = path →
    jobPath left rest (namedLiteral literalObjectPaths (jobRoot :: rest)) =
      jobPath right rest (namedLiteral literalObjectPaths (jobRoot :: rest))
  fields : ∀ rest, path = jobRoot ++ '.' :: rest → jobField left rest = jobField right rest

namespace Scope

def withRoot (scope : Scope) (root : Value) : Scope := { scope with root }

theorem withRoot_bind (scope : Scope) (root : Value) :
    (scope.withRoot root).bind name value literalObjects =
      (scope.bind name value literalObjects).withRoot root := rfl

end Scope

theorem scopeWithItem_withRoot :
    scopeWithItem (scope.withRoot root) item literalObjects =
      (scopeWithItem scope item literalObjects).withRoot root := by
  unfold scopeWithItem
  split <;> rfl

variable {literalObjectPaths : List Text} {left right : Value}

theorem resolvePath_same (apart : SameButJob left right)
    (same : SameAt literalObjectPaths left right (joinedPath path)) (scope : Scope) :
    resolvePathWithObjectMode (scope.withRoot left) path
        (literalObjectPath path scope literalObjectPaths) =
      resolvePathWithObjectMode (scope.withRoot right) path
        (literalObjectPath path scope literalObjectPaths) := by
  show resolveSegments scope.locals left _ _ = resolveSegments scope.locals right _ _
  cases segments : pathSegments path with
  | nil => rfl
  | cons root rest =>
    unfold resolveSegments
    dsimp only
    by_cases ofVps : root = "vps".toList ∧ (scope.locals.get "vps".toList).isNone
    · rw [if_pos ofVps, if_pos ofVps, apart _ (by decide)]
    rw [if_neg ofVps, if_neg ofVps]
    cases held : scope.locals.get root with
    | some => rfl
    | none =>
      by_cases ofJob : root = jobRoot
      · subst ofJob
        have named : literalObjectPath path scope literalObjectPaths =
            namedLiteral literalObjectPaths (jobRoot :: rest) := by
          simp [literalObjectPath, segments, held, namedLiteral]
        rw [named]
        exact same.values path rest segments rfl
      · rw [apart _ ofJob]

/-! ## Conditions -/

def withJob (context : ExpressionContext) (job : Option Value) : ExpressionContext := { context with job }

theorem expressionRoots_same (apart : SameButJob left right) :
    expressionRoots left = withJob (expressionRoots right) (left.get jobRoot) := by
  unfold expressionRoots withJob jobRoot
  simp only [apart "rule".toList (by decide),
    apart "event".toList (by decide),
    apart "query".toList (by decide),
    apart "server".toList (by decide),
    apart "schedule".toList (by decide),
    apart "alert".toList (by decide),
    apart "policy_rule".toList (by decide),
    apart "telemetry".toList (by decide),
    apart "policy".toList (by decide)]

variable (context : ExpressionContext)

theorem withLocal_withJob :
    withLocal (withJob context job) entry = withJob (withLocal context entry) job := by
  unfold withLocal
  split_ifs <;> rfl

theorem withItem_withJob :
    withItem (withJob context job) item = withJob (withItem context item) job := by
  unfold withItem
  split_ifs <;> rfl

theorem foldl_withLocal_withJob (entries : List (Text × Value)) :
    entries.foldl withLocal (withJob context job) = withJob (entries.foldl withLocal context) job := by
  induction entries generalizing context with
  | nil => rfl
  | cons _ _ ih => rw [List.foldl_cons, List.foldl_cons, withLocal_withJob, ih]

theorem expressionContext_same (apart : SameButJob left right) {scope : Scope} :
    expressionContext (scope.withRoot left) item =
      withJob (expressionContext (scope.withRoot right) item) (left.get jobRoot) := by
  have predicates : eventPredicatesOf left = eventPredicatesOf right := by
    unfold eventPredicatesOf
    rw [apart "event".toList (by decide)]
  show { item.elim (scope.locals.entries.foldl withLocal (expressionRoots left))
      (withItem (scope.locals.entries.foldl withLocal (expressionRoots left))) with
        eventPredicates := eventPredicatesOf left } = _
  rw [expressionRoots_same apart, foldl_withLocal_withJob, predicates]
  cases item with
  | none => rfl
  | some =>
    simp only [Option.elim, withItem_withJob]
    rfl

/-- Fields of parsed conditions are in the form in which they are looked up. -/
def HasCanonicalField (predicate : Predicate) : Prop :=
  ∀ field, predicateField predicate = some field → canonicalField field = field

theorem hasCanonicalField_comparison (fixed : canonicalField field = field) :
    HasCanonicalField (.comparison field operator value) := by
  intro other same
  cases same
  exact fixed

theorem hasCanonicalField_membership (fixed : canonicalField field = field) :
    HasCanonicalField (.membership field negated values) := by
  intro other same
  cases same
  exact fixed

theorem hasCanonicalField_tagMembership (value : Text) : HasCanonicalField (tagMembership value) :=
  hasCanonicalField_membership (canonicalField_of_mem _ (by simp [canonicalNames]))

theorem hasCanonicalField_ite [Decidable condition]
    (left : HasCanonicalField first) (right : HasCanonicalField second) :
    HasCanonicalField (if condition then first else second) := by
  by_cases holds : condition
  · rwa [if_pos holds]
  · rwa [if_neg holds]

theorem hasCanonicalField_shorthand : HasCanonicalField (shorthandPredicate nameSpace value) := by
  have onField {field : Text} (fixed : canonicalField field = field) :
      HasCanonicalField (if field = "vps.tag".toList ∨ field = "vps.tags".toList
        then tagMembership value else .comparison field .eq value) :=
    hasCanonicalField_ite (hasCanonicalField_tagMembership value)
      (hasCanonicalField_comparison fixed)
  have known {field : Text} (member : field ∈ canonicalNames) := onField (canonicalField_of_mem _ member)
  have given := onField (canonicalField_canonicalField nameSpace)
  have tags (text : Text) := hasCanonicalField_tagMembership text
  exact hasCanonicalField_ite (known (by simp [canonicalNames])) <|
    hasCanonicalField_ite (known (by simp [canonicalNames])) <|
    hasCanonicalField_ite (known (by simp [canonicalNames])) <|
    hasCanonicalField_ite (known (by simp [canonicalNames])) <|
    hasCanonicalField_ite (tags _) <| hasCanonicalField_ite (tags _) <|
    hasCanonicalField_ite (tags _) <| hasCanonicalField_ite given <|
    hasCanonicalField_ite given (tags _)

variable {predicate : Predicate}

theorem hasCanonicalField_bareWord (read : bareWord true raw = .ok predicate) :
    HasCanonicalField predicate := by
  have plain {predicate : Predicate} (none_ : predicateField predicate = none) :
      HasCanonicalField predicate := by
    intro field same
    simp [none_] at same
  unfold bareWord at read
  simp only [Bool.not_true, Bool.false_eq_true, if_false] at read
  split at read
  · cases read
    exact plain rfl
  split at read
  · cases read
    exact plain rfl
  split at read
  · split at read
    · cases read
    · split at read
      · cases read
      · cases read
        exact hasCanonicalField_shorthand
  · cases read
    exact plain rfl

theorem hasCanonicalField_of_isPredicate (isPredicate : IsPredicate engine tokens predicate) :
    HasCanonicalField predicate := by
  cases isPredicate with
  | word read => exact hasCanonicalField_bareWord read
  | comparison => exact hasCanonicalField_comparison (canonicalField_canonicalField _)
  | membership | notMembership =>
    exact hasCanonicalField_membership (canonicalField_canonicalField _)

variable {condition : Text}

theorem parseExpression_hasCanonicalFields
    (parsed : parseExpression externals condition = .ok (some expression)) :
    expression.All HasCanonicalField := by
  obtain ⟨tokens, _, parsed, _⟩ := parseExpression_some.mp parsed
  have derived := ((parser_implements_grammar externals.regex tokens).1 expression).mp parsed
  exact derived.all fun _ _ read => hasCanonicalField_of_isPredicate read

/-! ## Matching -/

theorem root_withJob (other : name ≠ jobRoot) :
    (withJob context job).root name = context.root name := by
  unfold ExpressionContext.root
  have notJob : ¬ name = "job".toList := other
  simp only [if_neg notJob]
  rfl

theorem fieldValues_withJob {context : ExpressionContext} (canonical : canonicalField field = field)
    (same : ∀ rest, field = jobRoot ++ '.' :: rest → jobField left rest = jobField right rest) :
    fieldValues (withJob context (left.get jobRoot)) field =
      fieldValues (withJob context (right.get jobRoot)) field := by
  unfold fieldValues
  rw [canonical]
  dsimp only [withJob]
  congr 2
  cases split : splitOnce '.' field with
  | none => rfl
  | some parts =>
    obtain ⟨root, rest⟩ := parts
    by_cases ofJob : root = jobRoot
    · subst ofJob
      exact same rest (eq_append_of_splitOnce split)
    · show (((withJob context _).root root).bind fun value => jsonPathValues value rest) =
        ((withJob context _).root root).bind fun value => jsonPathValues value rest
      rw [root_withJob _ ofJob, root_withJob _ ofJob]

variable {externals : Externals} {json : JsonCodec}

theorem predicateMatches_withJob {context : ExpressionContext}
    (canonical : HasCanonicalField predicate)
    (same : ∀ field, predicateField predicate = some field →
      ∀ rest, field = jobRoot ++ '.' :: rest → jobField left rest = jobField right rest) :
    predicateMatches externals (withJob context (left.get jobRoot)) predicate =
      predicateMatches externals (withJob context (right.get jobRoot)) predicate := by
  cases predicate with
  | bare | event | untagged => rfl
  | comparison field =>
    exact comparisonMatches_congr _ rfl (fieldValues_withJob (canonical field rfl) (same field rfl))
  | membership field =>
    exact membershipMatches_congr _ rfl (fieldValues_withJob (canonical field rfl) (same field rfl))

theorem expressionMatches_withJob {context : ExpressionContext}
    (canonical : expression.All HasCanonicalField)
    (same : ∀ field ∈ expressionFields expression, SameAt literalObjectPaths left right field) :
    expressionMatches externals (withJob context (left.get jobRoot)) expression =
      expressionMatches externals (withJob context (right.get jobRoot)) expression := by
  unfold expressionMatches
  induction expression with
  | leaf =>
    refine predicateMatches_withJob canonical ?_
    intro field found
    exact (same field (by simp [expressionFields, found])).fields
  | not _ ih => simp [Formula.eval, ih canonical same]
  | and first second ihFirst ihSecond | or first second ihFirst ihSecond =>
    rw [expressionFields, List.forall_mem_append] at same
    simp [Formula.eval, ihFirst canonical.1 same.1, ihSecond canonical.2 same.2]

/-- A collection of paths came through, and the contexts are the same at all of them. -/
def SameAtAll (literalObjectPaths : List Text) (left right : Value)
    (collected : Except TemplateError (List Text)) : Prop :=
  ∃ paths, collected = .ok paths ∧ ∀ path ∈ paths, SameAt literalObjectPaths left right path

theorem conditionMatches_same (apart : SameButJob left right)
    (same : SameAtAll literalObjectPaths left right (collectConditionPaths externals condition))
    {scope : Scope} :
    conditionMatches externals condition (scope.withRoot left) item =
      conditionMatches externals condition (scope.withRoot right) item := by
  obtain ⟨paths, collected, same⟩ := same
  unfold collectConditionPaths at collected
  unfold conditionMatches
  cases parsed : parseExpression externals condition with
  | error => rfl
  | ok result =>
    cases result with
    | none => rfl
    | some =>
      rw [parsed] at collected
      obtain rfl := Except.ok.inj collected
      dsimp only
      rw [expressionContext_same apart,
        expressionContext_same (fun _ _ => rfl : SameButJob right right)]
      congr 1
      exact expressionMatches_withJob (parseExpression_hasCanonicalFields parsed) same

theorem itemMatches_same (apart : SameButJob left right)
    (same : SameAtAll literalObjectPaths left right (collectConditionPaths externals condition))
    (scope : Scope) :
    itemMatches externals condition (scope.withRoot left) =
      itemMatches externals condition (scope.withRoot right) := by
  funext item
  rw [itemMatches, itemMatches, conditionMatches_same apart same]

/-! ## Helpers -/

section

variable (apart : SameButJob left right)
include apart

theorem applyHelper_same
    (same : SameAtAll literalObjectPaths left right (collectHelperPaths externals helper))
    (scope : Scope) :
    applyHelper externals json value helper (scope.withRoot left) literalObjects =
      applyHelper externals json value helper (scope.withRoot right) literalObjects := by
  cases helper with
  | filter => simp [applyHelper, itemMatches_same apart same]
  | count condition =>
    cases condition with
    | none => rfl
    | some => simp [applyHelper, itemMatches_same apart same]
  | _ => rfl

theorem mapHelper_same
    (same : SameAt literalObjectPaths left right (joinedPath argument)) (scope : Scope) :
    mapHelper argument (scope.withRoot left) literalObjectPaths literalObjects items =
      mapHelper argument (scope.withRoot right) literalObjectPaths literalObjects items := by
  unfold mapHelper
  simp only [scopeWithItem_withRoot, List.map_map, List.any_map]
  congr 1
  refine List.map_congr_left fun item _ => ?_
  exact resolvePath_same apart same (scopeWithItem scope item literalObjects)

theorem helperStep_same
    (same : SameAtAll literalObjectPaths left right (collectHelperPaths externals helper))
    (scope : Scope) :
    helperStep externals json (scope.withRoot left) literalObjectPaths state helper =
      helperStep externals json (scope.withRoot right) literalObjectPaths state helper := by
  cases helper with
  | map =>
    obtain ⟨paths, collected, same⟩ := same
    obtain rfl := Except.ok.inj collected
    simp [helperStep, mapHelper_same apart (same _ (List.mem_singleton_self _))]
  | _ => simp [helperStep, applyHelper_same apart same]

theorem helpers_same (scope : Scope) {helpers : List HelperCall} (same : ∀ helper ∈ helpers,
      SameAtAll literalObjectPaths left right (collectHelperPaths externals helper))
    (state : Value × Bool) :
    helpers.foldlM (helperStep externals json (scope.withRoot left) literalObjectPaths) state =
      helpers.foldlM (helperStep externals json (scope.withRoot right) literalObjectPaths) state := by
  induction helpers generalizing state with
  | nil => rfl
  | cons _ _ ih =>
    rw [List.forall_mem_cons] at same
    rw [List.foldlM_cons, List.foldlM_cons, helperStep_same apart same.1]
    congr 1
    funext next
    exact ih same.2 next

end

/-! ## Nodes -/

theorem SameAtAll.bind (same : SameAtAll literalObjectPaths left right (first >>= next)) :
    ∃ paths, first = .ok paths ∧ SameAtAll literalObjectPaths left right (next paths) := by
  obtain ⟨paths, collected, same⟩ := same
  obtain ⟨value, found, rest⟩ := bind_ok.mp collected
  exact ⟨value, found, paths, rest, same⟩

theorem SameAtAll.append (same : SameAtAll literalObjectPaths left right (.ok (first ++ second))) :
    SameAtAll literalObjectPaths left right (.ok first) ∧
      SameAtAll literalObjectPaths left right (.ok second) := by
  obtain ⟨paths, collected, same⟩ := same
  obtain rfl := Except.ok.inj collected
  rw [List.forall_mem_append] at same
  exact ⟨⟨_, rfl, same.1⟩, ⟨_, rfl, same.2⟩⟩

theorem SameAtAll.both
    (same : SameAtAll literalObjectPaths left right
      (do let paths ← first; let others ← second; return paths ++ others)) :
    SameAtAll literalObjectPaths left right first ∧
      SameAtAll literalObjectPaths left right second := by
  obtain ⟨paths, collected, same⟩ := same.bind
  obtain ⟨others, collectedOthers, same⟩ := same.bind
  rw [collected, collectedOthers]
  exact same.append

theorem mapM_same {helpers : List HelperCall}
    (collected : helpers.mapM (collectHelperPaths externals) = .ok others)
    (same : ∀ path ∈ others.flatten, SameAt literalObjectPaths left right path) :
    ∀ helper ∈ helpers,
      SameAtAll literalObjectPaths left right (collectHelperPaths externals helper) := by
  induction helpers generalizing others with
  | nil => simp
  | cons _ _ ih =>
    rw [List.mapM_cons] at collected
    obtain ⟨first, found, collected⟩ := bind_ok.mp collected
    obtain ⟨later, foundLater, collected⟩ := bind_ok.mp collected
    obtain rfl := Except.ok.inj collected
    rw [List.flatten_cons, List.forall_mem_append] at same
    rw [List.forall_mem_cons]
    exact ⟨⟨first, found, same.1⟩, ih foundLater same.2⟩

theorem resolvePathExpr_same (apart : SameButJob left right)
    (same : SameAtAll literalObjectPaths left right (collectPathExpression externals path))
    {scope : Scope} :
    resolvePathExprWithLiteralPaths externals json path (scope.withRoot left) literalObjectPaths =
      resolvePathExprWithLiteralPaths externals json path (scope.withRoot right)
        literalObjectPaths := by
  obtain ⟨paths, collected, same⟩ := same
  obtain ⟨others, mapped, collected⟩ := bind_ok.mp collected
  obtain rfl := Except.ok.inj collected
  rw [List.forall_mem_cons] at same
  have base := resolvePath_same apart same.1 scope
  show path.helpers.foldlM _ (resolvePathWithObjectMode (scope.withRoot left) path.base
    (literalObjectPath path.base scope literalObjectPaths), _) = _
  rw [base]
  exact helpers_same apart scope (mapM_same mapped same.2) _

variable {options : TemplateRenderOptions}

theorem renderPlaceholder_same (apart : SameButJob left right)
    (same : SameAtAll options.literalObjectPaths left right (collectPathExpression externals path))
    {scope : Scope} :
    renderPlaceholder externals json path (scope.withRoot left) options =
      renderPlaceholder externals json path (scope.withRoot right) options := by
  rw [renderPlaceholder, renderPlaceholder, resolvePathExpr_same apart same]

mutual

/-- Contexts that differ in their jobs, and not at the paths that the nodes refer to, are
    rendered alike. -/
theorem renderNodes_same (apart : SameButJob left right) : ∀ (nodes : List Node),
    SameAtAll options.literalObjectPaths left right (collectPaths externals nodes) →
    ∀ scope : Scope, renderNodes externals json options nodes (scope.withRoot left) =
      renderNodes externals json options nodes (scope.withRoot right)
  | [], _, _ => rfl
  | node :: rest, same, scope => by
    obtain ⟨first, others⟩ := same.both
    rw [renderNodes, renderNodes, renderNode_same apart node first scope,
      renderNodes_same apart rest others scope]

theorem renderNode_same (apart : SameButJob left right) : ∀ (node : Node),
    SameAtAll options.literalObjectPaths left right (collectNodePaths externals node) →
    ∀ scope : Scope, renderNode externals json options node (scope.withRoot left) =
      renderNode externals json options node (scope.withRoot right)
  | .text _, _, _ => rfl
  | .placeholder path, same, scope => by
    exact renderPlaceholder_same apart same
  | .forEach name path body, same, scope => by
    obtain ⟨first, others⟩ := same.both
    have inner := renderNodes_same apart body others
    rw [renderNode, renderNode, resolvePathExpr_same apart first]
    simp [Scope.withRoot_bind, inner]
  | .conditional branches elseBody, same, scope => by
    obtain ⟨first, others⟩ := same.both
    rw [renderNode, renderNode, renderBranches_same apart branches first scope,
      renderNodes_same apart elseBody others scope]

theorem renderBranches_same (apart : SameButJob left right) : ∀ (branches : List (Text × List Node)),
    SameAtAll options.literalObjectPaths left right (collectBranchPaths externals branches) →
    ∀ scope : Scope, renderBranches externals json options branches (scope.withRoot left) =
      renderBranches externals json options branches (scope.withRoot right)
  | [], _, _ => rfl
  | (condition, body) :: rest, same, scope => by
    obtain ⟨paths, collected, same⟩ := same.bind
    obtain ⟨inner, collectedInner, same⟩ := same.bind
    obtain ⟨others, collectedOthers, same⟩ := same.bind
    obtain ⟨both, ofOthers⟩ := same.append
    obtain ⟨ofCondition, ofBody⟩ := both.append
    rw [renderBranches, renderBranches,
      conditionMatches_same apart (collected ▸ ofCondition),
      renderNodes_same apart body (collectedInner ▸ ofBody) scope,
      renderBranches_same apart rest (collectedOthers ▸ ofOthers) scope]

end

/-- Contexts that differ in their jobs, and not at the paths that the template refers to, are
    rendered alike. -/
theorem renderTemplate_same (apart : SameButJob left right)
    (same : SameAtAll options.literalObjectPaths left right
      (templateReferencedPaths externals json template)) :
    renderTemplateWithOptions externals json template left options =
      renderTemplateWithOptions externals json template right options := by
  obtain ⟨paths, collected, same⟩ := same
  obtain ⟨nodes, parsed, collected⟩ := bind_ok.mp collected
  have rendered : renderNodes externals json options nodes (.ofRoot left) =
      renderNodes externals json options nodes (.ofRoot right) :=
    renderNodes_same apart nodes ⟨paths, collected, same⟩ (.ofRoot left)
  rw [renderTemplateWithOptions, renderTemplateWithOptions, parsed]
  show (renderNodes externals json options nodes (.ofRoot left) >>= _) = _
  rw [rendered]
  rfl

end Vpsman.Template
