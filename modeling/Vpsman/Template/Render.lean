import Mathlib.Data.Char
import Mathlib.Data.List.Lex
import Vpsman.Lib.Decimal
import Vpsman.Lib.OrderedMap
import Vpsman.Template.Syntax

/-! # Rendering -/

namespace Vpsman.Template

open Vpsman.Lib Vpsman.Selector

/-! ## Values -/

mutual

/-- The value under the segments. Elements of an array are searched for all the segments that
    the search began with, and what is not there is null. -/
def valuePathFrom (literalObjects : Bool) (all : List Text) : List Text → Value → Option Value
  | [], value => some value
  | _ :: _, .array values => some (.array (elementPaths literalObjects all values))
  | segment :: rest, .object members =>
    let key := if !literalObjects && segment == "name".toList &&
      (members.lookup "display_name".toList).isSome then "display_name".toList else segment
    memberPath literalObjects all rest key members
  | _ :: _, _ => none
termination_by structural _ value => value

def elementPaths (literalObjects : Bool) (all : List Text) : List Value → List Value
  | [] => []
  | value :: rest =>
    (valuePathFrom literalObjects all all value).getD .null ::
      elementPaths literalObjects all rest

def memberPath (literalObjects : Bool) (all rest : List Text) (key : Text) :
    List (Text × Value) → Option Value
  | [] => none
  | (name, value) :: members =>
    if name = key then valuePathFrom literalObjects all rest value
    else memberPath literalObjects all rest key members

end

def valuePath (value : Value) (segments : List Text) (literalObjects : Bool) : Option Value :=
  valuePathFrom literalObjects segments segments value

def arrayValues : Value → Option (List Value)
  | .array values => some values
  | .null => some []
  | _ => none

def valueLength : Value → Nat
  | .array values => values.length
  | .object members => members.length
  | .string text => text.length
  | .bool _ | .integer _ | .decimal _ | .null => 0

def Value.asString : Value → Option Text
  | .string text => some text
  | _ => none

def Value.asArray : Value → Option (List Value)
  | .array values => some values
  | _ => none

/-- The member of an object if it is a string. -/
def stringField (value : Value) (field : String) : Option Text :=
  (value.get field.toList).bind Value.asString

/-- `<[String]>::join`. -/
def joinTexts (separator : Text) (texts : List Text) : Text := (texts.intersperse separator).flatten

theorem joinTexts_cons_cons :
    joinTexts separator (first :: second :: rest) =
      first ++ separator ++ joinTexts separator (second :: rest) := by
  simp [joinTexts]

section Codec

variable (json : JsonCodec)

def renderObject (members : List (Text × Value)) : Text :=
  let id := stringField (.object members) "id"
  let name := ((members.lookup "display_name".toList).or (members.lookup "name".toList)).bind
    Value.asString
  match name, id with
  | some name, some id => name ++ " (".toList ++ id ++ ")".toList
  | some name, none => name
  | none, some id => id
  | none, none => json.encode (.object members)

mutual

def renderValueWithObjectMode (literalObjects : Bool) : Value → Text
  | .null => []
  | .string text => text
  | .integer value => (toString value).toList
  | .decimal text => text
  | .bool value => (toString value).toList
  | .array values => joinTexts [' '] (renderElements literalObjects values)
  | .object members =>
    if literalObjects then json.encode (.object members) else renderObject json members

def renderElements (literalObjects : Bool) : List Value → List Text
  | [] => []
  | value :: rest =>
    renderValueWithObjectMode literalObjects value :: renderElements literalObjects rest

end

end Codec

/-! ## Scopes -/

structure Scope where
  root : Value
  locals : OrderedMap Text Value := .empty
  literalObjectLocals : List Text := []

structure TemplateRenderOptions where
  maxMessageBytes : Nat
  maxSubstitutionBytes : Option Nat
  literalObjectPaths : List Text

namespace Scope

def ofRoot (root : Value) : Scope := { root := root }

/-- Put a local variable in, with or without the display-name shorthand. -/
def bind (scope : Scope) (name : Text) (value : Value) (literalObjects : Bool) : Scope where
  root := scope.root
  locals := scope.locals.insert name value
  literalObjectLocals :=
    if literalObjects then scope.literalObjectLocals.insert name
    else scope.literalObjectLocals.filter (· ≠ name)

end Scope

def looksLikeVps (value : Value) : Bool :=
  (stringField value "id").isSome &&
    ((value.get "display_name".toList).isSome || (value.get "status".toList).isSome)

def scopeWithItem (scope : Scope) (item : Value) (literalObjects : Bool) : Scope :=
  let child := scope.bind "item".toList item literalObjects
  if looksLikeVps item then child.bind "vps".toList item literalObjects else child

def literalObjectPath (path : Text) (scope : Scope) (literalObjectPaths : List Text) : Bool :=
  let segments := pathSegments path
  let named := literalObjectPaths.any fun start =>
    let start := pathSegments start
    !start.isEmpty && start.isPrefixOf segments
  match segments.head? with
  | some root =>
    if (scope.locals.get root).isSome then scope.literalObjectLocals.contains root else named
  | none => named

/-- What a path is below the value of its first segment. -/
def belowRoot (current : Value) (rest : List Text) (literalObjects : Bool) : Value :=
  if rest = [] then current else (valuePath current rest literalObjects).getD .null

/-- Without a local `vps` the path goes through the VPSs that matched. -/
def resolveSegments (locals : OrderedMap Text Value) (context : Value) (literalObjects : Bool) :
    List Text → Value
  | [] => .null
  | root :: rest =>
    if root = "vps".toList ∧ (locals.get "vps".toList).isNone then
      match (context.get "matched_vps".toList).bind Value.asArray with
      | none => .null
      | some values => .array (values.map fun value => belowRoot value rest literalObjects)
    else
      match (locals.get root).or (context.get root) with
      | none => .null
      | some current => belowRoot current rest literalObjects

def resolvePathWithObjectMode (scope : Scope) (path : Text) (literalObjects : Bool) : Value :=
  resolveSegments scope.locals scope.root literalObjects (pathSegments path)

/-! ## Conditions -/

/-- The numbers that are not negative, `as_u64`. -/
def Value.asU64 : Value → Option Nat
  | .integer value => if 0 ≤ value then some value.toNat else none
  | _ => none

def vpsMetadataFromValue (value : Value) : Option VpsMetadata := do
  let id ← stringField value "id"
  return {
    id
    displayName := (((value.get "display_name".toList).or (value.get "name".toList)).bind
      Value.asString).getD []
    status := (stringField value "status").getD []
    tags := (((value.get "tags".toList).bind Value.asArray).getD []).filterMap Value.asString
    registrationIp := stringField value "registration_ip"
    lastIp := stringField value "last_ip"
    lastSeenAt := stringField value "last_seen_at"
    internalBuildNumber := (value.get "internal_build_number".toList).bind Value.asU64
    staleSince := stringField value "stale_since"
    staleReason := stringField value "stale_reason"
    extra := some value }

/-- The roots of the context that conditions see. -/
def expressionRoots (root : Value) : ExpressionContext where
  rule := root.get "rule".toList
  event := root.get "event".toList
  query := root.get "query".toList
  server := root.get "server".toList
  job := root.get "job".toList
  schedule := root.get "schedule".toList
  alert := root.get "alert".toList
  policyRule := root.get "policy_rule".toList
  telemetry := root.get "telemetry".toList
  objects := ((root.get "policy".toList).map fun policy => ("policy".toList, policy)).toList

def insertObject (context : ExpressionContext) (name : Text) (value : Value) : ExpressionContext :=
  { context with objects := (name, value) :: context.objects }

def withLocal (context : ExpressionContext) (entry : Text × Value) : ExpressionContext :=
  let context := insertObject context (asciiLower entry.1) entry.2
  if entry.1 = "vps".toList ∨ looksLikeVps entry.2 then
    { context with vps := vpsMetadataFromValue entry.2 }
  else context

def withItem (context : ExpressionContext) (item : Value) : ExpressionContext :=
  let context := insertObject context "item".toList item
  if looksLikeVps item then
    insertObject { context with vps := vpsMetadataFromValue item } "vps".toList item
  else context

/-- The predicates of the event: its kind and the two lists it may carry. -/
def eventPredicatesOf (root : Value) : List Text :=
  match root.get "event".toList with
  | none => []
  | some event =>
    ((stringField event "kind").toList ++
      ["predicates", "event_predicates"].flatMap fun key =>
        (((event.get key.toList).bind Value.asArray).getD []).filterMap Value.asString).map asciiLower

def expressionContext (scope : Scope) (item : Option Value) : ExpressionContext :=
  let context := scope.locals.entries.foldl withLocal (expressionRoots scope.root)
  let context := item.elim context (withItem context)
  { context with eventPredicates := eventPredicatesOf scope.root }

/-! ## Helpers -/

variable (externals : Externals) (json : JsonCodec)

def conditionMatches (condition : Text) (scope : Scope) (item : Option Value) :
    Except TemplateError Bool :=
  match parseExpression externals condition with
  | .error error => fail ("invalid condition expression: " ++ error)
  | .ok none => .ok false
  | .ok (some expression) =>
    .ok (expressionMatches externals (expressionContext scope item) expression)

/-- An item counts only if the condition can be evaluated on it. -/
def itemMatches (condition : Text) (scope : Scope) (item : Value) : Bool :=
  match conditionMatches externals condition scope (some item) with
  | .ok matched => matched
  | .error _ => false

/-- `str::split` by a separator that is not empty. -/
def splitText (separator : Text) : Nat → Text → List Text
  | 0, text => [text]
  | fuel + 1, text =>
    match find separator text with
    | none => [text]
    | some offset => text.take offset :: splitText separator fuel (text.drop (offset + separator.length))

def splitHelper (separator value : Text) : List Text :=
  if separator.isEmpty then value.map fun c => [c] else splitText separator value.length value

def substrHelper (start : Int) (length : Option Int) (value : Text) : Text :=
  let count := value.length
  let start := if start < 0 then count - start.natAbs else min start.toNat count
  match length with
  | none => value.drop start
  | some length => (value.drop start).take length.toNat

/-- A helper other than `map`, whose argument has a path policy of its own. -/
def applyHelper (value : Value) (helper : HelperCall) (scope : Scope) (literalObjects : Bool) :
    Except TemplateError Value :=
  match helper with
  | .length => .ok (.integer (valueLength value))
  | .join separator =>
    .ok (.string (match arrayValues value with
      | none => renderValueWithObjectMode json literalObjects value
      | some values => joinTexts separator (renderElements json literalObjects values)))
  | .split separator =>
    match Value.asString value with
    | none => fail "split helper requires a string"
    | some text => .ok (.array ((splitHelper separator text).map .string))
  | .substr start length =>
    match Value.asString value with
    | none => fail "substr helper requires a string"
    | some text => .ok (.string (substrHelper start length text))
  | .first => .ok (((arrayValues value).bind List.head?).getD .null)
  | .last => .ok (((arrayValues value).bind List.getLast?).getD .null)
  | .map _ => .ok value
  | .filter condition =>
    .ok (.array (((arrayValues value).getD []).filter (itemMatches externals condition scope)))
  | .count none => .ok (.integer ((arrayValues value).getD []).length)
  | .count (some condition) =>
    .ok (.integer (((arrayValues value).getD []).filter
      (itemMatches externals condition scope)).length)

/-- The values of the argument for each item, and whether objects among them are literal. -/
def mapHelper (argument : Text) (scope : Scope) (literalObjectPaths : List Text)
    (literalObjects : Bool) (items : List Value) : List Value × Bool :=
  let scopes := items.map fun item => scopeWithItem scope item literalObjects
  (scopes.map fun itemScope => resolvePathWithObjectMode itemScope argument
      (literalObjectPath argument itemScope literalObjectPaths),
    scopes.any fun itemScope => literalObjectPath argument itemScope literalObjectPaths)

/-- One helper of a path; mapping changes whether objects are literal. -/
def helperStep (scope : Scope) (literalObjectPaths : List Text) (state : Value × Bool)
    (helper : HelperCall) : Except TemplateError (Value × Bool) :=
  match helper with
  | .map argument =>
    let (mapped, literalObjects) := mapHelper argument scope literalObjectPaths state.2
      ((arrayValues state.1).getD [])
    .ok (.array mapped, literalObjects)
  | helper =>
    (applyHelper externals json state.1 helper scope state.2).map fun value => (value, state.2)

def resolvePathExprWithLiteralPaths (path : PathExpr) (scope : Scope)
    (literalObjectPaths : List Text) : Except TemplateError (Value × Bool) :=
  let literalObjects := literalObjectPath path.base scope literalObjectPaths
  path.helpers.foldlM (helperStep externals json scope literalObjectPaths)
    (resolvePathWithObjectMode scope path.base literalObjects, literalObjects)

/-! ## Nodes -/

def marker (remaining : Nat) : Text :=
  "...[".toList ++ (toString remaining).toList ++ " bytes remaining]".toList

/-- The last boundary of a character, of those before the first that does not fit, at which
    the text is cut off; boundaries are counted from `boundary` on. -/
def truncationEnd (total limit : Nat) : Nat → Nat → Nat → Text → Nat
  | _, _, last, [] => last
  | boundary, index, last, c :: rest =>
    if limit < boundary + utf8Length (marker (total - boundary)) then last
    else truncationEnd total limit (boundary + c.utf8Size) (index + 1) index rest

def truncateSubstitution (value : Text) (limit : Nat) : Except TemplateError Text :=
  let total := utf8Length value
  if total ≤ limit then .ok value
  else if limit < utf8Length (marker total) then
    fail "substitution limit cannot fit remaining-byte marker"
  else
    let kept := value.take (truncationEnd total limit 0 0 0 value)
    .ok (kept ++ marker (total - utf8Length kept))

def renderPlaceholder (path : PathExpr) (scope : Scope) (options : TemplateRenderOptions) :
    Except TemplateError Text := do
  let (value, literalObjects) ←
    resolvePathExprWithLiteralPaths externals json path scope options.literalObjectPaths
  let rendered := renderValueWithObjectMode json literalObjects value
  match options.maxSubstitutionBytes with
  | some limit => truncateSubstitution rendered limit
  | none => .ok rendered

mutual

def renderNodes (options : TemplateRenderOptions) : List Node → Scope → Except TemplateError Text
  | [], _ => .ok []
  | node :: rest, scope => do
    let first ← renderNode options node scope
    let others ← renderNodes options rest scope
    return first ++ others

def renderNode (options : TemplateRenderOptions) : Node → Scope → Except TemplateError Text
  | .text text, _ => .ok text
  | .placeholder path, scope => renderPlaceholder externals json path scope options
  | .forEach name path body, scope => do
    let (iterable, literalObjects) ←
      resolvePathExprWithLiteralPaths externals json path scope options.literalObjectPaths
    let parts ← ((Value.asArray iterable).getD []).mapM fun value =>
      renderNodes options body (scope.bind name value literalObjects)
    return parts.flatten
  | .conditional branches elseBody, scope => do
    match ← renderBranches options branches scope with
    | some rendered => return rendered
    | none => renderNodes options elseBody scope

/-- The first branch whose condition holds, if there is one. -/
def renderBranches (options : TemplateRenderOptions) :
    List (Text × List Node) → Scope → Except TemplateError (Option Text)
  | [], _ => .ok none
  | (condition, body) :: rest, scope => do
    if ← conditionMatches externals condition scope none then
      return some (← renderNodes options body scope)
    else renderBranches options rest scope

end

def renderTemplateWithOptions (template : Text) (context : Value) (options : TemplateRenderOptions) :
    Except TemplateError Text := do
  let nodes ← parseTemplate externals json template
  let rendered ← renderNodes externals json options nodes (.ofRoot context)
  if options.maxMessageBytes < utf8Length rendered then fail "rendered message exceeds length limit"
  else return rendered

/-! ## Truncated substitutions -/

/-- The prefix with the marker of what is left out. -/
def truncated (value kept : Text) : Text := kept ++ marker (utf8Length value - utf8Length kept)

theorem utf8Length_append (first second : Text) :
    utf8Length (first ++ second) = utf8Length first + utf8Length second := by
  simp [utf8Length]

theorem utf8Length_marker : utf8Length (marker n) = 21 + (Nat.toDigits 10 n).length := by
  have number : (toString n).toList = Nat.toDigits 10 n := Nat.toList_repr
  have around : utf8Length "...[".toList = 4 ∧ utf8Length " bytes remaining]".toList = 17 := by decide
  show utf8Length ("...[".toList ++ (toString n).toList ++ " bytes remaining]".toList) = _
  rw [utf8Length_append, utf8Length_append, number,
    utf8Length_of_ascii fun _ member => ascii_of_isDigit (isDigit_of_mem_digits member)]
  omega

theorem length_toDigits_add :
    (Nat.toDigits 10 (n + more)).length ≤ (Nat.toDigits 10 n).length + more := by
  have positive := @Nat.length_toDigits_pos 10 n
  have small := (Nat.length_toDigits_le_iff (by decide) positive).mp le_rfl
  have product := Nat.mul_le_mul small (show more < 10 ^ more from Nat.lt_pow_self (by decide))
  rw [Nat.length_toDigits_le_iff (by decide) (by omega), Nat.pow_add]
  rw [Nat.succ_mul_succ] at product
  omega

/-- A longer prefix takes no less, although its marker may be shorter. -/
theorem utf8Length_truncated_mono (first : kept <+: longer) (second : longer <+: value) :
    utf8Length (truncated value kept) ≤ utf8Length (truncated value longer) := by
  obtain ⟨more, rfl⟩ := first
  obtain ⟨rest, rfl⟩ := second
  have digits := @length_toDigits_add (utf8Length rest) (utf8Length more)
  simp only [truncated, utf8Length_marker, utf8Length_append, Nat.add_sub_cancel_left]
  rw [Nat.add_assoc (utf8Length kept), Nat.add_sub_cancel_left, Nat.add_comm (utf8Length more)]
  omega

/-- Once the characters `seen` are passed, of which `last` was the last cut that fits, the loop
    finds the last cut of all that does. -/
theorem truncationEnd_last {value : Text} (long : limit < utf8Length value)
    (split : seen ++ rest = value) (fits : utf8Length (truncated value (value.take last)) ≤ limit)
    (passed : ∀ longer, longer <+: value → last < longer.length → seen.length ≤ longer.length) :
    let cut := truncationEnd (utf8Length value) limit (utf8Length seen) seen.length last rest
    utf8Length (truncated value (value.take cut)) ≤ limit ∧ ∀ longer, longer <+: value →
      cut < longer.length → limit < utf8Length (truncated value longer) := by
  induction rest generalizing seen last with
  | nil =>
    refine ⟨fits, fun longer part more => ?_⟩
    rw [List.append_nil] at split
    obtain rfl := part.eq_of_length_le (split ▸ passed longer part more)
    rw [truncated, utf8Length_append]
    exact Nat.lt_add_right _ long
  | cons c _ ih =>
    unfold truncationEnd
    rw [← utf8Length_append, ← truncated]
    split
    next past =>
      refine ⟨fits, fun longer part more => past.trans_le ?_⟩
      exact utf8Length_truncated_mono
        (List.prefix_of_prefix_length_le ⟨_, split⟩ part (passed longer part more)) part
    next within =>
      have kept : value.take seen.length = seen := by rw [← split, List.take_left]
      have found := @ih (seen ++ [c]) seen.length (by simpa using split)
        (kept.symm ▸ Nat.le_of_not_lt within) fun longer _ more => by simpa using Nat.succ_le_of_lt more
      simpa [utf8Length] using found

/-- A substitution that is too long is cut to the longest prefix that leaves room for the
    marker, and refused if not even the empty one does. -/
theorem truncateSubstitution_maximal (value : Text) (limit : Nat) :
    (utf8Length value ≤ limit ∧ truncateSubstitution value limit = .ok value) ∨
    limit < utf8Length value ∧
      ((limit < utf8Length (truncated value []) ∧ truncateSubstitution value limit =
          fail "substitution limit cannot fit remaining-byte marker") ∨
      ∃ kept, kept <+: value ∧ truncateSubstitution value limit = .ok (truncated value kept) ∧
        utf8Length (truncated value kept) ≤ limit ∧ ∀ longer, longer <+: value →
          kept.length < longer.length → limit < utf8Length (truncated value longer)) := by
  rcases Nat.lt_or_ge limit (utf8Length value) with long | short
  · refine .inr ⟨long, ?_⟩
    rw [truncateSubstitution, if_neg (Nat.not_le.mpr long)]
    rcases Nat.lt_or_ge limit (utf8Length (truncated value [])) with narrow | wide
    · exact .inl ⟨narrow, if_pos narrow⟩
    obtain ⟨fits, last⟩ := truncationEnd_last long (List.nil_append value)
      (List.take_zero ▸ wide) fun _ _ _ => Nat.zero_le _
    refine .inr ⟨_, List.take_prefix _ value, if_neg (Nat.not_lt.mpr wide), fits, ?_⟩
    intro longer part more
    rw [List.length_take, min_lt_iff] at more
    exact last longer part (more.resolve_right (Nat.not_lt.mpr part.length_le))
  · exact .inl ⟨short, if_pos short⟩

end Vpsman.Template
