import Mathlib.Data.List.Forall2
import Vpsman.Lib.Check
import Vpsman.Selector.Context

/-! # Command lines of alert events

A schedule that runs on alerts has a template for each argument of its command: text with
placeholders for scalars of the event. What is put in for a placeholder is not looked at again.
-/

namespace Vpsman.Template.Argv

open Vpsman.Lib Vpsman.Selector

def maxElements : Nat := 128
def maxElementBytes : Nat := 16 * 1024
def maxBytes : Nat := 64 * 1024

def noopArgv : List Text := ["/bin/true".toList]

def controlTokens : List String :=
  ["[if", "[elseif", "[else", "[for", "[end", "[endif", "[endfor"]

def helperTokens : List String := [".filter", ".where", ".count", ".map"]

def scalarPaths : List String :=
  ["event.id", "event.kind", "event.occurred_at", "event.recorded_at", "alert.id",
    "alert.public_id", "alert.episode_id", "alert.title", "alert.detail", "alert.category",
    "alert.severity", "alert.record_kind", "alert.lifecycle_state", "alert.trigger_generation",
    "alert.source_status", "alert.resolution_reason", "alert.target_kind", "alert.target_id",
    "policy.id", "policy.name", "policy_rule.id", "policy_rule.name", "policy_rule.rule_version",
    "policy_rule.rule_kind", "policy_rule.evidence_source",
    "policy_rule.trigger_meta_condition.kind", "policy_rule.trigger_meta_condition.window_seconds",
    "policy_rule.resolve_meta_condition.kind", "policy_rule.resolve_meta_condition.window_seconds",
    "schedule.id", "schedule.name", "schedule.definition_revision",
    "schedule.fixed_target_count", "schedule.matched_subject_count"]

/-- `str::len`. -/
def bytes (text : Text) : Nat := (String.ofList text).utf8ByteSize

def containsControlOrHelperSyntax (value : Text) : Bool :=
  (controlTokens ++ helperTokens).any fun token => token.toList <:+: asciiLower value

def containsTemplateSyntax (value : Text) : Bool :=
  value.contains '{' || value.contains '}' || containsControlOrHelperSyntax value

inductive TemplatePart where
  | literal (value : Text)
  | placeholder (path : Text)

/-- A path in braces, as messages show it. -/
def braced (path : Text) : String := "\x7b" ++ String.ofList path ++ "\x7d"

/-- The loop over the template, in a literal or in a placeholder of which `part` is read. What
    the visits give is put together. -/
def visitTemplateParts (visit : TemplatePart → Except String Text) (inPath : Bool) (part : Text) :
    Text → Except String Text
  | [] => if inPath then .error "unclosed scalar placeholder" else visit (.literal part)
  | c :: rest =>
    if inPath then
      if c = '}' then do
        demand ('{' ∉ part) "nested scalar placeholder"
        demand (String.ofList part ∈ scalarPaths)
          ("unsupported event argv scalar path " ++ braced part)
        let first ← visit (.placeholder part)
        let others ← visitTemplateParts visit false [] rest
        pure (first ++ others)
      else visitTemplateParts visit true (part ++ [c]) rest
    else if c = '}' then .error "unexpected scalar placeholder closing brace"
    else if c = '{' then do
      let first ← visit (.literal part)
      let others ← visitTemplateParts visit true [] rest
      pure (first ++ others)
    else visitTemplateParts visit false (part ++ [c]) rest

def controlSyntaxUnsupported : String := "event_argv_template_control_syntax_unsupported"

def validateDirectScalarTemplate (template : Text) : Except String Unit := do
  demand (containsControlOrHelperSyntax template = false) controlSyntaxUnsupported
  let _ ← visitTemplateParts (fun _ => .ok []) false [] template

def scalarAt (context : Value) (path : Text) : Except String Text :=
  match (splitAll '.' path).foldlM Value.get context with
  | none => .error ("event argv scalar path " ++ braced path ++ " is missing")
  | some (.string value) => .ok value
  | some (.bool value) => .ok (toString value).toList
  | some (.integer value) => .ok (toString value).toList
  | some (.decimal text) => .ok text
  | some .null => .error ("event argv scalar path " ++ braced path ++ " resolved to null")
  | some (.array _) | some (.object _) =>
    .error ("event argv scalar path " ++ braced path ++ " did not resolve to a scalar")

def TemplatePart.render (context : Value) : TemplatePart → Except String Text
  | .literal value => .ok value
  | .placeholder path => scalarAt context path

def renderDirectScalarTemplate (context : Value) (template : Text) : Except String Text := do
  demand (containsControlOrHelperSyntax template = false) controlSyntaxUnsupported
  visitTemplateParts (TemplatePart.render context) false [] template

/-- The checks of every argument, before and after rendering. -/
def checkElements (empty : String) (argv : List Text) : Except String Unit :=
  argv.zipIdx.forM fun (value, index) => do
    demand (value ≠ []) (empty ++ toString index)
    demand ('\x00' ∉ value) ("event_argv_contains_nul_at_" ++ toString index)
    demand (bytes value ≤ maxElementBytes) ("event_argv_element_too_large_at_" ++ toString index)

def effectiveTemplate (template : Option (List Text)) : List Text := template.getD noopArgv

def validateAlertEventArgvTemplate (template : Option (List Text)) : Except String Unit := do
  let argv := effectiveTemplate template
  demand (argv ≠ []) "event_argv_empty"
  demand (argv.length ≤ maxElements) "event_argv_too_many_elements"
  demand ((argv.map bytes).sum ≤ maxBytes) "event_argv_template_too_large"
  checkElements "event_argv_element_empty_at_" argv
  demand (trim (argv.headD []) ≠ []) "event_argv0_empty"
  demand (containsTemplateSyntax (argv.headD []) = false) "event_argv0_must_be_literal"
  (argv.zipIdx.drop 1).forM fun (element, index) =>
    (validateDirectScalarTemplate element).mapError fun error =>
      "event_argv_template_invalid_at_" ++ toString index ++ ": " ++ error

def validateRenderedArgv (argv : List Text) : Except String Unit := do
  demand (argv ≠ []) "event_argv_empty_after_render"
  demand (trim (argv.headD []) ≠ []) "event_argv0_empty_after_render"
  demand (argv.length ≤ maxElements) "event_argv_too_many_elements"
  demand ((argv.map bytes).sum ≤ maxBytes) "event_argv_too_large"
  checkElements "event_argv_element_empty_after_render_at_" argv

def renderAlertEventArgvTemplate (template : Option (List Text)) (context : Value) :
    Except String (List Text) := do
  validateAlertEventArgvTemplate template
  let argv ← (effectiveTemplate template).mapM (renderDirectScalarTemplate context)
  validateRenderedArgv argv
  pure argv

/-! ## What is rendered -/

/-- The text with every path in braces replaced by the scalar at the path. -/
inductive Substituted (context : Value) : Text → Text → Prop
  | literal {value : Text} (opening : '{' ∉ value) (closing : '}' ∉ value) :
      Substituted context value value
  | replaced {value path scalar template rendered : Text} (opening : '{' ∉ value)
      (closing : '}' ∉ value) (listed : String.ofList path ∈ scalarPaths)
      (found : scalarAt context path = .ok scalar) (rest : Substituted context template rendered) :
      Substituted context (value ++ '{' :: path ++ '}' :: template) (value ++ scalar ++ rendered)

variable {context : Value} {template rendered : Text}

/-- In a literal the rest is substituted, and in a placeholder the rest closes it. -/
theorem visitTemplateParts_substituted {inPath : Bool} {part rest : Text}
    (visited : visitTemplateParts (TemplatePart.render context) inPath part rest = .ok rendered) :
    if inPath then ∃ more template scalar others, rest = more ++ '}' :: template ∧
      String.ofList (part ++ more) ∈ scalarPaths ∧ scalarAt context (part ++ more) = .ok scalar ∧
      Substituted context template others ∧ rendered = scalar ++ others
    else '{' ∉ part → '}' ∉ part → Substituted context (part ++ rest) rendered := by
  induction rest generalizing inPath part rendered with
  | nil =>
    cases inPath with
    | true => cases visited
    | false =>
      cases visited
      simpa using Substituted.literal
  | cons c rest ih =>
    rw [visitTemplateParts] at visited
    cases inPath with
    | true =>
      rw [if_pos rfl] at visited ⊢
      split at visited
      next closes =>
        rw [check_then_ok, demand_ok, check_then_ok, demand_ok, bind_ok] at visited
        obtain ⟨-, listed, scalar, found, visited⟩ := visited
        obtain ⟨others, visited, same⟩ := bind_ok.mp visited
        refine ⟨[], rest, scalar, others, by rw [closes]; rfl, ?_, ?_, ih visited ?_ ?_, ?_⟩
        · rwa [List.append_nil]
        · rwa [List.append_nil]
        · exact List.not_mem_nil
        · exact List.not_mem_nil
        · exact (Except.ok.inj same).symm
      · obtain ⟨more, template, scalar, others, rfl, found⟩ := ih visited
        rw [List.append_assoc] at found
        exact ⟨c :: more, template, scalar, others, rfl, found⟩
    | false =>
      rw [if_neg Bool.false_ne_true] at visited ⊢
      intro opening closing
      split at visited
      · cases visited
      next ordinary =>
        split at visited
        next opens =>
          obtain ⟨first, same, next⟩ := bind_ok.mp visited
          cases same
          obtain ⟨others, later, same⟩ := bind_ok.mp next
          cases same
          obtain ⟨path, template, scalar, others, rfl, listed, found, rest, rfl⟩ := ih later
          rw [opens, ← List.append_assoc part]
          simpa using Substituted.replaced opening closing listed found rest
        next plain =>
          have rest := ih visited (by simp [opening, Ne.symm plain]) (by simp [closing, Ne.symm ordinary])
          rwa [List.append_assoc] at rest

theorem Substituted.eq_of_literal (substituted : Substituted context template rendered)
    (literal : '{' ∉ template) : rendered = template := by
  cases substituted with
  | literal => rfl
  | replaced => simp at literal

/-- A rendered command line has as many arguments as its template, its program is the
    template's, and every argument is its template with the scalars put in as they are. -/
theorem rendered_argv_substituted {template : Option (List Text)} {argv : List Text}
    (rendered : renderAlertEventArgvTemplate template context = .ok argv) :
    argv.length = (effectiveTemplate template).length ∧
      argv.head? = (effectiveTemplate template).head? ∧
      List.Forall₂ (Substituted context) (effectiveTemplate template) argv := by
  rw [renderAlertEventArgvTemplate, check_then_ok] at rendered
  obtain ⟨valid, rendered⟩ := rendered
  obtain ⟨elements, mapped, rendered⟩ := bind_ok.mp rendered
  obtain ⟨-, same⟩ := check_then_ok.mp rendered
  cases same
  have each : List.Forall₂ (Substituted context) (effectiveTemplate template) argv := by
    refine (forall₂_of_mapM mapped).imp fun element text visited => ?_
    exact visitTemplateParts_substituted (check_then_ok.mp visited).2 List.not_mem_nil
      List.not_mem_nil
  refine ⟨each.length_eq.symm, ?_, each⟩
  simp only [validateAlertEventArgvTemplate, check_then_ok, demand_ok] at valid
  obtain ⟨-, -, -, -, -, literal, -⟩ := valid
  generalize effectiveTemplate template = elements at each literal
  cases each with
  | nil => rfl
  | cons first =>
    refine congrArg some (first.eq_of_literal fun member => ?_)
    simp [containsTemplateSyntax, member] at literal

/-- A title that looks like a template itself. -/
def tricky : Value :=
  .object [("alert".toList, .object [("title".toList, .string "\x7bevent.id\x7d [if".toList)])]

def echoTitle : Option (List Text) :=
  some ["/bin/echo".toList, "alert: \x7balert.title\x7d!".toList]

theorem title_rendered_verbatim :
    renderAlertEventArgvTemplate echoTitle tricky =
      .ok ["/bin/echo".toList, "alert: \x7bevent.id\x7d [if!".toList] ∧
    List.Forall₂ (Substituted tricky) (effectiveTemplate echoTitle)
      ["/bin/echo".toList, "alert: \x7bevent.id\x7d [if!".toList] := by
  have rendered : renderAlertEventArgvTemplate echoTitle tricky =
      .ok ["/bin/echo".toList, "alert: \x7bevent.id\x7d [if!".toList] := by decide +kernel
  exact ⟨rendered, (rendered_argv_substituted rendered).2.2⟩

end Vpsman.Template.Argv
