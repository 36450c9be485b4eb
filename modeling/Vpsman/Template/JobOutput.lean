import Vpsman.Template.Paths

/-! # Templates that do not name the output of a job

The output of a job is a member of the job in the context. What a template without a path to
it renders to does not depend on it.
-/

namespace Vpsman.Template

open Vpsman.Lib Vpsman.Selector

def outputName : Text := "output".toList

/-- The value without this member. -/
def eraseMember (name : Text) : Value → Value
  | .object members => .object (members.filter fun member => member.1 ≠ name)
  | value => value

/-- The context without `job.output`. -/
def eraseJobOutput : Value → Value
  | .object members =>
    .object (members.map fun (name, value) =>
      (name, if name = jobRoot then eraseMember outputName value else value))
  | value => value

/-! ## Looking past a member -/

theorem lookup_filter_ne {members : List (Text × Value)} (differs : other ≠ name) :
    (members.filter fun member => member.1 ≠ name).lookup other = members.lookup other := by
  induction members with
  | nil => rfl
  | cons member _ ih =>
    obtain ⟨first, value⟩ := member
    by_cases same : first = name
    · have skipped : (other == first) = false := by simpa [same] using differs
      rw [List.filter_cons_of_neg (by simpa using same), ih, List.lookup_cons, skipped]
    · rw [List.filter_cons_of_pos (by simpa using same), List.lookup_cons, List.lookup_cons, ih]

theorem get_eraseMember (differs : other ≠ name) :
    (eraseMember name value).get other = value.get other := by
  cases value with
  | object => exact lookup_filter_ne differs
  | _ => rfl

theorem memberPath_filter_ne (differs : key ≠ name) :
    memberPath literalObjects all rest key (members.filter fun member => member.1 ≠ name) =
      memberPath literalObjects all rest key members := by
  induction members with
  | nil => rfl
  | cons member _ ih =>
    obtain ⟨first, value⟩ := member
    by_cases same : first = name
    · have skipped : ¬ first = key := fun found => differs (found.symm.trans same)
      rw [List.filter_cons_of_neg (by simpa using same), ih, memberPath, if_neg skipped]
    · rw [List.filter_cons_of_pos (by simpa using same), memberPath, memberPath, ih]

variable {segment : Text}

/-- A path through another member goes past the output, also where `name` stands for
    `display_name`. -/
theorem valuePath_eraseMember (differs : segment ≠ outputName) :
    valuePath (eraseMember outputName value) (segment :: rest) literalObjects =
      valuePath value (segment :: rest) literalObjects := by
  cases value with
  | object =>
    have shown : "display_name".toList ≠ outputName := by decide
    unfold valuePath eraseMember
    rw [valuePathFrom, valuePathFrom, lookup_filter_ne shown]
    split
    · exact memberPath_filter_ne shown
    · exact memberPath_filter_ne differs
  | _ => rfl

variable {rest : List Text}

theorem jsonPathValues_eraseMember
    (split : splitAll '.' path = segment :: rest) (differs : segment ≠ outputName) :
    jsonPathValues (eraseMember outputName value) path = jsonPathValues value path := by
  simp [jsonPathValues, split, get_eraseMember differs]

/-! ## Contexts -/

theorem get_eraseJobOutput :
    (eraseJobOutput root).get name =
      (root.get name).map fun value => if name = jobRoot then eraseMember outputName value else value := by
  cases root with
  | object members =>
    show (members.map _).lookup name = (members.lookup name).map _
    induction members with
    | nil => rfl
    | cons member _ ih =>
      obtain ⟨first, value⟩ := member
      rw [List.map_cons, List.lookup_cons, List.lookup_cons, ih]
      cases found : name == first with
      | false => rfl
      | true => rw [beq_iff_eq.mp found]; rfl
  | _ => rfl

variable {left right : Value}

section

variable (same : eraseJobOutput left = eraseJobOutput right)
include same

theorem sameButJob_of_erase : SameButJob left right := by
  intro name other
  have found : ∀ root : Value, (eraseJobOutput root).get name = root.get name := by
    intro root
    rw [get_eraseJobOutput]
    simp [other]
  rw [← found left, ← found right, same]

theorem job_of_erase :
    (left.get jobRoot).map (eraseMember outputName) =
      (right.get jobRoot).map (eraseMember outputName) := by
  have found : ∀ root : Value,
      (eraseJobOutput root).get jobRoot = (root.get jobRoot).map (eraseMember outputName) :=
    fun root => get_eraseJobOutput
  rw [← found left, ← found right, same]

theorem jobPath_of_erase (differs : segment ≠ outputName) :
    jobPath left (segment :: rest) literalObjects = jobPath right (segment :: rest) literalObjects := by
  have read : ∀ root : Value, jobPath root (segment :: rest) literalObjects =
      (((root.get jobRoot).map (eraseMember outputName)).bind fun job =>
        valuePath job (segment :: rest) literalObjects).getD .null := by
    intro root
    unfold jobPath
    cases root.get jobRoot with
    | none => rfl
    | some => exact congrArg (·.getD .null) (valuePath_eraseMember differs).symm
  rw [read left, read right, job_of_erase same]

theorem jobField_of_erase
    (split : splitAll '.' path = segment :: rest) (differs : segment ≠ outputName) :
    jobField left path = jobField right path := by
  have read : ∀ root : Value, jobField root path =
      ((root.get jobRoot).map (eraseMember outputName)).bind fun job => jsonPathValues job path := by
    intro root
    unfold jobField
    cases root.get jobRoot with
    | none => rfl
    | some => exact (jsonPathValues_eraseMember split differs).symm
  rw [read left, read right, job_of_erase same]

end

/-! ## Paths that name the output -/

/-- The path is `job.output` or leads through it. -/
def NamesOutput (path : Text) : Prop :=
  path = "job.output".toList ∨ startsWith "job.output." path = true

theorem namesOutput_of_segments (segments : pathSegments source = jobRoot :: outputName :: rest) :
    NamesOutput (joinedPath source) := by
  unfold NamesOutput joinedPath
  rw [segments, joinTexts_cons_cons]
  cases rest with
  | nil => exact .inl rfl
  | cons =>
    right
    exact List.isPrefixOf_iff_prefix.mpr (List.prefix_append "job.output.".toList _)

theorem splitAll_eq_cons (split : splitAll separator text = first :: others) :
    text = first ∧ others = [] ∨
      ∃ rest, text = first ++ separator :: rest ∧ splitAll separator rest = others := by
  induction text generalizing first with
  | nil =>
    cases split
    exact .inl ⟨rfl, rfl⟩
  | cons c rest ih =>
    rw [splitAll] at split
    by_cases ends : c = separator
    · rw [if_pos ends] at split
      cases split
      exact .inr ⟨rest, by rw [ends]; rfl, rfl⟩
    · rw [if_neg ends] at split
      cases inner : splitAll separator rest with
      | nil =>
        rw [inner] at split
        cases split
        cases rest with
        | nil => exact .inl ⟨rfl, rfl⟩
        | cons =>
          rw [splitAll] at inner
          split_ifs at inner
          split at inner <;> cases inner
      | cons =>
        rw [inner] at split
        cases split
        rcases ih inner with ⟨rfl, rfl⟩ | ⟨more, rfl, found⟩
        · exact .inl ⟨rfl, rfl⟩
        · exact .inr ⟨more, rfl, found⟩

theorem namesOutput_of_split (split : splitAll '.' path = outputName :: rest) :
    NamesOutput (jobRoot ++ '.' :: path) := by
  rcases splitAll_eq_cons split with ⟨rfl, _⟩ | ⟨after, rfl, _⟩
  · exact .inl rfl
  · exact .inr (List.isPrefixOf_iff_prefix.mpr (List.prefix_append "job.output.".toList after))

theorem splitAll_ne_nil : splitAll separator text ≠ [] := by
  cases text with
  | nil => simp [splitAll]
  | cons =>
    rw [splitAll]
    split_ifs
    · simp
    · split <;> simp

/-- Contexts that are equal but for `job.output` have the same values at every path that does
    not name it, unless the path is that of the job as a whole. -/
theorem sameAt_of_erase (same : eraseJobOutput left = eraseJobOutput right)
    (notJob : path ≠ jobRoot) (notOutput : ¬ NamesOutput path) :
    SameAt literalObjectPaths left right path where
  values := by
    intro source rest segments joined
    cases rest with
    | nil =>
      refine absurd ?_ notJob
      rw [← joined, joinedPath, segments]
      rfl
    | cons =>
      refine jobPath_of_erase same ?_
      rintro rfl
      exact notOutput (joined ▸ namesOutput_of_segments segments)
  fields := by
    intro rest below
    cases split : splitAll '.' rest with
    | nil => exact absurd split splitAll_ne_nil
    | cons =>
      refine jobField_of_erase same split ?_
      rintro rfl
      exact notOutput (below ▸ namesOutput_of_split split)

/-- A template whose paths do not name the output of the job, nor the job as a whole, renders
    to the same for contexts that are equal but for `job.output`. -/
theorem render_independent_of_job_output {externals : Externals} {json : JsonCodec} {template : Text}
    {paths : List Text} (referenced : templateReferencedPaths externals json template = .ok paths)
    (noJob : "job".toList ∉ paths) (noOutput : "job.output".toList ∉ paths)
    (noneBelow : ∀ path ∈ paths, startsWith "job.output." path = false)
    (same : eraseJobOutput left = eraseJobOutput right) (options : TemplateRenderOptions) :
    renderTemplateWithOptions externals json template left options =
      renderTemplateWithOptions externals json template right options := by
  refine renderTemplate_same (sameButJob_of_erase same) ⟨paths, referenced, ?_⟩
  intro path member
  apply sameAt_of_erase same
  · rintro rfl
    exact noJob member
  · rintro (rfl | below)
    · exact noOutput member
    · rw [noneBelow path member] at below
      cases below

/-- A job with this output, and its identity in a context. -/
def contextWithOutput (output : String) : Value :=
  .object [("job".toList, .object [("id".toList, .string "j-1".toList),
    ("output".toList, .string output.toList)])]

/-- Strings in quotes without escapes, and values written as nothing. -/
def plainJson : JsonCodec where
  parseString := fun text => .ok (text.drop 1).dropLast
  encode := fun _ => []

theorem job_id_rendered_alike :
    renderTemplateWithOptions noExternals plainJson "\x7bjob.id\x7d".toList
        (contextWithOutput "done") ⟨16, none, []⟩ =
      renderTemplateWithOptions noExternals plainJson "\x7bjob.id\x7d".toList
        (contextWithOutput "failed") ⟨16, none, []⟩ := by
  have referenced : templateReferencedPaths noExternals plainJson "\x7bjob.id\x7d".toList =
      .ok ["job.id".toList] := by decide +kernel
  have same : eraseJobOutput (contextWithOutput "done") = eraseJobOutput (contextWithOutput "failed") :=
    rfl
  exact render_independent_of_job_output referenced (by decide) (by decide) (by decide) same _

end Vpsman.Template
