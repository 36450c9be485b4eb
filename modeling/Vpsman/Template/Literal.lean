import Vpsman.Template.Render

/-! # Paths read as they stand

The parser looks for the names of helpers anywhere in the text of a path, and so finds them at the
start of longer names too.
-/

namespace Vpsman.Template

open Vpsman.Lib Vpsman.Selector

/-- Helpers that are written without parentheses. -/
def bareHelpers : List String := ["length", "first", "last", "count"]

variable {segment first : Text} {rest : List Text}

theorem find_eq_none_iff : find needle text = none ↔ ¬ needle <:+: text := by
  induction text with
  | nil => simp [find]
  | cons c text ih =>
    rw [find, List.infix_cons_iff]
    by_cases here : needle <+: c :: text <;> simp [here, ih]

theorem find_lt (found : find needle text = some start)
    (some_ : needle ≠ []) : start < text.length := by
  induction text generalizing start with
  | nil => simp [find, some_] at found
  | cons _ _ ih =>
    rw [find] at found
    split at found
    · cases found
      simp
    · obtain ⟨next, later, rfl⟩ := Option.map_eq_some_iff.mp found
      simpa using ih later

theorem prefix_of_prefix_append (plain : '.' ∉ name)
    (start : name <+: segment ++ '.' :: after) : name <+: segment := by
  rcases List.prefix_or_prefix_of_prefix start (List.prefix_append _ _) with shorter | ⟨more, rfl⟩
  · exact shorter
  · cases more with
    | nil => simp
    | cons =>
      obtain ⟨rfl, -⟩ := List.cons_prefix_cons.mp ((List.prefix_append_right_inj _).mp start)
      simp at plain

theorem prefix_joinTexts_iff (plain : '.' ∉ name) :
    name <+: joinTexts ['.'] (first :: rest) ↔ name <+: first := by
  cases rest with
  | nil => simp [joinTexts]
  | cons =>
    rw [joinTexts_cons_cons, List.append_assoc, List.singleton_append]
    exact ⟨prefix_of_prefix_append plain, (·.trans (List.prefix_append _ _))⟩

theorem infix_append_iff (absent : '.' ∉ segment) :
    '.' :: name <:+: segment ++ '.' :: after ↔ name <+: after ∨ '.' :: name <:+: after := by
  induction segment with
  | nil => simp [List.infix_cons_iff]
  | cons _ _ ih =>
    rw [List.mem_cons, not_or] at absent
    simp [List.infix_cons_iff, absent.1, ih absent.2]

/-- A dotted name stands in a dotted path where a later segment begins with it. -/
theorem infix_joinTexts_iff (plain : '.' ∉ name)
    (segments : ∀ segment ∈ first :: rest, '.' ∉ segment) :
    '.' :: name <:+: joinTexts ['.'] (first :: rest) ↔ ∃ segment ∈ rest, name <+: segment := by
  induction rest generalizing first with
  | nil =>
    have absent := segments first List.mem_cons_self
    simpa [joinTexts] using fun found => absent (found.subset List.mem_cons_self)
  | cons _ _ ih =>
    rw [List.forall_mem_cons] at segments
    rw [joinTexts_cons_cons, List.append_assoc, List.singleton_append,
      infix_append_iff segments.1, ih segments.2, prefix_joinTexts_iff plain]
    simp

/-- A character of identifiers is neither blank nor one of those that the parser looks for. -/
def Ordinary (c : Char) : Prop := isWhitespace c = false ∧ c ∉ ".(#\x7d".toList

instance (c : Char) : Decidable (Ordinary c) := inferInstanceAs (Decidable (_ ∧ _))

theorem ordinary_of_mem (identifier : isIdentifier segment = true) (member : c ∈ segment) :
    Ordinary c := by
  have either : isAsciiAlphabetic c || c.isDigit || c == '_' := by
    cases segment with
    | nil => cases identifier
    | cons =>
      simp only [isIdentifier, Bool.and_eq_true, List.all_eq_true] at identifier
      rcases List.mem_cons.mp member with rfl | later
      · grind
      · exact identifier.2 c later
  have narrow : c.toNat < 128 := by
    simp only [isAsciiAlphabetic, Char.isDigit, Bool.or_eq_true, Bool.and_eq_true, decide_eq_true_eq,
      beq_iff_eq, Char.le_def, UInt32.le_iff_toNat_le] at either
    rcases either with ((low | low) | low) | rfl
    · exact low.2.trans_lt (by decide)
    · exact low.2.trans_lt (by decide)
    · exact low.2.trans_lt (by decide)
    · decide
  exact ascii_induction (p := fun c => (isAsciiAlphabetic c || c.isDigit || c == '_') = true →
    isWhitespace c = false ∧ c ∉ ".(#\x7d".toList) (by decide) narrow either

theorem dot_notMem (identifier : isIdentifier segment = true) : '.' ∉ segment :=
  fun member => absurd (ordinary_of_mem identifier member).2 (by decide)

theorem ordinary_of_mem_join (identifiers : ∀ segment ∈ rest, isIdentifier segment = true)
    (member : c ∈ joinTexts ['.'] rest) : Ordinary c ∨ c = '.' := by
  induction rest with
  | nil => simp [joinTexts] at member
  | cons _ rest ih =>
    rw [List.forall_mem_cons] at identifiers
    cases rest with
    | nil => exact .inl (ordinary_of_mem identifiers.1 (by simpa [joinTexts] using member))
    | cons =>
      rw [joinTexts_cons_cons, List.mem_append, List.mem_append, List.mem_singleton] at member
      rcases member with (own | rfl) | later
      · exact .inl (ordinary_of_mem identifiers.1 own)
      · exact .inr rfl
      · exact ih identifiers.2 later

theorem notMem_join (identifiers : ∀ segment ∈ rest, isIdentifier segment = true)
    (special : ¬ Ordinary c ∧ c ≠ '.') : c ∉ joinTexts ['.'] rest :=
  fun member => (ordinary_of_mem_join identifiers member).elim special.1 special.2

theorem firstHelperStart_eq_none_iff
    (identifiers : ∀ segment ∈ first :: rest, isIdentifier segment = true) :
    firstHelperStart (joinTexts ['.'] (first :: rest)) = none ↔
      ∀ segment ∈ rest, ∀ helper ∈ bareHelpers, ¬ startsWith helper segment := by
  have needles : ∀ needle ∈ helperNeedles, '(' ∈ needle.toList ∨
      ∃ helper ∈ bareHelpers, needle.toList = '.' :: helper.toList := by decide
  have bare : ∀ helper ∈ bareHelpers, '.' ∉ helper.toList ∧
      ∃ needle ∈ helperNeedles, needle.toList = '.' :: helper.toList := by decide
  have dotted {name : Text} (plain : '.' ∉ name) := infix_joinTexts_iff plain
    fun segment member => dot_notMem (identifiers segment member)
  rw [firstHelperStart, List.min?_eq_none_iff, List.filterMap_eq_nil_iff]
  constructor
  · intro absent segment member helper listed start
    obtain ⟨plain, needle, among, same⟩ := bare helper listed
    have nowhere := find_eq_none_iff.mp (absent needle among)
    rw [same, dotted plain] at nowhere
    exact nowhere ⟨segment, member, List.isPrefixOf_iff_prefix.mp start⟩
  · intro clear needle among
    refine find_eq_none_iff.mpr fun found => ?_
    obtain parenthesis | ⟨helper, listed, same⟩ := needles needle among
    · exact notMem_join identifiers (by decide) (found.subset parenthesis)
    · rw [same, dotted (bare helper listed).1] at found
      obtain ⟨segment, member, start⟩ := found
      exact clear segment member helper listed (List.isPrefixOf_iff_prefix.mpr start)

theorem splitAll_joinTexts (segments : ∀ segment ∈ first :: rest, '.' ∉ segment) :
    splitAll '.' (joinTexts ['.'] (first :: rest)) = first :: rest := by
  induction rest generalizing first with
  | nil =>
    have absent := segments first List.mem_cons_self
    rw [show joinTexts ['.'] [first] = first by simp [joinTexts]]
    induction first with
    | nil => rfl
    | cons => grind [splitAll]
  | cons _ _ ih =>
    rw [List.forall_mem_cons] at segments
    have after := ih segments.2
    have absent := segments.1
    rw [joinTexts_cons_cons, List.append_assoc, List.singleton_append]
    clear ih segments
    induction first with
    | nil => simpa [splitAll] using after
    | cons => grind [splitAll]

theorem pathSegments_joinTexts (identifiers : ∀ segment ∈ first :: rest, isIdentifier segment = true) :
    pathSegments (joinTexts ['.'] (first :: rest)) = first :: rest := by
  have trimmed : (first :: rest).map trim = first :: rest := by
    refine (List.map_congr_left fun segment member => ?_).trans (List.map_id _)
    exact dropWhile_rdropWhile_eq_self fun c own => (ordinary_of_mem (identifiers segment member) own).1
  rw [pathSegments, splitAll_joinTexts fun segment member => dot_notMem (identifiers segment member),
    trimmed]
  refine List.filter_eq_self.mpr fun segment member => ?_
  cases segment with
  | nil => exact absurd (identifiers [] member) (by decide)
  | cons => rfl

theorem parsePathExpr_eq_iff (some_ : raw ≠ []) (ordinary : trim raw = raw) :
    parsePathExpr externals json raw = .ok ⟨raw, []⟩ ↔ firstHelperStart raw = none := by
  unfold parsePathExpr
  cases found : firstHelperStart raw with
  | none => simp [ordinary, some_, parseHelpers, pure, Except.pure, bind, Except.bind]
  | some start =>
    obtain ⟨needle, among, found⟩ := List.mem_filterMap.mp (List.min?_mem found)
    have before := find_lt found ((by decide : ∀ needle ∈ helperNeedles, needle.toList ≠ []) needle among)
    have shorter : trim (raw.take start) ≠ raw := by
      intro same
      have kept : (trim (raw.take start)).length ≤ (raw.take start).length :=
        ((List.rdropWhile_prefix _ _).length_le).trans (List.length_dropWhile_le _ _)
      rw [same, List.length_take] at kept
      omega
    simp only [reduceCtorEq, iff_false, Option.getD_some]
    split
    · simp [fail]
    · intro done
      obtain ⟨helpers, -, same⟩ := bind_ok.mp done
      exact shorter (congrArg PathExpr.base (Except.ok.inj same))

/-! ## The value at a path -/

/-- The value stored under the names, member by member. -/
def storedAt : List Text → Value → Option Value
  | [], value => some value
  | name :: rest, value => (value.get name).bind (storedAt rest)

/-- The names are members on the way: it leads through no array, and where objects are not
    literal no `name` stands beside a display name. -/
def Direct (literalObjects : Bool) : List Text → Value → Prop
  | [], _ => True
  | name :: rest, value =>
    (∀ values, value ≠ .array values) ∧
      (literalObjects = false → name = "name".toList → value.get "display_name".toList = none) ∧
      ∀ inner, value.get name = some inner → Direct literalObjects rest inner

theorem memberPath_eq : memberPath literalObjects all rest key members =
    (members.lookup key).bind (valuePathFrom literalObjects all rest) := by
  induction members with
  | nil => rfl
  | cons member members ih =>
    obtain ⟨name, value⟩ := member
    by_cases here : name = key
    · simp [memberPath, here]
    · simp [memberPath, here, ih, List.lookup_cons, beq_false_of_ne (Ne.symm here)]

theorem valuePathFrom_direct (direct : Direct literalObjects names value) :
    valuePathFrom literalObjects all names value = storedAt names value := by
  induction names generalizing value with
  | nil => cases value <;> rfl
  | cons name rest ih =>
    obtain ⟨noArray, shown, onward⟩ := direct
    cases value with
    | array values => exact absurd rfl (noArray values)
    | object members =>
      have key : (!literalObjects && name == "name".toList &&
          (members.lookup "display_name".toList).isSome) = false := by
        cases literalObjects with
        | true => rfl
        | false =>
          by_cases same : name = "name".toList
          · have absent : members.lookup "display_name".toList = none := shown rfl same
            rw [absent, Option.isSome_none, Bool.and_false]
          · rw [beq_false_of_ne same, Bool.and_false, Bool.false_and]
      rw [valuePathFrom, key, if_neg Bool.false_ne_true, memberPath_eq, storedAt, Value.get]
      cases held : members.lookup name with
      | none => rfl
      | some inner => exact ih (onward inner held)
    | null | bool | integer | decimal | string => rfl

theorem find_single (absent : c ∉ text) : find [c] (text ++ c :: after) = some text.length := by
  induction text with
  | nil => simp [find]
  | cons d rest ih =>
    rw [List.mem_cons, not_or] at absent
    simp [find, absent.1, ih absent.2]

theorem trim_join (identifiers : ∀ segment ∈ rest, isIdentifier segment = true) :
    trim (joinTexts ['.'] rest) = joinTexts ['.'] rest := by
  refine dropWhile_rdropWhile_eq_self fun c member => ?_
  rcases ordinary_of_mem_join identifiers member with ordinary | rfl
  · exact ordinary.1
  · rfl

/-! ## Templates of one placeholder -/

theorem parseTemplate_placeholder (nonempty : text ≠ []) (ends : '\x7d' ∉ text)
    (noComment : '#' ∉ text) (trimmed : trim text = text)
    (parsed : parsePathExpr externals json text = .ok path) :
    parseTemplate externals json ('\x7b' :: text ++ ['\x7d']) = .ok [.placeholder path] := by
  obtain ⟨c, text, rfl⟩ := List.exists_cons_of_ne_nil nonempty
  have noComment := List.ne_of_not_mem_cons noComment
  generalize input_eq : '\x7b' :: (c :: text) ++ ['\x7d'] = input
  have start : nextOffset input = some 0 := by
    have here : find "\x7b".toList input = some 0 := by simp [← input_eq, find]
    unfold nextOffset
    rw [here]
    cases find "[".toList input <;> simp
  have comment : startsWith "\x7b#" input = false := by
    simp [← input_eq, startsWith, List.isPrefixOf, noComment]
  have brace : startsWith "\x7b" input = true := by simp [← input_eq, startsWith]
  have found : find "\x7d".toList (input.drop 1) = some (c :: text).length := by
    rw [← input_eq]
    exact find_single ends
  have inner : (input.drop 1).take (c :: text).length = c :: text := by simp [← input_eq]
  have rest : input.drop ((c :: text).length + 2) = [] := by simp [← input_eq]
  have nonempty : input ≠ [] := by simp [← input_eq]
  have fuel : 2 * input.length + 2 = 2 * input.length + 1 + 1 := rfl
  rw [parseTemplate, fuel, parseNodes]
  simp only [if_neg nonempty, start, Cursor.advance, List.take_zero, List.drop_zero,
    List.reverse_nil, List.nil_append, comment, brace, found, inner, trimmed, parsed, lt_irrefl,
    List.isEmpty_cons, if_false, if_true, Bool.false_eq_true, bind, Except.bind]
  rw [parseNodes, if_pos rest]
  rfl

theorem resolvePath_stored (segments : pathSegments path = first :: rest)
    (foreign : first ≠ "vps".toList)
    (direct : ∀ current, context.get first = some current → Direct literal rest current) :
    resolvePathWithObjectMode (.ofRoot context) path literal =
      (storedAt (first :: rest) context).getD .null := by
  have noLocal : (Scope.ofRoot context).locals.get first = none := rfl
  rw [resolvePathWithObjectMode, segments, resolveSegments, if_neg fun ofVps => foreign ofVps.1,
    storedAt, noLocal, Option.none_or]
  cases held : context.get first with
  | none => simp [Scope.ofRoot, held]
  | some current =>
    have below : valuePath current rest literal = storedAt rest current :=
      valuePathFrom_direct (direct current held)
    cases rest with
    | nil => simp [Scope.ofRoot, held, belowRoot, storedAt]
    | cons => simp [Scope.ofRoot, held, belowRoot, below]

/-- What stays within the limits is rendered as it is. -/
theorem renderTemplate_placeholder (context : Value) (options : TemplateRenderOptions)
    (parsed : parseTemplate externals json template = .ok [.placeholder ⟨path, []⟩]) :
    let literal := literalObjectPath path (.ofRoot context) options.literalObjectPaths
    let rendered := renderValueWithObjectMode json literal
      (resolvePathWithObjectMode (.ofRoot context) path literal)
    (∀ limit, options.maxSubstitutionBytes = some limit → utf8Length rendered ≤ limit) →
    utf8Length rendered ≤ options.maxMessageBytes →
    renderTemplateWithOptions externals json template context options = .ok rendered := by
  intro literal rendered substituted fits
  have placed : renderPlaceholder externals json ⟨path, []⟩ (.ofRoot context) options =
      .ok rendered := by
    have whole : resolvePathExprWithLiteralPaths externals json ⟨path, []⟩ (.ofRoot context)
        options.literalObjectPaths = .ok (_, literal) := rfl
    simp only [renderPlaceholder, whole, bind, Except.bind]
    cases limited : options.maxSubstitutionBytes with
    | none => rfl
    | some limit => exact if_pos (substituted limit limited)
  simp only [renderTemplateWithOptions, parsed, renderNodes, renderNode, placed, bind, Except.bind,
    pure, Except.pure, List.append_nil]
  exact if_neg (Nat.not_lt.mpr fits)

/-- Just the paths no later segment of which begins like a helper are read as they stand. A
    placeholder for one, which does not begin with `vps`, renders the value that is stored
    there if the names on the way are members, as long as it stays within the limits. -/
theorem path_read_literally_iff
    (identifiers : ∀ segment ∈ first :: rest, isIdentifier segment = true) :
    (parsePathExpr externals json (joinTexts ['.'] (first :: rest)) =
        .ok ⟨joinTexts ['.'] (first :: rest), []⟩ ↔
      ∀ segment ∈ rest, ∀ helper ∈ bareHelpers, ¬ startsWith helper segment) ∧
    ((∀ segment ∈ rest, ∀ helper ∈ bareHelpers, ¬ startsWith helper segment) →
      first ≠ "vps".toList → ∀ context options,
        let literal := literalObjectPath (joinTexts ['.'] (first :: rest)) (.ofRoot context)
          options.literalObjectPaths
        (∀ current, context.get first = some current → Direct literal rest current) →
        let rendered := renderValueWithObjectMode json literal
          ((storedAt (first :: rest) context).getD .null)
        (∀ limit, options.maxSubstitutionBytes = some limit → utf8Length rendered ≤ limit) →
        utf8Length rendered ≤ options.maxMessageBytes →
        renderTemplateWithOptions externals json
            ('\x7b' :: joinTexts ['.'] (first :: rest) ++ ['\x7d']) context options =
          .ok rendered) := by
  have nonempty : joinTexts ['.'] (first :: rest) ≠ [] := by
    intro empty
    have segments := pathSegments_joinTexts identifiers
    simp [empty, pathSegments, splitAll, trim] at segments
  have literally := @parsePathExpr_eq_iff _ externals json nonempty (trim_join identifiers)
  rw [firstHelperStart_eq_none_iff identifiers] at literally
  refine ⟨literally, fun plain foreign context options => ?_⟩
  intro literal direct rendered substituted fits
  have parsed := parseTemplate_placeholder nonempty (notMem_join identifiers (by decide))
    (notMem_join identifiers (by decide)) (trim_join identifiers) (literally.mpr plain)
  have placed := renderTemplate_placeholder context options parsed
  have resolved := resolvePath_stored (pathSegments_joinTexts identifiers) foreign direct
  dsimp only at placed
  rw [resolved] at placed
  exact placed substituted fits

def lastJobError : List Text := ["schedule".toList, "last_job_error".toList]

theorem last_job_error_refused :
    (∀ segment ∈ lastJobError, isIdentifier segment = true) ∧
      "last_job_error" ∉ bareHelpers ∧
      parsePathExpr noExternals ⟨fun _ => .error "", fun _ => []⟩ (joinTexts ['.'] lastJobError) =
        fail "invalid helper syntax near _job_error" := by
  decide

/-- A job of three targets. -/
def jobContext : Value :=
  .object [("job".toList, .object [("target_count".toList, .integer 3)])]

theorem job_target_count_read_literally :
    (∀ segment ∈ ["job".toList, "target_count".toList], isIdentifier segment = true) ∧
      renderTemplateWithOptions noExternals ⟨fun _ => .error "", fun _ => []⟩
        "\x7bjob.target_count\x7d".toList jobContext ⟨100, some 10, []⟩ = .ok ['3'] := by
  have identifiers : ∀ segment ∈ ["job".toList, "target_count".toList], isIdentifier segment = true := by
    decide
  have direct : ∀ current, jobContext.get "job".toList = some current →
      Direct false ["target_count".toList] current := by
    rintro _ ⟨⟩
    exact ⟨fun _ => Value.noConfusion, fun _ same => absurd same (by decide), fun _ _ => trivial⟩
  have read := @path_read_literally_iff "job".toList ["target_count".toList] noExternals
    ⟨fun _ => .error "", fun _ => []⟩ identifiers
  have rendered := read.2 (by decide) (by decide) jobContext ⟨100, some 10, []⟩ direct
    (by rintro _ ⟨⟩; decide) (by decide)
  exact ⟨identifiers, rendered⟩

end Vpsman.Template
