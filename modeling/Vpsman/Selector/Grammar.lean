import Vpsman.Lib.Check
import Vpsman.Selector.Parser

/-! # The grammar of fleet selectors

Expressions are formulas with implicit AND over these predicates: a word that is a legal
shorthand, a field with an operator and a scalar, and a field with IN or NOT IN and a list.
-/

namespace Vpsman.Selector

open Vpsman.Lib Vpsman.Lib.Precedence

inductive IsScalar : TokenKind → Text → Prop where
  | word (value : Text) : IsScalar (.word value) value
  | string (value : Text) : IsScalar (.string value) value

inductive IsItem (engine : RegexEngine) : TokenKind → ListValue → Prop where
  | word (value : Text) : IsItem engine (.word value) (.literal value)
  | string (value : Text) : IsItem engine (.string value) (.literal value)
  | regex (pattern : Text) : engine.compile pattern = .ok () →
      IsItem engine (.regex pattern) (.regex pattern)

/-- Items with commas between them and a bracket after the last. -/
inductive IsItems (engine : RegexEngine) : List TokenKind → List ListValue → Prop where
  | last {token value} : IsItem engine token value →
      IsItems engine [token, .rightBracket] [value]
  | more {token value tokens values} : IsItem engine token value → IsItems engine tokens values →
      IsItems engine (token :: .comma :: tokens) (value :: values)

inductive IsPredicate (engine : RegexEngine) : List TokenKind → Predicate → Prop where
  | word {raw predicate} : bareWord true raw = .ok predicate →
      IsPredicate engine [.word raw] predicate
  | comparison {raw token operator scalar value} : comparisonOperator token = some operator →
      IsScalar scalar value →
      IsPredicate engine [.word raw, token, scalar] (.comparison (canonicalField raw) operator value)
  | membership {raw tokens values} : IsItems engine tokens values →
      IsPredicate engine (.word raw :: .in_ :: .leftBracket :: tokens)
        (.membership (canonicalField raw) false values)
  | notMembership {raw tokens values} : IsItems engine tokens values →
      IsPredicate engine (.word raw :: .not :: .in_ :: .leftBracket :: tokens)
        (.membership (canonicalField raw) true values)

variable {engine : RegexEngine} {tokens rest : List TokenKind}

/-! ## Scalars and lists -/

theorem parseScalarValue_ok :
    parseScalarValue tokens = .ok (value, rest) ↔ ∃ token, tokens = token :: rest ∧ IsScalar token value := by
  constructor
  · intro parsed
    unfold parseScalarValue at parsed
    split at parsed
    · cases parsed
      exact ⟨_, rfl, .word _⟩
    · cases parsed
      exact ⟨_, rfl, .string _⟩
    · cases parsed
    · cases parsed
  · rintro ⟨token, rfl, scalar⟩
    cases scalar <;> rfl

theorem listValue_ok : listValue engine token = .ok value ↔ IsItem engine token value := by
  constructor
  · intro parsed
    unfold listValue at parsed
    split at parsed
    · cases parsed
      exact .word _
    · cases parsed
      exact .string _
    · split at parsed
      next compiles =>
        cases parsed
        exact .regex _ compiles
      · cases parsed
    · cases parsed
  · intro item
    cases item with
    | word | string => rfl
    | regex _ compiles => simp [listValue, compiles]

theorem IsItem.not_bracket (item : IsItem engine token value) : token ≠ .rightBracket := by
  cases item <;> simp

theorem parseListItems_ok :
    parseListItems engine first tokens = .ok (values, rest) ↔
      ∃ own, tokens = own ++ rest ∧ IsItems engine own values := by
  constructor
  · intro parsed
    fun_induction parseListItems engine first tokens generalizing values with
    | case1 | case2 | case3 | case6 | case7 => cases parsed
    | case4 _ token _ _ found _ ih =>
      obtain ⟨⟨values', rest'⟩, parsed, same⟩ := map_ok.mp parsed
      cases same
      obtain ⟨own, rfl, items⟩ := ih parsed
      exact ⟨token :: .comma :: own, rfl, .more (listValue_ok.mp found) items⟩
    | case5 _ token _ _ found =>
      cases parsed
      exact ⟨[token, .rightBracket], rfl, .last (listValue_ok.mp found)⟩
  · rintro ⟨own, rfl, items⟩
    induction items generalizing first with
    | last item =>
      simp [parseListItems, item.not_bracket, listValue_ok.mpr item]
    | more item _ ih =>
      simp [parseListItems, item.not_bracket, listValue_ok.mpr item, ih, Except.map]

theorem parseListValues_ok :
    parseListValues engine tokens = .ok (values, rest) ↔
      ∃ own, tokens = .leftBracket :: own ++ rest ∧ IsItems engine own values := by
  constructor
  · intro parsed
    unfold parseListValues at parsed
    split at parsed
    · obtain ⟨own, rfl, items⟩ := parseListItems_ok.mp parsed
      exact ⟨own, rfl, items⟩
    · cases parsed
  · rintro ⟨own, rfl, items⟩
    exact parseListItems_ok.mpr ⟨own, rfl, items⟩

theorem IsItems.parseListValues (items : IsItems engine own values) (rest : List TokenKind) :
    Selector.parseListValues engine (.leftBracket :: (own ++ rest)) = .ok (values, rest) :=
  parseListValues_ok.mpr ⟨own, rfl, items⟩

/-! ## Predicates -/

/-- After a word, what may follow an operand leaves the word bare. -/
theorem parsePredicate_bare (follow : Follow (language engine true) rest) :
    parsePredicate engine true raw rest = (bareWord true raw).map fun predicate => (predicate, rest) := by
  cases follow with
  | done => rfl
  | @ends token tail roles =>
    have roles : role true token ∈ [Role.or, .and, .close, .word, .group] := roles
    cases token <;> first | rfl | simp [role] at roles
  | @negated token next tail negation begins =>
    have negation : role true token = .not := negation
    have begins : (role true next).begins := begins
    obtain rfl : token = .not := by
      cases token <;> first | rfl | simp [role] at negation
    cases next <;> first | rfl | simp [role, Role.begins] at begins

theorem parsePredicate_sound
    (parsed : parsePredicate engine true raw tokens = .ok (predicate, rest)) :
    ∃ own, tokens = own ++ rest ∧ IsPredicate engine (.word raw :: own) predicate := by
  unfold parsePredicate at parsed
  split at parsed
  · obtain ⟨⟨values, rest'⟩, parsed, same⟩ := map_ok.mp parsed
    cases same
    obtain ⟨own, rfl, items⟩ := parseListValues_ok.mp parsed
    exact ⟨.in_ :: .leftBracket :: own, rfl, .membership items⟩
  · obtain ⟨⟨values, rest'⟩, parsed, same⟩ := map_ok.mp parsed
    cases same
    obtain ⟨own, rfl, items⟩ := parseListValues_ok.mp parsed
    exact ⟨.not :: .in_ :: .leftBracket :: own, rfl, .notMembership items⟩
  · split at parsed
    next operator found =>
      obtain ⟨⟨value, rest'⟩, parsed, same⟩ := map_ok.mp parsed
      cases same
      obtain ⟨scalar, rfl, isScalar⟩ := parseScalarValue_ok.mp parsed
      exact ⟨[_, scalar], rfl, .comparison found isScalar⟩
    · obtain ⟨predicate', legal, same⟩ := map_ok.mp parsed
      cases same
      exact ⟨[], rfl, .word legal⟩
  · obtain ⟨predicate', legal, same⟩ := map_ok.mp parsed
    cases same
    exact ⟨[], rfl, .word legal⟩

theorem parsePredicate_complete (isPredicate : IsPredicate engine tokens predicate) :
    ∃ raw own, tokens = .word raw :: own ∧ ∀ rest, Follow (language engine true) rest →
      parsePredicate engine true raw (own ++ rest) = .ok (predicate, rest) := by
  cases isPredicate with
  | @word raw predicate legal =>
    refine ⟨raw, [], rfl, fun rest follow => ?_⟩
    rw [List.nil_append, parsePredicate_bare follow, legal]
    rfl
  | @comparison raw token operator scalar value found isScalar =>
    refine ⟨raw, [token, scalar], rfl, fun rest _ => ?_⟩
    have parsed : parseScalarValue (scalar :: rest) = .ok (value, rest) :=
      parseScalarValue_ok.mpr ⟨scalar, rfl, isScalar⟩
    cases token <;> first
      | (cases found
         simp [parsePredicate, comparisonOperator, parsed, Except.map, fieldName])
      | cases found
  | @membership raw own values items =>
    refine ⟨raw, .in_ :: .leftBracket :: own, rfl, fun rest _ => ?_⟩
    simp only [List.cons_append, parsePredicate, items.parseListValues]
    rfl
  | @notMembership raw own values items =>
    refine ⟨raw, .not :: .in_ :: .leftBracket :: own, rfl, fun rest _ => ?_⟩
    simp only [List.cons_append, parsePredicate, items.parseListValues]
    rfl

/-! ## Expressions -/

theorem reads : Reads (language engine true) (IsPredicate engine) where
  sound {token tokens predicate rest} isPredicate parsed := by
    cases token with
    | word => exact parsePredicate_sound parsed
    | _ => simp [language, role, Role.isPredicate] at isPredicate
  complete {tokens predicate} isPredicate := by
    obtain ⟨raw, own, rfl, parsed⟩ := parsePredicate_complete isPredicate
    exact ⟨.word raw, own, rfl, rfl, parsed⟩

/-- The parser accepts the tokens that the grammar derives and no others, and returns the one
    tree they have. After a word, NOT IN is the membership operator. No token of a fleet
    selector is a literal to the grammar, so AND may be left out before every operand. -/
theorem parser_implements_grammar (engine : RegexEngine) (tokens : List TokenKind) :
    (∀ expression, parseTokens engine true tokens = .ok expression ↔
      Derives (language engine true) (IsPredicate engine) .or tokens expression) ∧
    (∀ first second, Derives (language engine true) (IsPredicate engine) .or tokens first →
      Derives (language engine true) (IsPredicate engine) .or tokens second → first = second) ∧
    (∀ raw rest predicate left,
      parsePredicate engine true raw (.not :: .in_ :: rest) = .ok (predicate, left) →
      ∃ values, predicate = .membership (canonicalField raw) true values) := by
  refine ⟨fun expression => parse_iff reads rfl, fun first second => Derives.unique reads rfl, ?_⟩
  intro raw rest predicate left parsed
  obtain ⟨⟨values, left'⟩, -, same⟩ := map_ok.mp parsed
  cases same
  exact ⟨values, rfl⟩

end Vpsman.Selector
