import Mathlib.Data.List.Basic

/-! # Formulas with implicit conjunction

A recursive-descent parser for formulas over predicates in which NOT binds tighter than AND,
AND tighter than OR, both to the left, and AND may be left out between two operands. The
language supplies the roles of its tokens and the parser of its predicates. On the tokens
that the grammar derives, and on no others, the parser returns the tree of the derivation.
-/

namespace Vpsman.Lib

inductive Formula (α : Type) where
  | leaf (predicate : α)
  | not (inner : Formula α)
  | and (left right : Formula α)
  | or (left right : Formula α)
  deriving Repr, DecidableEq

namespace Formula

variable {α β : Type}

def eval (holds : α → Bool) : Formula α → Bool
  | .leaf predicate => holds predicate
  | .not inner => !inner.eval holds
  | .and left right => left.eval holds && right.eval holds
  | .or left right => left.eval holds || right.eval holds

/-- Evaluation with any meaning of the connectives. -/
def fold (leaf : α → β) (not : β → β) (and or : β → β → β) : Formula α → β
  | .leaf predicate => leaf predicate
  | .not inner => not (inner.fold leaf not and or)
  | .and left right => and (left.fold leaf not and or) (right.fold leaf not and or)
  | .or left right => or (left.fold leaf not and or) (right.fold leaf not and or)

theorem eval_eq_fold (formula : Formula α) :
    formula.eval holds = formula.fold holds Bool.not Bool.and Bool.or := by
  induction formula with
  | leaf => rfl
  | not _ ih => rw [eval, fold, ih]
  | and left right ihLeft ihRight | or left right ihLeft ihRight => rw [eval, fold, ihLeft, ihRight]

/-- What holds between the values of the predicates and is kept by the connectives holds
    between the values of the formula. -/
theorem fold_related (related : β → γ → Prop) {leaf : α → β} {leaf' : α → γ}
    {not : β → β} {not' : γ → γ} {and or : β → β → β} {and' or' : γ → γ → γ}
    (leaves : ∀ predicate, related (leaf predicate) (leaf' predicate))
    (keepsNot : ∀ {b c}, related b c → related (not b) (not' c))
    (keepsAnd : ∀ {b c b' c'}, related b c → related b' c' → related (and b b') (and' c c'))
    (keepsOr : ∀ {b c b' c'}, related b c → related b' c' → related (or b b') (or' c c'))
    (formula : Formula α) :
    related (formula.fold leaf not and or) (formula.fold leaf' not' and' or') := by
  induction formula with
  | leaf predicate => exact leaves predicate
  | not _ ih => exact keepsNot ih
  | and _ _ ihLeft ihRight => exact keepsAnd ihLeft ihRight
  | or _ _ ihLeft ihRight => exact keepsOr ihLeft ihRight

def All (p : α → Prop) : Formula α → Prop
  | .leaf predicate => p predicate
  | .not inner => inner.All p
  | .and left right => left.All p ∧ right.All p
  | .or left right => left.All p ∧ right.All p

end Formula

namespace Precedence

/-- What a token is to the grammar of formulas. -/
inductive Role where
  | or
  | and
  | not
  | group
  | close
  | word
  /-- A predicate of its own, but not one that an operand before it may omit AND for. -/
  | literal
  | other
  deriving Repr, DecidableEq

/-- The token is the first of a predicate. -/
def Role.isPredicate : Role → Bool
  | .word | .literal => true
  | _ => false

/-- The token can be the first of an operand. -/
def Role.begins : Role → Bool
  | .word | .literal | .group | .not => true
  | _ => false

/-- The token is the first of another operand when it comes after one. -/
def Role.starts : Role → Bool
  | .word | .group | .not => true
  | _ => false

theorem Role.starts_of_begins {role : Role} (begins : role.begins) (other : role ≠ .literal) :
    role.starts := by
  cases role <;> first | rfl | exact absurd rfl other | cases begins

/-- Tokens, the parser of the predicate that a word starts, and the errors. -/
structure Language (τ α ε : Type) where
  role : τ → Role
  predicate : τ → List τ → Except ε (α × List τ)
  /-- How deep groups and NOTs may nest. -/
  limit : Option Nat
  tooDeep : ε
  incomplete : ε
  stray : τ → List τ → ε
  unclosed : List τ → ε
  /-- What becomes of the error of an operand. -/
  inGroup : ε → ε
  underNot : ε → ε
  afterAnd : ε → ε
  beside : ε → ε
  afterOr : ε → ε

variable {τ α ε : Type}

namespace Language

variable (language : Language τ α ε)

def parsePrimary (parseGroup : Nat → List τ → Except ε (Formula α × List τ)) (depth : Nat) :
    List τ → Except ε (Formula α × List τ)
  | [] => .error language.incomplete
  | token :: rest =>
    if (language.role token).isPredicate then
      match language.predicate token rest with
      | .ok (predicate, rest) => .ok (.leaf predicate, rest)
      | .error error => .error error
    else if language.role token = .group then
      match parseGroup depth rest with
      | .ok (formula, last :: rest) =>
        if language.role last = .close then .ok (formula, rest)
        else .error (language.unclosed (last :: rest))
      | .ok (_, []) => .error (language.unclosed [])
      | .error error => .error (language.inGroup error)
    else .error (language.stray token rest)

def withinLimit (depth : Nat) : Bool :=
  match language.limit with
  | some limit => depth < limit
  | none => true

/-- The error where the tokens end instead of going on with an operand. -/
def noOperand (depth : Nat) : ε :=
  if language.withinLimit depth then language.incomplete else language.tooDeep

def parseNot (parseGroup : Nat → List τ → Except ε (Formula α × List τ)) (depth : Nat) :
    List τ → Except ε (Formula α × List τ)
  | [] => .error (language.noOperand depth)
  | token :: rest =>
    if !language.withinLimit depth then .error language.tooDeep
    else if language.role token = .not then
      match parseNot parseGroup (depth + 1) rest with
      | .ok (inner, rest) => .ok (.not inner, rest)
      | .error error => .error (language.underNot error)
    else language.parsePrimary parseGroup (depth + 1) (token :: rest)

/-- The operands after the first. The count is at least the number of tokens left, so that it
    only reaches zero with them. -/
def andLoop (operand : List τ → Except ε (Formula α × List τ)) :
    Nat → Formula α → List τ → Except ε (Formula α × List τ)
  | 0, formula, tokens => .ok (formula, tokens)
  | _ + 1, formula, [] => .ok (formula, [])
  | count + 1, formula, token :: rest =>
    if language.role token = .and then
      match operand rest with
      | .ok (right, rest) => andLoop operand count (.and formula right) rest
      | .error error => .error (language.afterAnd error)
    else if (language.role token).starts then
      match operand (token :: rest) with
      | .ok (right, rest) => andLoop operand count (.and formula right) rest
      | .error error => .error (language.beside error)
    else .ok (formula, token :: rest)

def parseAnd (operand : List τ → Except ε (Formula α × List τ)) (tokens : List τ) :
    Except ε (Formula α × List τ) :=
  match operand tokens with
  | .ok (formula, rest) => language.andLoop operand rest.length formula rest
  | .error error => .error error

def orLoop (operand : List τ → Except ε (Formula α × List τ)) :
    Nat → Formula α → List τ → Except ε (Formula α × List τ)
  | 0, formula, tokens => .ok (formula, tokens)
  | _ + 1, formula, [] => .ok (formula, [])
  | count + 1, formula, token :: rest =>
    if language.role token = .or then
      match operand rest with
      | .ok (right, rest) => orLoop operand count (.or formula right) rest
      | .error error => .error (language.afterOr error)
    else .ok (formula, token :: rest)

/-- Nested groups are parsed with one less of `fuel`, which is at least the number of tokens. -/
def parseOr : Nat → Nat → List τ → Except ε (Formula α × List τ)
  | 0, depth, _ => .error (language.noOperand depth)
  | fuel + 1, depth, tokens =>
    let operand := language.parseAnd (language.parseNot (parseOr fuel) depth)
    match operand tokens with
    | .ok (formula, rest) => language.orLoop operand rest.length formula rest
    | .error error => .error error

end Language

/-! ## The grammar -/

inductive Level where
  | or
  | and
  | not
  | primary
  deriving Repr, DecidableEq

/-- The tokens are a formula of the level with this tree, given which tokens are a predicate. -/
inductive Derives (language : Language τ α ε) (IsPredicate : List τ → α → Prop) :
    Level → List τ → Formula α → Prop where
  | orOperand {tokens formula} : Derives language IsPredicate .and tokens formula →
      Derives language IsPredicate .or tokens formula
  | or {first second token left right} : Derives language IsPredicate .or first left →
      language.role token = .or → Derives language IsPredicate .and second right →
      Derives language IsPredicate .or (first ++ token :: second) (.or left right)
  | andOperand {tokens formula} : Derives language IsPredicate .not tokens formula →
      Derives language IsPredicate .and tokens formula
  | and {first second token left right} : Derives language IsPredicate .and first left →
      language.role token = .and → Derives language IsPredicate .not second right →
      Derives language IsPredicate .and (first ++ token :: second) (.and left right)
  | adjacent {first second left right} : Derives language IsPredicate .and first left →
      Derives language IsPredicate .not second right →
      (∀ token ∈ second.head?, language.role token ≠ .literal) →
      Derives language IsPredicate .and (first ++ second) (.and left right)
  | not {token tokens formula} : language.role token = .not →
      Derives language IsPredicate .not tokens formula →
      Derives language IsPredicate .not (token :: tokens) (.not formula)
  | notOperand {tokens formula} : Derives language IsPredicate .primary tokens formula →
      Derives language IsPredicate .not tokens formula
  | group {opening tokens closing formula} : language.role opening = .group →
      Derives language IsPredicate .or tokens formula → language.role closing = .close →
      Derives language IsPredicate .primary (opening :: (tokens ++ [closing])) formula
  | predicate {tokens predicate} : IsPredicate tokens predicate →
      Derives language IsPredicate .primary tokens (.leaf predicate)

variable {formula : Formula α} {tokens : List τ} {level : Level}

theorem Derives.all {language : Language τ α ε}
    (derived : Derives language IsPredicate level tokens formula)
    (each : ∀ tokens predicate, IsPredicate tokens predicate → p predicate) : formula.All p := by
  induction derived with
  | orOperand _ ih | andOperand _ ih | notOperand _ ih => exact ih
  | or _ _ _ left right | and _ _ _ left right | adjacent _ _ _ left right => exact ⟨left, right⟩
  | not _ _ ih => exact ih
  | group _ _ _ ih => exact ih
  | predicate read => exact each _ _ read

/-- What may come after a formula: nothing, or a token that ends it or starts another operand. -/
inductive Follow (language : Language τ α ε) : List τ → Prop where
  | done : Follow language []
  | ends {token rest} : language.role token ∈ [.or, .and, .close, .word, .group] →
      Follow language (token :: rest)
  | negated {token next rest} : language.role token = .not → (language.role next).begins →
      Follow language (token :: next :: rest)

/-- The predicate parser reads the predicates of the grammar, each up to where it ends. -/
structure Reads (language : Language τ α ε) (IsPredicate : List τ → α → Prop) : Prop where
  sound : ∀ {word tokens predicate rest}, (language.role word).isPredicate →
    language.predicate word tokens = .ok (predicate, rest) →
    ∃ own, tokens = own ++ rest ∧ IsPredicate (word :: own) predicate
  complete : ∀ {tokens predicate}, IsPredicate tokens predicate →
    ∃ word own, tokens = word :: own ∧ (language.role word).isPredicate ∧
      ∀ rest, Follow language rest → language.predicate word (own ++ rest) = .ok (predicate, rest)

/-! ## What is parsed is derived -/

variable {language : Language τ α ε} {IsPredicate : List τ → α → Prop}

/-- The parser takes a formula of the level off the tokens. -/
def Takes (language : Language τ α ε) (IsPredicate : List τ → α → Prop) (level : Level)
    (parser : List τ → Except ε (Formula α × List τ)) : Prop :=
  ∀ tokens formula rest, parser tokens = .ok (formula, rest) →
    ∃ own, tokens = own ++ rest ∧ Derives language IsPredicate level own formula

variable {parseGroup : Nat → List τ → Except ε (Formula α × List τ)}
  {operand : List τ → Except ε (Formula α × List τ)} {count : Nat}

theorem andLoop_takes (operands : Takes language IsPredicate .not operand)
    (derived : Derives language IsPredicate .and before formula)
    (parsed : language.andLoop operand count formula tokens = .ok (result, rest)) :
    ∃ own, tokens = own ++ rest ∧ Derives language IsPredicate .and (before ++ own) result := by
  induction count generalizing formula before tokens with
  | zero =>
    cases parsed
    exact ⟨[], rfl, by simpa using derived⟩
  | succ _ ih =>
    cases tokens with
    | nil =>
      cases parsed
      exact ⟨[], rfl, by simpa using derived⟩
    | cons token =>
      unfold Language.andLoop at parsed
      split at parsed
      next conjunction =>
        split at parsed
        next right tail' operandParsed =>
          obtain ⟨second, rfl, derivedRight⟩ := operands _ _ _ operandParsed
          obtain ⟨own, rfl, all⟩ := ih (.and derived conjunction derivedRight) parsed
          exact ⟨token :: (second ++ own), by simp, by simpa using all⟩
        · cases parsed
      · split at parsed
        next starts =>
          split at parsed
          next right tail' operandParsed =>
            obtain ⟨second, split, derivedRight⟩ := operands _ _ _ operandParsed
            have notLiteral : ∀ first ∈ second.head?, language.role first ≠ .literal := by
              intro first isFirst literal
              obtain ⟨tail'', rfl⟩ := List.head?_eq_some_iff.mp isFirst
              obtain rfl : token = first := (List.cons.inj split).1
              simp [literal, Role.starts] at starts
            obtain ⟨own, rfl, all⟩ := ih (.adjacent derived derivedRight notLiteral) parsed
            exact ⟨second ++ own, by simp [split], by simpa using all⟩
          · cases parsed
        · cases parsed
          exact ⟨[], rfl, by simpa using derived⟩

theorem parseAnd_takes (operands : Takes language IsPredicate .not operand) :
    Takes language IsPredicate .and (language.parseAnd operand) := by
  intro tokens formula rest parsed
  unfold Language.parseAnd at parsed
  split at parsed
  next first tail operandParsed =>
    obtain ⟨before, rfl, derived⟩ := operands _ _ _ operandParsed
    obtain ⟨own, rfl, all⟩ := andLoop_takes operands (.andOperand derived) parsed
    exact ⟨before ++ own, by simp, all⟩
  · cases parsed

theorem orLoop_takes (operands : Takes language IsPredicate .and operand)
    (derived : Derives language IsPredicate .or before formula)
    (parsed : language.orLoop operand count formula tokens = .ok (result, rest)) :
    ∃ own, tokens = own ++ rest ∧ Derives language IsPredicate .or (before ++ own) result := by
  induction count generalizing formula before tokens with
  | zero =>
    cases parsed
    exact ⟨[], rfl, by simpa using derived⟩
  | succ _ ih =>
    cases tokens with
    | nil =>
      cases parsed
      exact ⟨[], rfl, by simpa using derived⟩
    | cons token =>
      unfold Language.orLoop at parsed
      split at parsed
      next disjunction =>
        split at parsed
        next right tail' operandParsed =>
          obtain ⟨second, rfl, derivedRight⟩ := operands _ _ _ operandParsed
          obtain ⟨own, rfl, all⟩ := ih (.or derived disjunction derivedRight) parsed
          exact ⟨token :: (second ++ own), by simp, by simpa using all⟩
        · cases parsed
      · cases parsed
        exact ⟨[], rfl, by simpa using derived⟩

/-- What ends a conjunction. -/
def EndsAnd (language : Language τ α ε) (rest : List τ) : Prop :=
  ∀ token ∈ rest.head?, language.role token = .or ∨ language.role token = .close

theorem EndsAnd.follow (ends : EndsAnd language rest) : Follow language rest := by
  cases rest with
  | nil => exact .done
  | cons token =>
    refine .ends ?_
    rcases ends token rfl with role | role <;> simp [role]

theorem andLoop_ends (ends : EndsAnd language rest) (enough : rest.length ≤ count) :
    language.andLoop operand count formula rest = .ok (formula, rest) := by
  cases rest with
  | nil => cases count <;> rfl
  | cons token =>
    cases count with
    | zero => simp at enough
    | succ =>
      rcases ends token rfl with role | role <;> simp [Language.andLoop, role, Role.starts]

theorem orLoop_closed (closed : ∀ token ∈ rest.head?, language.role token = .close)
    (enough : rest.length ≤ count) :
    language.orLoop operand count formula rest = .ok (formula, rest) := by
  cases rest with
  | nil => cases count <;> rfl
  | cons token =>
    cases count with
    | zero => simp at enough
    | succ => simp [Language.orLoop, closed token rfl]

theorem Role.isPredicate_begins {role : Role} (isPredicate : role.isPredicate) :
    role.begins ∧ role ≠ .not := by
  cases role <;> simp_all [Role.isPredicate, Role.begins]

variable (reads : Reads language IsPredicate)
include reads

theorem parsePrimary_takes (groups : ∀ depth, Takes language IsPredicate .or (parseGroup depth)) :
    Takes language IsPredicate .primary (language.parsePrimary parseGroup depth) := by
  intro tokens formula rest parsed
  cases tokens with
  | nil => simp [Language.parsePrimary] at parsed
  | cons token =>
    simp only [Language.parsePrimary] at parsed
    split at parsed
    next isPredicate =>
      split at parsed
      next predicate tail' read =>
        cases parsed
        obtain ⟨own, rfl, isPredicate⟩ := reads.sound isPredicate read
        exact ⟨token :: own, rfl, .predicate isPredicate⟩
      · cases parsed
    split at parsed
    next opening =>
      split at parsed
      next inner last tail' grouped =>
        split at parsed
        next closing =>
          cases parsed
          obtain ⟨own, rfl, derived⟩ := groups depth _ _ _ grouped
          exact ⟨token :: (own ++ [last]), by simp, .group opening derived closing⟩
        · cases parsed
      · cases parsed
      · cases parsed
    · cases parsed

theorem parseNot_takes
    (groups : ∀ depth, Takes language IsPredicate .or (parseGroup depth)) (depth : Nat) :
    Takes language IsPredicate .not (language.parseNot parseGroup depth) := by
  intro tokens
  induction tokens generalizing depth with
  | nil =>
    intro formula rest parsed
    simp [Language.parseNot] at parsed
  | cons token _ ih =>
    intro formula rest parsed
    unfold Language.parseNot at parsed
    split at parsed
    · cases parsed
    split at parsed
    next negation =>
      split at parsed
      next inner tail' below =>
        cases parsed
        obtain ⟨own, rfl, derived⟩ := ih (depth + 1) _ _ below
        exact ⟨token :: own, rfl, .not negation derived⟩
      · cases parsed
    · obtain ⟨own, split, derived⟩ := parsePrimary_takes reads groups _ _ _ parsed
      exact ⟨own, split, .notOperand derived⟩

theorem parseOr_takes (fuel depth : Nat) :
    Takes language IsPredicate .or (language.parseOr fuel depth) := by
  induction fuel generalizing depth with
  | zero =>
    intro tokens formula rest parsed
    cases parsed
  | succ _ ih =>
    intro tokens formula rest parsed
    have operands := parseAnd_takes (parseNot_takes reads ih depth)
    simp only [Language.parseOr] at parsed
    split at parsed
    next first tail operandParsed =>
      obtain ⟨before, rfl, derived⟩ := operands _ _ _ operandParsed
      obtain ⟨own, rfl, all⟩ := orLoop_takes operands (.orOperand derived) parsed
      exact ⟨before ++ own, by simp, all⟩
    · cases parsed

/-! ## What is derived is parsed -/

theorem Derives.begins (derived : Derives language IsPredicate level tokens formula) :
    ∃ token rest, tokens = token :: rest ∧ (language.role token).begins ∧
      (language.role token = .not → ∃ next rest', rest = next :: rest' ∧
        (language.role next).begins) := by
  induction derived with
  | orOperand _ ih | andOperand _ ih | notOperand _ ih => exact ih
  | or _ _ _ ih | and _ _ _ ih | adjacent _ _ _ ih =>
    obtain ⟨token, rest, rfl, begins, negated⟩ := ih
    refine ⟨token, _, rfl, begins, fun negation => ?_⟩
    obtain ⟨next, rest', rfl, begins'⟩ := negated negation
    exact ⟨next, _, rfl, begins'⟩
  | not negation _ ih =>
    obtain ⟨next, rest, rfl, begins, -⟩ := ih
    exact ⟨_, _, rfl, by rw [negation]; rfl, fun _ => ⟨next, rest, rfl, begins⟩⟩
  | group opening => exact ⟨_, _, rfl, by rw [opening]; rfl, by simp [opening]⟩
  | predicate isPredicate =>
    obtain ⟨word, own, rfl, isWord, -⟩ := reads.complete isPredicate
    obtain ⟨begins, notNot⟩ := Role.isPredicate_begins isWord
    exact ⟨word, own, rfl, begins, fun negation => absurd negation notNot⟩

theorem Derives.primary_not_negated
    (derived : Derives language IsPredicate .primary tokens formula) :
    ∃ token rest, tokens = token :: rest ∧ language.role token ≠ .not := by
  cases derived with
  | group opening => exact ⟨_, _, rfl, by simp [opening]⟩
  | predicate isPredicate =>
    obtain ⟨word, own, rfl, isWord, -⟩ := reads.complete isPredicate
    exact ⟨word, own, rfl, (Role.isPredicate_begins isWord).2⟩

/-- An operand that does not begin with a literal may come right after another one. -/
theorem Derives.follow (derived : Derives language IsPredicate level tokens formula)
    (notLiteral : ∀ token ∈ tokens.head?, language.role token ≠ .literal) :
    Follow language (tokens ++ rest) := by
  obtain ⟨token, tail, rfl, begins, negated⟩ := derived.begins reads
  cases role : language.role token with
  | word | group => exact .ends (by simp [role])
  | not =>
    obtain ⟨next, tail', rfl, begins'⟩ := negated role
    exact .negated role begins'
  | literal => exact absurd role (notLiteral token rfl)
  | or | and | close | other => simp [role, Role.begins] at begins

/-- What the parser of each level does on the tokens of a derivation and more tokens after
    them. Conjunctions and disjunctions go on with the loop. -/
def Completes (language : Language τ α ε) (level : Level) (tokens : List τ) (formula : Formula α) :
    Prop :=
  ∀ (fuel depth : Nat) (rest : List τ), (tokens ++ rest).length ≤ fuel + 1 →
    match level with
    | .primary => Follow language rest →
        language.parsePrimary (language.parseOr fuel) depth (tokens ++ rest) = .ok (formula, rest)
    | .not => Follow language rest →
        language.parseNot (language.parseOr fuel) depth (tokens ++ rest) = .ok (formula, rest)
    | .and => Follow language rest → ∃ count, rest.length ≤ count ∧
        language.parseAnd (language.parseNot (language.parseOr fuel) depth) (tokens ++ rest) =
          language.andLoop (language.parseNot (language.parseOr fuel) depth) count formula rest
    | .or => EndsAnd language rest → ∃ count, rest.length ≤ count ∧
        language.parseOr (fuel + 1) depth (tokens ++ rest) =
          language.orLoop (language.parseAnd (language.parseNot (language.parseOr fuel) depth))
            count formula rest

omit reads in
theorem length_left (bound : (token :: (second ++ rest)).length ≤ count) :
    ∃ less, count = less + 1 ∧ rest.length ≤ less := by
  obtain ⟨less, rfl⟩ := Nat.exists_eq_add_of_lt (Nat.lt_of_lt_of_le (Nat.succ_pos _) bound)
  exact ⟨0 + less, rfl, by grind⟩

theorem Derives.completes (unlimited : language.limit = none)
    (derived : Derives language IsPredicate level tokens formula) :
    Completes language level tokens formula := by
  have within (depth : Nat) : language.withinLimit depth = true := by
    simp [Language.withinLimit, unlimited]
  induction derived with
  | orOperand _ ih =>
    intro fuel depth rest enough ends
    obtain ⟨count, bound, parsed⟩ := ih fuel depth rest enough ends.follow
    rw [andLoop_ends ends bound] at parsed
    exact ⟨rest.length, Nat.le_refl _, by simp [Language.parseOr, parsed]⟩
  | @or first second token left right _ role derivedRight ihLeft ihRight =>
    intro fuel depth rest enough ends
    rw [List.append_assoc, List.cons_append] at enough ⊢
    obtain ⟨count, bound, parsed⟩ :=
      ihLeft fuel depth (token :: (second ++ rest)) enough (by simp [EndsAnd, role])
    have shorter : (second ++ rest).length ≤ fuel + 1 := by grind
    obtain ⟨inner, bound', parsed'⟩ := ihRight fuel depth rest shorter ends.follow
    rw [andLoop_ends ends bound'] at parsed'
    obtain ⟨count, rfl, left⟩ := length_left bound
    refine ⟨count, left, ?_⟩
    rw [parsed]
    simp [Language.orLoop, role, parsed']
  | andOperand _ ih =>
    intro fuel depth rest enough follow
    exact ⟨rest.length, Nat.le_refl _, by simp [Language.parseAnd, ih fuel depth rest enough follow]⟩
  | @and first second token left right _ role derivedRight ihLeft ihRight =>
    intro fuel depth rest enough follow
    rw [List.append_assoc, List.cons_append] at enough ⊢
    obtain ⟨count, bound, parsed⟩ :=
      ihLeft fuel depth (token :: (second ++ rest)) enough (.ends (by simp [role]))
    have shorter : (second ++ rest).length ≤ fuel + 1 := by grind
    obtain ⟨count, rfl, left⟩ := length_left bound
    refine ⟨count, left, ?_⟩
    rw [parsed]
    simp [Language.andLoop, role, ihRight fuel depth rest shorter follow]
  | @adjacent first second left right _ derivedRight notLiteral ihLeft ihRight =>
    intro fuel depth rest enough follow
    rw [List.append_assoc] at enough ⊢
    obtain ⟨count, bound, parsed⟩ :=
      ihLeft fuel depth (second ++ rest) enough (derivedRight.follow reads notLiteral)
    obtain ⟨token, tail, rfl, begins, -⟩ := derivedRight.begins reads
    have starts := Role.starts_of_begins begins (notLiteral token rfl)
    have shorter : (token :: tail ++ rest).length ≤ fuel + 1 := by grind
    have notAnd : language.role token ≠ .and := by
      intro role
      simp [role, Role.starts] at starts
    obtain ⟨count, rfl, left⟩ := length_left bound
    have operandParsed := ihRight fuel depth rest shorter follow
    refine ⟨count, left, ?_⟩
    rw [parsed]
    rw [List.cons_append] at operandParsed ⊢
    simp [Language.andLoop, notAnd, starts, operandParsed]
  | @not token tokens formula role _ ih =>
    intro fuel depth rest enough follow
    have shorter : (tokens ++ rest).length ≤ fuel + 1 := by grind
    simp [Language.parseNot, within, role, ih fuel (depth + 1) rest shorter follow]
  | notOperand derived ih =>
    intro fuel depth rest enough follow
    have parsed := ih fuel (depth + 1) rest enough follow
    obtain ⟨token, tail, rfl, notNot⟩ := derived.primary_not_negated reads
    rw [List.cons_append] at parsed ⊢
    simp [Language.parseNot, within, notNot, parsed]
  | @group opening tokens closing formula roleOpening derived roleClosing ih =>
    intro fuel depth rest enough follow
    cases fuel with
    | zero => simp at enough
    | succ fuel =>
      have shorter : (tokens ++ closing :: rest).length ≤ fuel + 1 := by
        simpa using enough
      have closed : ∀ token ∈ (closing :: rest).head?, language.role token = .close := by
        simp [roleClosing]
      obtain ⟨count, bound, parsed⟩ := ih fuel depth (closing :: rest) shorter
        fun token first => .inr (closed token first)
      rw [orLoop_closed closed bound] at parsed
      simp [Language.parsePrimary, roleOpening, Role.isPredicate, parsed, roleClosing]
  | predicate isPredicate =>
    intro fuel depth rest enough follow
    obtain ⟨word, own, rfl, isWord, reading⟩ := reads.complete isPredicate
    simp [Language.parsePrimary, isWord, reading rest follow]

/-! ## The parser decides the grammar -/

/-- All tokens as one formula. -/
def Language.parse (language : Language τ α ε) (leftOver : ε) (tokens : List τ) :
    Except ε (Formula α) :=
  match language.parseOr tokens.length 0 tokens with
  | .ok (formula, []) => .ok formula
  | .ok (_, _ :: _) => .error leftOver
  | .error error => .error error

theorem parse_sound (parsed : language.parse leftOver tokens = .ok formula) :
    Derives language IsPredicate .or tokens formula := by
  unfold Language.parse at parsed
  split at parsed
  next taken =>
    cases parsed
    obtain ⟨own, rfl, derived⟩ := parseOr_takes reads _ _ _ _ _ taken
    simpa using derived
  · cases parsed
  · cases parsed

theorem parse_complete (unlimited : language.limit = none)
    (derived : Derives language IsPredicate .or tokens formula) :
    language.parse leftOver tokens = .ok formula := by
  obtain ⟨token, rest, rfl, -⟩ := derived.begins reads
  obtain ⟨count, bound, parsed⟩ :=
    derived.completes reads unlimited rest.length 0 [] (by simp) (by simp [EndsAnd])
  rw [orLoop_closed (by simp) bound, List.append_nil] at parsed
  simp [Language.parse, parsed]

theorem parse_iff (unlimited : language.limit = none) :
    language.parse leftOver tokens = .ok formula ↔
      Derives language IsPredicate .or tokens formula :=
  ⟨parse_sound reads, parse_complete reads unlimited⟩

theorem Derives.unique (unlimited : language.limit = none)
    (left : Derives language IsPredicate .or tokens first)
    (right : Derives language IsPredicate .or tokens second) : first = second := by
  have parsed : language.parse language.incomplete tokens = .ok first :=
    parse_complete reads unlimited left
  rw [parse_complete reads unlimited right] at parsed
  exact (Except.ok.inj parsed).symm

end Precedence
end Vpsman.Lib
