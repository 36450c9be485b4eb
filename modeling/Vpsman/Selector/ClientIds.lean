import Mathlib.Data.List.Nodup
import Vpsman.Selector.Grammar
import Vpsman.Selector.Validate

/-! # Selectors of client ids

The console names clients to the server by the text `id:a || id:b`. The ids that enrolment
accepts need no quotes and have no glob characters.
-/

namespace Vpsman.Selector

open Vpsman.Lib Vpsman.Lib.Precedence

/-! ## The console's text

Strings are sequences of UTF-16 units there, which are the characters where texts are ASCII.
-/

namespace Console

/-- White space and line ends of ECMAScript: the class `\s`, and what `trim` removes. -/
def isSpace (c : Char) : Bool :=
  let code := c.toNat
  (0x09 ≤ code && code ≤ 0x0d) || code == 0x20 || code == 0xa0 || code == 0x1680 ||
    (0x2000 ≤ code && code ≤ 0x200a) || code == 0x2028 || code == 0x2029 || code == 0x202f ||
    code == 0x205f || code == 0x3000 || code == 0xfeff

/-- `String.prototype.trim`. -/
def trim (text : Text) : Text := (text.dropWhile isSpace).rdropWhile isSpace

def isTermDelimiter (c : Char) : Bool :=
  isSpace c || c ∈ ['(', ')', '[', ']', ',', '=', '!', '<', '>', '|', '&', '~']

/-- The characters that a value without quotes cannot have. -/
def needsQuotes (c : Char) : Bool := isTermDelimiter c || isQuote c || c == '#'

/-- The text holds the start of a block comment. -/
def hasBlock : Text → Bool
  | [] => false
  | c :: rest => startsBlock (c :: rest) || hasBlock rest

def escapeQuoted (value : Text) : Text :=
  value.flatMap fun c => if c = '\\' ∨ c = '"' then ['\\', c] else [c]

def quoteSelectorValue (value : Text) : Text :=
  if !value.isEmpty && !value.any needsQuotes && !hasBlock value then value
  else '"' :: (escapeQuoted value ++ ['"'])

def selectorExpressionForClientIds (clientIds : List Text) : Text :=
  " || ".toList.intercalate <|
    (((clientIds.map trim).filter (!·.isEmpty)).eraseDups).map fun clientId =>
      "id:".toList ++ quoteSelectorValue clientId

end Console

/-! ## Ids that enrolment accepts -/

/-- ASCII letters, digits and `-`, `_`, `.`, `:`. -/
def isIdByte (byte : UInt8) : Bool :=
  (48 ≤ byte && byte ≤ 57) || (65 ≤ byte && byte ≤ 90) || (97 ≤ byte && byte ≤ 122) ||
    byte ∈ [45, 95, 46, 58]

def validateClientId (clientId : Text) : Except String Unit :=
  if (trim clientId).isEmpty ∨ 120 < (utf8Bytes clientId).length then .error "client_id_invalid"
  else if !(utf8Bytes clientId).all isIdByte then .error "client_id_invalid"
  else .ok ()

/-- The character stands for itself in a word and in a pattern. -/
def isPlain (c : Char) : Bool :=
  !isWhitespace c && !isDelimiter c && !isQuote c && c != '#' && c != '/' &&
    c.toLower != '*' && c.toLower != '?' && !Console.needsQuotes c

theorem not_isIdByte (large : 128 ≤ n) (small : n < 256) : isIdByte (UInt8.ofNat n) = false := by
  rw [← Bool.not_eq_true]
  intro idByte
  simp only [isIdByte, List.mem_cons, List.not_mem_nil, or_false, Bool.or_eq_true,
    Bool.and_eq_true, decide_eq_true_eq, UInt8.le_iff_toNat_le, ← UInt8.toNat_inj,
    UInt8.toNat_ofNat', UInt8.reduceToNat, Nat.mod_eq_of_lt small] at idByte
  omega

theorem isPlain_of_idByte (ascii : c.toNat < 128) : isIdByte (UInt8.ofNat c.toNat) → isPlain c := by
  refine ascii_induction (p := fun c => isIdByte (UInt8.ofNat c.toNat) → isPlain c) ?_ ascii
  decide +kernel

/-- A character outside ASCII starts with a byte that no id has. -/
theorem isPlain_of_bytes (idBytes : (String.utf8EncodeChar c).all isIdByte) : isPlain c := by
  by_cases ascii : c.toNat < 128
  · have small : c.val.toNat ≤ 127 := Nat.le_of_lt_succ ascii
    rw [String.utf8EncodeChar, if_pos small] at idBytes
    exact isPlain_of_idByte ascii (by simpa using idBytes)
  · have large : ¬ c.val.toNat ≤ 127 := fun small => ascii (Nat.lt_succ_of_le small)
    simp only [String.utf8EncodeChar, large, if_false] at idBytes
    split at idBytes
    · rw [List.all_cons, not_isIdByte (by omega) (by omega)] at idBytes
      cases idBytes
    · split at idBytes
      all_goals
        rw [List.all_cons, not_isIdByte (by omega) (by omega)] at idBytes
        cases idBytes

/-- An id that stands for itself. -/
structure PlainId (clientId : Text) : Prop where
  nonempty : clientId ≠ []
  plain : ∀ c ∈ clientId, isPlain c

theorem plainId_of_valid (valid : validateClientId clientId = .ok ()) : PlainId clientId := by
  unfold validateClientId at valid
  split at valid
  · cases valid
  next fits =>
    split at valid
    · cases valid
    next idBytes =>
      simp only [Bool.not_eq_true', Bool.not_eq_false] at idBytes
      constructor
      · rintro rfl
        exact fits (.inl rfl)
      · intro c member
        refine isPlain_of_bytes (List.all_eq_true.mpr fun byte inChar => ?_)
        exact List.all_eq_true.mp idBytes byte (List.mem_flatMap.mpr ⟨c, member, inChar⟩)

/-! ## The text -/

/-- The start of the text for an id. -/
def idWord (clientId : Text) : Text := "id:".toList ++ clientId

/-- What the text has for each id after the first. -/
def moreIds (clientIds : List Text) : Text :=
  clientIds.flatMap fun clientId => " || ".toList ++ idWord clientId

theorem intercalate_cons (separator first : Text) (others : List Text) :
    separator.intercalate (first :: others) = first ++ others.flatMap (separator ++ ·) := by
  induction others generalizing first with
  | nil => simp
  | cons _ _ ih =>
    rw [List.intercalate_cons_cons, ih, List.flatMap_cons, List.append_assoc, List.append_assoc]

variable {clientId : Text}

theorem trim_plainId (plainId : PlainId clientId) : Console.trim clientId = clientId := by
  refine dropWhile_rdropWhile_eq_self fun c member => ?_
  have plain := plainId.plain c member
  simp_all [isPlain, Console.needsQuotes, Console.isTermDelimiter]

theorem startsBlock_plain (plain : isPlain c) (rest : Text) : startsBlock (c :: rest) = false := by
  unfold startsBlock
  split
  next same =>
    cases same
    cases plain
  · rfl

theorem hasBlock_plain (plain : ∀ c ∈ text, isPlain c) : Console.hasBlock text = false := by
  induction text with
  | nil => rfl
  | cons c _ ih =>
    rw [Console.hasBlock, startsBlock_plain (plain c (by simp)), Bool.false_or]
    exact ih fun c member => plain c (by simp [member])

theorem quote_plainId (plainId : PlainId clientId) :
    Console.quoteSelectorValue clientId = clientId := by
  have unquoted : clientId.any Console.needsQuotes = false := by
    rw [List.any_eq_false]
    intro c member
    have plain := plainId.plain c member
    simp_all [isPlain]
  simp [Console.quoteSelectorValue, plainId.nonempty, unquoted, hasBlock_plain plainId.plain]

theorem selectorExpression_text (nonempty : selected ≠ [])
    (plain : ∀ clientId ∈ selected, PlainId clientId) :
    ∃ first others, (∀ clientId, clientId ∈ first :: others ↔ clientId ∈ selected) ∧
      Console.selectorExpressionForClientIds selected = idWord first ++ moreIds others := by
  have trimmed : selected.map Console.trim = selected := by
    rw [List.map_congr_left fun clientId member => trim_plainId (plain clientId member), List.map_id']
  have kept : selected.filter (!·.isEmpty) = selected := by
    refine List.filter_eq_self.mpr fun clientId member => ?_
    simp [(plain clientId member).nonempty]
  have quoted : selected.eraseDups.map (fun clientId =>
      "id:".toList ++ Console.quoteSelectorValue clientId) = selected.eraseDups.map idWord := by
    refine List.map_congr_left fun clientId member => ?_
    rw [quote_plainId (plain clientId (List.mem_eraseDups.mp member)), idWord]
  unfold Console.selectorExpressionForClientIds
  rw [trimmed, kept, quoted]
  cases ids : selected.eraseDups with
  | nil =>
    obtain ⟨clientId, member⟩ := List.exists_mem_of_ne_nil selected nonempty
    rw [← List.mem_eraseDups, ids] at member
    cases member
  | cons first others =>
    refine ⟨first, others, fun clientId => by rw [← ids, List.mem_eraseDups], ?_⟩
    rw [List.map_cons, intercalate_cons, List.flatMap_map, moreIds]

/-! ## Its tokens -/

theorem readWord_plain (plain : ∀ c ∈ word, isPlain c) (ends : endsWord rest)
    (position : Nat) : readWord none false position (word ++ rest) = .ok (word, rest) := by
  induction word generalizing position with
  | nil =>
    cases rest with
    | nil => rfl
    | cons => simp [readWord, ends]
  | cons c word ih =>
    have first := plain c (by simp)
    have inside : endsWord (c :: (word ++ rest)) = false := by
      have noBlock := startsBlock_plain first (word ++ rest)
      simp_all [endsWord, isPlain]
    have unquoted : isQuote c = false := by simp_all [isPlain]
    simp [readWord, inside, unquoted, ih (fun c member => plain c (by simp [member])), Except.map]

/-- The tokens of the text for an id and more. -/
def moreIdTokens (clientIds : List Text) : List TokenKind :=
  clientIds.flatMap fun clientId => [.or, .word (idWord clientId)]

theorem asciiLower_idWord :
    asciiLower (idWord clientId) = 'i' :: 'd' :: ':' :: asciiLower clientId := rfl

theorem wordToken_idWord (plainId : PlainId clientId) :
    wordToken (idWord clientId) = some (.word (idWord clientId)) := by
  have trimmed : trim (idWord clientId) = idWord clientId := by
    have last : isWhitespace (clientId.getLast plainId.nonempty) = false := by
      have plain := plainId.plain _ (List.getLast_mem plainId.nonempty)
      simp_all [isPlain]
    have start : (idWord clientId).dropWhile isWhitespace = idWord clientId := rfl
    rw [trim, start]
    refine List.rdropWhile_eq_self_iff.mpr fun nonempty => ?_
    simp [idWord, plainId.nonempty, last]
  unfold wordToken
  rw [trimmed]
  dsimp only
  rw [asciiLower_idWord]
  simp [idWord]

theorem nextToken_idWord (plainId : PlainId clientId) (ends : endsWord rest) (position : Nat) :
    nextToken position (idWord clientId ++ rest) = .ok (some (.word (idWord clientId)), rest) := by
  have plain : ∀ c ∈ idWord clientId, isPlain c := by
    intro c member
    rcases List.mem_append.mp member with start | inId
    · have all : "id:".toList.all isPlain = true := by decide +kernel
      exact List.all_eq_true.mp all c start
    · exact plainId.plain c inId
  have read := readWord_plain plain ends position
  have start : nextToken position (idWord clientId ++ rest) =
      (readWord none false position (idWord clientId ++ rest)).map fun read =>
        (wordToken read.1, read.2) := rfl
  rw [start, read, ← wordToken_idWord plainId]
  rfl

theorem endsWord_moreIds (clientIds : List Text) : endsWord (moreIds clientIds) := by
  cases clientIds <;> rfl

theorem tokenizeFrom_separator : ∃ start, tokenizeFrom (fuel + 3) position (" || ".toList ++ text) =
      (tokenizeFrom fuel start text).map fun tokens => .or :: tokens := by
  have operator : nextToken (position + ' '.utf8Size) ('|' :: '|' :: ' ' :: text) =
      .ok (some .or, ' ' :: text) := rfl
  obtain ⟨start, step⟩ := tokenizeFrom_token rfl operator
  have blank : isWhitespace ' ' := rfl
  exact ⟨_, (tokenizeFrom_space blank _).trans step⟩

theorem tokenizeFrom_ids (plain : ∀ clientId ∈ first :: others, PlainId clientId) (position : Nat)
    (enough : (idWord first ++ moreIds others).length ≤ fuel) :
    tokenizeFrom fuel position (idWord first ++ moreIds others) =
      .ok (.word (idWord first) :: moreIdTokens others) := by
  induction others generalizing first fuel position with
  | nil =>
    obtain ⟨fuel, rfl⟩ : ∃ n, fuel = n + 1 := ⟨fuel - 1, by simp [idWord] at enough; omega⟩
    have next := nextToken_idWord (plain first (by simp)) (endsWord_moreIds []) position
    obtain ⟨start, step⟩ := tokenizeFrom_token rfl next
    refine step.trans ?_
    cases fuel <;> rfl
  | cons second others ih =>
    have split : moreIds (second :: others) =
        " || ".toList ++ (idWord second ++ moreIds others) := by simp [moreIds]
    rw [split] at enough
    have lengths : (" || ".toList).length = 4 := rfl
    simp only [List.length_append, lengths] at enough
    obtain ⟨fuel, rfl⟩ : ∃ n, fuel = n + 4 := ⟨fuel - 4, by omega⟩
    have next := nextToken_idWord (plain first (by simp)) (endsWord_moreIds (second :: others)) position
    obtain ⟨afterWord, word⟩ := tokenizeFrom_token rfl next
    obtain ⟨afterOr, operator⟩ := tokenizeFrom_separator
    have shorter : (idWord second ++ moreIds others).length ≤ fuel := by
      rw [List.length_append]
      omega
    have more := ih (fun clientId member => plain clientId (.tail first member)) afterOr shorter
    rw [split, operator, more] at word
    exact word

/-! ## Its expression -/

def idPredicate (clientId : Text) : Predicate := .comparison "vps.id".toList .eq clientId

theorem bareWord_idWord (plainId : PlainId clientId) :
    bareWord true (idWord clientId) = .ok (idPredicate clientId) := by
  have noEvent : isEventPredicate (idWord clientId) = false := rfl
  have split : splitOnce ':' (idWord clientId) = some ("id".toList, clientId) := rfl
  have tagged : asciiLower (idWord clientId) ≠ "untagged".toList := by
    rw [asciiLower_idWord]
    simp
  have shorthand : shorthandPredicate "id".toList clientId = idPredicate clientId := rfl
  have nonempty : ¬ clientId.isEmpty = true := fun empty => plainId.nonempty (List.isEmpty_iff.mp empty)
  rw [bareWord, if_neg (by decide), if_neg tagged, noEvent, if_neg Bool.false_ne_true, split]
  dsimp only
  rw [if_neg (by decide), if_neg nonempty, shorthand]

theorem isPredicate_idWord (engine : RegexEngine) (plainId : PlainId clientId) :
    IsPredicate engine [.word (idWord clientId)] (idPredicate clientId) :=
  .word (bareWord_idWord plainId)

/-- The tree of the text leans to the left. -/
def idExpression (first : Expression) (others : List Text) : Expression :=
  others.foldl (fun expression clientId => .or expression (.leaf (idPredicate clientId))) first

theorem derives_ids (plain : ∀ clientId ∈ others, PlainId clientId) {expression : Expression}
    (derived : Derives (language engine true) (IsPredicate engine) .or tokens expression) :
    Derives (language engine true) (IsPredicate engine) .or (tokens ++ moreIdTokens others)
      (idExpression expression others) := by
  induction others generalizing tokens expression with
  | nil => simpa [moreIdTokens, idExpression] using derived
  | cons clientId _ ih =>
    have right : Derives (language engine true) (IsPredicate engine) .and
        [.word (idWord clientId)] (.leaf (idPredicate clientId)) :=
      .andOperand (.notOperand (.predicate (isPredicate_idWord engine (plain clientId (by simp)))))
    have isOr : (language engine true).role .or = .or := rfl
    have both := ih (fun clientId member => plain clientId (by simp [member]))
      (.or derived isOr right)
    simpa [moreIdTokens, idExpression] using both

theorem eval_idExpression :
    (idExpression first others).eval holds = true ↔
      first.eval holds = true ∨ ∃ clientId ∈ others, holds (idPredicate clientId) = true := by
  induction others generalizing first with
  | nil => simp [idExpression]
  | cons clientId others ih =>
    have unfolded : idExpression first (clientId :: others) =
        idExpression (.or first (.leaf (idPredicate clientId))) others := rfl
    rw [unfolded, ih]
    simp [Formula.eval, or_assoc]

theorem idExpression_valid (valid : validateExpression externals first = .ok ()) :
    validateExpression externals (idExpression first others) = .ok () := by
  induction others generalizing first with
  | nil => exact valid
  | cons _ _ ih =>
    refine ih ?_
    simp only [validateExpression, valid]
    rfl

/-- Ids have no glob characters, so that they match by equality up to case. -/
theorem idPredicate_matches (externals : Externals) (vps : VpsMetadata) (plainId : PlainId clientId) :
    predicateMatches externals (.forVps vps) (idPredicate clientId) = true ↔
      asciiLower clientId = asciiLower vps.id := by
  have noGlob : hasGlob (asciiLower clientId) = false := by
    have literal : ∀ c ∈ clientId, c.toLower ≠ '*' ∧ c.toLower ≠ '?' := by
      intro c member
      have plain := plainId.plain c member
      simp_all [isPlain]
    have star : '*' ∉ asciiLower clientId := by
      simpa [asciiLower] using fun c member => (literal c member).1
    have question : '?' ∉ asciiLower clientId := by
      simpa [asciiLower] using fun c member => (literal c member).2
    simp [hasGlob, star, question]
  have values : fieldValues (.forVps vps) "vps.id".toList = some [.string vps.id] := rfl
  have notRule : startsWith "vps.rules:" (asciiLower "vps.id".toList) = false := rfl
  simp only [predicateMatches, idPredicate, comparisonMatches, notRule, values, compareFieldValue,
    fieldValueLiteralMatches, literalMatches, noGlob]
  simpa using eq_comm

/-! ## What it selects -/

section Selected

variable (externals : Externals) {first : Text} {others : List Text}

theorem parseExpression_ids (plain : ∀ clientId ∈ first :: others, PlainId clientId) :
    parseExpression externals (idWord first ++ moreIds others) =
      .ok (some (idExpression (.leaf (idPredicate first)) others)) := by
  have isWord := isPredicate_idWord externals.regex (plain first (by simp))
  have plainOthers : ∀ clientId ∈ others, PlainId clientId := fun clientId member =>
    plain clientId (.tail first member)
  have derived := derives_ids plainOthers
    (.orOperand (.andOperand (.notOperand (.predicate isWord))))
  exact parseExpression_some.mpr ⟨_, tokenizeFrom_ids plain 0 (Nat.le_refl _),
    (parse_iff reads rfl).mpr derived, idExpression_valid rfl⟩

theorem idExpression_matches (plain : ∀ clientId ∈ first :: others, PlainId clientId)
    (vps : VpsMetadata) :
    expressionMatches externals (.forVps vps) (idExpression (.leaf (idPredicate first)) others) =
      true ↔ ∃ clientId ∈ first :: others, asciiLower clientId = asciiLower vps.id := by
  have single (clientId : Text) (member : clientId ∈ first :: others) :=
    idPredicate_matches externals vps (plain clientId member)
  rw [expressionMatches, eval_idExpression]
  simp only [List.mem_cons, exists_eq_or_imp]
  refine or_congr (single first (by simp)) (exists_congr fun clientId => ?_)
  exact and_congr_right fun member => single clientId (by simp [member])

end Selected

/-- The text for clients of a fleet is accepted, and it selects those whose id is one of theirs
    up to the case of letters: just them, if that tells the ids of the fleet apart. -/
theorem client_selector_selects (externals : Externals) (fleet selected : List Text)
    (valid : ∀ clientId ∈ fleet, validateClientId clientId = .ok ()) (nonempty : selected ≠ [])
    (subset : selected ⊆ fleet) :
    ∃ expression, parseExpression externals (Console.selectorExpressionForClientIds selected) =
        .ok (some expression) ∧
      (∀ vps : VpsMetadata, expressionMatches externals (.forVps vps) expression = true ↔
        ∃ clientId ∈ selected, asciiLower clientId = asciiLower vps.id) ∧
      ((fleet.map asciiLower).Nodup → ∀ vps : VpsMetadata, vps.id ∈ fleet →
        (expressionMatches externals (.forVps vps) expression = true ↔ vps.id ∈ selected)) := by
  have plain : ∀ clientId ∈ selected, PlainId clientId := fun clientId member =>
    plainId_of_valid (valid clientId (subset member))
  obtain ⟨first, others, members, text⟩ := selectorExpression_text nonempty plain
  have plainIds : ∀ clientId ∈ first :: others, PlainId clientId := fun clientId member =>
    plain clientId ((members clientId).mp member)
  have selects (vps : VpsMetadata) := idExpression_matches externals plainIds vps
  simp only [members] at selects
  refine ⟨_, text ▸ parseExpression_ids externals plainIds, selects, ?_⟩
  intro different vps inFleet
  rw [selects]
  constructor
  · rintro ⟨clientId, member, same⟩
    rwa [← List.inj_on_of_nodup_map different (subset member) inFleet same]
  · exact fun member => ⟨vps.id, member, rfl⟩

def namedVps (id : String) : VpsMetadata :=
  { id := id.toList, displayName := id.toList, status := "online".toList, tags := [] }

theorem client_selector_selects_two :
    ∃ expression, parseExpression noExternals (Console.selectorExpressionForClientIds
        (["edge-1", "edge-2"].map String.toList)) = .ok (some expression) ∧
      ∀ vps : VpsMetadata, vps.id ∈ ["edge-1", "edge-2", "edge-3"].map String.toList →
        (expressionMatches noExternals (.forVps vps) expression = true ↔
          vps.id ∈ ["edge-1", "edge-2"].map String.toList) := by
  obtain ⟨expression, parsed, -, selects⟩ := client_selector_selects noExternals
    (["edge-1", "edge-2", "edge-3"].map String.toList) (["edge-1", "edge-2"].map String.toList)
    (by decide +kernel) (by decide) (by decide +kernel)
  exact ⟨expression, parsed, selects (by decide +kernel)⟩

/-- Two accepted ids that differ in case: the selector of one selects the other, too. -/
theorem client_selector_ignores_case :
    (["a", "A"].map String.toList).Nodup ∧
    (∀ clientId ∈ ["a", "A"].map String.toList, validateClientId clientId = .ok ()) ∧
    Console.selectorExpressionForClientIds ["a".toList] = "id:a".toList ∧
    parseExpression noExternals "id:a".toList = .ok (some (.leaf (idPredicate "a".toList))) ∧
    expressionMatches noExternals (.forVps (namedVps "A")) (.leaf (idPredicate "a".toList)) =
      true := by
  decide +kernel

end Vpsman.Selector
