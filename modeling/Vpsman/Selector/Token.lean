import Vpsman.Lib.Text

/-! # Tokens of selector expressions

Comments and white space separate tokens. A word goes on through quoted parts, whose quotes
it loses, and is trimmed before it is compared with the keywords.
-/

namespace Vpsman.Selector

open Vpsman.Lib

inductive TokenKind where
  | and
  | colon
  | comma
  | eq
  | gt
  | gte
  | in_
  | leftBracket
  | leftParen
  | lt
  | lte
  | not
  | notEq
  | or
  | regex (pattern : Text)
  | rightBracket
  | rightParen
  | string (value : Text)
  | word (value : Text)
  deriving Repr, DecidableEq

/-- The line of a comment, up to its end. -/
def skipLine : Text → Text
  | [] => []
  | c :: rest => if c = '\r' ∨ c = '\n' then c :: rest else skipLine rest

/-- What comes after the end of a block comment. -/
def skipBlock : Text → Option Text
  | [] => none
  | [_] => none
  | c :: next :: rest => if c = '*' ∧ next = '/' then some rest else skipBlock (next :: rest)

/-- A comment starts here. -/
def startsBlock : Text → Bool
  | '/' :: '*' :: _ => true
  | _ => false

def isQuote (c : Char) : Bool := c == '"' || c == '\''

/-- The characters that end a word wherever they stand outside quotes. -/
def isDelimiter (c : Char) : Bool := c ∈ ['(', ')', '[', ']', ',', '=', '!', '<', '>', '&', '|', '~']

def endsWord (text : Text) : Bool :=
  match text with
  | [] => true
  | c :: _ => isWhitespace c || c == '#' || startsBlock text || isDelimiter c

def unterminatedQuote (start : Nat) : String :=
  "unterminated quoted value starting at byte " ++ toString start

/-- The value of a word and what comes after it. `quote` is the quote that is open and where
    it was, `escaped` that a backslash came just before, `position` the next byte. -/
def readWord (quote : Option (Char × Nat)) (escaped : Bool) (position : Nat) :
    Text → Except String (Text × Text)
  | [] =>
    match quote with
    | some (_, start) => .error (unterminatedQuote start)
    | none => .ok ([], [])
  | c :: rest =>
    let next := position + c.utf8Size
    match quote with
    | some (active, start) =>
      if escaped then
        (readWord quote false next rest).map fun (value, rest) => (c :: value, rest)
      else if c = '\\' then readWord quote true next rest
      else if c = active then readWord none false next rest
      else (readWord (some (active, start)) false next rest).map
        fun (value, rest) => (c :: value, rest)
    | none =>
      if endsWord (c :: rest) then .ok ([], c :: rest)
      else if isQuote c then readWord (some (c, position)) false next rest
      else (readWord none false next rest).map fun (value, rest) => (c :: value, rest)

/-- The value of a quoted text, after its opening quote at byte `start`. -/
def readQuoted (quote : Char) (start : Nat) (escaped : Bool) : Text → Except String (Text × Text)
  | [] => .error (unterminatedQuote start)
  | c :: rest =>
    if escaped then
      (readQuoted quote start false rest).map fun (value, rest) => (c :: value, rest)
    else if c = '\\' then readQuoted quote start true rest
    else if c = quote then .ok ([], rest)
    else (readQuoted quote start false rest).map fun (value, rest) => (c :: value, rest)

def isAsciiAlphabetic (c : Char) : Bool := ('a' ≤ c && c ≤ 'z') || ('A' ≤ c && c ≤ 'Z')

/-- The pattern of a regex, after its opening slash at byte `start`. -/
def readRegex (start : Nat) (escaped : Bool) : Text → Except String (Text × Text)
  | [] => .error ("unterminated regex value starting at byte " ++ toString start)
  | c :: rest =>
    if escaped then
      (readRegex start false rest).map fun (value, rest) => ('\\' :: c :: value, rest)
    else if c = '\\' then readRegex start true rest
    else if c = '/' then
      if rest.head?.any isAsciiAlphabetic then .error "regex flags are not supported"
      else .ok ([], rest)
    else (readRegex start false rest).map fun (value, rest) => (c :: value, rest)

def booleanOperatorError : String := "use && or || for boolean operators"

/-- The token of a word that was read, if it is not empty. -/
def wordToken (word : Text) : Option TokenKind :=
  let raw := trim word
  if raw.isEmpty then none
  else
    let lower := asciiLower raw
    some <|
      if lower = "and".toList then .and
      else if lower = "or".toList then .or
      else if lower = "not".toList then .not
      else if lower = "in".toList then .in_
      else .word raw

/-- The first token of a text that does not start with white space, if it is more than a
    comment, and the text after it. -/
def nextToken (position : Nat) (text : Text) : Except String (Option TokenKind × Text) :=
  match text with
  | [] => .ok (none, [])
  | '#' :: rest => .ok (none, skipLine rest)
  | '/' :: '*' :: rest =>
    match skipBlock rest with
    | some rest => .ok (none, rest)
    | none => .error ("unterminated block comment starting at byte " ++ toString position)
  | '(' :: rest => .ok (some .leftParen, rest)
  | ')' :: rest => .ok (some .rightParen, rest)
  | '[' :: rest => .ok (some .leftBracket, rest)
  | ']' :: rest => .ok (some .rightBracket, rest)
  | ',' :: rest => .ok (some .comma, rest)
  | ':' :: rest => .ok (some .colon, rest)
  | '~' :: rest => .ok (some .not, rest)
  | '!' :: '=' :: rest => .ok (some .notEq, rest)
  | '!' :: rest => .ok (some .not, rest)
  | '=' :: rest => .ok (some .eq, rest)
  | '<' :: '=' :: rest => .ok (some .lte, rest)
  | '<' :: rest => .ok (some .lt, rest)
  | '>' :: '=' :: rest => .ok (some .gte, rest)
  | '>' :: rest => .ok (some .gt, rest)
  | '&' :: '&' :: rest => .ok (some .and, rest)
  | '&' :: _ => .error booleanOperatorError
  | '|' :: '|' :: rest => .ok (some .or, rest)
  | '|' :: _ => .error booleanOperatorError
  | '/' :: rest =>
    (readRegex position false rest).map fun (pattern, rest) => (some (.regex pattern), rest)
  | c :: rest =>
    if isQuote c then
      (readQuoted c position false rest).map fun (value, rest) => (some (.string value), rest)
    else
      (readWord none false position (c :: rest)).map fun (word, rest) => (wordToken word, rest)

/-- Tokens from the byte `position` on. Every token takes a character off the text, so that
    `fuel` is at least the length of the text. -/
def tokenizeFrom : Nat → Nat → Text → Except String (List TokenKind)
  | 0, _, _ => .ok []
  | _ + 1, _, [] => .ok []
  | fuel + 1, position, c :: rest =>
    if isWhitespace c then tokenizeFrom fuel (position + c.utf8Size) rest
    else
      match nextToken position (c :: rest) with
      | .error error => .error error
      | .ok (token, after) =>
        let next := position + utf8Length ((c :: rest).take (rest.length + 1 - after.length))
        (tokenizeFrom fuel next after).map fun tokens => token.toList ++ tokens

theorem tokenizeFrom_space (space : isWhitespace c) (rest : Text) :
    tokenizeFrom (fuel + 1) position (c :: rest) =
      tokenizeFrom fuel (position + c.utf8Size) rest := by
  simp [tokenizeFrom, space]

/-- What comes after a token is read on its own, but for its position. -/
theorem tokenizeFrom_token {rest after : Text} (visible : isWhitespace c = false)
    (next : nextToken position (c :: rest) = .ok (token, after)) :
    ∃ start, tokenizeFrom (fuel + 1) position (c :: rest) =
      (tokenizeFrom fuel start after).map fun tokens => token.toList ++ tokens :=
  ⟨_, by rw [tokenizeFrom, if_neg (by simp [visible]), next]⟩

def tokenize (input : Text) : Except String (List TokenKind) := tokenizeFrom input.length 0 input

end Vpsman.Selector
