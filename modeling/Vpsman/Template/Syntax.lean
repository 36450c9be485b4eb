import Vpsman.Selector.Validate

/-! # Templates

Text with placeholders, loops and conditionals, and the parser of it. A cursor keeps the
text before it, because a comment on a line of its own takes its line with it.
-/

namespace Vpsman.Template

open Vpsman.Lib Vpsman.Selector

structure TemplateError where
  errors : List String
  deriving Repr, DecidableEq

def TemplateError.single (error : String) : TemplateError := ⟨[error]⟩

/-- Stop with one error. -/
def fail {α : Type} (error : String) : Except TemplateError α := .error (.single error)

inductive HelperCall where
  | length
  | join (separator : Text)
  | split (separator : Text)
  | substr (start : Int) (length : Option Int)
  | first
  | last
  | map (path : Text)
  | filter (condition : Text)
  | count (condition : Option Text)
  deriving Repr, DecidableEq

structure PathExpr where
  base : Text
  helpers : List HelperCall
  deriving Repr, DecidableEq

inductive Node where
  | text (text : Text)
  | placeholder (path : PathExpr)
  | forEach (name : Text) (path : PathExpr) (body : List Node)
  | conditional (branches : List (Text × List Node)) (elseBody : List Node)

inductive EndTag where
  | endFor
  | elseIf (condition : Text)
  | else_
  | endIf
  deriving Repr, DecidableEq

def endTagLabel : EndTag → String
  | .endFor => "endfor"
  | .elseIf _ => "elseif"
  | .else_ => "else"
  | .endIf => "endif"

/-- What templates use of JSON: reading a string literal and writing a value. -/
structure JsonCodec where
  parseString : Text → Except String Text
  encode : Value → Text

/-! ## Searching in texts -/

/-- `str::find`, in characters. -/
def find (needle : Text) : Text → Option Nat
  | [] => if needle = [] then some 0 else none
  | c :: rest => if needle.isPrefixOf (c :: rest) then some 0 else (find needle rest).map (· + 1)

/-- The text after this start. -/
def stripStart (start : String) (text : Text) : Option Text :=
  if startsWith start text then some (text.drop start.length) else none

def pathSegments (path : Text) : List Text :=
  ((splitAll '.' path).map trim).filter fun segment => !segment.isEmpty

/-! ## Paths with helpers -/

def helperNeedles : List String :=
  [".length", ".join(", ".split(", ".substr(", ".first", ".last", ".map(", ".filter(", ".where(",
    ".count(", ".count"]

def firstHelperStart (raw : Text) : Option Nat :=
  (helperNeedles.filterMap fun needle => find needle.toList raw).min?

/-- The argument after its opening parenthesis, and what follows the closing one. -/
def scanArgument (depth : Nat) (quote : Option Char) (escaped : Bool) :
    Text → Except TemplateError (Text × Text)
  | [] => fail "helper is missing closing parenthesis"
  | c :: rest =>
    let continue_ (depth : Nat) (quote : Option Char) (escaped : Bool) :=
      (scanArgument depth quote escaped rest).map fun (argument, after) => (c :: argument, after)
    if escaped then continue_ depth quote false
    else if c = '\\' then continue_ depth quote true
    else match quote with
      | some active => continue_ depth (if c = active then none else quote) false
      | none =>
        if isQuote c then continue_ depth (some c) false
        else if c = '(' then continue_ (depth + 1) none false
        else if c = ')' then
          if depth = 1 then .ok ([], rest) else continue_ (depth - 1) none false
        else continue_ depth none false

def helperArgument : Text → Except TemplateError (Text × Text)
  | '(' :: rest => scanArgument 1 none false rest
  | _ => fail "helper is missing opening parenthesis"

def unquote (value : Text) : Text :=
  let trimmed := trim value
  if 2 ≤ trimmed.length ∧ (trimmed.head? = some '"' ∧ trimmed.getLast? = some '"' ∨
      trimmed.head? = some '\'' ∧ trimmed.getLast? = some '\'') then
    (trimmed.drop 1).dropLast
  else trimmed

/-- The JSON string literal for a text in single quotes, from what stands between them. -/
def requoted (escaped : Bool) : Text → Except TemplateError Text
  | [] => if escaped then fail "invalid quoted helper argument" else .ok ['"']
  | c :: rest =>
    if escaped then
      (requoted false rest).map fun encoded => if c = '\'' then c :: encoded else '\\' :: c :: encoded
    else if c = '\\' then requoted true rest
    else if c = '"' then (requoted false rest).map fun encoded => '\\' :: '"' :: encoded
    else (requoted false rest).map fun encoded => c :: encoded

section Parser

variable (externals : Externals) (json : JsonCodec)

def parseQuoted (encoded : Text) : Except TemplateError Text :=
  match json.parseString encoded with
  | .ok value => .ok value
  | .error error => fail ("invalid quoted helper argument: " ++ error)

def parseStringHelperArgument (argument : Text) : Except TemplateError Text :=
  let argument := trim argument
  if argument.isEmpty then fail "split helper requires a separator"
  else if argument.head? = some '\'' then
    if argument.getLast? ≠ some '\'' ∨ argument.length < 2 then fail "invalid quoted helper argument"
    else do
      let encoded ← requoted false (argument.drop 1).dropLast
      parseQuoted json ('"' :: encoded)
  else if argument.head? = some '"' then parseQuoted json argument
  else .ok argument

def validateCondition (condition : Text) : Except TemplateError Unit :=
  match parseExpression externals condition with
  | .ok _ => .ok ()
  | .error error => fail ("invalid condition expression: " ++ error)

def parseIndex (value : Text) : Except TemplateError Int :=
  match parseSigned 64 value with
  | some index => .ok index
  | none => fail "substr indices must be integers"

def parseSubstr (argument : Text) : Except TemplateError HelperCall :=
  match (splitAll ',' argument).map trim with
  | [start] => do return .substr (← parseIndex start) none
  | [start, length] => do return .substr (← parseIndex start) (some (← parseIndex length))
  | _ => fail "substr expects start and optional length"

def parseMap (argument : Text) : Except TemplateError HelperCall :=
  let argument := trim argument
  if argument.isEmpty ∨ (firstHelperStart argument).isSome then fail "invalid map helper syntax"
  else .ok (.map argument)

def parseFilter (argument : Text) : Except TemplateError HelperCall := do
  let argument := trim argument
  if argument.isEmpty then fail "filter helper is missing a condition"
  else
    validateCondition externals argument
    return .filter argument

def parseCount (argument : Text) : Except TemplateError HelperCall := do
  let argument := trim argument
  if argument.isEmpty then return .count none
  else
    validateCondition externals argument
    return .count (some argument)

/-- The helper at the start of the text, and what follows it. -/
def parseHelper (tail : Text) : Except TemplateError (HelperCall × Text) :=
  let withArgument (name : String) (parse : Text → Except TemplateError HelperCall) := do
    let (argument, next) ← helperArgument (tail.drop name.length)
    return (← parse argument, next)
  if startsWith ".length" tail then .ok (.length, tail.drop ".length".length)
  else if startsWith ".first" tail then .ok (.first, tail.drop ".first".length)
  else if startsWith ".last" tail then .ok (.last, tail.drop ".last".length)
  else if startsWith ".join(" tail then
    withArgument ".join" fun argument => .ok (.join (unquote (trim argument)))
  else if startsWith ".split(" tail then
    withArgument ".split" fun argument => (parseStringHelperArgument json argument).map .split
  else if startsWith ".substr(" tail then withArgument ".substr" parseSubstr
  else if startsWith ".map(" tail then withArgument ".map" parseMap
  else if startsWith ".filter(" tail then withArgument ".filter" (parseFilter externals)
  else if startsWith ".where(" tail then withArgument ".where" (parseFilter externals)
  else if startsWith ".count(" tail then withArgument ".count" (parseCount externals)
  else if startsWith ".count" tail then .ok (.count none, tail.drop ".count".length)
  else fail ("invalid helper syntax near " ++ String.ofList tail)

/-- The helpers that the text consists of; each takes at least one of its characters. -/
def parseHelpers : Nat → Text → Except TemplateError (List HelperCall)
  | _, [] => .ok []
  | 0, tail => fail ("invalid helper syntax near " ++ String.ofList tail)
  | fuel + 1, tail => do
    let (helper, next) ← parseHelper externals json tail
    return helper :: (← parseHelpers fuel next)

def parsePathExpr (raw : Text) : Except TemplateError PathExpr := do
  let helperStart := (firstHelperStart raw).getD raw.length
  let base := trim (raw.take helperStart)
  if base.isEmpty then fail "path is missing a root"
  else return ⟨base, ← parseHelpers externals json raw.length (raw.drop helperStart)⟩

/-! ## Tags -/

def parseEndTag (tag : Text) : Option EndTag :=
  if tag = "endfor".toList then some .endFor
  else if tag = "else".toList then some .else_
  else if tag = "endif".toList then some .endIf
  else ((stripStart "elseif " tag).map trim).filter (fun condition => !condition.isEmpty) |>.map .elseIf

def isIdentifier : Text → Bool
  | [] => false
  | first :: rest =>
    (isAsciiAlphabetic first || first == '_') &&
      rest.all fun c => isAsciiAlphabetic c || c.isDigit || c == '_'

def parseForTag (tag : Text) : Except TemplateError (Option (Text × PathExpr)) :=
  match stripStart "for " tag with
  | none => .ok none
  | some rest =>
    match find " in ".toList rest with
    | none => fail "invalid for block syntax"
    | some offset =>
      let name := trim (rest.take offset)
      let path := trim (rest.drop (offset + " in ".length))
      if !isIdentifier name then fail "invalid loop variable"
      else if path.isEmpty then fail "for block is missing an iterable path"
      else (parsePathExpr externals json path).map fun path => some (name, path)

def parseIfTag (tag : Text) : Except TemplateError (Option Text) :=
  match stripStart "if " tag with
  | none => .ok none
  | some condition =>
    let condition := trim condition
    if condition.isEmpty then fail "if block is missing a condition"
    else (validateCondition externals condition).map fun _ => some condition

/-! ## Nodes -/

/-- A place in the template: what was read, last character first, and what is left. -/
structure Cursor where
  before : Text
  rest : Text

def Cursor.advance (cursor : Cursor) (count : Nat) : Cursor :=
  ⟨(cursor.rest.take count).reverse ++ cursor.before, cursor.rest.drop count⟩

/-- What stands before the cursor on its line. -/
def Cursor.lineStart (cursor : Cursor) : Text := (cursor.before.takeWhile (· ≠ '\n')).reverse

/-- Where reading continues if the comment has its lines for itself. -/
def standaloneCommentEnd (start finish : Cursor) : Option Cursor :=
  let line := finish.rest.takeWhile (· ≠ '\n')
  if !(trim start.lineStart).isEmpty then none
  else if !(trim line).isEmpty then none
  else some (finish.advance (line.length + 1))

def removeCommentLineIndentation (nodes : List Node) (start : Cursor) : List Node :=
  match nodes.getLast? with
  | some (.text text) =>
    if start.lineStart <:+ text then
      nodes.dropLast ++ [.text (text.take (text.length - start.lineStart.length))]
    else nodes
  | _ => nodes

/-- Where the next placeholder, comment or tag may be. -/
def nextOffset (text : Text) : Option Nat :=
  match find "\x7b".toList text, find "[".toList text with
  | some left, some right => some (min left right)
  | some left, none => some left
  | none, right => right

mutual

/-- The nodes from the cursor on, after those that were read on this level. Each step reads a
    character at least, and a step into the branches of a conditional costs one more. -/
def parseNodes : Nat → List Node → Cursor → Bool →
    Except TemplateError (List Node × Option EndTag × Cursor)
  | 0, _, _, _ => fail "template is nested too deeply"
  | fuel + 1, nodes, cursor, inBlock =>
    if cursor.rest = [] then .ok (nodes, none, cursor)
    else match nextOffset cursor.rest with
    | none => .ok (nodes ++ [.text cursor.rest], none, cursor.advance cursor.rest.length)
    | some offset =>
      let nodes := if 0 < offset then nodes ++ [.text (cursor.rest.take offset)] else nodes
      let cursor := cursor.advance offset
      if startsWith "\x7b#" cursor.rest then
        match find "#\x7d".toList (cursor.rest.drop 2) with
        | none => fail "unmatched comment"
        | some length =>
          let commentEnd := cursor.advance (length + 4)
          match standaloneCommentEnd cursor commentEnd with
          | some next =>
            parseNodes fuel (removeCommentLineIndentation nodes cursor) next inBlock
          | none => parseNodes fuel nodes commentEnd inBlock
      else if startsWith "\x7b" cursor.rest then
        match find "\x7d".toList (cursor.rest.drop 1) with
        | none => fail "unmatched placeholder"
        | some length =>
          let raw := trim ((cursor.rest.drop 1).take length)
          if raw.isEmpty then fail "empty placeholder"
          else do
            let path ← parsePathExpr externals json raw
            parseNodes fuel (nodes ++ [.placeholder path]) (cursor.advance (length + 2)) inBlock
      else match find "]".toList (cursor.rest.drop 1) with
        | none => parseNodes fuel (nodes ++ [.text ['[']]) (cursor.advance 1) inBlock
        | some length =>
          let tag := trim ((cursor.rest.drop 1).take length)
          let after := cursor.advance (length + 2)
          match parseEndTag tag with
          | some endTag =>
            if inBlock then .ok (nodes, some endTag, after)
            else fail ("unexpected closing block tag " ++ endTagLabel endTag)
          | none => do
            match ← parseForTag externals json tag with
            | some (name, path) =>
              let (body, endTag, after) ← parseNodes fuel [] after true
              match endTag with
              | some .endFor =>
                parseNodes fuel (nodes ++ [.forEach name path body]) after inBlock
              | some other => fail ("for block closed by " ++ endTagLabel other)
              | none => fail "unmatched for block"
            | none =>
              match ← parseIfTag externals tag with
              | some condition =>
                let (body, endTag, after) ← parseNodes fuel [] after true
                let (branches, elseBody, after) ←
                  parseBranches fuel [(condition, body)] endTag after
                parseNodes fuel (nodes ++ [.conditional branches elseBody]) after inBlock
              | none =>
                parseNodes fuel (nodes ++ [.text (cursor.rest.take (length + 2))]) after
                  inBlock

/-- The branches of a conditional after the first ones, and what stands under its `else`. -/
def parseBranches : Nat → List (Text × List Node) → Option EndTag → Cursor →
    Except TemplateError (List (Text × List Node) × List Node × Cursor)
  | 0, _, _, _ => fail "template is nested too deeply"
  | fuel + 1, branches, endTag, cursor =>
    match endTag with
    | some (.elseIf condition) => do
      validateCondition externals condition
      let (body, next, after) ← parseNodes fuel [] cursor true
      parseBranches fuel (branches ++ [(condition, body)]) next after
    | some .else_ => do
      let (body, next, after) ← parseNodes fuel [] cursor true
      match next with
      | some .endIf => .ok (branches, body, after)
      | some other => fail ("else block closed by " ++ endTagLabel other)
      | none => fail "unmatched if block"
    | some .endIf => .ok (branches, [], cursor)
    | some .endFor => fail ("if block closed by " ++ endTagLabel .endFor)
    | none => fail "unmatched if block"

end

def parseTemplate (input : Text) : Except TemplateError (List Node) := do
  let (nodes, endTag, _) ← parseNodes externals json (2 * input.length + 2) [] ⟨[], input⟩ false
  match endTag with
  | some endTag => fail ("unexpected closing block tag " ++ endTagLabel endTag)
  | none => return nodes

end Parser

end Vpsman.Template
