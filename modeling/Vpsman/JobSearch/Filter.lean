import Vpsman.JobSearch.LikePattern
import Vpsman.Selector.Parser

/-! # SQL of job searches

A job search is pushed onto an SQL query. Searches that differ in their literals only push the
same text, because a literal is never pushed, only bound.
-/

namespace Vpsman.JobSearch

open Vpsman.Lib
open Vpsman.Selector (ComparisonOperator)

inductive Scope where
  | job
  | target
  deriving DecidableEq

inductive FieldKind where
  | text | status | source | target | lineage | integer | duration | timestamp | boolean
  | expression
  deriving DecidableEq

/-- An entry of the fixed table of fields, with the SQL that reads it. -/
structure SearchField where
  scope : Scope
  name : String
  kind : FieldKind
  sql : String

inductive Value where
  | text (value : Text)
  | integer (value : Int64)
  | number (value : Float)
  | boolean (value : Bool)
  | time (micros : Int)
  | null

inductive Filter where
  | all
  | bare (raw : Text) (scope : Scope)
  | and (left right : Filter)
  | or (left right : Filter)
  | not (inner : Filter)
  | target (inner : Filter)
  | compare (field : SearchField) (op : ComparisonOperator) (value : Value)
  | regex (field : SearchField) (pattern : Text)

/-- A query under construction. Its text refers to the arguments by number. -/
structure QueryBuilder where
  text : String := ""
  arguments : List Value := []

def hasWildcard (value : Text) : Bool := value.any fun c => c = '*' || c = '?'

namespace QueryBuilder

def push (sql : QueryBuilder) (text : String) : QueryBuilder := { sql with text := sql.text ++ text }

def pushBind (sql : QueryBuilder) (argument : Value) : QueryBuilder where
  text := sql.text ++ "$" ++ toString (sql.arguments.length + 1)
  arguments := sql.arguments ++ [argument]

def pushIf (sql : QueryBuilder) (condition : Bool) (text : String) : QueryBuilder :=
  if condition then sql.push text else sql

def targetStart (sql : QueryBuilder) : QueryBuilder :=
  sql.push "EXISTS (SELECT 1 FROM job_targets t LEFT JOIN clients c ON c.id=t.client_id WHERE t.job_id=j.id AND "

def collectionStart (sql : QueryBuilder) (field : SearchField) : QueryBuilder :=
  sql.pushIf (field.kind = .lineage)
    "EXISTS (SELECT 1 FROM unnest(j.schedule_lineage) lineage(value) WHERE "

def pushField (sql : QueryBuilder) (field : SearchField) (now : Int) : QueryBuilder :=
  if field.kind = .lineage then sql.push "lineage.value::text"
  else if field.name = "age" ∧ field.scope = .job then
    sql.push "EXTRACT(EPOCH FROM (" |>.pushBind (.time now) |>.push " - j.created_at))"
  else sql.push field.sql

def textMatch (sql : QueryBuilder) (field : String) (value : Text) (regex negative : Bool) :
    QueryBuilder :=
  if regex then sql.push field |>.push " ~ " |>.pushBind (.text value)
  else if hasWildcard value then
    sql.push field |>.push (if negative then " NOT ILIKE " else " ILIKE ")
      |>.pushBind (.text (likePattern value false)) |>.push " ESCAPE '\\'"
  else
    sql.push "lower(" |>.push field |>.push ")"
      |>.push (if negative then " <> lower(" else " = lower(") |>.pushBind (.text value) |>.push ")"

def targetMatch (sql : QueryBuilder) (value : Text) (regex : Bool) : QueryBuilder :=
  sql.push "j.id IN (SELECT t.job_id FROM job_targets t WHERE "
    |>.textMatch "t.client_id" value regex false
    |>.push " UNION SELECT t.job_id FROM job_targets t JOIN clients c ON c.id=t.client_id WHERE "
    |>.textMatch "c.display_name" value regex false
    |>.push ")"

def pushBare (sql : QueryBuilder) (raw : Text) (scope : Scope) : QueryBuilder :=
  let pattern : Value := .text (likePattern raw (!hasWildcard raw))
  match scope with
  | .job =>
    sql.push "("
      |>.push "concat_ws(' ',j.id,j.command_type,replace(j.command_type,'_',' '),j.status,j.actor_id,CASE WHEN j.actor_id IS NULL THEN 'worker automation' ELSE 'operator' END,CASE WHEN j.privileged THEN 'privileged' ELSE 'unprivileged' END,j.source_schedule_id,j.causation_id,j.payload_hash)"
      |>.push " ILIKE " |>.pushBind pattern |>.push " ESCAPE '\\'"
      |>.push " OR " |>.targetStart |>.push "concat_ws(' ',t.client_id,c.display_name) ILIKE "
      |>.pushBind pattern |>.push " ESCAPE '\\')" |>.push ")"
  | .target =>
    sql.push "("
      |>.push "concat_ws(' ',t.client_id,c.display_name,t.status,t.message,t.exit_code,t.capability_degraded_reason)"
      |>.push " ILIKE " |>.pushBind pattern |>.push " ESCAPE '\\'" |>.push ")"

def operatorSql : ComparisonOperator → String
  | .eq => " = "
  | .notEq => " <> "
  | .lt => " < "
  | .lte => " <= "
  | .gt => " > "
  | .gte => " >= "

def pushValue (sql : QueryBuilder) (field : SearchField) (op : ComparisonOperator) (now : Int) :
    Value → QueryBuilder
  | .text value => sql.textMatch field.sql value false (op = .notEq && field.kind ≠ .lineage)
  | .null => sql.pushField field now |>.push (if op = .eq then " IS NULL" else " IS NOT NULL")
  | value => sql.pushField field now |>.push (operatorSql op) |>.pushBind value

end QueryBuilder

/-- The query with the filter; nothing where the code is taken to be unreachable. -/
def Filter.push (now : Int) : Filter → QueryBuilder → Option QueryBuilder
  | .all, sql => some (sql.push "TRUE")
  | .and left right, sql => do
    let sql ← left.push now (sql.push "(")
    let sql ← right.push now (sql.push " AND ")
    return sql.push ")"
  | .or left right, sql => do
    let sql ← left.push now (sql.push "(")
    let sql ← right.push now (sql.push " OR ")
    return sql.push ")"
  | .not inner, sql => do
    let sql ← inner.push now (sql.push "(NOT (")
    return sql.push "))"
  | .target inner, sql => do
    let sql ← inner.push now sql.targetStart
    return sql.push ")"
  | .bare raw scope, sql => some (sql.pushBare raw scope)
  | .compare field op value, sql =>
    if field.kind = .target then
      match value with
      | .text value =>
        some (sql.pushIf (op = .notEq) "NOT (" |>.targetMatch value false
          |>.pushIf (op = .notEq) ")")
      | _ => none
    else
      -- a collection differs from a value when no member matches it
      some (sql.pushIf (field.kind = .lineage && op = .notEq) "NOT (" |>.collectionStart field
        |>.pushValue field op now value |>.pushIf (field.kind = .lineage) ")"
        |>.pushIf (field.kind = .lineage && op = .notEq) ")")
  | .regex field pattern, sql =>
    if field.kind = .target then some (sql.targetMatch pattern true)
    else
      some (sql.collectionStart field |>.pushField field now |>.push " ~ "
        |>.pushBind (.text pattern) |>.pushIf (field.kind = .lineage) ")")

/-! ## Literals -/

/-- The value without its literal, which leaves whether it is null and whether it has wildcards. -/
def Value.shape : Value → Value
  | .text value => .text (if hasWildcard value then ['*'] else [])
  | .integer _ => .integer 0
  | .number _ => .number 0
  | .boolean _ => .boolean false
  | .time _ => .time 0
  | .null => .null

def Filter.shape : Filter → Filter
  | .all => .all
  | .bare _ scope => .bare [] scope
  | .and left right => .and left.shape right.shape
  | .or left right => .or left.shape right.shape
  | .not inner => .not inner.shape
  | .target inner => .target inner.shape
  | .compare field op value => .compare field op value.shape
  | .regex field _ => .regex field []

/-- The text, and how many arguments it is given. -/
def QueryBuilder.outline (sql : QueryBuilder) : String × Nat := (sql.text, sql.arguments.length)

def Alike (sql sql' : QueryBuilder) : Prop := sql.outline = sql'.outline

namespace Alike

variable {sql sql' : QueryBuilder} (alike : Alike sql sql')
include alike

theorem push : Alike (sql.push text) (sql'.push text) := by
  obtain ⟨texts, counts⟩ := Prod.mk.inj alike
  simp [Alike, QueryBuilder.outline, QueryBuilder.push, texts, counts]

theorem pushBind : Alike (sql.pushBind argument) (sql'.pushBind argument') := by
  obtain ⟨texts, counts⟩ := Prod.mk.inj alike
  simp [Alike, QueryBuilder.outline, QueryBuilder.pushBind, texts, counts]

theorem pushIf : Alike (sql.pushIf condition text) (sql'.pushIf condition text) := by
  cases condition with
  | false => exact alike
  | true => exact alike.push

theorem pushField : Alike (sql.pushField field now) (sql'.pushField field now') := by
  unfold QueryBuilder.pushField
  split
  · exact alike.push
  · split
    · exact alike.push.pushBind.push
    · exact alike.push

theorem textMatch (same : regex = false → hasWildcard value = hasWildcard value') :
    Alike (sql.textMatch field value regex negative)
      (sql'.textMatch field value' regex negative) := by
  unfold QueryBuilder.textMatch
  cases regex with
  | true => exact alike.push.push.pushBind
  | false =>
    rw [same rfl]
    cases hasWildcard value' with
    | true => exact alike.push.push.pushBind.push
    | false => exact alike.push.push.push.push.pushBind.push

theorem targetMatch (same : regex = false → hasWildcard value = hasWildcard value') :
    Alike (sql.targetMatch value regex) (sql'.targetMatch value' regex) :=
  ((alike.push.textMatch same).push.textMatch same).push

theorem pushBare : Alike (sql.pushBare raw scope) (sql'.pushBare raw' scope) := by
  cases scope with
  | job => exact alike.push.push.push.pushBind.push.push.push.push.pushBind.push.push
  | target => exact alike.push.push.push.pushBind.push.push

omit alike in
theorem hasWildcard_shape :
    hasWildcard value = hasWildcard (if hasWildcard value then ['*'] else []) := by
  cases hasWildcard value <;> rfl

theorem pushValue :
    Alike (sql.pushValue field op now value) (sql'.pushValue field op now' value.shape) := by
  cases value with
  | text => exact alike.textMatch fun _ => hasWildcard_shape
  | null => exact alike.pushField.push
  | integer | number | boolean | time => exact alike.pushField.push.pushBind

end Alike

theorem outline_bind {pushed pushed' : Option QueryBuilder} {f f' : QueryBuilder → Option QueryBuilder}
    (same : pushed.map (·.outline) = pushed'.map (·.outline))
    (next : ∀ {sql sql'}, Alike sql sql' → (f sql).map (·.outline) = (f' sql').map (·.outline)) :
    (pushed.bind f).map (·.outline) = (pushed'.bind f').map (·.outline) := by
  cases pushed with
  | none =>
    cases pushed' with
    | none => rfl
    | some => cases same
  | some =>
    cases pushed' with
    | none => cases same
    | some => exact next (Option.some_inj.mp same)

variable {filter filter' : Filter}

/-- What a filter pushes is determined by its shape, up to the values of the arguments. -/
theorem push_shape (alike : Alike sql sql') :
    (filter.push now sql).map (·.outline) = (filter.shape.push now' sql').map (·.outline) := by
  induction filter generalizing sql sql' with
  | all => exact congrArg some alike.push
  | bare => exact congrArg some alike.pushBare
  | and _ _ ihLeft ihRight | or _ _ ihLeft ihRight =>
    exact outline_bind (ihLeft alike.push) fun left =>
      outline_bind (ihRight left.push) fun right => congrArg some right.push
  | not _ ih | target _ ih =>
    exact outline_bind (ih alike.push) fun inner => congrArg some inner.push
  | compare _ _ value =>
    simp only [Filter.push, Filter.shape]
    split
    · cases value with
      | text =>
        exact congrArg some (alike.pushIf.targetMatch fun _ => Alike.hasWildcard_shape).pushIf
      | _ => rfl
    · exact congrArg some alike.pushIf.pushIf.pushValue.pushIf.pushIf
  | regex =>
    simp only [Filter.push, Filter.shape]
    split
    · exact congrArg some (alike.targetMatch nofun)
    · exact congrArg some alike.pushIf.pushField.push.pushBind.pushIf

/-- Searches of one shape push one text, whatever their literals and their times are. -/
theorem push_outline_of_shape (same : filter.shape = filter'.shape) (now now' : Int)
    (sql : QueryBuilder) :
    (filter.push now sql).map (·.outline) = (filter'.push now' sql).map (·.outline) := by
  have shaped : (filter'.push now' sql).map (·.outline) =
      (filter'.shape.push now sql).map (·.outline) := push_shape rfl
  rw [shaped, ← same]
  exact push_shape rfl

def targetCount : SearchField := ⟨.job, "target_count", .integer, "j.target_count"⟩

def jobActor : SearchField := ⟨.job, "actor", .text, "actor.username"⟩

/-- `actor = admin` and an actor that tries to end the query. -/
theorem quoted_actor_outline :
    ((Filter.compare jobActor .eq (.text "admin".toList)).push 0 {}).map (·.outline) =
      ((Filter.compare jobActor .eq (.text "' OR TRUE --".toList)).push 5 {}).map (·.outline) :=
  push_outline_of_shape (by rfl) 0 5 {}

/-- `target_count = 2` and `target_count = null` are not pushed alike. -/
theorem null_pushed_as_text :
    ((Filter.compare targetCount .eq (.integer 2)).push 0 {}).map (·.text) =
        some "j.target_count = $1" ∧
      ((Filter.compare targetCount .eq .null).push 0 {}).map (·.text) =
        some "j.target_count IS NULL" := by
  decide

end Vpsman.JobSearch
