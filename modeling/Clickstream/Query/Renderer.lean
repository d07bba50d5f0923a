import Clickstream.Failure
import Clickstream.Query.Expr
import Clickstream.Value.Equality

/-!
# Rendering conditions

A condition is rendered in two steps. First its parameters are bound from left to right: a named
parameter under its own name, any other under a generated name that is not in use. Then the text is
written, in which every parameter is a placeholder of its name (`Expr.sql`).

A parameter keeps its name once it is bound. Two parameters may share a name only if their values
are equal; otherwise the condition is not rendered, and what was bound before the conflict stays.
-/

namespace Clickstream

/-! ## The parameters of a condition -/

mutual

/-- The parameters in the order of the text. -/
def Expr.params : Expr → List Param
  | .column _ | .number _ | .literal _ | .now => []
  | .param p => [p]
  | .compare left _ right => left.params ++ right.params
  | .isNull operand => operand.params
  | .call _ arguments => paramsOfAll arguments
  | .all items | .any items => paramsOfAll items
  | .select query | .member _ _ query => query.params

/-- The parameters of some conditions. -/
def paramsOfAll : List Expr → List Param
  | [] => []
  | e :: rest => e.params ++ paramsOfAll rest

/-- The parameters of a subquery. -/
def Select.params : Select → List Param
  | .mk _ _ source condition _ _ => source.params ++ paramsOfCondition condition

/-- The parameters of an optional condition. -/
def paramsOfCondition : Option Expr → List Param
  | none => []
  | some e => e.params

/-- The parameters of a source. -/
def Source.params : Source → List Param
  | .table _ => []
  | .derived query => query.params

end

/-! ## The text of a condition -/

/-- A list of items with a separator between them. -/
def commaSeparated (items : List String) : String :=
  ", ".intercalate items

/-- A junction stands between parentheses, unless it has a single item. -/
def junctionSql (joiner : String) : List String → String
  | [item] => item
  | items => "(" ++ joiner.intercalate items ++ ")"

mutual

/-- The text of a condition; `name` gives the names of the parameters. -/
def Expr.sql (name : Param → String) : Expr → String
  | .column c => c.sql
  | .param p => "$" ++ name p
  | .number n => n.toText
  | .literal text => sqlLiteral text
  | .now => "CAST(now() AS TIMESTAMP)"
  | .compare left comparison right =>
    left.sql name ++ " " ++ comparison.sql ++ " " ++ right.sql name
  | .isNull operand => operand.sql name ++ " IS NULL"
  | .call function arguments => function ++ "(" ++ commaSeparated (sqlOfAll name arguments) ++ ")"
  | .all items => junctionSql " AND " (sqlOfAll name items)
  | .any items => junctionSql " OR " (sqlOfAll name items)
  | .select query => query.sql name
  | .member c negated query =>
    c.sql ++ (if negated then " NOT IN (" else " IN (") ++ query.sql name ++ ")"

/-- The texts of some conditions. -/
def sqlOfAll (name : Param → String) : List Expr → List String
  | [] => []
  | e :: rest => e.sql name :: sqlOfAll name rest

/-- The text of a subquery. -/
def Select.sql (name : Param → String) : Select → String
  | .mk isDistinct outputs source condition groupBy _ =>
    (if isDistinct then "SELECT DISTINCT " else "SELECT ") ++
      commaSeparated (outputs.map Output.sql) ++ " FROM " ++ source.sql name ++
      whereSql name condition ++
      (if groupBy.isEmpty then "" else " GROUP BY " ++ commaSeparated (groupBy.map Column.sql))

/-- The condition of a subquery, a conjunction without parentheses. -/
def whereSql (name : Param → String) : Option Expr → String
  | none => ""
  | some (.all items) => " WHERE " ++ " AND ".intercalate (sqlOfAll name items)
  | some e => " WHERE " ++ e.sql name

/-- The text of a source. -/
def Source.sql (name : Param → String) : Source → String
  | .table t => t
  | .derived query => "(" ++ query.sql name ++ ") AS " ++ query.tableName

end

/-- The text of a condition at the top of a clause: a conjunction has no parentheses. -/
def Expr.conditionSql (name : Param → String) : Expr → String
  | .all items => " AND ".intercalate (sqlOfAll name items)
  | e => e.sql name

/-! ## Binding parameters -/

/-- The state of rendering: the stem of generated names, the values bound so far, the names of the
parameters bound so far, and the number of the last generated name. -/
structure Renderer where
  stem : String
  params : Bindings Value
  bound : List (ParamId × String)
  counter : Nat
  deriving Repr

namespace Renderer

/-- A renderer that has bound nothing. -/
def start (stem : String) : Renderer :=
  ⟨stem, [], [], 0⟩

/-- The generated name with a number. -/
def generated (r : Renderer) (n : Nat) : String :=
  r.stem ++ toString n

/-- The first number after `n` whose generated name is free, looked for at most `fuel` times. -/
def freeNumber (r : Renderer) : Nat → Nat → Nat
  | 0, n => n + 1
  | fuel + 1, n =>
    if (r.params.get? (r.generated (n + 1))).isSome then r.freeNumber fuel (n + 1) else n + 1

/-- The number of the next generated name. Of one more names than there are bindings one is
free. -/
def nextNumber (r : Renderer) : Nat :=
  r.freeNumber r.params.length r.counter

/-- The name of a parameter that is bound. -/
def nameOf? (r : Renderer) (id : ParamId) : Option String :=
  r.bound.lookup id

/-- The name of a parameter, empty if it is not bound. -/
def name (r : Renderer) (param : Param) : String :=
  (r.nameOf? param.id).getD ""

/-- Binds a parameter. -/
def bind (r : Renderer) (param : Param) : Outcome Renderer :=
  match r.nameOf? param.id with
  | some _ => .ok r
  | none =>
    match param.name with
    | some name =>
      if r.params.conflicts name param.value then .error (.conflict name)
      else
        .ok { r with params := r.params.set name param.value, bound := (param.id, name) :: r.bound }
    | none =>
      let n := r.nextNumber
      .ok { r with
        params := r.params.set (r.generated n) param.value
        bound := (param.id, r.generated n) :: r.bound
        counter := n }

/-- Binds parameters from the left, up to the first conflict. -/
def bindAll (r : Renderer) : List Param → Option Failure × Renderer
  | [] => (none, r)
  | param :: rest =>
    match r.bind param with
    | .ok r => r.bindAll rest
    | .error e => (some e, r)

/-- Binds the parameters of a condition and writes a text with their names. -/
def write (r : Renderer) (params : List Param) (text : (Param → String) → String) :
    Outcome String × Renderer :=
  match r.bindAll params with
  | (none, r) => (.ok (text r.name), r)
  | (some e, r) => (.error e, r)

/-- Renders a condition. -/
def render (r : Renderer) (e : Expr) : Outcome String × Renderer :=
  r.write e.params fun name => e.sql name

/-- Renders a condition at the top of a clause. -/
def renderCondition (r : Renderer) (e : Expr) : Outcome String × Renderer :=
  r.write e.params fun name => e.conditionSql name

end Renderer

end Clickstream
