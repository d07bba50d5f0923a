import Clickstream.Event.Basic
import Clickstream.Pattern.Like
import Clickstream.Query.Expr

/-!
# The meaning of conditions

A condition is true, false or unknown for a row of the table of events. Subqueries range over the
same table; the rows of a subquery are those for which its condition is true, and a grouped subquery
has one row for each group. A condition is evaluated at one instant of the clock of the store.
-/

namespace Clickstream

/-- What conditions are evaluated against: the events and the clock. -/
structure Database where
  events : List Event
  clock : Timestamp

namespace Comparison

/-- A comparison of two texts with a pattern. -/
def matchText : Cell → Cell → Truth
  | .text s, .text pattern => some (matchesLike pattern.toList s.toList)
  | _, _ => none

/-- The truth of a comparison of two cells. -/
def holds (comparison : Comparison) (a b : Cell) : Truth :=
  match comparison with
  | .eq => a.equal b
  | .ne => (a.equal b).negate
  | .lt => (a.order? b).map (· == .lt)
  | .le => (a.order? b).map (· != .gt)
  | .gt => (a.order? b).map (· == .gt)
  | .ge => (a.order? b).map (· != .lt)
  | .like => matchText a b
  | .notLike => (matchText a b).negate
  | .distinct => some (a.isDistinct b)

end Comparison

/-- A text has a match of a regular expression. -/
def matchRegex : List Cell → Truth
  | [.text s, .text pattern] => (Regex.ofText? pattern).map fun r => r.matchesIn s.toList
  | _ => none

/-! ## Groups -/

/-- The row with the least or the greatest timestamp, the earlier row of two with the same. -/
def extremeRow? (later : Bool) : List Row → Option Row
  | [] => none
  | row :: rest =>
    match extremeRow? later rest with
    | none => some row
    | some best =>
      let wins := (best .timestamp).order? (row .timestamp) = some (if later then .gt else .lt)
      some (if wins then best else row)

/-- A pathname at the first or the last time, among the rows that have one. -/
def extremePathname (later : Bool) (rows : List Row) : Cell :=
  match extremeRow? later (rows.filter fun row => !(row (.attribute .pathname)).isNull) with
  | some row => row (.attribute .pathname)
  | none => .null

/-- A function of the rows of a group. -/
def aggregate (function : String) (rows : List Row) : Cell :=
  match function with
  | "arg_min" => extremePathname false rows
  | "arg_max" => extremePathname true rows
  | _ => .null

namespace Output

/-- The name of a result in the rows of a subquery. -/
def resultColumn : Output → Column
  | .column c => c
  | .aggregate _ name => .other name

/-- The result for a group; the rows of a group agree on the columns that it is grouped by. -/
def cell (rows : List Row) : Output → Cell
  | .column c =>
    match rows with
    | row :: _ => row c
    | [] => .null
  | .aggregate function _ => Clickstream.aggregate function rows

/-- The row of results for a group. -/
def row (outputs : List Output) (rows : List Row) : Row := fun c =>
  match outputs.find? fun output => output.resultColumn = c with
  | some output => output.cell rows
  | none => .null

end Output

/-- The groups of rows that agree on some columns, in the order of first occurrence. -/
def groups (columns : List Column) (rows : List Row) : List (List Row) :=
  let key (row : Row) : List Cell := columns.map row
  (rows.map key).eraseDups.map fun k => rows.filter fun row => key row = k

/-- The groups that a subquery has a row for; without grouping every row is its own. -/
def outputGroups (columns : List Column) (rows : List Row) : List (List Row) :=
  if columns.isEmpty then rows.map ([·]) else groups columns rows

/-! ## Evaluation -/

/-- The cell of an operand that needs no other expressions. -/
def Expr.leafCell (db : Database) (row : Row) : Expr → Cell
  | .column c => row c
  | .param p => Cell.ofValue p.value
  | .number n => Cell.ofDecimal n
  | .literal s => .text s
  | .now => .time db.clock
  | _ => .null

mutual

/-- The cell of an operand. -/
def Expr.cell (db : Database) (row : Row) : Expr → Cell
  | .call function arguments =>
    if function = "coalesce" then Cell.coalesce (cellsOfAll db row arguments) else .null
  | e => e.leafCell db row

/-- The cells of some operands. -/
def cellsOfAll (db : Database) (row : Row) : List Expr → List Cell
  | [] => []
  | e :: rest => e.cell db row :: cellsOfAll db row rest

end

mutual

/-- The truth of a condition for a row. -/
def Expr.truth (db : Database) (row : Row) : Expr → Truth
  | .compare left comparison right => comparison.holds (left.cell db row) (right.cell db row)
  | .isNull operand => some (operand.cell db row).isNull
  | .call function arguments =>
    if function = "regexp_matches" then matchRegex (cellsOfAll db row arguments) else none
  | .all items => Truth.all (truthOfAll db row items)
  | .any items => Truth.any (truthOfAll db row items)
  | .member c negated query =>
    let found := (row c).memberOf (query.firstCells db)
    if negated then found.negate else found
  | _ => none

/-- The truth of some conditions. -/
def truthOfAll (db : Database) (row : Row) : List Expr → List Truth
  | [] => []
  | e :: rest => e.truth db row :: truthOfAll db row rest

/-- The rows of a subquery. -/
def Select.rows (db : Database) : Select → List Row
  | .mk _ outputs source condition groupBy _ =>
    let kept := (source.rows db).filter fun row => passes db row condition
    (outputGroups groupBy kept).map (Output.row outputs)

/-- The cells of the first result of a subquery. -/
def Select.firstCells (db : Database) : Select → List Cell
  | .mk _ outputs source condition groupBy _ =>
    let kept := (source.rows db).filter fun row => passes db row condition
    match outputs with
    | output :: _ => (outputGroups groupBy kept).map output.cell
    | [] => []

/-- A row is kept if there is no condition or the condition is true. -/
def passes (db : Database) (row : Row) : Option Expr → Bool
  | none => true
  | some e => e.truth db row == some true

/-- The rows of a source. -/
def Source.rows (db : Database) : Source → List Row
  | .table name => if name = eventsTable then db.events.map Event.cell else []
  | .derived query => query.rows db

end

/-- An event is selected by some conditions if all of them are true. -/
def Database.selects (db : Database) (conditions : List Expr) (e : Event) : Bool :=
  Truth.all (truthOfAll db e.cell conditions) == some true

end Clickstream
