import Clickstream.Number.Decimal
import Clickstream.Query.Column
import Clickstream.Value.Basic

/-!
# Conditions

The trees that filters and time ranges are compiled to: comparisons, junctions and subqueries over
the columns of the table of events. Literals of a request are parameters (`Param`), never text of
the query. A parameter is a node with an identity: the same node may occur several times, and two
nodes with the same value stay apart.
-/

namespace Clickstream

/-- A comparison. -/
inductive Comparison
  | eq
  | ne
  | lt
  | le
  | gt
  | ge
  | like
  | notLike
  | distinct
  deriving DecidableEq, Repr

namespace Comparison

/-- The operator in the query language. -/
def sql : Comparison → String
  | .eq => "="
  | .ne => "!="
  | .lt => "<"
  | .le => "<="
  | .gt => ">"
  | .ge => ">="
  | .like => "LIKE"
  | .notLike => "NOT LIKE"
  | .distinct => "IS DISTINCT FROM"

def all : List Comparison :=
  [.eq, .ne, .lt, .le, .gt, .ge, .like, .notLike, .distinct]

/-- The comparison with an operator. -/
def ofText? (sql : String) : Option Comparison :=
  all.find? fun comparison => comparison.sql == sql

end Comparison

/-- The identity of a parameter. -/
inductive ParamId
  /-- A node of the caller. -/
  | given (n : Nat)
  /-- A bound of the time range. -/
  | windowStart
  | windowEnd
  /-- The site in the subqueries of a filter. -/
  | site (filter : Nat)
  /-- A value of a filter. -/
  | value (filter item : Nat)
  deriving DecidableEq, Repr

/-- A literal of a request. A parameter without a name gets one when it is bound. -/
structure Param where
  id : ParamId
  value : Value
  name : Option String
  deriving Repr

/-- A result of a subquery: a column, or a function of the pathname and the time under a name. -/
inductive Output
  | column (column : Column)
  | aggregate (function name : String)
  deriving DecidableEq, Repr

namespace Output

def sql : Output → String
  | .column c => c.sql
  | .aggregate function name =>
    function ++ "(" ++ (Column.attribute .pathname).sql ++ ", " ++ Column.timestamp.sql ++ ") AS " ++
      name

end Output

mutual

/-- A condition, or an operand of one. -/
inductive Expr
  | column (column : Column)
  | param (param : Param)
  | number (number : Decimal)
  /-- A text that is part of the query. -/
  | literal (text : String)
  /-- The clock of the store. -/
  | now
  | compare (left : Expr) (comparison : Comparison) (right : Expr)
  | isNull (operand : Expr)
  | call (function : String) (arguments : List Expr)
  | all (items : List Expr)
  | any (items : List Expr)
  | select (query : Select)
  | member (column : Column) (negated : Bool) (query : Select)

/-- A subquery. -/
inductive Select
  | mk (distinct : Bool) (outputs : List Output) (source : Source) (condition : Option Expr)
      (groupBy : List Column) (label : Option String)

/-- Where a subquery gets its rows from. -/
inductive Source
  | table (name : String)
  | derived (query : Select)

end

/-- The name of the table of events. -/
def eventsTable : String := "events"

namespace Select

/-- The name under which the results of a subquery are read by another one. -/
def tableName : Select → String
  | .mk _ _ _ _ _ (some "") | .mk _ _ _ _ _ none => "derived"
  | .mk _ _ _ _ _ (some name) => name

end Select

/-! ## Junctions -/

namespace Expr

/-- The items of a conjunction; any other condition is its own single item. -/
def conjuncts : Expr → List Expr
  | .all items => items
  | e => [e]

/-- The conjunction of some conditions, none for no conditions. Items that are conjunctions
themselves are taken apart. -/
def conjoin (items : List (Option Expr)) : Option Expr :=
  match items.reduceOption.flatMap conjuncts with
  | [] => none
  | [e] => some e
  | kept => some (.all kept)

end Expr

/-- The condition that an event belongs to a site. -/
def siteCondition (id : ParamId) (site : Int) : Expr :=
  .compare (.column .siteId) .eq (.param ⟨id, .int site, some "site_id"⟩)

end Clickstream
