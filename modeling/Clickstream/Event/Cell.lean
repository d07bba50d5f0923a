import Clickstream.Number.Decimal
import Clickstream.Number.Shortest
import Clickstream.Value.Basic

/-!
# Cells and truth

The values in the columns of the store, null among them, and the three truth values of conditions
over them. A comparison with null is neither true nor false.
-/

namespace Clickstream

/-- A truth value; nothing stands for unknown. -/
abbrev Truth := Option Bool

namespace Truth

/-- The opposite; unknown stays unknown. -/
def negate : Truth → Truth :=
  Option.map (!·)

/-- False if one of two is false, and unknown before true. -/
def and : Truth → Truth → Truth
  | some false, _ | _, some false => some false
  | some true, some true => some true
  | _, _ => none

/-- True if one of two is true, and unknown before false. -/
def or : Truth → Truth → Truth
  | some true, _ | _, some true => some true
  | some false, some false => some false
  | _, _ => none

/-- The conjunction of a list. -/
def all (ts : List Truth) : Truth :=
  ts.foldr and (some true)

/-- The disjunction of a list. -/
def any (ts : List Truth) : Truth :=
  ts.foldr or (some false)

end Truth

/-- The value of a column. -/
inductive Cell
  | null
  | int (n : Int)
  | real (x : Binary64)
  | text (s : String)
  | time (t : Timestamp)
  deriving DecidableEq, Repr

namespace Cell

/-- An optional text. -/
def ofText? : Option String → Cell
  | some s => .text s
  | none => .null

/-- A parameter as the store gets it. A moment with an offset is stored in UTC. -/
def ofValue : Value → Cell
  | .bool b => .int (if b then 1 else 0)
  | .int n => .int n
  | .real x => .real x
  | .text s => .text s
  | .moment m =>
    match m.toUtc? with
    | some t => .time t
    | none => .null
  | _ => .null

/-- A number in a query: the nearest double. -/
def ofDecimal (d : Decimal) : Cell :=
  match d.toBinary64? with
  | some x => .real x
  | none => .null

/-- A number as text, and a text as itself. -/
def toText? : Cell → Option String
  | .null => none
  | .int n => some (toString n)
  | .real x => some x.toText
  | .text s => some s
  | .time t => some (t.toText " ")

/-- The order of two cells. Texts are ordered by their characters, doubles with NaN last. Cells of
kinds that do not go together, and null, have no order. -/
def order? : Cell → Cell → Option Ordering
  | .int m, .int n => some (compare m n)
  | .real x, .real y => some (compare x.rank y.rank)
  | .int m, .real y => (Binary64.ofInt? m).map fun x => compare x.rank y.rank
  | .real x, .int n => (Binary64.ofInt? n).map fun y => compare x.rank y.rank
  | .text s, .text t => some (compare s t)
  | .time s, .time t => some (compare s.ticks t.ticks)
  | _, _ => none

/-- A null cell. -/
def isNull : Cell → Bool
  | .null => true
  | _ => false

/-- Two cells are different, where null is a value of its own. -/
def isDistinct : Cell → Cell → Bool
  | .null, .null => false
  | a, b => order? a b != some .eq

/-- Equality of two cells. -/
def equal (a b : Cell) : Truth :=
  (order? a b).map (· == .eq)

/-- A cell is one of a list. -/
def memberOf (c : Cell) (cells : List Cell) : Truth :=
  Truth.any (cells.map c.equal)

/-- The first cell that is not null. -/
def coalesce : List Cell → Cell
  | [] => .null
  | c :: rest => if c.isNull then coalesce rest else c

/-- The text of some cells in a row; null counts as empty. -/
def concat (cells : List Cell) : Cell :=
  .text (String.join (cells.filterMap toText?))

end Cell

end Clickstream
