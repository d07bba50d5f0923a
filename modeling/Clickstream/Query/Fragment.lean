import Clickstream.Query.Renderer
import Clickstream.Value.Display

/-!
# Fragments

A fragment is a rendered condition with its parameters: its text is empty or begins with `AND`, so
that fragments can be put behind a clause in any order. It keeps the condition that it was rendered
from, for use in a subquery.
-/

namespace Clickstream

/-- A rendered condition. -/
structure Fragment where
  sql : String
  params : Bindings Value
  condition : Option Expr

namespace Fragment

/-- The fragment of no condition. -/
def empty : Fragment :=
  ⟨"", [], none⟩

/-- The fragment restricts something. -/
def isRestricted (f : Fragment) : Bool :=
  f.sql != ""

/-- The text of some conditions in a row. -/
def joinedSql (name : Param → String) (items : List Expr) : String :=
  "AND " ++ " AND ".intercalate (sqlOfAll name items)

/-- Renders some conditions as one fragment. -/
def ofConditions (stem : String) (items : List (Option Expr)) : Outcome Fragment :=
  match items.reduceOption with
  | [] => .ok empty
  | kept =>
    match (Renderer.start stem).bindAll (paramsOfAll kept) with
    | (some e, _) => .error e
    | (none, r) => .ok ⟨joinedSql r.name kept, r.params, Expr.conjoin items⟩

end Fragment

/-- Combines the parameters of the parts of a query. -/
def mergeParams {α : Type} [BEq α] (sources : List (Bindings α)) : Outcome (Bindings α) :=
  match Bindings.merge sources with
  | .ok merged => .ok merged
  | .error name => .error (.conflict name)

/-- A query and its parameters in readable form. -/
def describeQuery (sql : String) (params : Bindings Value) : String :=
  sql ++ "\nParameters: " ++
    ", ".intercalate (params.map fun binding => "$" ++ binding.1 ++ "=" ++ binding.2.shown)

end Clickstream
