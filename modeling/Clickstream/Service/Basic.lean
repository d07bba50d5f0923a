import Clickstream.Result.Normalize
import Clickstream.Result.Traits
import Clickstream.Service.Report
import Clickstream.TimeRange.Previous
import Clickstream.Value.Equality

/-!
# The query service

Answers the questions of a dashboard about one site: the clause of the request is built, the store
of events is asked, and the rows are normalized. Identified users get the traits of their profiles
if the service has a store of profiles.

The service is written over the effects of its stores (`Service.query`, `Service.profiles`); nothing
is asked of a store unless the clause of the request can be built.
-/

namespace Clickstream

/-- A service over its stores. -/
structure Service (m : Type → Type) where
  query : Report → Clause → m (Outcome (List Fields))
  profiles : Option (Value → List String → m (Outcome Profiles))

namespace Service

/-- The kinds of the fields in the answers of the service. -/
def schema : Schema :=
  Schema.extending
    [("pageviews", .number), ("sessions", .number), ("users", .number), ("pathname", .text)]

/-- The normalized rows of an answer. -/
def normalized (rows : Outcome (List Fields)) : Outcome (List Fields) := do
  let (rows, _) ← schema.normalize (← rows)
  .ok rows

variable {m : Type → Type} [Monad m]

/-- Puts a report on a clause to the store, if there is a clause. -/
def execute (service : Service m) (report : Report) (clause : Outcome Clause) :
    m (Outcome (List Fields)) := do
  match clause with
  | .error e => return .error e
  | .ok clause => return normalized (← service.query report clause)

/-! ## Page views -/

/-- The clause of the page views of a group of pages. -/
def pageviewClause [ZoneDatabase] (request : Request) (path : String) (depth : Value) :
    Outcome Clause := do
  if path = "" then reject .missingPrefix
  else
    let group ← groupCondition (.given 2) path depth
    request.clause [some (pageviewCondition (.given 1)), some group]

/-- A field that a row must have. -/
def column (row : Fields) (name : String) : Outcome Value :=
  match Bindings.get? row name with
  | some v => .ok v
  | none => raise (.missingColumn name)

/-- A value that can be the key of a count. -/
def keyOf (v : Value) : Outcome Value :=
  match v with
  | .list _ | .object _ => raise (.unhashable v.typeName)
  | _ => .ok v

/-- Sets the count of a key: in its place, or at the end. -/
def setCount (key count : Value) : List (Value × Value) → List (Value × Value)
  | [] => [(key, count)]
  | (k, c) :: rest => if k == key then (k, count) :: rest else (k, c) :: setCount key count rest

/-- The counts in some rows, over those that are known. -/
def countsFrom (known : List (Value × Value)) : List Fields → Outcome (List (Value × Value))
  | [] => .ok known
  | row :: rest => do
    let path ← column row "pathname"
    let count ← column row "pageviews"
    let key ← keyOf path
    countsFrom (setCount key count known) rest

/-- The page views of each path below a path, or a number of segments below it. -/
def pageviewCounts [ZoneDatabase] (service : Service m) (request : Request) (path : String)
    (depth : Value) : m (Outcome (List (Value × Value))) := do
  let rows ← service.execute .pageviews (pageviewClause request path depth)
  return rows >>= countsFrom []

/-! ## Overview -/

/-- The totals of no rows. -/
def zeroTotals : Fields :=
  [("sessions", .int 0), ("pageviews", .int 0), ("users", .int 0)]

/-- The totals of sessions, page views and visitors. -/
def overview [ZoneDatabase] (service : Service m) (request : Request) : m (Outcome Fields) := do
  let rows ← service.execute .overview (request.clause [])
  return rows.map fun rows => rows.head?.getD zeroTotals

/-- Totals of a period and of the period before it. -/
structure Comparison where
  current : Fields
  previous : Option Fields

/-- Compares the totals of a request with those of the period before. Both are asked for, and the
failure of the first one comes first. -/
def comparison [ZoneDatabase] (service : Service m) (request : Request) :
    m (Outcome Comparison) := do
  match request.range.previous with
  | .error e => return .error e
  | .ok none => return (← service.overview request).map fun totals => ⟨totals, none⟩
  | .ok (some range) =>
    let current ← service.overview request
    let previous ← service.overview { request with range := range }
    return do .ok ⟨← current, some (← previous)⟩

/-! ## Identified users -/

/-- The most users that can be asked for. -/
def maxLimit : Nat := 1000

/-- The number of users if none is asked for. -/
def defaultLimit : Value := .int 50

/-- A number of users: an integer between one and the most. -/
def readLimit (v : Value) : Outcome Nat :=
  match v with
  | .int n => if 1 ≤ n ∧ n ≤ maxLimit then .ok n.toNat else reject (.limit maxLimit v)
  | _ => reject (.limit maxLimit v)

/-- The clause of the events with an identified user. -/
def identifiedClause [ZoneDatabase] (request : Request) : Outcome Clause :=
  request.clause [some (identifiedCondition (.given 1))]

/-- Attaches traits to rows, if there is a store of profiles. -/
def enrich (service : Service m) (site : Value) (rows : List Fields) :
    m (Outcome (List Fields)) :=
  match service.profiles with
  | none => return .ok rows
  | some lookup => Enrichment.run (lookup site) Enrichment.standardField rows

/-- The identified users with the most sessions, and their traits. -/
def identifiedUsers [ZoneDatabase] (service : Service m) (request : Request) (limit : Value) :
    m (Outcome (List Fields)) := do
  match readLimit limit with
  | .error e => return .error e
  | .ok limit =>
    match ← service.execute (.identifiedUsers limit) (identifiedClause request) with
    | .error e => return .error e
    | .ok rows => service.enrich request.site rows

/-! ## Paths -/

/-- The paths of each session, for the events that pass further conditions. -/
def paths [ZoneDatabase] (service : Service m) (request : Request)
    (conditions : List (Option Expr)) : m (Outcome (List Fields)) :=
  service.execute .paths (request.clause conditions)

end Service

end Clickstream
