import Clickstream.Filter.Strategy
import Clickstream.Pattern.Wildcard
import Clickstream.TimeRange.Window

/-!
# The clause of a request

Every query of a request is restricted to its site, to further conditions of the query, to its time
range and to its filters, in this order. The clause holds the text, the parameters, and the
conditions that the text says.
-/

namespace Clickstream

/-- What a request asks about. -/
structure Request where
  site : Value
  filters : List Filter
  range : TimeRangeSpec
  now : Moment

/-- The restriction of a query. -/
structure Clause where
  sql : String
  params : Bindings Value
  conditions : List Expr

namespace Clause

/-- The start of every clause. -/
def siteSql : String := "WHERE site_id = $site_id"

/-- Puts the fragments of a clause together. -/
def ofFragments (site : Int) (fragments : List Fragment) : Outcome Clause := do
  let params ← mergeParams ([("site_id", .int site)] :: fragments.map (·.params))
  let texts := siteSql :: (fragments.map (·.sql)).filter (· != "")
  let conditions := siteCondition (.given 0) site :: (fragments.map (·.condition)).reduceOption
  .ok ⟨" ".intercalate texts, params, conditions⟩

end Clause

namespace Request

/-- The clause of a request with further conditions. -/
def clause [ZoneDatabase] (request : Request) (conditions : List (Option Expr)) :
    Outcome Clause := do
  let time ← request.range.compile request.now
  let filters ← Filter.compile Strategy.standard request.filters request.site time.condition
  let extra ← Fragment.ofConditions "q" conditions
  let site ← request.site.toInteger
  Clause.ofFragments site [extra, time, filters]

end Request

/-! ## Further conditions -/

/-- The condition that the path of an event has a match of a regular expression. -/
def pathCondition (id : ParamId) (regex : String) : Expr :=
  .call "regexp_matches" [.column (.attribute .pathname), .param ⟨id, .text regex, none⟩]

/-- The condition that the path of an event fits a wildcard pattern. -/
def patternCondition (id : ParamId) (pattern : String) : Expr :=
  pathCondition id (Wildcard.regexText pattern)

/-- The condition that an event belongs to a group of pages. -/
def groupCondition (id : ParamId) (path : String) (depth : Value) : Outcome Expr :=
  (PathGroup.regexText path depth).map (pathCondition id)

/-- The condition that an event is a page view. -/
def pageviewCondition (id : ParamId) : Expr :=
  .compare (.column .type) .eq (.param ⟨id, .text "pageview", none⟩)

/-- The condition that an event has an identified user. -/
def identifiedCondition (id : ParamId) : Expr :=
  .compare (.column (.attribute .identifiedUserId)) .ne (.param ⟨id, .text "", none⟩)

end Clickstream
