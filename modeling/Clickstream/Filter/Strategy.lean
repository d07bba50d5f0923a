import Clickstream.Filter.Spec
import Clickstream.Query.Fragment
import Clickstream.Value.Integer

/-!
# Compiling filters

Every parameter has a strategy that builds the condition of a filter. Values of an inclusion are
alternatives; values of an exclusion are all excluded. An exclusion treats null as a value of its
own that equals nothing: events without a region pass `region != X`.

Conditions on sessions look at the events of a site within a time range only (`Scope`).
-/

namespace Clickstream

/-- How the condition of a filter is built. -/
inductive Strategy
  /-- Compares a column. -/
  | column (column : Column)
  /-- Compares a parameter of the URL. -/
  | urlParameter (name : String)
  /-- Keeps the sessions that contain a matching event. -/
  | sessionEvent (column : Column)
  /-- Compares a pathname that is computed for each session. -/
  | sessionPath (aggregate label : String)
  /-- Compares several columns that identify a visitor. -/
  | identity (columns : List Column)
  /-- Compares a number within a tolerance. -/
  | tolerance (column : Column) (tolerance : Decimal)
  deriving DecidableEq, Repr

/-- The events that a filter looks at: those of a site within a time range. The number of the
filter tells its parameters from those of the others. -/
structure Scope where
  filter : Nat
  site : Int
  time : Option Expr

namespace Scope

/-- The restriction to the scope and to further conditions. -/
def restrict (scope : Scope) (conditions : List Expr) : Option Expr :=
  Expr.conjoin (some (siteCondition (.site scope.filter) scope.site) :: scope.time ::
    conditions.map some)

end Scope

namespace Strategy

/-! ## Parts of conditions -/

/-- A value as it is compared: a part of a text stands between wildcards. -/
def comparedText (kind : FilterKind) (value : String) : String :=
  if kind.isPattern then "%" ++ value ++ "%" else value

/-- The parameters of the values of a filter. -/
def valueParams (scope : Scope) (kind : FilterKind) (values : List String) : List Param :=
  values.zipIdx.map fun value =>
    ⟨.value scope.filter value.2, .text (comparedText kind value.1), none⟩

/-- Compares a column with a value; null is no obstacle to an exclusion. -/
def compareValue (kind : FilterKind) (param : Param) (column : Column) : Expr :=
  match kind with
  | .notEquals => .compare (.column column) .distinct (.param param)
  | .notContains =>
    .compare (.call "coalesce" [.column column, .literal ""]) .notLike (.param param)
  | _ => .compare (.column column) kind.comparison (.param param)

/-- Combines the conditions for the values of a filter. -/
def junction (kind : FilterKind) : List Expr → Expr
  | [e] => e
  | items => if kind.isNegated then .all items else .any items

/-- Compares a column with all values of a filter. -/
def compareColumn (scope : Scope) (kind : FilterKind) (values : List String) (column : Column) :
    Expr :=
  junction kind ((valueParams scope kind values).map fun param => compareValue kind param column)

/-! ## Conditions -/

/-- The sessions with an event that matches, or those without one. -/
def buildSessionEvent (scope : Scope) (kind : FilterKind) (values : List String)
    (column : Column) : Expr :=
  let isMatch := compareColumn scope kind.positive values column
  .member .sessionId kind.isNegated
    (.mk true [.column .sessionId] (.table eventsTable) (scope.restrict [isMatch]) [] none)

/-- The sessions whose computed pathname passes the comparison. -/
def buildSessionPath (scope : Scope) (kind : FilterKind) (values : List String)
    (aggregate label : String) : Expr :=
  let perSession : Select :=
    .mk false [.column .sessionId, .aggregate aggregate label] (.table eventsTable)
      (scope.restrict []) [.sessionId] (some (label ++ "s"))
  .member .sessionId false
    (.mk false [.column .sessionId] (.derived perSession)
      (some (compareColumn scope kind values (.other label))) [] none)

/-- The events of which one of the columns matches, or of which none does. -/
def buildIdentity (scope : Scope) (kind : FilterKind) (values : List String)
    (columns : List Column) : Expr :=
  junction kind ((valueParams scope kind values).map fun param =>
    let compared := columns.map (compareValue kind param)
    if kind.isNegated then .all compared else .any compared)

/-- A coordinate of a filter. -/
def readCoordinate (parameter value : String) : Outcome Decimal :=
  match Decimal.read (Text.strip value).toList with
  | .error _ => reject (.coordinateNotNumeric parameter value)
  | .ok d => if d.isFinite then .ok d else reject (.coordinateNotFinite parameter value)

/-- The result of a decimal operation. -/
def decimalOutcome : Except DecimalSignal Decimal → Outcome Decimal
  | .ok d => .ok d
  | .error signal => raise (.decimal signal)

/-- The condition for one coordinate. -/
def buildCoordinate (kind : FilterKind) (parameter : String) (column : Column)
    (tolerance : Decimal) (value : String) : Outcome Expr := do
  let target ← readCoordinate parameter value
  let low ← decimalOutcome (Decimal.sub .standard target tolerance)
  let high ← decimalOutcome (Decimal.add .standard target tolerance)
  let column : Expr := .column column
  if kind.isNegated then
    .ok (.any [.compare column .lt (.number low), .compare column .gt (.number high),
      .isNull column])
  else
    .ok (.all [.compare column .ge (.number low), .compare column .le (.number high)])

/-- The conditions for some coordinates, up to the first that is refused. -/
def buildCoordinates (kind : FilterKind) (parameter : String) (column : Column)
    (tolerance : Decimal) : List String → Outcome (List Expr)
  | [] => .ok []
  | value :: rest => do
    let e ← buildCoordinate kind parameter column tolerance value
    let es ← buildCoordinates kind parameter column tolerance rest
    .ok (e :: es)

/-- The condition of a filter. -/
def build (strategy : Strategy) (scope : Scope) (filter : Filter) : Outcome Expr :=
  match strategy with
  | .column c => .ok (compareColumn scope filter.kind filter.values c)
  | .urlParameter name => .ok (compareColumn scope filter.kind filter.values (.urlParameter name))
  | .sessionEvent c => .ok (buildSessionEvent scope filter.kind filter.values c)
  | .sessionPath aggregate label =>
    .ok (buildSessionPath scope filter.kind filter.values aggregate label)
  | .identity columns => .ok (buildIdentity scope filter.kind filter.values columns)
  | .tolerance c t =>
    if filter.kind.isPattern then reject (.coordinatePattern filter.parameter)
    else
      (buildCoordinates filter.kind filter.parameter c t filter.values).map (junction filter.kind)

/-- The strategy for a parameter of the URL. -/
def ofUrlName (name : String) : Outcome Strategy :=
  if Filter.isUrlName name then .ok (.urlParameter name) else reject (.urlParameterName name)

/-! ## The standard strategies -/

/-- How far two equal coordinates may lie apart. -/
def coordinateTolerance : Decimal :=
  .finite false 1 (-3)

/-- The columns that identify a visitor. -/
def identityColumns : List Column :=
  [.userId, .attribute .identifiedUserId]

/-- The strategies of the fixed parameters. -/
def standard : Bindings Strategy :=
  [("browser", .column (.attribute .browser)),
   ("browser_version", .column .browserWithVersion),
   ("operating_system", .column (.attribute .operatingSystem)),
   ("operating_system_version", .column .systemWithVersion),
   ("language", .column (.attribute .language)),
   ("country", .column (.attribute .country)),
   ("region", .column (.attribute .region)),
   ("city", .column .regionCity),
   ("lat", .tolerance .lat coordinateTolerance),
   ("lon", .tolerance .lon coordinateTolerance),
   ("device_type", .column (.attribute .deviceType)),
   ("dimensions", .column .dimensions),
   ("referrer", .column .referrerDomain),
   ("channel", .column (.attribute .channel)),
   ("hostname", .column (.attribute .hostname)),
   ("pathname", .column (.attribute .pathname)),
   ("page_title", .column (.attribute .pageTitle)),
   ("querystring", .column (.attribute .querystring)),
   ("event_name", .sessionEvent (.attribute .eventName)),
   ("entry_page", .sessionPath "arg_min" "entry_pathname"),
   ("exit_page", .sessionPath "arg_max" "exit_pathname"),
   ("user_id", .identity identityColumns)]

/-- The strategy for a parameter. -/
def resolve (strategies : Bindings Strategy) (parameter : String) : Outcome Strategy :=
  match strategies.get? parameter with
  | some strategy => .ok strategy
  | none =>
    match Filter.urlName? parameter with
    | some name => ofUrlName name
    | none => reject (.unknownParameter (.text parameter))

end Strategy

/-! ## Lists of filters -/

namespace Filter

/-- The conditions of some filters; the first one has the given number. -/
def conditionsFrom (strategies : Bindings Strategy) (site : Int) (time : Option Expr) (n : Nat) :
    List Filter → Outcome (List Expr)
  | [] => .ok []
  | filter :: rest => do
    let strategy ← Strategy.resolve strategies filter.parameter
    let e ← strategy.build ⟨n, site, time⟩ filter
    let es ← conditionsFrom strategies site time (n + 1) rest
    .ok (e :: es)

/-- Compiles filters to one fragment, an empty one for no filters. -/
def compile (strategies : Bindings Strategy) (filters : List Filter) (site : Value)
    (time : Option Expr) : Outcome Fragment :=
  if filters.isEmpty then .ok .empty
  else do
    let site ← site.toInteger
    let conditions ← conditionsFrom strategies site time 0 filters
    Fragment.ofConditions "f" (conditions.map some)

end Filter

end Clickstream
