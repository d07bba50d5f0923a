import Clickstream.Proofs.Event.Sessions
import Clickstream.Proofs.Filter.Comparison
import Clickstream.Proofs.Service.Clause

/-!
# The events that pass a filter

What a filter asks of an event, told without conditions: whether the event passes the filter with a
single value (`Strategy.passesValue`), and that several values are alternatives or excluded
together.  An event of the scope passes the condition that a strategy builds if and only if it
passes the filter in this sense (`Strategy.passes_build`), and it passes a compiled list of filters
if and only if it passes all of them (`Filter.passes_compile`).

Filters compile unless a parameter is unknown or a coordinate is not accepted
(`Filter.exists_compile_iff`).
-/

namespace Clickstream

/-! ## Columns -/

namespace Column

/-- The cells of the column are texts or null. -/
def isText : Column → Bool
  | .sessionId | .userId | .type | .attribute _ | .browserWithVersion | .systemWithVersion
  | .regionCity | .dimensions | .referrerDomain | .urlParameter _ => true
  | .siteId | .timestamp | .lat | .lon | .screenWidth | .screenHeight | .other _ => false

/-- The cells of the column are coordinates or null. -/
def isCoordinate : Column → Bool
  | .lat | .lon => true
  | _ => false

end Column

theorem Cell.toText?_ofText? (text : Option String) : (ofText? text).toText? = text := by
  cases text <;> rfl

namespace Event

/-- The text of an event in a column. -/
def text? (e : Event) (c : Column) : Option String :=
  (e.cell c).toText?

theorem cell_eq_ofText? (e : Event) :
    ∀ {c : Column}, c.isText = true → e.cell c = Cell.ofText? (e.text? c)
  | .attribute _, _ | .referrerDomain, _ | .urlParameter _, _ =>
    congrArg Cell.ofText? (Cell.toText?_ofText? _).symm
  | .sessionId, _ | .userId, _ | .type, _ | .browserWithVersion, _ | .regionCity, _
  | .dimensions, _ => rfl
  | .systemWithVersion, _ => by
    unfold text? cell systemCell
    dsimp only
    split
    · rfl
    · rfl

theorem exists_coordinateCell (e : Event) {c : Column} (h : c.isCoordinate = true) :
    ∃ x, e.cell c = coordinateCell x := by
  cases c with
  | lat => exact ⟨e.lat, rfl⟩
  | lon => exact ⟨e.lon, rfl⟩
  | _ => cases h

end Event

/-- The pathname that is computed for a session within a scope. -/
def Database.sessionPath? (db : Database) (site : Int) (time : Option Expr) (function : String)
    (session : String) : Option String :=
  (aggregate function ((db.sessionEvents site time session).map Event.cell)).toText?

theorem aggregate_eq_ofText? (function : String) (events : List Event) :
    aggregate function (events.map Event.cell) =
      Cell.ofText? (aggregate function (events.map Event.cell)).toText? := by
  have hpath : ∀ later, extremePathname later (events.map Event.cell) =
      Cell.ofText? (extremePathname later (events.map Event.cell)).toText? := by
    intro later
    -- A group of rows is never empty, but the function is defined for no rows as well.
    by_cases hne : events = []
    · rw [hne]
      rfl
    · obtain ⟨e, -, he⟩ := Event.exists_isLeading later hne
      rw [he, Cell.toText?_ofText?]
  unfold aggregate
  split
  · exact hpath false
  · exact hpath true
  · rfl

namespace Strategy

/-! ## Single values -/

/-- An event passes a filter with a single value. -/
def passesValue (db : Database) (site : Int) (time : Option Expr) (parameter : String)
    (kind : FilterKind) (e : Event) (value : String) : Strategy → Bool
  | .column c => kind.passesText value (e.text? c)
  | .urlParameter name => kind.passesText value (e.text? (.urlParameter name))
  | .sessionEvent c =>
    ((db.sessionEvents site time e.session).any fun other =>
      kind.positive.passesText value (other.text? c)) != kind.isNegated
  | .sessionPath function _ =>
    kind.passesText value (db.sessionPath? site time function e.session)
  | .identity columns =>
    if kind.isNegated then columns.all fun c => kind.passesText value (e.text? c)
    else columns.any fun c => kind.passesText value (e.text? c)
  | .tolerance c t =>
    (coordinateBounds parameter t value).toOption.any fun bounds =>
      (e.cell c).isBetween (.ofDecimal bounds.1) (.ofDecimal bounds.2) != kind.isNegated

/-- A strategy compares texts with values and coordinates with finite bounds, and the visitor of an
event has an id. -/
def IsTyped : Strategy → Bool
  | .column c | .sessionEvent c => c.isText
  | .urlParameter _ | .sessionPath _ _ => true
  | .identity columns => columns.contains .userId && columns.all Column.isText
  | .tolerance c t => c.isCoordinate && t.isFinite

section

variable {db : Database} {scope : Scope}

/-! ## Conditions on sessions -/

/-- Whether the session of an event is among those of a subquery is never unknown. -/
theorem passes_member {query : Select} (h : ∀ c ∈ query.firstCells db, ∃ s, c = .text s)
    (e : Event) (negated : Bool) :
    passes db e.cell (some (.member .sessionId negated query)) =
      (decide (.text e.session ∈ query.firstCells db) != negated) := by
  have hfound : (e.cell .sessionId).memberOf (query.firstCells db) =
      some (decide (.text e.session ∈ query.firstCells db)) := Cell.memberOf_eq e.session h
  rw [passes_some, Expr.truth_member]
  simp only [hfound]
  cases negated with
  | false =>
    rw [if_neg Bool.false_ne_true]
    cases decide (Cell.text e.session ∈ query.firstCells db) <;> rfl
  | true =>
    rw [if_pos rfl]
    cases decide (Cell.text e.session ∈ query.firstCells db) <;> rfl

/-- A subquery in a scope finds the sessions of the events that pass its further conditions. -/
theorem firstCells_sessions (conditions : List Expr) (isDistinct : Bool) (label : Option String) :
    Select.firstCells db (.mk isDistinct [.column .sessionId] (.table eventsTable)
      (scope.restrict conditions) [] label) =
      ((db.scopeEvents scope.site scope.time).filter fun e =>
        (conditions.map some).all (passes db e.cell)).map fun e => .text e.session := by
  rw [Select.firstCells, rows_eventsTable, keptRows_eq, List.filter_map]
  simp only [outputGroups, List.isEmpty_nil, if_true, List.map_map]
  rfl

theorem passes_buildSessionEvent {c : Column} (hc : c.isText = true) (kind : FilterKind)
    (values : List String) (e : Event) :
    passes db e.cell (some (buildSessionEvent scope kind values c)) =
      kind.combine (fun value =>
        ((db.sessionEvents scope.site scope.time e.session).any fun other =>
          kind.positive.passesText value (other.text? c)) != kind.isNegated) values := by
  have hmatch : ∀ other : Event,
      passes db other.cell (some (compareColumn scope kind.positive values c)) =
        values.any fun value => kind.positive.passesText value (other.text? c) := by
    intro other
    rw [passes_compareColumn (other.cell_eq_ofText? hc), FilterKind.combine,
      kind.isNegated_positive]
    exact if_neg Bool.false_ne_true
  have hcells := @firstCells_sessions db scope [compareColumn scope kind.positive values c] true
    none
  rw [buildSessionEvent, passes_member, hcells, FilterKind.combine_bne]
  · refine congrArg (· != kind.isNegated) ?_
    -- The subquery asks for an event and then for a value, the filter the other way round.
    rw [Bool.eq_iff_iff, decide_eq_true_eq]
    simp only [List.map_cons, List.map_nil, List.all_cons, List.all_nil, Bool.and_true, hmatch,
      List.mem_map, List.mem_filter, List.any_eq_true, Database.mem_sessionEvents,
      Cell.text.injEq]
    constructor
    · rintro ⟨other, ⟨hscope, value, hvalue, hpasses⟩, hsession⟩
      exact ⟨value, hvalue, other, ⟨hscope, hsession⟩, hpasses⟩
    · rintro ⟨value, hvalue, other, ⟨hscope, hsession⟩, hpasses⟩
      exact ⟨other, ⟨hscope, value, hvalue, hpasses⟩, hsession⟩
  · rw [hcells]
    intro cell hcell
    obtain ⟨e, -, rfl⟩ := List.mem_map.mp hcell
    exact ⟨e.session, rfl⟩

/-- The sessions of a scope with their computed pathnames. -/
def perSession (scope : Scope) (function label : String) : Select :=
  .mk false [.column .sessionId, .aggregate function label] (.table eventsTable)
    (scope.restrict []) [.sessionId] (some (label ++ "s"))

/-- The row of a session with its computed pathname. -/
def sessionRow (db : Database) (scope : Scope) (function label session : String) : Row :=
  Output.row [.column .sessionId, .aggregate function label]
    ((db.sessionEvents scope.site scope.time session).map Event.cell)

section

variable {function label : String}

theorem sessionRow_path (session : String) :
    sessionRow db scope function label session (.other label) =
      Cell.ofText? (db.sessionPath? scope.site scope.time function session) := by
  have hfind : [Output.column .sessionId, .aggregate function label].find?
      (fun output => output.resultColumn = .other label) = some (.aggregate function label) := by
    simp only [List.find?_cons, Output.resultColumn, reduceCtorEq, decide_false, decide_true]
  rw [sessionRow, Output.row, hfind]
  exact aggregate_eq_ofText? function _

theorem sessionRow_session {e : Event} (he : e ∈ db.scopeEvents scope.site scope.time) :
    sessionRow db scope function label e.session .sessionId = .text e.session := by
  have hmem : e ∈ db.sessionEvents scope.site scope.time e.session :=
    Database.mem_sessionEvents.mpr ⟨he, rfl⟩
  show Output.cell ((db.sessionEvents scope.site scope.time e.session).map Event.cell)
    (.column .sessionId) = _
  -- The cell is read off the first row of the group, whichever event that is.
  cases hevents : db.sessionEvents scope.site scope.time e.session with
  | nil =>
    rw [hevents] at hmem
    cases hmem
  | cons first rest =>
    have hfirst : first ∈ db.sessionEvents scope.site scope.time e.session := by
      rw [hevents]
      exact List.mem_cons_self
    exact congrArg Cell.text (Database.mem_sessionEvents.mp hfirst).2

/-- There is a row for each session of the scope. -/
theorem mem_rows_perSession {row : Row} :
    row ∈ (perSession scope function label).rows db ↔
      ∃ e ∈ db.scopeEvents scope.site scope.time,
        sessionRow db scope function label e.session = row := by
  have hgroups : ∀ rows, outputGroups [.sessionId] rows = groups [.sessionId] rows := fun _ => rfl
  rw [perSession, Select.rows, rows_eventsTable, keptRows_eq, hgroups, List.mem_map]
  simp only [List.map_nil, List.all_nil, List.filter_true]
  constructor
  · rintro ⟨group, hgroup, rfl⟩
    obtain ⟨e, he, rfl⟩ := mem_groups_session.mp hgroup
    exact ⟨e, he, rfl⟩
  · rintro ⟨e, he, rfl⟩
    exact ⟨_, mem_groups_session.mpr ⟨e, he, rfl⟩, rfl⟩

/-- A subquery over the sessions of a scope finds those whose row passes its condition. -/
theorem mem_firstCells_perSession {condition : Expr} {cell : Cell} :
    cell ∈ Select.firstCells db (.mk false [.column .sessionId]
        (.derived (perSession scope function label)) (some condition) [] none) ↔
      ∃ e ∈ db.scopeEvents scope.site scope.time,
        passes db (sessionRow db scope function label e.session) (some condition) = true ∧
          .text e.session = cell := by
  have hcells : Select.firstCells db (.mk false [.column .sessionId]
      (.derived (perSession scope function label)) (some condition) [] none) =
      (((perSession scope function label).rows db).filter fun row =>
        passes db row (some condition)).map (· .sessionId) := by
    rw [Select.firstCells, Source.rows]
    simp only [outputGroups, List.isEmpty_nil, if_true, List.map_map]
    rfl
  rw [hcells, List.mem_map]
  constructor
  · rintro ⟨_, hkept, rfl⟩
    obtain ⟨hrow, hpasses⟩ := List.mem_filter.mp hkept
    obtain ⟨e, he, rfl⟩ := mem_rows_perSession.mp hrow
    exact ⟨e, he, hpasses, (sessionRow_session he).symm⟩
  · rintro ⟨e, he, hpasses, rfl⟩
    have hrow : sessionRow db scope function label e.session ∈
        (perSession scope function label).rows db := mem_rows_perSession.mpr ⟨e, he, rfl⟩
    exact ⟨_, List.mem_filter.mpr ⟨hrow, hpasses⟩, sessionRow_session he⟩

theorem passes_buildSessionPath {e : Event} (he : e ∈ db.scopeEvents scope.site scope.time)
    (kind : FilterKind) (values : List String) :
    passes db e.cell (some (buildSessionPath scope kind values function label)) =
      kind.combine (fun value => kind.passesText value
        (db.sessionPath? scope.site scope.time function e.session)) values := by
  have hrow := @passes_compareColumn db (sessionRow db scope function label e.session) _ _
    (sessionRow_path e.session) scope kind values
  rw [← hrow]
  show passes db e.cell (some (.member .sessionId false (.mk false [.column .sessionId]
    (.derived (perSession scope function label)) _ [] none))) = _
  rw [passes_member, Bool.bne_false, Bool.eq_iff_iff, decide_eq_true_eq, mem_firstCells_perSession]
  · constructor
    · rintro ⟨other, -, hpasses, hsession⟩
      rw [Cell.text.inj hsession] at hpasses
      exact hpasses
    · exact fun hpasses => ⟨e, he, hpasses, rfl⟩
  · intro cell hcell
    obtain ⟨other, -, -, rfl⟩ := mem_firstCells_perSession.mp hcell
    exact ⟨other.session, rfl⟩

end

/-! ## All strategies -/

/-- An event of the scope passes the condition of a filter if it passes the filter with one of its
values, for an exclusion with each of them. -/
theorem passes_build {strategy : Strategy} (hs : strategy.IsTyped = true) {filter : Filter}
    {condition : Expr} (h : strategy.build scope filter = .ok condition) {e : Event}
    (he : e ∈ db.scopeEvents scope.site scope.time) :
    passes db e.cell (some condition) =
      filter.kind.combine (fun value =>
        strategy.passesValue db scope.site scope.time filter.parameter filter.kind e value)
        filter.values := by
  cases strategy with
  | column c =>
    cases h
    exact passes_compareColumn (e.cell_eq_ofText? hs) scope filter.kind filter.values
  | urlParameter name =>
    cases h
    exact passes_compareColumn (e.cell_eq_ofText? rfl) scope filter.kind filter.values
  | sessionEvent c =>
    cases h
    exact passes_buildSessionEvent hs filter.kind filter.values e
  | sessionPath function label =>
    cases h
    exact passes_buildSessionPath he filter.kind filter.values
  | identity columns =>
    cases h
    rw [IsTyped, Bool.and_eq_true, List.all_eq_true] at hs
    exact passes_buildIdentity (fun c hc => e.cell_eq_ofText? (hs.2 c hc)) scope filter.kind
      filter.values
  | tolerance c t =>
    rw [IsTyped, Bool.and_eq_true] at hs
    obtain ⟨x, hx⟩ := e.exists_coordinateCell hs.1
    simp only [build] at h
    split at h
    · cases h
    · obtain ⟨es, hes, rfl⟩ := Outcome.map_eq_ok.mp h
      have hvalues := @passes_buildCoordinates db _ _ _ _ _ hs.2 _ hx _ _ hes
      rw [passes_junction_map hvalues]
      rfl

end

/-! ## Accepted values -/

/-- A strategy accepts any texts, but as coordinates only finite numerals, and no parts of them. -/
def Accepts (parameter : String) (kind : FilterKind) (values : List String) : Strategy → Prop
  | .tolerance _ t => kind.isPattern = false ∧
    ∀ value ∈ values, ∃ bounds, coordinateBounds parameter t value = .ok bounds
  | _ => True

theorem exists_buildCoordinates_iff {kind : FilterKind} {parameter : String} {c : Column}
    {tolerance : Decimal} {values : List String} :
    (∃ es, buildCoordinates kind parameter c tolerance values = .ok es) ↔
      ∀ value ∈ values, ∃ bounds, coordinateBounds parameter tolerance value = .ok bounds := by
  induction values with
  | nil => exact iff_of_true ⟨[], rfl⟩ nofun
  | cons value values ih =>
    rw [List.forall_mem_cons, ← ih]
    constructor
    · rintro ⟨es, h⟩
      obtain ⟨e, he, h⟩ := Outcome.bind_eq_ok.mp h
      obtain ⟨rest, hrest, -⟩ := Outcome.bind_eq_ok.mp h
      obtain ⟨bounds, hbounds, -⟩ := buildCoordinate_eq_ok.mp he
      exact ⟨⟨bounds, hbounds⟩, rest, hrest⟩
    · rintro ⟨⟨bounds, hbounds⟩, rest, hrest⟩
      refine ⟨coordinateCondition kind c bounds :: rest, ?_⟩
      rw [buildCoordinates, buildCoordinate_eq, hbounds, hrest]
      rfl

/-- A strategy builds the conditions of the filters whose values it accepts. -/
theorem exists_build_iff {strategy : Strategy} {scope : Scope} {filter : Filter} :
    (∃ condition, strategy.build scope filter = .ok condition) ↔
      strategy.Accepts filter.parameter filter.kind filter.values := by
  cases strategy with
  | tolerance c t =>
    rw [Accepts, ← @exists_buildCoordinates_iff filter.kind filter.parameter c]
    simp only [build]
    split
    · next hpattern =>
      constructor
      · rintro ⟨condition, h⟩
        cases h
      · rintro ⟨h, -⟩
        rw [hpattern] at h
        cases h
    · next hpattern =>
      rw [Bool.not_eq_true] at hpattern
      constructor
      · rintro ⟨condition, h⟩
        obtain ⟨es, hes, -⟩ := Outcome.map_eq_ok.mp h
        exact ⟨hpattern, es, hes⟩
      · rintro ⟨-, es, hes⟩
        exact ⟨_, Outcome.map_eq_ok.mpr ⟨es, hes, rfl⟩⟩
  | _ => exact iff_of_true ⟨_, rfl⟩ trivial

/-! ## The standard strategies -/

theorem resolve_isTyped {parameter : String} {strategy : Strategy}
    (h : resolve standard parameter = .ok strategy) : strategy.IsTyped = true := by
  have hall : ∀ binding ∈ standard, binding.2.IsTyped = true := by decide
  rcases resolve_cases h with hget | ⟨-, name, rfl⟩
  · exact hall _ (Bindings.mem_of_get? hget)
  · rfl

end Strategy

/-! ## Lists of filters -/

namespace Filter

/-- The parameter of a filter has a strategy that accepts the values. -/
def IsAccepted (filter : Filter) : Prop :=
  ∃ strategy, Strategy.resolve Strategy.standard filter.parameter = .ok strategy ∧
    strategy.Accepts filter.parameter filter.kind filter.values

/-- An event passes a filter: an inclusion with one of the values, an exclusion with each of
them. -/
def passes (db : Database) (site : Int) (time : Option Expr) (e : Event) (filter : Filter) : Bool :=
  (Strategy.resolve Strategy.standard filter.parameter).toOption.any fun strategy =>
    filter.kind.combine (fun value =>
      strategy.passesValue db site time filter.parameter filter.kind e value) filter.values

theorem passes_of_resolve {filter : Filter} {strategy : Strategy}
    (h : Strategy.resolve Strategy.standard filter.parameter = .ok strategy) (db : Database)
    (site : Int) (time : Option Expr) (e : Event) :
    filter.passes db site time e = filter.kind.combine (fun value =>
      strategy.passesValue db site time filter.parameter filter.kind e value) filter.values := by
  rw [passes, h]
  rfl

variable {site : Int} {time : Option Expr} {filters : List Filter}

/-- The conditions of filters can be built, whatever their numbers are, if all are accepted. -/
theorem exists_conditionsFrom_iff {n : Nat} :
    (∃ es, conditionsFrom Strategy.standard site time n filters = .ok es) ↔
      ∀ filter ∈ filters, filter.IsAccepted := by
  induction filters generalizing n with
  | nil => exact iff_of_true ⟨[], rfl⟩ nofun
  | cons filter filters ih =>
    rw [List.forall_mem_cons, ← @ih (n + 1)]
    constructor
    · rintro ⟨es, h⟩
      obtain ⟨strategy, e, rest, hstrategy, he, hrest, -⟩ := conditionsFrom_cons_eq_ok h
      exact ⟨⟨strategy, hstrategy, Strategy.exists_build_iff.mp ⟨e, he⟩⟩, rest, hrest⟩
    · rintro ⟨⟨strategy, hstrategy, haccepts⟩, rest, hrest⟩
      obtain ⟨e, he⟩ := (@Strategy.exists_build_iff strategy ⟨n, site, time⟩ filter).mpr haccepts
      refine ⟨e :: rest, ?_⟩
      rw [conditionsFrom, hstrategy, Outcome.ok_bind, he, Outcome.ok_bind, hrest, Outcome.ok_bind]

/-- Filters compile if and only if all of them are accepted. -/
theorem exists_compile_iff (htime : TimeRange.IsWindow time) :
    (∃ f, compile Strategy.standard filters (.int site) time = .ok f) ↔
      ∀ filter ∈ filters, filter.IsAccepted := by
  rw [← @exists_conditionsFrom_iff site time filters 0, compile_eq rfl]
  constructor
  · rintro ⟨f, h⟩
    obtain ⟨built, hbuilt, -⟩ := Outcome.bind_eq_ok.mp h
    exact ⟨built, hbuilt⟩
  · rintro ⟨built, hbuilt⟩
    obtain ⟨f, r, hf, -⟩ := renders_conditions htime hbuilt
    exact ⟨f, Outcome.bind_eq_ok.mpr ⟨built, hbuilt, hf⟩⟩

/-- An event of the scope passes the conditions of filters if it passes the filters. -/
theorem passes_conditionsFrom {db : Database} {e : Event} (he : e ∈ db.scopeEvents site time)
    {n : Nat} {es : List Expr}
    (h : conditionsFrom Strategy.standard site time n filters = .ok es) :
    (es.map some).all (Clickstream.passes db e.cell) = filters.all (passes db site time e) := by
  induction filters generalizing n es with
  | nil =>
    cases h
    rfl
  | cons filter filters ih =>
    obtain ⟨strategy, condition, rest, hstrategy, hcondition, hrest, rfl⟩ :=
      conditionsFrom_cons_eq_ok h
    rw [List.map_cons, List.all_cons, List.all_cons, ih hrest, passes_of_resolve hstrategy,
      Strategy.passes_build (Strategy.resolve_isTyped hstrategy) hcondition he]

/-- An event of the scope passes compiled filters if and only if it passes all of them. -/
theorem passes_compile (htime : TimeRange.IsWindow time) {f : Fragment}
    (hf : compile Strategy.standard filters (.int site) time = .ok f) {db : Database} {e : Event}
    (he : e ∈ db.scopeEvents site time) :
    Clickstream.passes db e.cell f.condition = filters.all (passes db site time e) := by
  rw [compile_eq rfl] at hf
  obtain ⟨built, hbuilt, hf⟩ := Outcome.bind_eq_ok.mp hf
  obtain ⟨f', r, hf', -, hcondition⟩ := renders_conditions htime hbuilt
  rw [hf] at hf'
  cases hf'
  rw [hcondition, passes_conjoin, passes_conditionsFrom he hbuilt]

/-- Accepted filters compile, and an event of the scope passes the result if it passes them all. -/
theorem exists_compile (htime : TimeRange.IsWindow time)
    (h : ∀ filter ∈ filters, filter.IsAccepted) (site : Int) :
    ∃ f, compile Strategy.standard filters (.int site) time = .ok f ∧
      ∀ db : Database, ∀ e ∈ db.scopeEvents site time,
        Clickstream.passes db e.cell f.condition = filters.all (passes db site time e) := by
  obtain ⟨f, hf⟩ := (exists_compile_iff htime).mpr h
  exact ⟨f, hf, fun db e he => passes_compile htime hf he⟩

theorem exists_compile_singleton (htime : TimeRange.IsWindow time) {filter : Filter}
    (h : filter.IsAccepted) (site : Int) :
    ∃ f, compile Strategy.standard [filter] (.int site) time = .ok f ∧
      ∀ db : Database, ∀ e ∈ db.scopeEvents site time,
        Clickstream.passes db e.cell f.condition = filter.passes db site time e := by
  obtain ⟨f, hf, hpasses⟩ := exists_compile htime (List.forall_mem_singleton.mpr h) site
  exact ⟨f, hf, fun db e he => (hpasses db e he).trans (Bool.and_true _)⟩

end Filter

end Clickstream
