import Clickstream.Calendar.ZoneTable
import Clickstream.Proofs.Filter.Confinement
import Clickstream.Proofs.Service.Clause
import Clickstream.Service.Stores

/-!
# Isolation of sites

The answer to a request depends on the events of its site within its time range only.  Two tables of
events that hold the same events of this scope, in the same order, may differ in all others: a
clause selects the same events of both (`selected_eq`), and every question has the same answer
(`answers_isolated`).
-/

namespace Clickstream

theorem all_reduceOption (db : Database) (row : Row) (items : List (Option Expr)) :
    (items.reduceOption.all fun e => e.truth db row == some true) = items.all (passes db row) := by
  induction items with
  | nil => rfl
  | cons item items ih =>
    cases item with
    | none => exact ih
    | some e =>
      rw [List.reduceOption_cons_of_some, List.all_cons, ih]
      rfl

theorem selects_eq_all (db : Database) (conditions : List Expr) (e : Event) :
    db.selects conditions e = conditions.all fun c => c.truth db e.cell == some true := by
  rw [Database.selects, Truth.all_beq_true, truthOfAll_eq_map, List.all_map]
  rfl

theorem IsFurther.respects {R : Database → Database → Prop}
    (hR : ∀ db db', R db db' → db.clock = db'.clock) {e : Expr} (h : IsFurther e) :
    e.Respects R := by
  rcases h.cases_on with ⟨id, c, comparison, value, -, rfl⟩ | ⟨id, regex, rfl⟩
  · exact Respects.compare hR _ _ _
  · exact Respects.call hR _ _

namespace Request.Assembles

variable {request : Request} {further : List Expr} {site : Int} {window : Option Expr}
  {built : List Expr} {q t f : Fragment} {rq rt rf : Renderer} {clause : Clause}

/-- A clause selects the events of its scope that pass the other conditions. -/
theorem selects_eq [ZoneDatabase]
    (h : request.Assembles further site window built q t f rq rt rf clause)
    (db : Database) (e : Event) :
    db.selects clause.conditions e = (db.inScope site window e &&
      ((further ++ built).map some).all (passes db e.cell)) := by
  rw [selects_eq_all, h.conditions, List.all_cons, all_reduceOption]
  simp only [List.all_cons, List.all_nil, passes_conjoin, List.map_append, List.all_append,
    Database.inScope, Bool.and_true]
  have hsite : ((siteCondition (.given 0) site).truth db e.cell == some true) = (e.site == site) :=
    passes_siteCondition db (.given 0) site e
  rw [hsite, Bool.and_assoc]
  exact congrArg ((e.site == site) && ·) (Bool.and_left_comm ..)

/-- The selected events of two databases with the same events in the scope are the same. -/
theorem selected_eq [ZoneDatabase]
    (h : request.Assembles further site window built q t f rq rt rf clause)
    (hfurther : ∀ e ∈ further, IsFurther e) {db db' : Database}
    (hscope : Database.SameScope site window db db') :
    db.events.filter (db.selects clause.conditions) =
      db'.events.filter (db'.selects clause.conditions) := by
  have hrespects : ∀ e ∈ further ++ built, e.Respects (Database.SameScope site window) := by
    intro e he
    rcases List.mem_append.mp he with he | he
    · exact (hfurther e he).respects Strategy.clock_of_sameScope
    · exact Filter.conditionsFrom_respects h.isBuilt e he
  -- The selection can be made in the scope first, where the two tables are the same.
  have hselected : ∀ db : Database, db.events.filter (db.selects clause.conditions) =
      (db.scopeEvents site window).filter fun e =>
        ((further ++ built).map some).all (passes db e.cell) := by
    intro db
    rw [Database.scopeEvents, List.filter_filter]
    refine List.filter_congr fun e _ => ?_
    rw [h.selects_eq, Bool.and_comm]
  rw [hselected, hselected, hscope.events]
  exact List.filter_congr fun e _ => Respects.passes_all hrespects hscope e.cell

/-- The selected events are events of the scope. -/
theorem inScope_of_selected [ZoneDatabase]
    (h : request.Assembles further site window built q t f rq rt rf clause) (db : Database)
    {e : Event} (he : e ∈ db.events.filter (db.selects clause.conditions)) :
    e.site = site ∧ passes db e.cell window = true := by
  have hselected := (List.mem_filter.mp he).2
  rw [h.selects_eq, Bool.and_eq_true, Database.inScope, Bool.and_eq_true, beq_iff_eq] at hselected
  exact hselected.1

end Request.Assembles

/-! ## Answers -/

namespace Service

variable {service service' : Service Id}

/-- A question has the same answer if the store has, and if there is no question, the failure is the
same. -/
theorem execute_congr {report : Report} {clause : Outcome Clause}
    (h : ∀ c, clause = .ok c → service.query report c = service'.query report c) :
    service.execute report clause = service'.execute report clause := by
  cases clause with
  | error e => rfl
  | ok c =>
    show normalized (service.query report c) = normalized (service'.query report c)
    rw [h c rfl]

theorem pageviewCounts_congr [ZoneDatabase] {request : Request} {path : String} {depth : Value}
    (h : ∀ c, pageviewClause request path depth = .ok c →
      service.query .pageviews c = service'.query .pageviews c) :
    service.pageviewCounts request path depth = service'.pageviewCounts request path depth := by
  rw [pageviewCounts, pageviewCounts, execute_congr h]

theorem overview_congr [ZoneDatabase] {request : Request}
    (h : ∀ c, request.clause [] = .ok c → service.query .overview c = service'.query .overview c) :
    service.overview request = service'.overview request := by
  rw [overview, overview, execute_congr h]

theorem identifiedUsers_congr [ZoneDatabase] {request : Request} {limit : Value}
    (hprofiles : service.profiles = service'.profiles)
    (h : ∀ n c, identifiedClause request = .ok c →
      service.query (.identifiedUsers n) c = service'.query (.identifiedUsers n) c) :
    service.identifiedUsers request limit = service'.identifiedUsers request limit := by
  unfold identifiedUsers
  cases readLimit limit with
  | error e => rfl
  | ok n =>
    have hrows := execute_congr (h n)
    have henrich : ∀ rows,
        service.enrich request.site rows = service'.enrich request.site rows := by
      intro rows
      rw [enrich, enrich, hprofiles]
    simp only [hrows, henrich]

/-- Two services give the same answers if their stores give the same rows for every clause of the
request with further conditions. -/
theorem answers_congr [ZoneDatabase] {request : Request}
    (hprofiles : service.profiles = service'.profiles)
    (h : ∀ report : Report, ∀ further : List Expr, (∀ e ∈ further, IsFurther e) → ∀ c,
      request.clause (further.map some) = .ok c →
        service.query report c = service'.query report c) :
    (∀ path depth, service.pageviewCounts request path depth =
      service'.pageviewCounts request path depth) ∧
    service.overview request = service'.overview request ∧
    ∀ limit, service.identifiedUsers request limit = service'.identifiedUsers request limit := by
  refine ⟨?_, ?_, ?_⟩
  · intro path depth
    refine pageviewCounts_congr fun c hc => ?_
    unfold pageviewClause at hc
    split at hc
    · cases hc
    · obtain ⟨group, hgroup, hc⟩ := Outcome.bind_eq_ok.mp hc
      exact h _ [pageviewCondition (.given 1), group] (isFurther_group hgroup) c hc
  · exact overview_congr (h .overview [] nofun)
  · intro limit
    refine identifiedUsers_congr hprofiles fun n => h _ [identifiedCondition (.given 1)] ?_
    intro e he
    rw [List.mem_singleton.mp he]
    exact .compare _ _ rfl _ _

end Service

/-- A store of events answers from the selected events. -/
theorem EventStore.answer_congr {events events' : List Event} {clock : Timestamp} {c : Clause}
    (report : Report)
    (h : events.filter (Database.selects ⟨events, clock⟩ c.conditions) =
      events'.filter (Database.selects ⟨events', clock⟩ c.conditions)) :
    EventStore.answer (some events) clock report c =
      EventStore.answer (some events') clock report c :=
  congrArg (fun selected => Except.ok (report.rows selected)) h

namespace Request

variable {request : Request} {site : Int} {time f : Fragment}

/-- Sites are isolated.  If two tables hold the same events of the site within the time range, in
the same order, the clause of a request selects the same events of both, which are events of the
site within the time range, and the answers to the request are the same.  The clock is one
instant. -/
theorem answers_isolated [ZoneDatabase] (hsite : request.site.toInteger = .ok site)
    (htime : request.range.compile request.now = .ok time)
    (hfilters : Filter.compile Strategy.standard request.filters request.site time.condition =
      .ok f)
    {clock : Timestamp} {events events' : List Event}
    (hscope : Database.scopeEvents ⟨events, clock⟩ site time.condition =
      Database.scopeEvents ⟨events', clock⟩ site time.condition) :
    (∀ further : List Expr, (∀ e ∈ further, IsFurther e) →
      ∃ clause, request.clause (further.map some) = .ok clause ∧
        events.filter (Database.selects ⟨events, clock⟩ clause.conditions) =
          events'.filter (Database.selects ⟨events', clock⟩ clause.conditions) ∧
        ∀ e ∈ events.filter (Database.selects ⟨events, clock⟩ clause.conditions),
          e.site = site ∧ passes ⟨events, clock⟩ e.cell time.condition = true) ∧
    ∀ profiles : ProfileStore,
      let service := (Stores.mk (some events) profiles clock).service
      let service' := (Stores.mk (some events') profiles clock).service
      (∀ path depth, service.pageviewCounts request path depth =
        service'.pageviewCounts request path depth) ∧
      service.overview request = service'.overview request ∧
      ∀ limit, service.identifiedUsers request limit = service'.identifiedUsers request limit := by
  obtain ⟨built, hbuilt⟩ := exists_built hsite hfilters
  have hsame : Database.SameScope site time.condition ⟨events, clock⟩ ⟨events', clock⟩ :=
    ⟨rfl, hscope⟩
  have hclause : ∀ further : List Expr, (∀ e ∈ further, IsFurther e) →
      ∃ clause, request.clause (further.map some) = .ok clause ∧
        events.filter (Database.selects ⟨events, clock⟩ clause.conditions) =
          events'.filter (Database.selects ⟨events', clock⟩ clause.conditions) ∧
        ∀ e ∈ events.filter (Database.selects ⟨events, clock⟩ clause.conditions),
          e.site = site ∧ passes ⟨events, clock⟩ e.cell time.condition = true := by
    intro further hfurther
    obtain ⟨q, f, rq, rt, rf, clause, h⟩ := assembles hfurther hsite htime hbuilt
    exact ⟨clause, h.isClause, h.selected_eq hfurther hsame,
      fun e he => h.inScope_of_selected ⟨events, clock⟩ he⟩
  refine ⟨hclause, fun profiles => Service.answers_congr rfl ?_⟩
  intro report further hfurther c hc
  obtain ⟨clause, hok, hselected, -⟩ := hclause further hfurther
  rw [hc] at hok
  cases hok
  exact EventStore.answer_congr report hselected

/-- A page view. -/
def visit (site : Int) (t : Timestamp) : Event :=
  ⟨site, "session", "user", t, "pageview", fun _ => none, none, none, none, none, []⟩

theorem answers_isolated_withoutSignup :
    (Stores.mk (some [visit 1 hourEnd, visit 2 hourEnd]) .empty hourEnd).service.overview
        withoutSignup =
      (Stores.mk (some [visit 1 hourStart, visit 1 hourEnd]) .empty hourEnd).service.overview
        withoutSignup := by
  obtain ⟨time, f, htime, hcondition, hfilters⟩ := withoutSignup_compile
  have hscope : Database.scopeEvents ⟨[visit 1 hourEnd, visit 2 hourEnd], hourEnd⟩ 1
        time.condition =
      Database.scopeEvents ⟨[visit 1 hourStart, visit 1 hourEnd], hourEnd⟩ 1 time.condition := by
    rw [hcondition]
    rfl
  exact ((answers_isolated rfl htime hfilters hscope).2 .empty).2.1

end Request

end Clickstream
