import Mathlib.Data.List.Pairwise
import Clickstream.Proofs.Filter.Selection
import Clickstream.Proofs.Service.Isolation

/-!
# Filters on sessions

Filters on the events or on the pages of a session keep or drop all of its events in the scope, and
they look at those only (`sessions_whole`).  A filter on event names asks whether one of the events
has such a name.  A filter on the first or the last page is the filter on pathnames, asked of the
event that has the first or the last pathname; it is unique if no two events of the session have the
same time.
-/

namespace Clickstream

namespace Database

variable {db : Database} {site : Int} {time : Option Expr} {session : String}

/-- An event of a session within a scope has a name that matches one of some values. -/
def HasNamed (db : Database) (site : Int) (time : Option Expr) (session : String)
    (kind : FilterKind) (values : List String) : Prop :=
  ∃ e ∈ db.sessionEvents site time session, ∃ name, e.attributes .eventName = some name ∧
    ∃ value ∈ values, kind.matchesText value name = true

theorem hasNamed_iff {kind : FilterKind} {values : List String} :
    (values.any fun value => (db.sessionEvents site time session).any fun e =>
      kind.positive.passesText value (e.text? (.attribute .eventName))) = true ↔
      db.HasNamed site time session kind values := by
  have hname : ∀ e : Event, e.text? (.attribute .eventName) = e.attributes .eventName := fun e =>
    Cell.toText?_ofText? _
  simp only [HasNamed, List.any_eq_true, FilterKind.passesText_positive, hname, Option.any_eq_true]
  constructor
  · rintro ⟨value, hvalue, e, he, name, hname, hmatch⟩
    exact ⟨e, he, name, hname, value, hvalue, hmatch⟩
  · rintro ⟨e, he, name, hname, value, hvalue, hmatch⟩
    exact ⟨value, hvalue, e, he, name, hname, hmatch⟩

/-- The pathname that is computed for a session is that of its leading events. -/
theorem sessionPath?_eq {function : String} {later : Bool}
    (hfunction : ∀ rows, aggregate function rows = extremePathname later rows)
    (htimes : db.events.Pairwise fun d e => d.session = e.session → d.timestamp ≠ e.timestamp)
    {e : Event} (he : e.IsLeading later (db.sessionEvents site time session)) :
    db.sessionPath? site time function session = e.attributes .pathname := by
  obtain ⟨first, hfirst, hpath⟩ := Event.exists_isLeading later (List.ne_nil_of_mem he.mem)
  rw [sessionPath?, hfunction, hpath, Cell.toText?_ofText?]
  refine hfirst.path_eq he fun d hd e he hne => ?_
  obtain ⟨hdscope, hdsession⟩ := mem_sessionEvents.mp hd
  obtain ⟨hescope, hesession⟩ := mem_sessionEvents.mp he
  have : Std.Symm fun d e : Event => d.session = e.session → d.timestamp ≠ e.timestamp :=
    ⟨fun d e h hsession => (h hsession.symm).symm⟩
  exact htimes.forall (List.mem_of_mem_filter hdscope) (List.mem_of_mem_filter hescope) hne
    (hdsession.trans hesession.symm)

end Database

/-! ## Strategies -/

namespace Strategy

/-- The strategy judges the session of an event. -/
def judgesSession : Strategy → Bool
  | .sessionEvent _ | .sessionPath _ _ => true
  | _ => false

/-- A strategy that judges sessions makes no difference between the events of one. -/
theorem passesValue_of_session {strategy : Strategy} (h : strategy.judgesSession = true)
    (db : Database) (site : Int) (time : Option Expr) (parameter : String) (kind : FilterKind)
    {e e' : Event} (hsession : e.session = e'.session) (value : String) :
    strategy.passesValue db site time parameter kind e value =
      strategy.passesValue db site time parameter kind e' value := by
  cases strategy with
  | sessionEvent c => rw [passesValue, passesValue, hsession]
  | sessionPath function label => rw [passesValue, passesValue, hsession]
  | _ => cases h

end Strategy

namespace Filter

/-- The parameters of the filters on sessions. -/
def sessionParameters : List String :=
  ["event_name", "entry_page", "exit_page"]

/-- The parameters of the filters on pages of a session; the page is the first or the last one. -/
def pageParameters : List (String × Bool) :=
  [("entry_page", false), ("exit_page", true)]

variable {db : Database} {site : Int} {time : Option Expr}

theorem exists_judgesSession {parameter : String} (h : parameter ∈ sessionParameters) :
    ∃ strategy, Strategy.resolve Strategy.standard parameter = .ok strategy ∧
      strategy.judgesSession = true := by
  simp only [sessionParameters, List.mem_cons, List.not_mem_nil, or_false] at h
  rcases h with rfl | rfl | rfl
  · exact ⟨_, rfl, rfl⟩
  · exact ⟨_, rfl, rfl⟩
  · exact ⟨_, rfl, rfl⟩

theorem exists_sessionPath {parameter : String} {later : Bool}
    (h : (parameter, later) ∈ pageParameters) :
    ∃ function label, Strategy.resolve Strategy.standard parameter =
        .ok (.sessionPath function label) ∧
      ∀ rows, aggregate function rows = extremePathname later rows := by
  simp only [pageParameters, List.mem_cons, List.not_mem_nil, or_false, Prod.mk.injEq] at h
  rcases h with ⟨rfl, rfl⟩ | ⟨rfl, rfl⟩
  · exact ⟨"arg_min", _, rfl, fun _ => rfl⟩
  · exact ⟨"arg_max", _, rfl, fun _ => rfl⟩

theorem isAccepted_of_session {filter : Filter} (h : filter.parameter ∈ sessionParameters) :
    filter.IsAccepted := by
  obtain ⟨strategy, hstrategy, hsession⟩ := exists_judgesSession h
  refine ⟨strategy, hstrategy, ?_⟩
  cases strategy with
  | tolerance c t => cases hsession
  | _ => trivial

/-- A filter on sessions makes no difference between the events of one. -/
theorem passes_of_session {filter : Filter} (h : filter.parameter ∈ sessionParameters)
    {e e' : Event} (hsession : e.session = e'.session) :
    filter.passes db site time e = filter.passes db site time e' := by
  obtain ⟨strategy, hstrategy, hjudges⟩ := exists_judgesSession h
  rw [passes_of_resolve hstrategy, passes_of_resolve hstrategy]
  refine congrArg (filter.kind.combine · filter.values) (funext fun value => ?_)
  exact Strategy.passesValue_of_session hjudges db site time _ _ hsession value

/-- A filter on event names asks for an event of the session. -/
theorem passes_eventName (kind : FilterKind) (values : List String) (e : Event) :
    passes db site time e ⟨"event_name", kind, values⟩ = true ↔
      if kind.isNegated then ¬ db.HasNamed site time e.session kind values
      else db.HasNamed site time e.session kind values := by
  have hpasses : passes db site time e ⟨"event_name", kind, values⟩ =
      ((values.any fun value => (db.sessionEvents site time e.session).any fun other =>
        kind.positive.passesText value (other.text? (.attribute .eventName))) !=
          kind.isNegated) := FilterKind.combine_bne kind values _
  rw [hpasses, ← Database.hasNamed_iff]
  cases kind.isNegated with
  | true => rw [if_pos rfl, Bool.bne_true, Bool.not_eq_true', Bool.not_eq_true]
  | false => rw [if_neg Bool.false_ne_true, Bool.bne_false]

/-- A filter on pages of a session asks a leading event for its pathname. -/
theorem passes_page {parameter : String} {later : Bool} (h : (parameter, later) ∈ pageParameters)
    (htimes : db.events.Pairwise fun d e => d.session = e.session → d.timestamp ≠ e.timestamp)
    (kind : FilterKind) (values : List String) {e first : Event}
    (hfirst : first.IsLeading later (db.sessionEvents site time e.session)) :
    passes db site time e ⟨parameter, kind, values⟩ =
      passes db site time first ⟨"pathname", kind, values⟩ := by
  obtain ⟨function, label, hstrategy, hfunction⟩ := exists_sessionPath h
  have hpath : first.text? (.attribute .pathname) =
      db.sessionPath? site time function e.session := by
    rw [Database.sessionPath?_eq hfunction htimes hfirst]
    exact Cell.toText?_ofText? _
  rw [passes_of_resolve hstrategy]
  show _ = kind.combine (fun value => kind.passesText value (first.text? (.attribute .pathname)))
    values
  rw [hpath]
  rfl

/-- Filters on sessions keep whole sessions and judge them by their events in the scope.  A filter
on event names keeps a session if one of its events has such a name, an exclusion if none has.  A
filter on the first or last page compares the pathname of the first or last event that has one as a
filter on pathnames does.  Whatever the filters on sessions are, the events of a session are kept
together. -/
theorem sessions_whole [ZoneDatabase] {range : TimeRangeSpec} {now : Moment} {time : Fragment}
    (htime : range.compile now = .ok time) (site : Int) :
    (∀ kind values, ∃ f,
      compile Strategy.standard [⟨"event_name", kind, values⟩] (.int site) time.condition = .ok f ∧
      ∀ db : Database, ∀ e ∈ db.scopeEvents site time.condition,
        (Clickstream.passes db e.cell f.condition = true ↔
          if kind.isNegated then ¬ db.HasNamed site time.condition e.session kind values
          else db.HasNamed site time.condition e.session kind values)) ∧
    (∀ parameter later, (parameter, later) ∈ pageParameters → ∀ kind values, ∃ f plain,
      compile Strategy.standard [⟨parameter, kind, values⟩] (.int site) time.condition = .ok f ∧
      compile Strategy.standard [⟨"pathname", kind, values⟩] (.int site) time.condition =
        .ok plain ∧
      ∀ db : Database,
        db.events.Pairwise (fun d e => d.session = e.session → d.timestamp ≠ e.timestamp) →
        ∀ e ∈ db.scopeEvents site time.condition,
          (∃ first : Event,
            first.IsLeading later (db.sessionEvents site time.condition e.session)) ∧
          ∀ first : Event,
            first.IsLeading later (db.sessionEvents site time.condition e.session) →
            Clickstream.passes db e.cell f.condition =
              Clickstream.passes db first.cell plain.condition) ∧
    ∀ filters : List Filter, (∀ filter ∈ filters, filter.parameter ∈ sessionParameters) →
      ∃ f, compile Strategy.standard filters (.int site) time.condition = .ok f ∧
        ∀ db : Database, ∀ e ∈ db.scopeEvents site time.condition,
          ∀ e' ∈ db.scopeEvents site time.condition, e.session = e'.session →
            Clickstream.passes db e.cell f.condition =
              Clickstream.passes db e'.cell f.condition := by
  obtain ⟨hwindow, -⟩ := TimeRange.renders_window htime
  refine ⟨?_, ?_, ?_⟩
  · intro kind values
    have haccepted : IsAccepted ⟨"event_name", kind, values⟩ := ⟨_, rfl, trivial⟩
    obtain ⟨f, hf, hpasses⟩ := exists_compile_singleton hwindow haccepted site
    refine ⟨f, hf, fun db e he => ?_⟩
    rw [hpasses db e he, passes_eventName]
  · intro parameter later h kind values
    obtain ⟨function, label, hstrategy, -⟩ := exists_sessionPath h
    have haccepted : IsAccepted ⟨parameter, kind, values⟩ := ⟨_, hstrategy, trivial⟩
    have hplain : IsAccepted ⟨"pathname", kind, values⟩ := ⟨_, rfl, trivial⟩
    obtain ⟨f, hf, hpasses⟩ := exists_compile_singleton hwindow haccepted site
    obtain ⟨plain, hplain, hpasses'⟩ := exists_compile_singleton hwindow hplain site
    refine ⟨f, plain, hf, hplain, fun db htimes e he => ⟨?_, fun first hfirst => ?_⟩⟩
    · have hsession : e ∈ db.sessionEvents site time.condition e.session :=
        Database.mem_sessionEvents.mpr ⟨he, rfl⟩
      obtain ⟨first, hfirst, -⟩ := Event.exists_isLeading later (List.ne_nil_of_mem hsession)
      exact ⟨first, hfirst⟩
    · have hscope := (Database.mem_sessionEvents.mp hfirst.mem).1
      rw [hpasses db e he, hpasses' db first hscope, passes_page h htimes kind values hfirst]
  · intro filters h
    obtain ⟨f, hf, hpasses⟩ :=
      exists_compile hwindow (fun filter hfilter => isAccepted_of_session (h filter hfilter)) site
    refine ⟨f, hf, fun db e he e' he' hsession => ?_⟩
    rw [hpasses db e he, hpasses db e' he']
    exact all_congr_of_mem fun filter hfilter => passes_of_session (h filter hfilter) hsession

/-! ## A session -/

def halfPast : Timestamp := ⟨63870593400000000, by decide⟩

/-- A view of a page in one session. -/
def pageView (path : String) (t : Timestamp) : Event :=
  { Request.visit 1 t with attributes := fun a => if a = .pathname then some path else none }

/-- A session that has begun before the hour, which is open at its start. -/
def journey : Database :=
  ⟨[pageView "/a" Request.hourStart, pageView "/b" halfPast, pageView "/c" Request.hourEnd],
    Request.hourEnd⟩

/-- Within the hour, the session is entered by its second page. -/
theorem sessions_whole_entered :
    ∃ time f plain, Request.withoutSignup.range.compile Request.withoutSignup.now = .ok time ∧
      compile Strategy.standard [⟨"entry_page", .equals, ["/b"]⟩] (.int 1) time.condition = .ok f ∧
      compile Strategy.standard [⟨"pathname", .equals, ["/b"]⟩] (.int 1) time.condition =
        .ok plain ∧
      Clickstream.passes journey (pageView "/c" Request.hourEnd).cell f.condition =
        Clickstream.passes journey (pageView "/b" halfPast).cell plain.condition := by
  obtain ⟨time, -, htime, hcondition, -⟩ := Request.withoutSignup_compile
  obtain ⟨-, hpages, -⟩ := sessions_whole htime 1
  obtain ⟨f, plain, hf, hplain, hpasses⟩ :=
    hpages "entry_page" false (by decide) .equals ["/b"]
  have hscope : journey.scopeEvents 1 time.condition =
      [pageView "/b" halfPast, pageView "/c" Request.hourEnd] := by
    rw [hcondition]
    rfl
  have htimes : journey.events.Pairwise fun d e =>
      d.session = e.session → d.timestamp ≠ e.timestamp := by
    have hdistinct : (journey.events.map (·.timestamp)).Pairwise (· ≠ ·) := by decide
    refine (List.pairwise_map.mp hdistinct).imp ?_
    exact fun hne _ => hne
  have hlast : pageView "/c" Request.hourEnd ∈ journey.scopeEvents 1 time.condition := by
    rw [hscope]
    exact List.mem_cons_of_mem _ List.mem_cons_self
  have hfirst : (pageView "/b" halfPast).IsLeading false
      (journey.sessionEvents 1 time.condition "session") := by
    rw [Database.sessionEvents, hscope]
    refine ⟨List.mem_cons_self, fun _ _ _ => rfl, ?_⟩
    intro other hother _
    rcases List.mem_pair.mp hother with rfl | rfl
    · exact Event.Leads.refl false _
    · show halfPast.ticks ≤ Request.hourEnd.ticks
      decide
  exact ⟨time, f, plain, htime, hf, hplain, (hpasses journey htimes _ hlast).2 _ hfirst⟩

end Filter

end Clickstream
