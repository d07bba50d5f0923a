import Clickstream.Proofs.Filter.WholeSessions

/-!
# Filters and the order of events

An event passes a filter, or not, whatever the order of the events is (`passes_of_rearranges`).  The
sessions of a scope hold the same events in another order, so it does not matter to a filter on
event names.  It matters to a filter on the first or the last page only if two events of a session
have the same time (`sessionPath?_congr`): the first one of these counts.
-/

namespace Clickstream

/-- No two events of a session have the same time. -/
def Event.TimesDiffer (events : List Event) : Prop :=
  events.Pairwise fun d e => d.session = e.session → d.timestamp ≠ e.timestamp

theorem Event.TimesDiffer.of_perm {events events' : List Event} (h : Event.TimesDiffer events)
    (hperm : events.Perm events') : Event.TimesDiffer events' :=
  hperm.pairwise h fun hne hsession => (hne hsession.symm).symm

theorem Event.IsLeading.of_perm {later : Bool} {events events' : List Event} {e : Event}
    (h : e.IsLeading later events) (hperm : events.Perm events') : e.IsLeading later events' where
  mem := hperm.mem_iff.mp h.mem
  hasPath other ho := h.hasPath other (hperm.mem_iff.mpr ho)
  leads other ho := h.leads other (hperm.mem_iff.mpr ho)

/-- Whether a row is in a window depends on the clock only. -/
theorem TimeRange.IsWindow.passes_congr {window : Option Expr} (h : TimeRange.IsWindow window)
    {db db' : Database} (hclock : db.clock = db'.clock) (row : Row) :
    passes db row window = passes db' row window := by
  have hbetween : ∀ lower start upper stop, (TimeRange.between lower start upper stop).Respects
      fun db db' => db.clock = db'.clock := by
    intro lower start upper stop
    refine Respects.all fun e he => ?_
    rcases List.mem_pair.mp he with rfl | rfl
    · exact Respects.compare (fun _ _ h => h) _ _ _
    · exact Respects.compare (fun _ _ h => h) _ _ _
  cases h with
  | unrestricted => rfl
  | untilNow lower upper t => exact congrArg (· == _) (hbetween _ _ _ _ db db' hclock row)
  | bounded lower upper t u => exact congrArg (· == _) (hbetween _ _ _ _ db db' hclock row)

namespace Database

/-- Two databases hold the same events, each in its own order, at one instant of the clock. -/
structure Rearranges (db db' : Database) : Prop where
  clock : db.clock = db'.clock
  events : db.events.Perm db'.events

namespace Rearranges

variable {db db' : Database} {window : Option Expr}

theorem inScope (h : db.Rearranges db') (hwindow : TimeRange.IsWindow window) (site : Int)
    (e : Event) : db.inScope site window e = db'.inScope site window e :=
  congrArg _ (hwindow.passes_congr h.clock e.cell)

theorem scopeEvents (h : db.Rearranges db') (hwindow : TimeRange.IsWindow window) (site : Int) :
    (db.scopeEvents site window).Perm (db'.scopeEvents site window) := by
  have hfilter : db'.scopeEvents site window = db'.events.filter (db.inScope site window) :=
    List.filter_congr fun e _ => (h.inScope hwindow site e).symm
  rw [hfilter]
  exact h.events.filter _

theorem sessionEvents (h : db.Rearranges db') (hwindow : TimeRange.IsWindow window) (site : Int)
    (session : String) :
    (db.sessionEvents site window session).Perm (db'.sessionEvents site window session) :=
  (h.scopeEvents hwindow site).filter _

/-- The first and the last pathname of a session do not depend on the order of its events if no two
of them have the same time. -/
theorem sessionPath?_congr (h : db.Rearranges db') (hwindow : TimeRange.IsWindow window)
    (htimes : Event.TimesDiffer db.events) {function : String} {later : Bool}
    (hfunction : ∀ rows, aggregate function rows = extremePathname later rows) (site : Int)
    (session : String) :
    db.sessionPath? site window function session =
      db'.sessionPath? site window function session := by
  have hsession := h.sessionEvents hwindow site session
  by_cases hempty : db.sessionEvents site window session = []
  · rw [hempty] at hsession
    rw [sessionPath?, sessionPath?, hempty, ← hsession.nil_eq]
  · obtain ⟨e, he, -⟩ := Event.exists_isLeading later hempty
    rw [sessionPath?_eq hfunction htimes he,
      sessionPath?_eq hfunction (htimes.of_perm h.events) (he.of_perm hsession)]

end Rearranges

end Database

/-- The standard strategies compute pathnames for filters on pages of a session only. -/
theorem Strategy.mem_pageParameters {parameter function label : String}
    (h : resolve standard parameter = .ok (.sessionPath function label)) :
    ∃ later, (parameter, later) ∈ Filter.pageParameters ∧
      ∀ rows, aggregate function rows = extremePathname later rows := by
  rcases resolve_cases h with hget | ⟨-, name, hurl⟩
  · have hmem := Bindings.mem_of_get? hget
    simp only [standard, List.mem_cons, Prod.mk.injEq, reduceCtorEq, and_false, false_or,
      Strategy.sessionPath.injEq, List.not_mem_nil, or_false] at hmem
    rcases hmem with ⟨rfl, rfl, -⟩ | ⟨rfl, rfl, -⟩
    · exact ⟨false, by decide, fun _ => rfl⟩
    · exact ⟨true, by decide, fun _ => rfl⟩
  · cases hurl

namespace Filter

variable {db db' : Database} {window : Option Expr}

/-- A filter asks the first or the last page of a session. -/
def asksPage (filter : Filter) : Bool :=
  filter.parameter == "entry_page" || filter.parameter == "exit_page"

theorem asksPage_of_mem {filter : Filter} {later : Bool}
    (h : (filter.parameter, later) ∈ pageParameters) : filter.asksPage = true := by
  simp only [pageParameters, List.mem_cons, List.not_mem_nil, or_false, Prod.mk.injEq] at h
  rcases h with ⟨h, -⟩ | ⟨h, -⟩ <;> simp [asksPage, h]

/-- The order of the events does not matter to a filter, unless it asks for a page of a session of
which two events have the same time. -/
theorem passes_of_rearranges {filter : Filter} (h : db.Rearranges db')
    (hwindow : TimeRange.IsWindow window)
    (htimes : filter.asksPage = true → Event.TimesDiffer db.events) (site : Int) (e : Event) :
    filter.passes db site window e = filter.passes db' site window e := by
  cases hstrategy : Strategy.resolve Strategy.standard filter.parameter with
  | error failure => rw [passes, passes, hstrategy]; rfl
  | ok strategy =>
    rw [passes_of_resolve hstrategy, passes_of_resolve hstrategy]
    refine congrArg (filter.kind.combine · filter.values) (funext fun value => ?_)
    cases strategy with
    | sessionEvent c =>
      rw [Strategy.passesValue, Strategy.passesValue,
        (h.sessionEvents hwindow site e.session).any_eq]
    | sessionPath function label =>
      obtain ⟨later, hpage, hfunction⟩ := Strategy.mem_pageParameters hstrategy
      rw [Strategy.passesValue, Strategy.passesValue,
        h.sessionPath?_congr hwindow (htimes (asksPage_of_mem hpage)) hfunction]
    | _ => rfl

end Filter

end Clickstream
