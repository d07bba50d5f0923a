import Clickstream.Proofs.Filter.Selection
import Clickstream.Proofs.Filter.Values
import Clickstream.Proofs.Service.Isolation

/-!
# Filters and their opposites

An inclusion and the exclusion with the same values divide the events of a scope.  For values that
are compared as a whole this is so without exception, also where there is nothing to compare with
(`equals_partition`): null passes the exclusion.

For parts of texts there is one exception (`contains_partition`).  An exclusion of parts takes a
missing text for the empty one, which has every wild value as a part, so an event without the text
passes neither filter if one of the values is wild.
-/

namespace Clickstream

namespace Strategy

variable {db : Database} {site : Int} {time : Option Expr} {parameter : String}
  {strategy : Strategy} {values : List String}

/-! ## Whole values -/

/-- An event passes the exclusion of a value unless it has the value. -/
theorem passesValue_notEquals (haccepts : strategy.Accepts parameter .equals values)
    {value : String} (hvalue : value ∈ values) (e : Event) :
    strategy.passesValue db site time parameter .notEquals e value =
      !strategy.passesValue db site time parameter .equals e value := by
  cases strategy with
  | column c => rfl
  | urlParameter name => rfl
  | sessionEvent c =>
    show (_ != true) = !(_ != false)
    rw [Bool.bne_true, Bool.bne_false]
    rfl
  | sessionPath function label => rfl
  | identity columns =>
    show (columns.all fun c => !(e.text? c).any (FilterKind.equals.matchesText value)) =
      !columns.any fun c => (e.text? c).any (FilterKind.equals.matchesText value)
    rw [List.not_any_eq_all_not]
  | tolerance c t =>
    obtain ⟨bounds, hbounds⟩ := haccepts.2 value hvalue
    rw [passesValue, passesValue, hbounds]
    show (_ != true) = !(_ != false)
    rw [Bool.bne_true, Bool.bne_false]

/-! ## Parts of texts -/

/-- The strategy compares one text for each event, and the event has none. -/
def lacksText (db : Database) (site : Int) (time : Option Expr) (e : Event) : Strategy → Bool
  | .column c => (e.text? c).isNone
  | .urlParameter name => (e.text? (.urlParameter name)).isNone
  | .sessionPath function _ => (db.sessionPath? site time function e.session).isNone
  | .sessionEvent _ | .identity _ | .tolerance _ _ => false

theorem passesText_notContains (value : String) (text : Option String) :
    FilterKind.notContains.passesText value text =
      !(FilterKind.contains.passesText value text ||
        (text.isNone && FilterKind.contains.matchesText value "")) := by
  cases text with
  | none => rfl
  | some text => exact congrArg not (Bool.or_false _).symm

theorem passesText_contains_of_isNone {text : Option String} (h : text.isNone = true)
    (value : String) : FilterKind.contains.passesText value text = false := by
  rw [Option.isNone_iff_eq_none.mp h]
  rfl

/-- A part that the empty text has is a part of one of the ids, as a visitor has an id. -/
theorem any_passesText_getD {columns : List Column} (hcolumns : columns.contains .userId = true)
    (e : Event) (value : String) :
    (columns.any fun c => FilterKind.contains.matchesText value ((e.text? c).getD "")) =
      columns.any fun c => FilterKind.contains.passesText value (e.text? c) := by
  rw [Bool.eq_iff_iff, List.any_eq_true, List.any_eq_true]
  constructor
  · rintro ⟨c, hc, hmatch⟩
    cases htext : e.text? c with
    | some text =>
      rw [htext] at hmatch
      exact ⟨c, hc, by rw [htext]; exact hmatch⟩
    | none =>
      rw [htext] at hmatch
      have hwild : IsWild value := (FilterKind.matchesText_empty value).mp hmatch
      exact ⟨.userId, List.contains_iff_mem.mp hcolumns,
        FilterKind.matchesText_of_isWild hwild e.user⟩
  · rintro ⟨c, hc, hmatch⟩
    refine ⟨c, hc, ?_⟩
    cases htext : e.text? c with
    | some text =>
      rw [htext] at hmatch
      exact hmatch
    | none =>
      rw [htext] at hmatch
      cases hmatch

/-- An event passes the exclusion of a part unless it has the part, or has no text to look at and
the part is wild. -/
theorem passesValue_notContains (hs : strategy.IsTyped = true)
    (haccepts : strategy.Accepts parameter .contains values) (e : Event) (value : String) :
    strategy.passesValue db site time parameter .notContains e value =
      !(strategy.passesValue db site time parameter .contains e value ||
        (strategy.lacksText db site time e && FilterKind.contains.matchesText value "")) := by
  cases strategy with
  | column c => exact passesText_notContains value _
  | urlParameter name => exact passesText_notContains value _
  | sessionPath function label => exact passesText_notContains value _
  | sessionEvent c =>
    show (_ != true) = !((_ != false) || false)
    rw [Bool.bne_true, Bool.bne_false, Bool.or_false]
    rfl
  | identity columns =>
    rw [IsTyped, Bool.and_eq_true] at hs
    show (columns.all fun c => !FilterKind.contains.matchesText value ((e.text? c).getD "")) =
      !((columns.any fun c => FilterKind.contains.passesText value (e.text? c)) || false)
    rw [Bool.or_false, ← any_passesText_getD hs.1, List.not_any_eq_all_not]
  | tolerance c t => cases haccepts.1

/-- An event without a text passes no inclusion. -/
theorem passesValue_contains_of_lacksText {e : Event}
    (h : strategy.lacksText db site time e = true) (value : String) :
    strategy.passesValue db site time parameter .contains e value = false := by
  cases strategy with
  | column c => exact passesText_contains_of_isNone h value
  | urlParameter name => exact passesText_contains_of_isNone h value
  | sessionPath function label => exact passesText_contains_of_isNone h value
  | sessionEvent c => cases h
  | identity columns => cases h
  | tolerance c t => cases h

theorem accepts_of_text (h : resolve standard parameter = .ok strategy)
    (hparameter : parameter ∉ coordinateParameters) (kind : FilterKind) (values : List String) :
    strategy.Accepts parameter kind values := by
  have hbinds := bindsValues_eq h
  rw [List.contains_eq_mem, decide_eq_false hparameter] at hbinds
  cases strategy with
  | tolerance c t => cases hbinds
  | _ => trivial

end Strategy

/-! ## Filters -/

namespace Filter

section

variable {parameter : String} {strategy : Strategy} {values : List String}

/-- An event passes an exclusion of whole values if it does not pass the inclusion. -/
theorem passes_notEquals (hstrategy : Strategy.resolve Strategy.standard parameter = .ok strategy)
    (haccepts : strategy.Accepts parameter .equals values) (db : Database) (site : Int)
    (time : Option Expr) (e : Event) :
    passes db site time e ⟨parameter, .notEquals, values⟩ =
      !passes db site time e ⟨parameter, .equals, values⟩ := by
  rw [passes_of_resolve hstrategy, passes_of_resolve hstrategy]
  show (values.all fun value => strategy.passesValue db site time parameter .notEquals e value) =
    !values.any fun value => strategy.passesValue db site time parameter .equals e value
  rw [List.not_any_eq_all_not]
  exact all_congr_of_mem fun value hvalue => Strategy.passesValue_notEquals haccepts hvalue e

/-- An event without a text to look at passes no inclusion of parts. -/
theorem passes_contains_of_lacksText
    (hstrategy : Strategy.resolve Strategy.standard parameter = .ok strategy) {db : Database}
    {site : Int} {time : Option Expr} {e : Event}
    (h : strategy.lacksText db site time e = true) :
    passes db site time e ⟨parameter, .contains, values⟩ = false := by
  rw [passes_of_resolve hstrategy]
  refine List.any_eq_false.mpr fun value _ => ?_
  rw [Strategy.passesValue_contains_of_lacksText h]
  exact Bool.false_ne_true

/-- An event passes an exclusion of parts if it does not pass the inclusion, unless it has no text
to look at and one of the parts is wild. -/
theorem passes_notContains (hstrategy : Strategy.resolve Strategy.standard parameter = .ok strategy)
    (haccepts : strategy.Accepts parameter .contains values) (db : Database) (site : Int)
    (time : Option Expr) (e : Event) :
    passes db site time e ⟨parameter, .notContains, values⟩ =
      !(passes db site time e ⟨parameter, .contains, values⟩ ||
        (strategy.lacksText db site time e &&
          values.any fun value => FilterKind.contains.matchesText value "")) := by
  have hs := Strategy.resolve_isTyped hstrategy
  have hexcluded : passes db site time e ⟨parameter, .notContains, values⟩ = values.all fun value =>
      strategy.passesValue db site time parameter .notContains e value :=
    passes_of_resolve hstrategy ..
  have hincluded : passes db site time e ⟨parameter, .contains, values⟩ = values.any fun value =>
      strategy.passesValue db site time parameter .contains e value :=
    passes_of_resolve hstrategy ..
  rw [hexcluded]
  -- Whether there is a text to look at does not depend on the value.
  cases hlacks : strategy.lacksText db site time e with
  | false =>
    rw [Bool.false_and, Bool.or_false, hincluded, List.not_any_eq_all_not]
    refine all_congr_of_mem fun value _ => ?_
    rw [Strategy.passesValue_notContains hs haccepts, hlacks, Bool.false_and, Bool.or_false]
  | true =>
    rw [passes_contains_of_lacksText hstrategy hlacks, Bool.true_and, Bool.false_or,
      List.not_any_eq_all_not]
    refine all_congr_of_mem fun value _ => ?_
    rw [Strategy.passesValue_notContains hs haccepts, hlacks,
      Strategy.passesValue_contains_of_lacksText hlacks, Bool.true_and, Bool.false_or]

end

/-! ## Compiled filters -/

/-- A visit of a page without a title, at an unknown place. -/
def bareVisit : Event :=
  Request.visit 1 Request.hourEnd

/-- The events of a single visit. -/
def bareVisits : Database :=
  ⟨[bareVisit], Request.hourEnd⟩

/-- The single visit falls into the last hour. -/
theorem exists_window_bareVisit [ZoneDatabase] :
    ∃ time, Request.withoutSignup.range.compile Request.withoutSignup.now = .ok time ∧
      bareVisit ∈ bareVisits.scopeEvents 1 time.condition := by
  obtain ⟨time, -, htime, hcondition, -⟩ := Request.withoutSignup_compile
  refine ⟨time, htime, ?_⟩
  rw [hcondition]
  exact List.mem_singleton_self _

section

variable {range : TimeRangeSpec} {now : Moment} {time : Fragment} {parameter : String}
  {strategy : Strategy}

/-- Filters with whole values divide the events of a scope.  Whatever the parameter is, an event
passes the exclusion of some values if and only if it does not pass the inclusion, also if there is
nothing to compare the values with. -/
theorem equals_partition [ZoneDatabase] (htime : range.compile now = .ok time)
    (hstrategy : Strategy.resolve Strategy.standard parameter = .ok strategy)
    {values : List String} (haccepts : strategy.Accepts parameter .equals values) (site : Int) :
    ∃ included excluded,
      compile Strategy.standard [⟨parameter, .equals, values⟩] (.int site) time.condition =
        .ok included ∧
      compile Strategy.standard [⟨parameter, .notEquals, values⟩] (.int site) time.condition =
        .ok excluded ∧
      ∀ db : Database, ∀ e ∈ db.scopeEvents site time.condition,
        Clickstream.passes db e.cell excluded.condition =
          !Clickstream.passes db e.cell included.condition := by
  obtain ⟨hwindow, -⟩ := TimeRange.renders_window htime
  have hequals : IsAccepted ⟨parameter, .equals, values⟩ := ⟨strategy, hstrategy, haccepts⟩
  have hnotEquals : IsAccepted ⟨parameter, .notEquals, values⟩ := ⟨strategy, hstrategy, haccepts⟩
  obtain ⟨included, hincluded, hpasses⟩ := exists_compile_singleton hwindow hequals site
  obtain ⟨excluded, hexcluded, hpasses'⟩ := exists_compile_singleton hwindow hnotEquals site
  refine ⟨included, excluded, hincluded, hexcluded, fun db e he => ?_⟩
  rw [hpasses db e he, hpasses' db e he, passes_notEquals hstrategy haccepts]

/-- A visit without coordinates passes the exclusion of a latitude. -/
theorem equals_partition_unlocated :
    ∃ time included excluded,
      Request.withoutSignup.range.compile Request.withoutSignup.now = .ok time ∧
      compile Strategy.standard [⟨"lat", .equals, ["52.52"]⟩] (.int 1) time.condition =
        .ok included ∧
      compile Strategy.standard [⟨"lat", .notEquals, ["52.52"]⟩] (.int 1) time.condition =
        .ok excluded ∧
      Clickstream.passes bareVisits bareVisit.cell excluded.condition =
        !Clickstream.passes bareVisits bareVisit.cell included.condition := by
  obtain ⟨time, htime, hscope⟩ := exists_window_bareVisit
  have haccepts : (Strategy.tolerance .lat Strategy.coordinateTolerance).Accepts "lat" .equals
      ["52.52"] := ⟨rfl, List.forall_mem_singleton.mpr ⟨_, rfl⟩⟩
  obtain ⟨included, excluded, hincluded, hexcluded, hpasses⟩ :=
    equals_partition htime rfl haccepts 1
  exact ⟨time, included, excluded, htime, hincluded, hexcluded, hpasses _ _ hscope⟩

/-- Filters with parts of texts divide the events of a scope but for those that have no text to look
at: if one of the parts is wild, they pass neither the inclusion nor the exclusion. -/
theorem contains_partition [ZoneDatabase] (htime : range.compile now = .ok time)
    (hstrategy : Strategy.resolve Strategy.standard parameter = .ok strategy)
    (hparameter : parameter ∉ Strategy.coordinateParameters) (values : List String) (site : Int) :
    ∃ included excluded,
      compile Strategy.standard [⟨parameter, .contains, values⟩] (.int site) time.condition =
        .ok included ∧
      compile Strategy.standard [⟨parameter, .notContains, values⟩] (.int site) time.condition =
        .ok excluded ∧
      ∀ db : Database, ∀ e ∈ db.scopeEvents site time.condition,
        ¬ (Clickstream.passes db e.cell included.condition = true ∧
          Clickstream.passes db e.cell excluded.condition = true) ∧
        ((Clickstream.passes db e.cell included.condition = false ∧
          Clickstream.passes db e.cell excluded.condition = false) ↔
            strategy.lacksText db site time.condition e = true ∧
              ∃ value ∈ values, IsWild value) := by
  obtain ⟨hwindow, -⟩ := TimeRange.renders_window htime
  have haccepts := Strategy.accepts_of_text hstrategy hparameter
  have hcontains : IsAccepted ⟨parameter, .contains, values⟩ :=
    ⟨strategy, hstrategy, haccepts .contains values⟩
  have hnotContains : IsAccepted ⟨parameter, .notContains, values⟩ :=
    ⟨strategy, hstrategy, haccepts .notContains values⟩
  obtain ⟨included, hincluded, hpasses⟩ := exists_compile_singleton hwindow hcontains site
  obtain ⟨excluded, hexcluded, hpasses'⟩ := exists_compile_singleton hwindow hnotContains site
  refine ⟨included, excluded, hincluded, hexcluded, fun db e he => ?_⟩
  have hexception : (strategy.lacksText db site time.condition e &&
      values.any fun value => FilterKind.contains.matchesText value "") = true ↔
      strategy.lacksText db site time.condition e = true ∧ ∃ value ∈ values, IsWild value := by
    simp only [Bool.and_eq_true, List.any_eq_true, FilterKind.matchesText_empty]
  rw [hpasses db e he, hpasses' db e he, passes_notContains hstrategy (haccepts _ _), ← hexception]
  refine ⟨?_, ?_, ?_⟩
  · rintro ⟨hincluded, hexcluded⟩
    rw [hincluded] at hexcluded
    cases hexcluded
  · rintro ⟨hincluded, hexcluded⟩
    rw [hincluded, Bool.false_or, Bool.not_eq_false'] at hexcluded
    exact hexcluded
  · intro h
    rw [passes_contains_of_lacksText hstrategy (hexception.mp h).1, h]
    exact ⟨rfl, rfl⟩

/-- A visit without a title passes the inclusion or the exclusion of a part that is not wild. -/
theorem contains_partition_ordinary :
    ∃ time included excluded,
      Request.withoutSignup.range.compile Request.withoutSignup.now = .ok time ∧
      compile Strategy.standard [⟨"page_title", .contains, ["Pricing"]⟩] (.int 1) time.condition =
        .ok included ∧
      compile Strategy.standard [⟨"page_title", .notContains, ["Pricing"]⟩] (.int 1)
        time.condition = .ok excluded ∧
      ¬ (Clickstream.passes bareVisits bareVisit.cell included.condition = false ∧
        Clickstream.passes bareVisits bareVisit.cell excluded.condition = false) := by
  obtain ⟨time, htime, hscope⟩ := exists_window_bareVisit
  have hordinary : ¬ ∃ value ∈ ["Pricing"], IsWild value := by
    rintro ⟨value, hvalue, hwild⟩
    rw [List.mem_singleton.mp hvalue] at hwild
    exact absurd (hwild 'P' (by decide)) (by decide)
  obtain ⟨included, excluded, hincluded, hexcluded, hpasses⟩ :=
    @contains_partition _ _ _ "page_title" _ _ htime rfl (by decide) ["Pricing"] 1
  refine ⟨time, included, excluded, htime, hincluded, hexcluded, fun hneither => ?_⟩
  exact hordinary ((hpasses _ _ hscope).2.mp hneither).2

/-- A visit without a title contains no empty text, and is excluded for containing it. -/
theorem untitled_passes_neither :
    ∃ included excluded,
      compile Strategy.standard [⟨"page_title", .contains, [""]⟩] (.int 1) none = .ok included ∧
      compile Strategy.standard [⟨"page_title", .notContains, [""]⟩] (.int 1) none =
        .ok excluded ∧
      bareVisit ∈ bareVisits.scopeEvents 1 none ∧
      Clickstream.passes bareVisits bareVisit.cell included.condition = false ∧
      Clickstream.passes bareVisits bareVisit.cell excluded.condition = false :=
  ⟨_, _, rfl, rfl, List.mem_singleton_self _, rfl, rfl⟩

end

end Filter

end Clickstream
