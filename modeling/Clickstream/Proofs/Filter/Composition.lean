import Mathlib.Data.List.Forall2
import Clickstream.Calendar.ZoneTable
import Clickstream.Proofs.Filter.Selection

/-!
# Composed filters

What a list of filters selects follows from what its parts select.  Two lists, one behind the other,
select the events that both select; two lists of values in one filter select the events that either
selects, or for an exclusion those that both select (`compile_composes`).  So the order of filters
and of values does not matter, nor do repetitions, and a filter more never selects an event more.
-/

namespace Clickstream

theorem all_eq_of_mem_iff {α : Type} {xs ys : List α} (h : ∀ x, x ∈ xs ↔ x ∈ ys) (p : α → Bool) :
    xs.all p = ys.all p := by
  rw [Bool.eq_iff_iff, List.all_eq_true, List.all_eq_true]
  exact forall_congr' fun x => imp_congr_left (h x)

theorem any_eq_of_mem_iff {α : Type} {xs ys : List α} (h : ∀ x, x ∈ xs ↔ x ∈ ys) (p : α → Bool) :
    xs.any p = ys.any p := by
  rw [List.any_eq_not_all_not, List.any_eq_not_all_not, all_eq_of_mem_iff h]

/-! ## Values -/

namespace FilterKind

variable {kind : FilterKind} {accepts : String → Bool} {vs ws : List String}

theorem combine_append : kind.combine accepts (vs ++ ws) =
    if kind.isNegated then kind.combine accepts vs && kind.combine accepts ws
    else kind.combine accepts vs || kind.combine accepts ws := by
  unfold combine
  split
  · exact List.all_append
  · exact List.any_append

theorem combine_eq_of_mem_iff (h : ∀ value, value ∈ vs ↔ value ∈ ws) :
    kind.combine accepts vs = kind.combine accepts ws := by
  unfold combine
  rw [all_eq_of_mem_iff h, any_eq_of_mem_iff h]

end FilterKind

namespace Strategy

variable {strategy : Strategy} {parameter : String} {kind : FilterKind} {vs ws : List String}

theorem accepts_append_iff : strategy.Accepts parameter kind (vs ++ ws) ↔
    strategy.Accepts parameter kind vs ∧ strategy.Accepts parameter kind ws := by
  cases strategy with
  | tolerance c t => rw [Accepts, List.forall_mem_append, and_and_left]; rfl
  | _ => exact (and_self_iff).symm

theorem Accepts.of_mem_iff (h : ∀ value, value ∈ vs ↔ value ∈ ws)
    (haccepts : strategy.Accepts parameter kind vs) : strategy.Accepts parameter kind ws := by
  cases strategy with
  | tolerance c t => exact ⟨haccepts.1, fun value hvalue => haccepts.2 value ((h value).mpr hvalue)⟩
  | _ => trivial

end Strategy

namespace Filter

/-- Two filters that differ in the order and the repetitions of their values only. -/
structure SameValues (g h : Filter) : Prop where
  parameter : g.parameter = h.parameter
  kind : g.kind = h.kind
  values : ∀ value, value ∈ g.values ↔ value ∈ h.values

namespace SameValues

variable {g h : Filter}

theorem isAccepted (hsame : g.SameValues h) (hg : g.IsAccepted) : h.IsAccepted := by
  obtain ⟨strategy, hstrategy, haccepts⟩ := hg
  rw [hsame.parameter] at hstrategy haccepts
  rw [hsame.kind] at haccepts
  exact ⟨strategy, hstrategy, haccepts.of_mem_iff hsame.values⟩

theorem passes_eq (hsame : g.SameValues h) (db : Database) (site : Int) (time : Option Expr)
    (e : Event) : g.passes db site time e = h.passes db site time e := by
  unfold passes
  rw [hsame.parameter, hsame.kind]
  refine congrArg (Option.any · _) (funext fun strategy => ?_)
  exact FilterKind.combine_eq_of_mem_iff hsame.values

variable {fs gs : List Filter}

theorem forall_isAccepted (hsame : List.Forall₂ SameValues fs gs)
    (hfs : ∀ filter ∈ fs, filter.IsAccepted) : ∀ filter ∈ gs, filter.IsAccepted := by
  induction hsame with
  | nil => exact hfs
  | cons hfirst _ ih =>
    rw [List.forall_mem_cons] at hfs ⊢
    exact ⟨hfirst.isAccepted hfs.1, ih hfs.2⟩

theorem all_passes (hsame : List.Forall₂ SameValues fs gs) (db : Database) (site : Int)
    (time : Option Expr) (e : Event) :
    fs.all (passes db site time e) = gs.all (passes db site time e) := by
  induction hsame with
  | nil => rfl
  | cons hfirst _ ih => rw [List.all_cons, List.all_cons, ih, hfirst.passes_eq]

end SameValues

section

variable {parameter : String} {kind : FilterKind} {vs ws : List String}

theorem isAccepted_append (hvs : IsAccepted ⟨parameter, kind, vs⟩)
    (hws : IsAccepted ⟨parameter, kind, ws⟩) : IsAccepted ⟨parameter, kind, vs ++ ws⟩ := by
  obtain ⟨strategy, hstrategy, haccepts⟩ := hvs
  obtain ⟨strategy', hstrategy', haccepts'⟩ := hws
  cases hstrategy.symm.trans hstrategy'
  exact ⟨strategy, hstrategy, Strategy.accepts_append_iff.mpr ⟨haccepts, haccepts'⟩⟩

/-- Values of an inclusion are alternatives, those of an exclusion are excluded one by one. -/
theorem passes_append (hvs : IsAccepted ⟨parameter, kind, vs⟩) (db : Database) (site : Int)
    (time : Option Expr) (e : Event) :
    passes db site time e ⟨parameter, kind, vs ++ ws⟩ =
      if kind.isNegated then
        passes db site time e ⟨parameter, kind, vs⟩ && passes db site time e ⟨parameter, kind, ws⟩
      else
        passes db site time e ⟨parameter, kind, vs⟩ ||
          passes db site time e ⟨parameter, kind, ws⟩ := by
  obtain ⟨strategy, hstrategy, -⟩ := hvs
  have hpasses : ∀ values, passes db site time e ⟨parameter, kind, values⟩ =
      kind.combine (fun value => strategy.passesValue db site time parameter kind e value) values :=
    fun values => @passes_of_resolve ⟨parameter, kind, values⟩ strategy hstrategy db site time e
  rw [hpasses, hpasses, hpasses, FilterKind.combine_append]

end

/-! ## Lists of filters -/

/-- Some filters compile, and the result selects these events of every scope. -/
def Selects (site : Int) (time : Option Expr) (filters : List Filter)
    (select : Database → Event → Bool) : Prop :=
  ∃ f, compile Strategy.standard filters (.int site) time = .ok f ∧
    ∀ db : Database, ∀ e ∈ db.scopeEvents site time,
      Clickstream.passes db e.cell f.condition = select db e

section

variable {site : Int} {time : Option Expr} {fs gs : List Filter} {s t : Database → Event → Bool}

/-- Accepted filters select the events that pass all of them. -/
theorem selects_iff (htime : TimeRange.IsWindow time) :
    Selects site time fs s ↔ (∀ filter ∈ fs, filter.IsAccepted) ∧
      ∀ db : Database, ∀ e ∈ db.scopeEvents site time, fs.all (passes db site time e) = s db e := by
  constructor
  · rintro ⟨f, hf, hselects⟩
    refine ⟨(exists_compile_iff htime).mp ⟨f, hf⟩, fun db e he => ?_⟩
    rw [← passes_compile htime hf he, hselects db e he]
  · rintro ⟨haccepted, hselects⟩
    obtain ⟨f, hf, hpasses⟩ := exists_compile htime haccepted site
    exact ⟨f, hf, fun db e he => (hpasses db e he).trans (hselects db e he)⟩

variable (htime : TimeRange.IsWindow time)

include htime

theorem Selects.append (hfs : Selects site time fs s) (hgs : Selects site time gs t) :
    Selects site time (fs ++ gs) fun db e => s db e && t db e := by
  rw [selects_iff htime] at hfs hgs ⊢
  refine ⟨List.forall_mem_append.mpr ⟨hfs.1, hgs.1⟩, fun db e he => ?_⟩
  rw [List.all_append, hfs.2 db e he, hgs.2 db e he]

theorem Selects.values {parameter : String} {kind : FilterKind} {vs ws : List String}
    (hvs : Selects site time [⟨parameter, kind, vs⟩] s)
    (hws : Selects site time [⟨parameter, kind, ws⟩] t) :
    Selects site time [⟨parameter, kind, vs ++ ws⟩] fun db e =>
      if kind.isNegated then s db e && t db e else s db e || t db e := by
  rw [selects_iff htime] at hvs hws ⊢
  simp only [List.forall_mem_singleton, List.all_cons, List.all_nil, Bool.and_true] at hvs hws ⊢
  refine ⟨isAccepted_append hvs.1 hws.1, fun db e he => ?_⟩
  rw [passes_append hvs.1, hvs.2 db e he, hws.2 db e he]

theorem Selects.of_mem_iff (h : ∀ filter, filter ∈ fs ↔ filter ∈ gs)
    (hfs : Selects site time fs s) : Selects site time gs s := by
  rw [selects_iff htime] at hfs ⊢
  refine ⟨fun filter hfilter => hfs.1 filter ((h filter).mpr hfilter), fun db e he => ?_⟩
  rw [← all_eq_of_mem_iff h, hfs.2 db e he]

theorem Selects.of_sameValues (h : List.Forall₂ SameValues fs gs)
    (hfs : Selects site time fs s) : Selects site time gs s := by
  rw [selects_iff htime] at hfs ⊢
  refine ⟨SameValues.forall_isAccepted h hfs.1, fun db e he => ?_⟩
  rw [← SameValues.all_passes h, hfs.2 db e he]

theorem Selects.mono (h : fs ⊆ gs) (hfs : Selects site time fs s) (hgs : Selects site time gs t)
    {db : Database} {e : Event} (he : e ∈ db.scopeEvents site time) (ht : t db e = true) :
    s db e = true := by
  rw [selects_iff htime] at hfs hgs
  rw [← hgs.2 db e he, List.all_eq_true] at ht
  rw [← hfs.2 db e he, List.all_eq_true]
  exact fun filter hfilter => ht filter (h hfilter)

end

/-- Filters compose.  One list behind another selects what both select.  Two lists of values in one
filter select what either selects, in an exclusion what both select.  Other orders and repetitions
of the filters, or of the values in a filter, select the same, and more filters select no event
more. -/
theorem compile_composes [ZoneDatabase] {range : TimeRangeSpec} {now : Moment} {time : Fragment}
    (htime : range.compile now = .ok time) (site : Int) :
    (∀ fs gs s t, Selects site time.condition fs s → Selects site time.condition gs t →
      Selects site time.condition (fs ++ gs) fun db e => s db e && t db e) ∧
    (∀ parameter kind vs ws s t, Selects site time.condition [⟨parameter, kind, vs⟩] s →
      Selects site time.condition [⟨parameter, kind, ws⟩] t →
      Selects site time.condition [⟨parameter, kind, vs ++ ws⟩] fun db e =>
        if kind.isNegated then s db e && t db e else s db e || t db e) ∧
    (∀ fs gs s, (∀ filter, filter ∈ fs ↔ filter ∈ gs) → Selects site time.condition fs s →
      Selects site time.condition gs s) ∧
    (∀ fs gs s, List.Forall₂ SameValues fs gs → Selects site time.condition fs s →
      Selects site time.condition gs s) ∧
    ∀ fs gs s t, fs ⊆ gs → Selects site time.condition fs s → Selects site time.condition gs t →
      ∀ db : Database, ∀ e ∈ db.scopeEvents site time.condition, t db e = true → s db e = true := by
  obtain ⟨hwindow, -⟩ := TimeRange.renders_window htime
  refine ⟨?_, ?_, ?_, ?_, ?_⟩
  · exact fun fs gs s t hfs hgs => hfs.append hwindow hgs
  · exact fun parameter kind vs ws s t hvs hws => hvs.values hwindow hws
  · exact fun fs gs s h hfs => hfs.of_mem_iff hwindow h
  · exact fun fs gs s h hfs => hfs.of_sameValues hwindow h
  · exact fun fs gs s t h hfs hgs db e he => hfs.mono hwindow h hgs he

/-- One exclusion of two names selects what two exclusions select. -/
theorem compile_composes_exclusions :
    ∃ time s t, Request.withoutSignup.range.compile Request.withoutSignup.now = .ok time ∧
      Selects 1 time.condition [⟨"event_name", .notEquals, ["signup"]⟩] s ∧
      Selects 1 time.condition [⟨"event_name", .notEquals, ["login"]⟩] t ∧
      Selects 1 time.condition [⟨"event_name", .notEquals, ["signup", "login"]⟩]
        (fun db e => s db e && t db e) ∧
      Selects 1 time.condition [⟨"event_name", .notEquals, ["signup"]⟩,
        ⟨"event_name", .notEquals, ["login"]⟩] (fun db e => s db e && t db e) := by
  obtain ⟨time, -, htime, hcondition, -⟩ := Request.withoutSignup_compile
  have hselects : ∀ value : String, ∃ s,
      Selects 1 time.condition [⟨"event_name", .notEquals, [value]⟩] s := by
    intro value
    rw [hcondition]
    exact ⟨_, _, rfl, fun _ _ _ => rfl⟩
  obtain ⟨s, hs⟩ := hselects "signup"
  obtain ⟨t, ht⟩ := hselects "login"
  obtain ⟨happend, hvalues, -⟩ := compile_composes htime 1
  exact ⟨time, s, t, htime, hs, ht, hvalues _ _ _ _ s t hs ht, happend _ _ s t hs ht⟩

end Filter

end Clickstream
