import Clickstream.Proofs.Filter.Conditions
import Clickstream.Proofs.Query.Merge
import Clickstream.Service.Clause

/-!
# Assembled clauses

The further conditions of a query are comparisons of columns and matches of the path with a value of
the request (`IsFurther`).  If the site is an integer, the time range compiles and the filters
compile, the clause of a request is assembled from three rendered fragments without a conflict
(`Request.assembles`): the fragments share no generated name, and the values under the reserved
names are those of one site and one window.

Compiling filters and assembling a clause never fail because of the query
(`compile_sparesQuery`, `clause_sparesQuery`).
-/

namespace Clickstream

open QueryText

/-! ## Further conditions -/

/-- A condition that a query adds to those of the request: its path, the type of its events, or a
value of a column. -/
inductive IsFurther : Expr → Prop
  | pageview (id : ParamId) : IsFurther (pageviewCondition id)
  | group (id : ParamId) (path : String) (depth : Value) (e : Expr)
    (h : groupCondition id path depth = .ok e) : IsFurther e
  | pattern (id : ParamId) (pattern : String) : IsFurther (patternCondition id pattern)
  | compare (id : ParamId) (c : Column) (hc : c.isPlain = true) (comparison : Comparison)
    (value : Value) : IsFurther (.compare (.column c) comparison (.param ⟨id, value, none⟩))

namespace IsFurther

/-- A further condition compares a column, or matches the path. -/
theorem cases_on {e : Expr} (h : IsFurther e) :
    (∃ id c comparison value, c.isPlain = true ∧
      e = .compare (.column c) comparison (.param ⟨id, value, none⟩)) ∨
    ∃ id regex, e = pathCondition id regex := by
  cases h with
  | pageview id => exact .inl ⟨id, .type, .eq, _, rfl, rfl⟩
  | group id path depth e h =>
    obtain ⟨regex, -, rfl⟩ := Outcome.map_eq_ok.mp h
    exact .inr ⟨id, regex, rfl⟩
  | pattern id pattern => exact .inr ⟨id, _, rfl⟩
  | compare id c hc comparison value => exact .inl ⟨id, c, comparison, value, hc, rfl⟩

theorem isPlain {e : Expr} (h : IsFurther e) : e.IsPlain := by
  rcases h.cases_on with ⟨id, c, comparison, value, hc, rfl⟩ | ⟨id, regex, rfl⟩
  · exact ⟨hc, trivial⟩
  · exact ⟨by decide, rfl, trivial, trivial⟩

theorem params_unnamed {e : Expr} (h : IsFurther e) {p : Param} (hp : p ∈ e.params) :
    p.name = none := by
  rcases h.cases_on with ⟨id, c, comparison, value, hc, rfl⟩ | ⟨id, regex, rfl⟩
  · rw [List.mem_singleton.mp hp]
  · rw [List.mem_singleton.mp hp]

end IsFurther

theorem isFurther_pageview (id : ParamId) : ∀ c ∈ [pageviewCondition id], IsFurther c :=
  List.forall_mem_singleton.mpr (.pageview id)

theorem isFurther_group {id id' : ParamId} {path : String} {depth : Value} {e : Expr}
    (h : groupCondition id' path depth = .ok e) : ∀ c ∈ [pageviewCondition id, e], IsFurther c := by
  intro c hc
  rcases List.mem_pair.mp hc with rfl | rfl
  · exact .pageview id
  · exact .group id' path depth c h

theorem isScoped_of_further {further : List Expr} (h : ∀ e ∈ further, IsFurther e) (site : Int)
    (time : Option Expr) : ∀ p ∈ paramsOfAll further, IsScoped site time p := by
  intro p hp
  rw [paramsOfAll_eq_flatMap] at hp
  obtain ⟨e, he, hp⟩ := List.mem_flatMap.mp hp
  exact .inl ((h e he).params_unnamed hp)

theorem allPlain_of_further {further : List Expr} (h : ∀ e ∈ further, IsFurther e) :
    AllPlain further :=
  allPlain_iff.mpr fun e he => (h e he).isPlain

/-! ## Compiled filters -/

/-- Conditions in a scope are always rendered. -/
theorem renders_of_scoped (stem : String) {s : Int} {time : Option Expr}
    (htime : TimeRange.IsWindow time) {es : List Expr}
    (h : ∀ p ∈ paramsOfAll es, IsScoped s time p) :
    ∃ f r, Fragment.ofConditions stem (es.map some) = .ok f ∧ f.Renders stem es r ∧
      f.condition = Expr.conjoin (es.map some) := by
  have hc : Consistent (paramsOfAll (es.map some).reduceOption) := by
    rw [reduceOption_map_some]
    exact consistent_of_scoped htime h
  obtain ⟨f, r, hf, hr⟩ := @Fragment.ofConditions_ok stem _ hc
  rw [reduceOption_map_some] at hr
  exact ⟨f, r, hf, hr⟩

theorem Value.toInteger_sparesQuery (v : Value) : Outcome.SparesQuery v.toInteger := by
  have hchars : ∀ shown cs, Outcome.SparesQuery (Value.integerOfChars shown cs) := by
    intro shown cs
    unfold Value.integerOfChars
    split
    · exact .ok _
    · exact .raise _
    · exact .raise _
  cases v with
  | real x =>
    show Outcome.SparesQuery (Value.integerOfBinary64 x)
    unfold Value.integerOfBinary64
    split
    · exact .ok _
    · exact .raise _
  | text s => exact hchars _ _
  | bytes bs => exact hchars _ _
  | bool b => exact .ok _
  | int n => exact .ok _
  | null => exact .raise _
  | moment m => exact .raise _
  | list items => exact .raise _
  | object fields => exact .raise _

namespace Filter

variable {filters : List Filter} {site : Value} {time : Option Expr}

/-- Filters of a site compile to the fragment of their conditions. -/
theorem compile_eq {s : Int} (hsite : site.toInteger = .ok s) :
    compile Strategy.standard filters site time = (do
      let conditions ← conditionsFrom Strategy.standard s time 0 filters
      Fragment.ofConditions "f" (conditions.map some)) := by
  unfold compile
  rw [hsite]
  cases filters with
  | nil => rfl
  | cons filter filters => rfl

/-- Conditions of filters are always rendered. -/
theorem renders_conditions {s : Int} (htime : TimeRange.IsWindow time) {built : List Expr}
    (h : conditionsFrom Strategy.standard s time 0 filters = .ok built) :
    ∃ f r, Fragment.ofConditions "f" (built.map some) = .ok f ∧ f.Renders "f" built r ∧
      f.condition = Expr.conjoin (built.map some) :=
  renders_of_scoped "f" htime (conditionsFrom_isPlain htime.optionPlain h).2.2

/-- Filters that do not compile are refused, or have no site. -/
theorem compile_sparesQuery (filters : List Filter) (site : Value)
    (htime : TimeRange.IsWindow time) :
    Outcome.SparesQuery (compile Strategy.standard filters site time) := by
  unfold compile
  split
  · exact .ok _
  · refine .bind (Value.toInteger_sparesQuery site) fun s _ =>
      .bind (conditionsFrom_sparesQuery _ _ _ _ _) fun built hbuilt => ?_
    obtain ⟨f, r, hf, -⟩ := renders_conditions htime hbuilt
    rw [hf]
    exact .ok _

end Filter

/-! ## Clauses -/

namespace Request

/-- A clause with the fragments that it is assembled from: the further conditions, the window and
the conditions of the filters. -/
structure Assembles [ZoneDatabase] (request : Request) (further : List Expr) (site : Int)
    (window : Option Expr) (built : List Expr) (q t f : Fragment) (rq rt rf : Renderer)
    (clause : Clause) : Prop where
  isWindow : TimeRange.IsWindow window
  isBuilt : Filter.conditionsFrom Strategy.standard site window 0 request.filters = .ok built
  furtherRun : q.Renders "q" further rq
  windowRun : t.Renders "t" window.toList rt
  filterRun : f.Renders "f" built rf
  isClause : request.clause (further.map some) = .ok clause
  sql : clause.sql = "WHERE " ++ " AND ".intercalate ("site_id = $site_id" ::
    (sqlOfAll rq.name further ++ sqlOfAll rt.name window.toList ++ sqlOfAll rf.name built))
  /-- Every value is that of a fragment, or the site. -/
  value : ∀ name, clause.params.get? name = (f.params.get? name).or
    ((t.params.get? name).or ((q.params.get? name).or
      (Bindings.get? [("site_id", .int site)] name)))
  conditions : clause.conditions = siteCondition (.given 0) site ::
    [Expr.conjoin (further.map some), window, Expr.conjoin (built.map some)].reduceOption

theorem clauseSql_eq (a b c : List String) :
    " ".intercalate (Clause.siteSql ::
        ([rowText a, rowText b, rowText c] : List String).filter (· != "")) =
      "WHERE " ++ " AND ".intercalate ("site_id = $site_id" :: (a ++ b ++ c)) := by
  have hrow := intercalate_rowText Clause.siteSql [a, b, c]
  have hstart : Clause.siteSql = "WHERE " ++ "site_id = $site_id" := by decide
  rw [List.map_cons, List.map_cons, List.map_cons, List.map_nil] at hrow
  rw [hrow, intercalate_cons, intercalate_cons, ← String.append_assoc, List.append_assoc, hstart]
  simp only [List.flatten_cons, List.flatten_nil, List.append_nil]

section

variable {site : Int} {window : Option Expr}

theorem isScoped_append {ps qs : List Param} (hp : ∀ p ∈ ps, IsScoped site window p)
    (hq : ∀ p ∈ qs, IsScoped site window p) : ∀ p ∈ ps ++ qs, IsScoped site window p := by
  intro p h
  rcases List.mem_append.mp h with h | h
  · exact hp p h
  · exact hq p h

/-- Whatever a fragment binds under the name of the site is the site. -/
theorem agree_site (hwindow : TimeRange.IsWindow window) {stem : String} {es : List Expr}
    {r : Renderer} {g : Fragment} (hg : g.Renders stem es r)
    (hes : ∀ p ∈ paramsOfAll es, IsScoped site window p) {name : String} {old value : Value}
    (hold : Bindings.get? [("site_id", Value.int site)] name = some old)
    (hvalue : g.params.get? name = some value) : (old == value) = true := by
  have hname : "site_id" = name := by
    by_contra hne
    rw [Bindings.get?_cons_of_ne hne] at hold
    cases hold
  subst hname
  cases hold
  rw [hg.params] at hvalue
  obtain ⟨p, hp, hpn, rfl⟩ := hg.binds.exists_of_get? (by decide) hvalue
  have hsite : IsScoped site window ⟨.given 0, .int site, some "site_id"⟩ := .inr (.inl ⟨rfl, rfl⟩)
  have hc : Consistent (⟨.given 0, .int site, some "site_id"⟩ :: paramsOfAll es) :=
    consistent_of_scoped hwindow (List.forall_mem_cons.mpr ⟨hsite, hes⟩)
  exact hc.same _ List.mem_cons_self p (List.mem_cons_of_mem _ hp) "site_id" rfl hpn

/-- The bindings of the fragments of a clause are combined without a conflict. -/
theorem mergeParams_ok (hwindow : TimeRange.IsWindow window) {further built : List Expr}
    {q t f : Fragment} {rq rt rf : Renderer} (hfurther : ∀ e ∈ further, IsFurther e)
    (hbuilt : ∀ p ∈ paramsOfAll built, IsScoped site window p) (hq : q.Renders "q" further rq)
    (ht : t.Renders "t" window.toList rt) (hf : f.Renders "f" built rf) :
    ∃ params, mergeParams [[("site_id", .int site)], q.params, t.params, f.params] = .ok params ∧
      ∀ name, params.get? name = (f.params.get? name).or ((t.params.get? name).or
        ((q.params.get? name).or (Bindings.get? [("site_id", .int site)] name))) := by
  have hqs := isScoped_of_further hfurther site window
  have hts : ∀ p ∈ paramsOfAll window.toList, IsScoped site window p := by
    intro p hp
    rw [paramsOfAll_toList] at hp
    exact .inr (.inr hp)
  have hqt := consistent_of_scoped hwindow (isScoped_append hqs hts)
  have hqf := consistent_of_scoped hwindow (isScoped_append hqs hbuilt)
  have htf := consistent_of_scoped hwindow (isScoped_append hts hbuilt)
  have hnodup : ∀ s ∈ [[("site_id", Value.int site)], q.params, t.params, f.params],
      (Bindings.names s).Nodup := by
    simp only [List.forall_mem_cons]
    refine ⟨List.pairwise_singleton .., ?_, ?_, ?_, nofun⟩
    · rw [hq.params]
      exact hq.binds.nodup
    · rw [ht.params]
      exact ht.binds.nodup
    · rw [hf.params]
      exact hf.binds.nodup
  -- Generated names begin with the stem of their fragment, so only reserved names can meet.
  have hagree : ∀ name, [[("site_id", Value.int site)], q.params, t.params, f.params].Pairwise
      (Bindings.AgreesAt name) := by
    intro name
    simp only [List.pairwise_cons, List.forall_mem_cons]
    refine ⟨⟨?_, ?_, ?_, nofun⟩, ⟨?_, ?_, nofun⟩, ⟨?_, nofun⟩, nofun, .nil⟩
    · exact fun _ _ => agree_site hwindow hq hqs
    · exact fun _ _ => agree_site hwindow ht hts
    · exact fun _ _ => agree_site hwindow hf hbuilt
    · exact fun _ _ => hq.agree ht (generated_ne (by decide) (by decide) (by decide)) hqt
    · exact fun _ _ => hq.agree hf (generated_ne (by decide) (by decide) (by decide)) hqf
    · exact fun _ _ => ht.agree hf (generated_ne (by decide) (by decide) (by decide)) htf
  refine ⟨_, mergeParams_eq_ok hnodup hagree, fun name => ?_⟩
  rw [Bindings.get?_updateAll hnodup]
  simp only [List.foldl_cons, List.foldl_nil, Bindings.get?_nil, Option.or_none]

end

variable {request : Request} {further : List Expr} {site : Int}

/-- Further conditions are always rendered. -/
theorem renders_further (hfurther : ∀ e ∈ further, IsFurther e) :
    ∃ q r, Fragment.ofConditions "q" (further.map some) = .ok q ∧ q.Renders "q" further r ∧
      q.condition = Expr.conjoin (further.map some) :=
  renders_of_scoped "q" .unrestricted (isScoped_of_further hfurther 0 none)

/-- The clause of a request is assembled, whatever its range and its filters are. -/
theorem assembles [ZoneDatabase] (hfurther : ∀ e ∈ further, IsFurther e)
    (hsite : request.site.toInteger = .ok site) {time : Fragment}
    (htime : request.range.compile request.now = .ok time) {built : List Expr}
    (hbuilt : Filter.conditionsFrom Strategy.standard site time.condition 0 request.filters =
      .ok built) :
    ∃ q f rq rt rf clause,
      request.Assembles further site time.condition built q time f rq rt rf clause := by
  obtain ⟨hwindow, rt, ht⟩ := TimeRange.renders_window htime
  obtain ⟨f, rf, hfilters, hf, hfc⟩ := Filter.renders_conditions hwindow hbuilt
  obtain ⟨q, rq, hextra, hq, hqc⟩ := renders_further hfurther
  have hplain := Filter.conditionsFrom_isPlain hwindow.optionPlain hbuilt
  obtain ⟨params, hparams, hvalue⟩ := mergeParams_ok hwindow hfurther hplain.2.2 hq ht hf
  have hclause : request.clause (further.map some) =
      Clause.ofFragments site [q, time, f] := by
    have hcompile : Filter.compile Strategy.standard request.filters request.site time.condition =
        .ok f := by
      rw [Filter.compile_eq hsite, hbuilt]
      exact hfilters
    rw [clause, htime, Outcome.ok_bind, hcompile, Outcome.ok_bind, hextra, Outcome.ok_bind, hsite,
      Outcome.ok_bind]
  have hassembled : Clause.ofFragments site [q, time, f] = .ok
      ⟨" ".intercalate (Clause.siteSql :: [q.sql, time.sql, f.sql].filter (· != "")), params,
        siteCondition (.given 0) site ::
          [q.condition, time.condition, f.condition].reduceOption⟩ := by
    show (mergeParams [[("site_id", .int site)], q.params, time.params, f.params] >>= _) = _
    rw [hparams]
    rfl
  refine ⟨q, f, rq, rt, rf, _, hwindow, hbuilt, hq, ht, hf, hclause.trans hassembled, ?_, hvalue,
    ?_⟩
  · dsimp only
    rw [hq.sql, ht.sql, hf.sql, clauseSql_eq]
  · dsimp only
    rw [hqc, hfc]

/-- The filters of a site compile if all of their conditions can be built. -/
theorem exists_built {time f : Fragment} (hsite : request.site.toInteger = .ok site)
    (hf : Filter.compile Strategy.standard request.filters request.site time.condition = .ok f) :
    ∃ built, Filter.conditionsFrom Strategy.standard site time.condition 0 request.filters =
      .ok built := by
  rw [Filter.compile_eq hsite] at hf
  obtain ⟨built, hbuilt, -⟩ := Outcome.bind_eq_ok.mp hf
  exact ⟨built, hbuilt⟩

/-- A request with a clause has a site, a window and conditions of its filters. -/
theorem exists_parts [ZoneDatabase] {conditions : List (Option Expr)} {clause : Clause}
    (h : request.clause conditions = .ok clause) :
    ∃ (site : Int) (time : Fragment) (built : List Expr), request.site.toInteger = .ok site ∧
      request.range.compile request.now = .ok time ∧
      Filter.conditionsFrom Strategy.standard site time.condition 0 request.filters =
        .ok built := by
  obtain ⟨time, htime, h⟩ := Outcome.bind_eq_ok.mp h
  obtain ⟨f, hf, h⟩ := Outcome.bind_eq_ok.mp h
  obtain ⟨q, -, h⟩ := Outcome.bind_eq_ok.mp h
  obtain ⟨site, hsite, -⟩ := Outcome.bind_eq_ok.mp h
  obtain ⟨built, hbuilt⟩ := exists_built hsite hf
  exact ⟨site, time, built, hsite, htime, hbuilt⟩

/-- A clause is refused because of its range, its filters or its site, never because of the
query. -/
theorem clause_sparesQuery [ZoneDatabase] (request : Request)
    (hfurther : ∀ e ∈ further, IsFurther e) :
    Outcome.SparesQuery (request.clause (further.map some)) := by
  intro e he
  have hclause := he
  rcases Outcome.bind_eq_error.mp he with he | ⟨time, htime, he⟩
  · exact TimeRangeSpec.compile_sparesQuery _ _ e he
  obtain ⟨hwindow, -⟩ := TimeRange.renders_window htime
  rcases Outcome.bind_eq_error.mp he with he | ⟨f, hf, he⟩
  · exact Filter.compile_sparesQuery _ _ hwindow e he
  rcases Outcome.bind_eq_error.mp he with he | ⟨q, hq, he⟩
  · obtain ⟨q, rq, hq, -⟩ := renders_further hfurther
    rw [hq] at he
    cases he
  rcases Outcome.bind_eq_error.mp he with he | ⟨site, hsite, he⟩
  · exact Value.toInteger_sparesQuery _ e he
  obtain ⟨built, hbuilt⟩ := exists_built hsite hf
  obtain ⟨q, f, rq, rt, rf, clause, h⟩ := assembles hfurther hsite htime hbuilt
  rw [h.isClause] at hclause
  cases hclause

/-! ## A request -/

def hourStart : Timestamp := ⟨63870591600000000, by decide⟩

def hourEnd : Timestamp := ⟨63870595200000000, by decide⟩

/-- A request for the sessions without a sign-up, in the hour before an instant. -/
def withoutSignup : Request :=
  ⟨.int 1, [⟨"event_name", .notEquals, ["signup"]⟩],
    ⟨none, none, none, some (.int 60), some (.int 0)⟩, ⟨hourEnd, none⟩⟩

theorem withoutSignup_compile [ZoneDatabase] :
    ∃ time f, withoutSignup.range.compile withoutSignup.now = .ok time ∧
      time.condition = some (TimeRange.between .gt (TimeRange.startParam hourStart) .le
        (TimeRange.endParam hourEnd)) ∧
      Filter.compile Strategy.standard withoutSignup.filters withoutSignup.site time.condition =
        .ok f := by
  have htime := @TimeRangeSpec.compile_minutes withoutSignup.range _ withoutSignup.now _ _
    hourStart hourEnd rfl (by decide +kernel) (by decide +kernel)
  exact ⟨_, _, htime, rfl, rfl⟩

end Request

end Clickstream
