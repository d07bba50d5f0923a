import Clickstream.Proofs.Filter.Values
import Clickstream.Proofs.Service.ClauseText
import Clickstream.Service.Basic

/-!
# Values stay out of the text

Nothing that a user types becomes text of a query (`values_apart`).  Requests that differ in the
values of their filters only have the same text, and their parameters have the same names; the
generated names stand for the values in order.  The path and the depth of a question about page
views make no difference to the text that is sent, which a service that keeps the texts of its
queries shows (`Service.recording`).
-/

namespace Clickstream

namespace Filter

variable {time : Option Expr} {site : Value}

/-- A compiled list of filters is the rendered list of its conditions. -/
theorem renders_of_compile (hwindow : TimeRange.IsWindow time) {filters : List Filter}
    {f : Fragment} (h : compile Strategy.standard filters site time = .ok f) :
    ∃ s built r, conditionsFrom Strategy.standard s time 0 filters = .ok built ∧
      f.Renders "f" built r ∧ (filters ≠ [] → site.toInteger = .ok s) := by
  cases filters with
  | nil =>
    cases h
    have hempty : Fragment.Renders "f" [] (.start "f") .empty :=
      ⟨rfl, rfl, Renderer.start_binds "f", ⟨nofun, nofun⟩, rfl, rfl⟩
    exact ⟨0, [], _, rfl, hempty, fun hne => absurd rfl hne⟩
  | cons filter filters =>
    obtain ⟨s, hsite, h⟩ := Outcome.bind_eq_ok.mp h
    obtain ⟨built, hbuilt, h⟩ := Outcome.bind_eq_ok.mp h
    obtain ⟨f', r, hf, hr, -⟩ := renders_conditions hwindow hbuilt
    rw [h] at hf
    cases hf
    exact ⟨s, built, r, hbuilt, hr, fun _ => hsite⟩

/-- The generated names of compiled filters stand for the values in order. -/
theorem compile_numbered (hwindow : TimeRange.IsWindow time) {filters : List Filter}
    {f : Fragment} (h : compile Strategy.standard filters site time = .ok f) :
    f.params.filter (fun binding => !reservedNames.contains binding.1) =
      (comparedValues (binding filters)).zipIdx.map fun v => ("f" ++ toString (v.2 + 1), v.1) := by
  obtain ⟨s, built, r, hbuilt, hr, -⟩ := renders_of_compile hwindow h
  have hseen : ∀ k i, 0 ≤ k → ParamId.value k i ∉ ([] : List ParamId) := nofun
  rw [hr.params, hr.binds.generated, hr.stem, ← values_unnamedFrom hwindow hbuilt hseen, numbered]
  rw [List.zipIdx_map, List.map_map]
  rfl

/-- Filters of the same shape compile to the same text and the same names. -/
theorem compile_text (hwindow : TimeRange.IsWindow time) {filters filters' : List Filter}
    (hshape : List.Forall₂ SameShape filters filters') {f f' : Fragment}
    (h : compile Strategy.standard filters site time = .ok f)
    (h' : compile Strategy.standard filters' site time = .ok f') :
    f.sql = f'.sql ∧ f.params.names = f'.params.names := by
  cases hshape with
  | nil =>
    cases h
    cases h'
    exact ⟨rfl, rfl⟩
  | cons hfirst hrest =>
    obtain ⟨s, built, r, hbuilt, hr, hsite⟩ := renders_of_compile hwindow h
    obtain ⟨s', built', r', hbuilt', hr', hsite'⟩ := renders_of_compile hwindow h'
    have hs : s = s' := by
      have := (hsite (List.cons_ne_nil _ _)).symm.trans (hsite' (List.cons_ne_nil _ _))
      exact Except.ok.inj this
    subst hs
    obtain ⟨hsql, hkeys⟩ := conditionsFrom_sql (fun p q hk => r.name_of_key hk)
      hwindow.optionPlain (.cons hfirst hrest) hbuilt hbuilt'
    exact hr.sameText hr' hkeys hsql

end Filter

/-! ## Further conditions -/

namespace Request

variable {request : Request} {further further' : List Expr}

/-- The text of a clause is made of the texts of its parts. -/
theorem Assembles.sql_eq [ZoneDatabase] {site : Int} {window : Option Expr} {built : List Expr}
    {q t f : Fragment} {rq rt rf : Renderer} {clause : Clause}
    (h : request.Assembles further site window built q t f rq rt rf clause) :
    clause.sql = "WHERE " ++ " AND ".intercalate ("site_id = $site_id" ::
      (Fragment.texts "q" further ++ Fragment.texts "t" window.toList ++
        Fragment.texts "f" built)) := by
  rw [h.sql, h.furtherRun.texts_eq, h.windowRun.texts_eq, h.filterRun.texts_eq]

/-- Further conditions that differ in their values only lead to the same text, or to the same
failure. -/
theorem clause_text [ZoneDatabase] (hfurther : ∀ e ∈ further, IsFurther e)
    (hfurther' : ∀ e ∈ further', IsFurther e)
    (hkeys : (paramsOfAll further).map Param.key = (paramsOfAll further').map Param.key)
    (hsql : ∀ name : Param → String, (∀ p q : Param, p.key = q.key → name p = name q) →
      sqlOfAll name further = sqlOfAll name further') :
    (request.clause (further.map some)).map (·.sql) =
      (request.clause (further'.map some)).map (·.sql) := by
  obtain ⟨q, r, hq, hr, -⟩ := renders_further hfurther
  obtain ⟨q', r', hq', hr', -⟩ := renders_further hfurther'
  cases htime : request.range.compile request.now with
  | error e => rw [clause, clause, htime]; rfl
  | ok time =>
    cases hfilters : Filter.compile Strategy.standard request.filters request.site
        time.condition with
    | error e => rw [clause, clause, htime, Outcome.ok_bind, Outcome.ok_bind, hfilters]; rfl
    | ok f =>
      cases hsite : request.site.toInteger with
      | error e =>
        rw [clause, clause, htime, Outcome.ok_bind, Outcome.ok_bind, hfilters, Outcome.ok_bind,
          Outcome.ok_bind, hq, hq', Outcome.ok_bind, Outcome.ok_bind, hsite]
        rfl
      | ok site =>
        obtain ⟨built, hbuilt⟩ := exists_built hsite hfilters
        obtain ⟨_, _, _, _, _, clause, h⟩ := assembles hfurther hsite htime hbuilt
        obtain ⟨_, _, _, _, _, clause', h'⟩ := assembles hfurther' hsite htime hbuilt
        have htexts : Fragment.texts "q" further = Fragment.texts "q" further' := by
          rw [hr.texts_eq, hr'.texts_eq, ← (hr.alike hr' hkeys).name]
          exact hsql _ fun p q hk => r.name_of_key hk
        rw [h.isClause, h'.isClause]
        have hsame : clause.sql = clause'.sql := by rw [h.sql_eq, h'.sql_eq, htexts]
        exact congrArg Except.ok hsame

end Request

/-! ## Page views -/

namespace Service

/-- A service that keeps the texts of its queries. -/
def recording (answer : Report → Clause → Outcome (List Fields)) :
    Service (StateM (List String)) where
  query := fun report clause => do
    modify (· ++ [report.sql clause.sql])
    return answer report clause
  profiles := none

/-- The texts that a question about page views sends. -/
def pageviewTexts [ZoneDatabase] (answer : Report → Clause → Outcome (List Fields))
    (request : Request) (path : String) (depth : Value) : List String :=
  (((recording answer).pageviewCounts request path depth).run []).2

theorem pageviewTexts_eq [ZoneDatabase] (answer : Report → Clause → Outcome (List Fields))
    (request : Request) (path : String) (depth : Value) :
    pageviewTexts answer request path depth =
      match (pageviewClause request path depth).map (·.sql) with
      | .ok sql => [Report.pageviews.sql sql]
      | .error _ => [] := by
  unfold pageviewTexts pageviewCounts execute
  cases pageviewClause request path depth with
  | error e => rfl
  | ok clause => rfl

theorem groupCondition_eq (id : ParamId) (path : String) {depth : Value} {d : Option Nat}
    (h : PathGroup.readDepth depth = .ok d) : groupCondition id path depth =
      .ok (pathCondition id (String.ofList (PathGroup.regexChars path.toList d))) := by
  rw [groupCondition, PathGroup.regexText, h]
  rfl

theorem pathCondition_sql {name : Param → String}
    (hname : ∀ p q : Param, p.key = q.key → name p = name q) (id : ParamId)
    (regex regex' : String) :
    (pathCondition id regex).sql name = (pathCondition id regex').sql name := by
  have hparam : name ⟨id, .text regex, none⟩ = name ⟨id, .text regex', none⟩ := hname _ _ rfl
  simp only [pathCondition, Expr.sql, sqlOfAll, hparam]

/-- The path and the depth of a question about page views are no part of the text. -/
theorem pageviewClause_text [ZoneDatabase] (request : Request) {path path' : String}
    {depth depth' : Value} {d d' : Option Nat} (hpath : path ≠ "") (hpath' : path' ≠ "")
    (hdepth : PathGroup.readDepth depth = .ok d) (hdepth' : PathGroup.readDepth depth' = .ok d') :
    (pageviewClause request path depth).map (·.sql) =
      (pageviewClause request path' depth').map (·.sql) := by
  have hgroup := groupCondition_eq (.given 2) path hdepth
  have hgroup' := groupCondition_eq (.given 2) path' hdepth'
  rw [pageviewClause, pageviewClause, if_neg hpath, if_neg hpath', hgroup, hgroup',
    Outcome.ok_bind, Outcome.ok_bind]
  refine Request.clause_text (isFurther_group hgroup) (isFurther_group hgroup') rfl ?_
  intro name hname
  have hsame := pathCondition_sql hname (.given 2)
    (String.ofList (PathGroup.regexChars path.toList d))
    (String.ofList (PathGroup.regexChars path'.toList d'))
  simp only [sqlOfAll, hsame]

end Service

/-- No value becomes text.  Filters of the same shape compile to the same text under the same names,
the generated names stand for the values of the filters in order, and a question about page views
sends the same text for every path and depth. -/
theorem values_apart [ZoneDatabase] {spec : TimeRangeSpec} {now : Moment} {time : Fragment}
    (htime : spec.compile now = .ok time) (site : Value) :
    (∀ filters filters' f f', List.Forall₂ Filter.SameShape filters filters' →
      Filter.compile Strategy.standard filters site time.condition = .ok f →
      Filter.compile Strategy.standard filters' site time.condition = .ok f' →
      f.sql = f'.sql ∧ f.params.names = f'.params.names) ∧
    (∀ filters f, Filter.compile Strategy.standard filters site time.condition = .ok f →
      f.params.filter (fun binding => !reservedNames.contains binding.1) =
        (Filter.comparedValues (Filter.binding filters)).zipIdx.map fun v =>
          ("f" ++ toString (v.2 + 1), v.1)) ∧
    ∀ answer answer' request path path' depth depth' d d', path ≠ "" → path' ≠ "" →
      PathGroup.readDepth depth = .ok d → PathGroup.readDepth depth' = .ok d' →
      Service.pageviewTexts answer request path depth =
        Service.pageviewTexts answer' request path' depth' := by
  obtain ⟨hwindow, -⟩ := TimeRange.renders_window htime
  refine ⟨?_, ?_, ?_⟩
  · intro filters filters' f f' hshape hf hf'
    exact Filter.compile_text hwindow hshape hf hf'
  · intro filters f hf
    exact Filter.compile_numbered hwindow hf
  · intro answer answer' request path path' depth depth' d d' hpath hpath' hdepth hdepth'
    rw [Service.pageviewTexts_eq, Service.pageviewTexts_eq,
      Service.pageviewClause_text request hpath hpath' hdepth hdepth']

theorem values_apart_withoutSignup :
    ∃ time f f', Request.withoutSignup.range.compile Request.withoutSignup.now = .ok time ∧
      Filter.compile Strategy.standard [⟨"event_name", .contains, ["signup"]⟩] (.int 1)
        time.condition = .ok f ∧
      Filter.compile Strategy.standard [⟨"event_name", .contains, ["') OR ('1"]⟩] (.int 1)
        time.condition = .ok f' ∧
      f.sql = f'.sql ∧ f.params.names = f'.params.names ∧
      f'.params.filter (fun binding => !reservedNames.contains binding.1) =
        [("f1", .text "%') OR ('1%")] ∧
      ∀ answer request, Service.pageviewTexts answer request "/a" .null =
        Service.pageviewTexts answer request "/b" (.int 1) := by
  obtain ⟨time, -, htime, hcondition, -⟩ := Request.withoutSignup_compile
  obtain ⟨htext, hnumbered, hpageviews⟩ := values_apart htime (.int 1)
  have hcompile : ∀ value : String, ∃ f, Filter.compile Strategy.standard
      [⟨"event_name", .contains, [value]⟩] (.int 1) time.condition = .ok f := by
    intro value
    rw [hcondition]
    exact ⟨_, rfl⟩
  obtain ⟨f, hf⟩ := hcompile "signup"
  obtain ⟨f', hf'⟩ := hcompile "') OR ('1"
  have hshape : List.Forall₂ Filter.SameShape [⟨"event_name", .contains, ["signup"]⟩]
      [⟨"event_name", .contains, ["') OR ('1"]⟩] := .cons ⟨rfl, rfl, rfl, by decide⟩ .nil
  obtain ⟨hsql, hnames⟩ := htext _ _ f f' hshape hf hf'
  refine ⟨time, f, f', htime, hf, hf', hsql, hnames, hnumbered _ f' hf', fun answer request => ?_⟩
  exact hpageviews answer answer request "/a" "/b" .null (.int 1) none (some 1) (by decide)
    (by decide) rfl rfl

end Clickstream
