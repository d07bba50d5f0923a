import Clickstream.Calendar.ZoneTable
import Clickstream.Proofs.Service.Clause

/-!
# The text of a clause

The text of a clause is a conjunction that nothing can escape from.  All of its parts are phrases,
so it is balanced, it has no word `OR` of its own, and it is taken apart into the parts that it was
put together from (`clause_flat`).  Its placeholders are the names of its parameters, and the
reserved names have the values of the site and of the time range (`clause_placeholders`).
-/

namespace Clickstream

open QueryText

namespace Fragment

/-- The texts of some conditions under the names that rendering gives to their parameters. -/
def texts (stem : String) (conditions : List Expr) : List String :=
  sqlOfAll ((Renderer.start stem).bindAll (paramsOfAll conditions)).2.name conditions

theorem Renders.texts_eq {stem : String} {conditions : List Expr} {r : Renderer} {f : Fragment}
    (h : f.Renders stem conditions r) : texts stem conditions = sqlOfAll r.name conditions := by
  rw [texts, h.run]

theorem Renders.isRestricted_eq {stem : String} {c : Option Expr} {r : Renderer} {f : Fragment}
    (h : f.Renders stem c.toList r) : f.isRestricted = c.isSome := by
  rw [isRestricted, h.sql]
  cases c with
  | none => rfl
  | some e => exact rowText_cons_ne _ _

end Fragment

namespace Request

theorem siteText_phrase : Phrase "site_id = $site_id" ["site_id"] := by
  have hcolumn : Phrase "site_id" [] := .of_isName (by decide)
  have hequals : Phrase "=" [] := .of_check (by decide)
  have hsite : Phrase ("$" ++ "site_id") ["site_id"] := placeholder_phrase (by decide)
  exact (hcolumn.space hequals).space hsite

theorem where_reads : Reads "WHERE " [] := .of_closed rfl (by decide)

namespace Assembles

variable {request : Request} {further : List Expr} {site : Int} {window : Option Expr}
  {built : List Expr} {q t f : Fragment} {rq rt rf : Renderer} {clause : Clause}

/-- The parts of a clause are phrases; their placeholders are the names of the fragments. -/
theorem phrases [ZoneDatabase]
    (h : request.Assembles further site window built q t f rq rt rf clause)
    (hfurther : ∀ e ∈ further, IsFurther e) :
    List.Forall₂ Phrase
      ("site_id = $site_id" ::
        (sqlOfAll rq.name further ++ sqlOfAll rt.name window.toList ++ sqlOfAll rf.name built))
      (["site_id"] ::
        ((further.map fun e => e.params.map rq.name) ++
          (window.toList.map fun e => e.params.map rt.name) ++
          (built.map fun e => e.params.map rf.name))) := by
  have hwindow := allPlain_toList h.isWindow.optionPlain
  have hbuilt := (Filter.conditionsFrom_isPlain h.isWindow.optionPlain h.isBuilt).1
  have hq := h.furtherRun.phrases (by decide) (allPlain_of_further hfurther)
  have ht := h.windowRun.phrases (by decide) hwindow
  have hf := h.filterRun.phrases (by decide) hbuilt
  exact .cons siteText_phrase (List.rel_append (List.rel_append hq ht) hf)

/-- The placeholders of a clause are the names of its parameters. -/
theorem mem_placeholders_iff [ZoneDatabase]
    (h : request.Assembles further site window built q t f rq rt rf clause)
    (hfurther : ∀ e ∈ further, IsFurther e) (name : String) :
    name ∈ placeholders clause.sql ↔ name ∈ clause.params.names := by
  have hreads := reads_conjunction ((h.phrases hfurther).imp fun _ _ hs => hs.toReads)
  have hnames := (where_reads.prepend (by decide) hreads).placeholders 0
  rw [← h.sql] at hnames
  have hplaceholders : placeholders clause.sql = "site_id" ::
      ((further.map fun e => e.params.map rq.name).flatten ++
        (window.toList.map fun e => e.params.map rt.name).flatten ++
        (built.map fun e => e.params.map rf.name).flatten) := by
    rw [placeholders, show Place.start = .text 0 from rfl, hnames, List.map_map]
    simp [Function.comp_def]
  rw [hplaceholders, ← Bindings.isSome_get?_iff, h.value]
  simp only [Option.isSome_or, Bool.or_eq_true, Bindings.isSome_get?_iff,
    h.furtherRun.mem_names_iff, h.windowRun.mem_names_iff, h.filterRun.mem_names_iff,
    Bindings.names_cons, Bindings.names_nil, List.mem_cons, List.mem_append, List.not_mem_nil,
    or_false]
  tauto

/-- The further conditions bring along no names. -/
theorem further_get? [ZoneDatabase]
    (h : request.Assembles further site window built q t f rq rt rf clause)
    (hfurther : ∀ e ∈ further, IsFurther e) {name : String} (hname : name ∈ reservedNames) :
    q.params.get? name = none := by
  cases hq : q.params.get? name with
  | none => rfl
  | some value =>
    rw [h.furtherRun.params] at hq
    obtain ⟨p, hp, hpn, -⟩ := h.furtherRun.binds.exists_of_get? hname hq
    rw [paramsOfAll_eq_flatMap] at hp
    obtain ⟨e, he, hp⟩ := List.mem_flatMap.mp hp
    rw [(hfurther e he).params_unnamed hp] at hpn
    cases hpn

/-- What the filters bind under a reserved name is a parameter of their scope. -/
theorem filter_get? [ZoneDatabase]
    (h : request.Assembles further site window built q t f rq rt rf clause)
    {name : String} (hname : name ∈ reservedNames) {value : Value}
    (hvalue : f.params.get? name = some value) :
    name = "site_id" ∧ value = .int site ∨
      ∃ p ∈ paramsOfCondition window, p.name = some name ∧ p.value = value := by
  rw [h.filterRun.params] at hvalue
  obtain ⟨p, hp, hpn, hpv⟩ := h.filterRun.binds.exists_of_get? hname hvalue
  have hscoped := (Filter.conditionsFrom_isPlain h.isWindow.optionPlain h.isBuilt).2.2 p hp
  rcases hscoped with hn | ⟨hn, hv⟩ | hw
  · rw [hn] at hpn
    cases hpn
  · rw [hn] at hpn
    exact .inl ⟨(Option.some.inj hpn).symm, hpv.symm.trans hv⟩
  · exact .inr ⟨p, hw, hpn, hpv⟩

/-- The name of the site has the site. -/
theorem get?_site [ZoneDatabase]
    (h : request.Assembles further site window built q t f rq rt rf clause)
    (hfurther : ∀ e ∈ further, IsFurther e) :
    clause.params.get? "site_id" = some (.int site) := by
  have hreserved : "site_id" ∈ reservedNames := by decide
  have hwindow : t.params.get? "site_id" = none := by
    cases ht : t.params.get? "site_id" with
    | none => rfl
    | some value =>
      rw [h.windowRun.params] at ht
      obtain ⟨p, hp, hpn, -⟩ := h.windowRun.binds.exists_of_get? hreserved ht
      rw [paramsOfAll_toList] at hp
      exact absurd hpn (h.isWindow.name_ne_site hp)
  rw [h.value, hwindow, h.further_get? hfurther hreserved]
  cases hf : f.params.get? "site_id" with
  | none => rfl
  | some value =>
    rcases h.filter_get? hreserved hf with ⟨-, rfl⟩ | ⟨p, hp, hpn, -⟩
    · rfl
    · exact absurd hpn (h.isWindow.name_ne_site hp)

/-- The names of the bounds have the values of the window. -/
theorem get?_bound [ZoneDatabase]
    (h : request.Assembles further site window built q t f rq rt rf clause)
    (hfurther : ∀ e ∈ further, IsFurther e) {name : String}
    (hname : name ∈ ["time_start", "time_end"]) :
    clause.params.get? name = t.params.get? name := by
  have hreserved : name ∈ reservedNames := List.mem_cons_of_mem _ hname
  have hsite : "site_id" ≠ name := by
    intro heq
    rw [← heq] at hname
    exact absurd hname (by decide)
  rw [h.value, h.further_get? hfurther hreserved, Bindings.get?_cons_of_ne hsite,
    Bindings.get?_nil, Option.or_none, Option.or_none]
  cases hf : f.params.get? name with
  | none => rfl
  | some value =>
    rcases h.filter_get? hreserved hf with ⟨heq, -⟩ | ⟨p, hp, hpn, rfl⟩
    · exact absurd heq.symm hsite
    · exact (h.isWindow.get?_of_mem h.windowRun hp hpn).symm

end Assembles

/-- A conjunction of phrases behind `WHERE` is balanced, and joined by `AND` only. -/
theorem where_isFlat {texts : List String} (h : ∀ s ∈ texts, ∃ names, Phrase s names) :
    isBalanced ("WHERE " ++ " AND ".intercalate texts) = true ∧
      "OR" ∉ keywords ("WHERE " ++ " AND ".intercalate texts) := by
  have hlist : ("WHERE " ++ " AND ".intercalate texts).toList =
      ['W', 'H', 'E', 'R', 'E'] ++ ' ' :: (" AND ".intercalate texts).toList := by
    rw [String.toList_append]
    rfl
  constructor
  · rw [isBalanced, hlist, Place.after_append, beq_iff_eq]
    exact isBalanced_intercalate h
  · intro hor
    obtain ⟨word, hw, heq⟩ := List.mem_map.mp hor
    have hupper : word.map Char.toUpper = ['O', 'R'] := by
      have := congrArg String.toList heq
      rwa [String.toList_ofList] at this
    have hjunction : isJunction word = true := by
      rw [isJunction, hupper]
      rfl
    rw [hlist, wordsFrom_append_cons rfl] at hw
    rcases List.mem_append.mp hw with hw | hw
    · rw [show wordsFrom .start ['W', 'H', 'E', 'R', 'E'] = [['W', 'H', 'E', 'R', 'E']] from rfl,
        List.mem_singleton] at hw
      rw [hw] at hjunction
      exact absurd hjunction (by decide)
    · rcases words_intercalate h word hw with hw | hw
      · rw [hjunction] at hw
        cases hw
      · rw [hw] at hupper
        exact absurd hupper (by decide)

variable {request : Request} {further : List Expr} {site : Int} {time f : Fragment}

/-- The text of a clause is a flat conjunction: it is balanced and has no `OR` of its own, and its
pieces are the condition on the site, the further conditions, the window if there is one, and the
conditions of the filters. -/
theorem clause_flat [ZoneDatabase] (hfurther : ∀ e ∈ further, IsFurther e)
    (hsite : request.site.toInteger = .ok site)
    (htime : request.range.compile request.now = .ok time)
    (hfilters : Filter.compile Strategy.standard request.filters request.site time.condition =
      .ok f) :
    ∃ clause rest built, request.clause (further.map some) = .ok clause ∧
      isBalanced clause.sql = true ∧ "OR" ∉ keywords clause.sql ∧ clause.sql = "WHERE " ++ rest ∧
      Filter.conditionsFrom Strategy.standard site time.condition 0 request.filters = .ok built ∧
      built.length = request.filters.length ∧ time.condition.isSome = time.isRestricted ∧
      pieces rest = "site_id = $site_id" :: (Fragment.texts "q" further ++
        Fragment.texts "t" time.condition.toList ++ Fragment.texts "f" built) := by
  obtain ⟨built, hbuilt⟩ := exists_built hsite hfilters
  obtain ⟨q, f, rq, rt, rf, clause, h⟩ := assembles hfurther hsite htime hbuilt
  have hphrases := exists_phrase (h.phrases hfurther)
  obtain ⟨hbalanced, hor⟩ := where_isFlat hphrases
  rw [← h.sql] at hbalanced hor
  refine ⟨clause, _, built, h.isClause, hbalanced, hor, h.sql, hbuilt,
    (Filter.conditionsFrom_isPlain h.isWindow.optionPlain hbuilt).2.1,
    h.windowRun.isRestricted_eq.symm, ?_⟩
  rw [pieces_intercalate hphrases nofun, h.furtherRun.texts_eq, h.windowRun.texts_eq,
    h.filterRun.texts_eq]

theorem clause_flat_withoutSignup : ∃ clause rest,
    withoutSignup.clause [some (pageviewCondition (.given 1))] = .ok clause ∧
      isBalanced clause.sql = true ∧ "OR" ∉ keywords clause.sql ∧
      clause.sql = "WHERE " ++ rest ∧ (pieces rest).length = 4 := by
  obtain ⟨time, f, htime, hcondition, hfilters⟩ := withoutSignup_compile
  obtain ⟨clause, rest, built, hclause, hbalanced, hor, hrest, -, hbuilt, -, hpieces⟩ :=
    clause_flat (isFurther_pageview (.given 1)) rfl htime hfilters
  refine ⟨clause, rest, hclause, hbalanced, hor, hrest, ?_⟩
  rw [hpieces, hcondition]
  simp only [Fragment.texts, sqlOfAll_eq_map, List.length_cons, List.length_append,
    List.length_map, hbuilt, Option.toList_some, List.length_nil, withoutSignup]

/-- The clause of a request never fails because of the query.  If the range and the filters compile,
there is a clause, its placeholders are the names of its parameters, and the names of the site and
of the bounds have the values of the site and of the time range. -/
theorem clause_placeholders [ZoneDatabase] (request : Request)
    (hfurther : ∀ e ∈ further, IsFurther e) :
    (∀ e, request.clause (further.map some) = .error e → e.isCompilation = false) ∧
    ∀ site time f, request.site.toInteger = .ok site →
      request.range.compile request.now = .ok time →
      Filter.compile Strategy.standard request.filters request.site time.condition = .ok f →
      ∃ clause, request.clause (further.map some) = .ok clause ∧
        (∀ name, name ∈ placeholders clause.sql ↔ name ∈ clause.params.names) ∧
        clause.params.get? "site_id" = some (.int site) ∧
        clause.params.get? "time_start" = time.params.get? "time_start" ∧
        clause.params.get? "time_end" = time.params.get? "time_end" := by
  refine ⟨request.clause_sparesQuery hfurther, ?_⟩
  intro site time f hsite htime hfilters
  obtain ⟨built, hbuilt⟩ := exists_built hsite hfilters
  obtain ⟨q, f, rq, rt, rf, clause, h⟩ := assembles hfurther hsite htime hbuilt
  exact ⟨clause, h.isClause, h.mem_placeholders_iff hfurther, h.get?_site hfurther,
    h.get?_bound hfurther (by decide), h.get?_bound hfurther (by decide)⟩

theorem clause_placeholders_withoutSignup : ∃ clause,
    withoutSignup.clause [some (pageviewCondition (.given 1))] = .ok clause ∧
      (∀ name, name ∈ placeholders clause.sql ↔ name ∈ clause.params.names) ∧
      clause.params.get? "site_id" = some (.int 1) := by
  obtain ⟨time, f, htime, -, hfilters⟩ := withoutSignup_compile
  obtain ⟨clause, hclause, hnames, hsite, -⟩ :=
    (clause_placeholders withoutSignup (isFurther_pageview (.given 1))).2 1 time f rfl htime
      hfilters
  exact ⟨clause, hclause, hnames, hsite⟩

end Request

end Clickstream
