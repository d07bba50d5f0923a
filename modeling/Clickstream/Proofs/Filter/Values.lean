import Mathlib.Data.List.Nodup
import Clickstream.Proofs.Service.Clause

/-!
# Values of filters

The values of filters stay out of the text.  The conditions of filters have their parameters one
after the other, so the generated names `f1`, `f2`, … stand for the values in order
(`compile_numbered`): a value that is compared with two columns is bound once, and a coordinate is
not a parameter at all.  Filters that differ in their values only have the same text and the same
names (`compile_text`), since a text depends on the names of its parameters alone.
-/

namespace Clickstream

/-! ## Parameters without a name -/

theorem unnamedFrom_of_named {ps : List Param} (h : ∀ p ∈ ps, p.name.isSome) (seen : List ParamId) :
    unnamedFrom seen ps = [] := by
  induction ps generalizing seen with
  | nil => rfl
  | cons p ps ih =>
    rw [List.forall_mem_cons] at h
    have hno : ¬ (p.name.isNone ∧ p.id ∉ seen) := by
      rintro ⟨hn, -⟩
      rw [Option.isNone_iff_eq_none] at hn
      rw [hn] at h
      cases h.1
    rw [unnamedFrom, if_neg hno, ih h.2]

theorem unnamedFrom_of_seen {ps : List Param} {seen : List ParamId} (h : ∀ p ∈ ps, p.id ∈ seen) :
    unnamedFrom seen ps = [] := by
  induction ps generalizing seen with
  | nil => rfl
  | cons p ps ih =>
    rw [List.forall_mem_cons] at h
    rw [unnamedFrom, if_neg (fun hn => hn.2 h.1)]
    exact ih fun q hq => List.mem_cons_of_mem _ (h.2 q hq)

theorem unnamedFrom_of_fresh {ps : List Param} (hname : ∀ p ∈ ps, p.name = none)
    (hnodup : (ps.map (·.id)).Nodup) {seen : List ParamId} (hseen : ∀ p ∈ ps, p.id ∉ seen) :
    unnamedFrom seen ps = ps := by
  induction ps generalizing seen with
  | nil => rfl
  | cons p ps ih =>
    rw [List.forall_mem_cons] at hname hseen
    rw [List.map_cons, List.nodup_cons] at hnodup
    have hrest : ∀ q ∈ ps, q.id ∉ p.id :: seen := by
      intro q hq hm
      rcases List.mem_cons.mp hm with hid | hm
      · exact hnodup.1 (List.mem_map.mpr ⟨q, hq, hid⟩)
      · exact hseen.2 q hq hm
    rw [unnamedFrom, if_pos ⟨by rw [hname.1]; rfl, hseen.1⟩, ih hname.2 hnodup.2 hrest]

/-- Copies of a parameter count once. -/
theorem unnamedFrom_copies {columns : List Column} (hne : columns ≠ []) (ps : List Param)
    (seen : List ParamId) :
    unnamedFrom seen (ps.flatMap fun p => columns.map fun _ => p) = unnamedFrom seen ps := by
  induction ps generalizing seen with
  | nil => rfl
  | cons p ps ih =>
    obtain ⟨c, columns, rfl⟩ := List.exists_cons_of_ne_nil hne
    have hcopies : ∀ q ∈ columns.map fun _ => p, q.id ∈ p.id :: seen := by
      intro q hq
      obtain ⟨_, -, rfl⟩ := List.mem_map.mp hq
      exact List.mem_cons_self
    have hids : ∀ id, id ∈ p.id :: seen ++ (columns.map fun _ => p).map (·.id) ↔
        id ∈ p.id :: seen := by
      intro id
      rw [List.mem_append]
      constructor
      · rintro (h | h)
        · exact h
        · obtain ⟨q, hq, rfl⟩ := List.mem_map.mp h
          exact hcopies q hq
      · exact .inl
    have hrest : unnamedFrom (p.id :: seen)
        ((columns.map fun _ => p) ++ ps.flatMap fun p => (c :: columns).map fun _ => p) =
        unnamedFrom (p.id :: seen) ps := by
      rw [unnamedFrom_append, unnamedFrom_of_seen hcopies, List.nil_append, unnamedFrom_congr hids,
        ih]
    rw [List.flatMap_cons, List.map_cons, List.cons_append, unnamedFrom, unnamedFrom, hrest]

namespace Strategy

/-! ## Values as parameters -/

/-- The parameters whose values are read as numbers. -/
def coordinateParameters : List String :=
  ["lat", "lon"]

/-- The values are parameters of the condition. -/
def bindsValues : Strategy → Bool
  | .tolerance _ _ => false
  | .identity columns => !columns.isEmpty
  | _ => true

theorem bindsValues_eq {parameter : String} {strategy : Strategy}
    (h : resolve standard parameter = .ok strategy) :
    strategy.bindsValues = !coordinateParameters.contains parameter := by
  have hstandard : ∀ binding ∈ standard,
      binding.2.bindsValues = !coordinateParameters.contains binding.1 := by decide
  rcases resolve_cases h with hget | ⟨hnone, name, rfl⟩
  · exact hstandard _ (Bindings.mem_of_get? hget)
  · have hother : coordinateParameters.contains parameter = false := by
      rw [List.contains_eq_mem, decide_eq_false_iff_not]
      intro hc
      have hsub : ∀ name ∈ coordinateParameters, name ∈ Bindings.names standard := by decide
      exact Bindings.get?_eq_none_iff.mp hnone (hsub _ hc)
    rw [hother]
    rfl

theorem id_valueParams_nodup (scope : Scope) (kind : FilterKind) (values : List String) :
    ((valueParams scope kind values).map (·.id)).Nodup := by
  have hids : (valueParams scope kind values).map (·.id) =
      (List.range values.length).map (ParamId.value scope.filter) := by
    rw [valueParams, List.map_map, List.range_eq_range', ← List.zipIdx_map_snd 0 values,
      List.map_map]
    rfl
  rw [hids]
  refine List.Nodup.map ?_ List.nodup_range
  intro i j h
  exact (ParamId.value.inj h).2

/-- The numbers in the parameters of a condition are that of its filter. -/
theorem filter_eq_of_mem_params {strategy : Strategy} {scope : Scope} {filter : Filter}
    (hwindow : TimeRange.IsWindow scope.time) {p : Param}
    (hp : p ∈ strategy.params scope filter) {k i : Nat} (hid : p.id = .value k i) :
    k = scope.filter := by
  rcases of_mem_params hp with hp | hp
  · rcases List.mem_cons.mp hp with rfl | hp
    · cases hid
    · rcases hwindow.mem_params hp with ⟨t, rfl⟩ | ⟨t, rfl⟩
      · cases hid
      · cases hid
  · obtain ⟨-, j, hj⟩ := of_mem_valueParams hp
    rw [hj] at hid
    exact (ParamId.value.inj hid).1.symm

/-- The new parameters of a condition are those of its values. -/
theorem unnamedFrom_params {strategy : Strategy} {scope : Scope} {filter : Filter}
    (hwindow : TimeRange.IsWindow scope.time) {seen : List ParamId}
    (hseen : ∀ i, ParamId.value scope.filter i ∉ seen) :
    unnamedFrom seen (strategy.params scope filter) =
      if strategy.bindsValues then valueParams scope filter.kind filter.values else [] := by
  have hfresh : ∀ seen' : List ParamId, (∀ i, ParamId.value scope.filter i ∉ seen') →
      unnamedFrom seen' (valueParams scope filter.kind filter.values) =
        valueParams scope filter.kind filter.values := by
    intro seen' hseen'
    refine unnamedFrom_of_fresh (fun p hp => (of_mem_valueParams hp).1)
      (id_valueParams_nodup ..) ?_
    intro p hp
    obtain ⟨-, i, hid⟩ := of_mem_valueParams hp
    rw [hid]
    exact hseen' i
  have hscope : ∀ p ∈ scope.params, p.name.isSome ∧ ∀ i, p.id ≠ .value scope.filter i := by
    intro p hp
    rcases List.mem_cons.mp hp with rfl | hp
    · exact ⟨rfl, nofun⟩
    · rcases hwindow.mem_params hp with ⟨t, rfl⟩ | ⟨t, rfl⟩
      · exact ⟨rfl, nofun⟩
      · exact ⟨rfl, nofun⟩
  -- The parameters of a scope bring along their names and use up no number.
  have hbehind : unnamedFrom seen (scope.params ++ valueParams scope filter.kind filter.values) =
      valueParams scope filter.kind filter.values := by
    rw [unnamedFrom_append, unnamedFrom_of_named (fun p hp => (hscope p hp).1), List.nil_append]
    refine hfresh _ ?_
    intro i hm
    rcases List.mem_append.mp hm with hm | hm
    · exact hseen i hm
    · obtain ⟨p, hp, hid⟩ := List.mem_map.mp hm
      exact (hscope p hp).2 i hid
  cases strategy with
  | column c => exact hfresh seen hseen
  | urlParameter name => exact hfresh seen hseen
  | sessionEvent c => exact hbehind
  | sessionPath aggregate label => exact hbehind
  | identity columns =>
    cases columns with
    | nil =>
      have hnone : (identity []).params scope filter = [] :=
        List.flatMap_eq_nil_iff.mpr fun _ _ => rfl
      rw [hnone]
      rfl
    | cons c columns =>
      exact (unnamedFrom_copies (List.cons_ne_nil c columns) _ _).trans (hfresh seen hseen)
  | tolerance c t => rfl

end Strategy

/-! ## Numbered values -/

namespace Filter

/-- The filters whose values are parameters. -/
def binding (filters : List Filter) : List Filter :=
  filters.filter fun filter => !Strategy.coordinateParameters.contains filter.parameter

/-- The values as they are compared. -/
def comparedValues (filters : List Filter) : List Value :=
  filters.flatMap fun filter =>
    filter.values.map fun value => .text (Strategy.comparedText filter.kind value)

theorem comparedValues_cons (filter : Filter) (filters : List Filter) :
    comparedValues (binding (filter :: filters)) =
      (if !Strategy.coordinateParameters.contains filter.parameter then
        filter.values.map fun value => .text (Strategy.comparedText filter.kind value)
      else []) ++ comparedValues (binding filters) := by
  rw [binding, binding, List.filter_cons]
  split
  · rfl
  · rfl

theorem values_valueParams (scope : Scope) (kind : FilterKind) (values : List String) :
    (Strategy.valueParams scope kind values).map (·.value) =
      values.map fun value => .text (Strategy.comparedText kind value) := by
  have hfst : values = values.zipIdx.map Prod.fst := (List.zipIdx_map_fst 0 values).symm
  rw [Strategy.valueParams, List.map_map]
  conv => rhs; rw [hfst, List.map_map]
  rfl

/-- The new parameters of a list of filters have the values in order. -/
theorem values_unnamedFrom {site : Int} {time : Option Expr} (hwindow : TimeRange.IsWindow time)
    {filters : List Filter} {n : Nat} {es : List Expr}
    (h : conditionsFrom Strategy.standard site time n filters = .ok es) {seen : List ParamId}
    (hseen : ∀ k i, n ≤ k → ParamId.value k i ∉ seen) :
    (unnamedFrom seen (paramsOfAll es)).map (·.value) = comparedValues (binding filters) := by
  induction filters generalizing n es seen with
  | nil =>
    cases h
    rfl
  | cons filter filters ih =>
    obtain ⟨strategy, e, rest, hstrategy, he, hrest, rfl⟩ := conditionsFrom_cons_eq_ok h
    have hparams :=
      (Strategy.build_isPlain (Strategy.resolve_isPlain hstrategy) hwindow.optionPlain he).2
    have hfirst := @Strategy.unnamedFrom_params strategy ⟨n, site, time⟩ filter hwindow seen
      fun i => hseen n i (Nat.le_refl n)
    have hseen' : ∀ k i, n + 1 ≤ k → ParamId.value k i ∉ seen ++ e.params.map (·.id) := by
      intro k i hk hm
      rcases List.mem_append.mp hm with hm | hm
      · exact hseen k i (Nat.le_of_succ_le hk) hm
      · obtain ⟨p, hp, hid⟩ := List.mem_map.mp hm
        rw [hparams] at hp
        have := Strategy.filter_eq_of_mem_params hwindow hp hid
        exact absurd hk (by rw [this]; exact Nat.not_succ_le_self n)
    rw [paramsOfAll, unnamedFrom_append, List.map_append, ih hrest hseen', hparams, hfirst,
      Strategy.bindsValues_eq hstrategy, comparedValues_cons]
    split
    · rw [values_valueParams]
    · rfl

end Filter

/-! ## Texts without values -/

/-- Filters that differ in their values only, and not even there if these are coordinates. -/
structure Filter.SameShape (g h : Filter) : Prop where
  parameter : g.parameter = h.parameter
  kind : g.kind = h.kind
  count : g.values.length = h.values.length
  coordinates : g.parameter ∈ Strategy.coordinateParameters → g.values = h.values

namespace Strategy

section

variable {scope : Scope} {kind : FilterKind} {values values' : List String}

/-- The parameters of as many values have the same keys. -/
theorem map_valueParams_congr {β : Type} (g : Param → β) (hg : ∀ p q, p.key = q.key → g p = g q)
    (hlength : values.length = values'.length) :
    (valueParams scope kind values).map g = (valueParams scope kind values').map g := by
  refine List.ext_getElem ?_ ?_
  · simp only [valueParams, List.length_map, List.length_zipIdx, hlength]
  · intro i hi hi'
    simp only [valueParams, List.getElem_map, List.getElem_zipIdx]
    exact hg _ _ rfl

theorem params_key {strategy : Strategy} {g h : Filter} (hshape : g.SameShape h) :
    (strategy.params scope g).map Param.key = (strategy.params scope h).map Param.key := by
  have hvalues : (valueParams scope g.kind g.values).map Param.key =
      (valueParams scope h.kind h.values).map Param.key := by
    rw [hshape.kind]
    exact map_valueParams_congr _ (fun _ _ hk => hk) hshape.count
  cases strategy with
  | column c => exact hvalues
  | urlParameter name => exact hvalues
  | sessionEvent c => rw [params, params, List.map_append, List.map_append, hvalues]
  | sessionPath aggregate label =>
    rw [params, params, List.map_append, List.map_append, hvalues]
  | identity columns =>
    have hcopies : ∀ ps : List Param, (ps.flatMap fun p => columns.map fun _ => p).map Param.key =
        (ps.map Param.key).flatMap fun k => columns.map fun _ => k := by
      intro ps
      rw [List.map_flatMap, List.flatMap_map]
      simp only [List.map_map, Function.comp_def]
    rw [params, params, hcopies, hcopies, hvalues]
  | tolerance c t => rfl

end

section

variable {name : Param → String} (hname : ∀ p q : Param, p.key = q.key → name p = name q)
  {scope : Scope} {kind : FilterKind} {values values' : List String}

theorem junction_sql (name : Param → String) (kind : FilterKind) (es : List Expr) :
    (junction kind es).sql name =
      junctionSql (if kind.isNegated then " AND " else " OR ") (sqlOfAll name es) := by
  unfold junction
  split
  · rfl
  · split
    · rfl
    · rfl

theorem compareValue_sql {p q : Param} (h : name p = name q) (kind : FilterKind) (c : Column) :
    (compareValue kind p c).sql name = (compareValue kind q c).sql name := by
  cases kind <;> simp only [compareValue, Expr.sql, h]

include hname

theorem compareValues_sql (hlength : values.length = values'.length) (c : Column) :
    sqlOfAll name ((valueParams scope kind values).map fun p => compareValue kind p c) =
      sqlOfAll name ((valueParams scope kind values').map fun p => compareValue kind p c) := by
  rw [sqlOfAll_eq_map, sqlOfAll_eq_map, List.map_map, List.map_map]
  refine map_valueParams_congr _ ?_ hlength
  intro p q hk
  exact compareValue_sql (hname p q hk) kind c

theorem compareColumn_sql (hlength : values.length = values'.length) (c : Column) :
    (compareColumn scope kind values c).sql name =
      (compareColumn scope kind values' c).sql name := by
  rw [compareColumn, compareColumn, junction_sql, junction_sql, compareValues_sql hname hlength]

theorem buildIdentity_sql (hlength : values.length = values'.length) (columns : List Column) :
    (buildIdentity scope kind values columns).sql name =
      (buildIdentity scope kind values' columns).sql name := by
  rw [buildIdentity, buildIdentity, junction_sql, junction_sql, sqlOfAll_eq_map, sqlOfAll_eq_map,
    List.map_map, List.map_map]
  refine congrArg _ (map_valueParams_congr _ ?_ hlength)
  intro p q hk
  have hcolumns : sqlOfAll name (columns.map (compareValue kind p)) =
      sqlOfAll name (columns.map (compareValue kind q)) := by
    rw [sqlOfAll_eq_map, sqlOfAll_eq_map, List.map_map, List.map_map]
    exact List.map_congr_left fun c _ => compareValue_sql (hname p q hk) kind c
  cases hkind : kind.isNegated with
  | true => exact congrArg (junctionSql " AND ") hcolumns
  | false => exact congrArg (junctionSql " OR ") hcolumns

end

/-- A comparison for an inclusion is no conjunction. -/
theorem conjuncts_compareColumn_positive (scope : Scope) (kind : FilterKind)
    (values : List String) (c : Column) :
    (compareColumn scope kind.positive values c).conjuncts =
      [compareColumn scope kind.positive values c] := by
  have hpositive : kind.positive.isNegated = false := by cases kind <;> rfl
  have hvalue : ∀ p,
      (compareValue kind.positive p c).conjuncts = [compareValue kind.positive p c] := by
    intro p
    cases kind <;> rfl
  unfold compareColumn junction
  split
  · next e he =>
    obtain ⟨p, -, rfl⟩ : ∃ p ∈ valueParams scope kind.positive values,
        compareValue kind.positive p c = e := List.mem_map.mp (he ▸ List.mem_singleton_self e)
    exact hvalue p
  · rw [hpositive]
    rfl

/-- At the top of a clause, a comparison for an exclusion has no parentheses. -/
theorem compareColumn_conditionSql_eq (name : Param → String) (scope : Scope) (kind : FilterKind)
    (values : List String) (c : Column) :
    (compareColumn scope kind values c).conditionSql name =
      if kind.isNegated then " AND ".intercalate (sqlOfAll name
        ((valueParams scope kind values).map fun p => compareValue kind p c))
      else (compareColumn scope kind values c).sql name := by
  have hvalue : ∀ p,
      (compareValue kind p c).conditionSql name = (compareValue kind p c).sql name := by
    intro p
    cases kind <;> rfl
  unfold compareColumn junction
  split
  · next e he =>
    obtain ⟨p, -, rfl⟩ : ∃ p ∈ valueParams scope kind values, compareValue kind p c = e :=
      List.mem_map.mp (he ▸ List.mem_singleton_self e)
    rw [he, hvalue, sqlOfAll, sqlOfAll, String.intercalate_singleton]
    split
    · rfl
    · rfl
  · split
    · rfl
    · rfl

/-- The text of a restriction to a scope: a conjunction that begins with the site. -/
theorem whereSql_restrict (name : Param → String) (scope : Scope) (conditions : List Expr) :
    whereSql name (scope.restrict conditions) = " WHERE " ++ " AND ".intercalate (sqlOfAll name
      (siteCondition (.site scope.filter) scope.site ::
        (scope.time.toList ++ conditions).flatMap Expr.conjuncts)) := by
  have hitems : (some (siteCondition (.site scope.filter) scope.site) :: scope.time ::
      conditions.map some).reduceOption =
      siteCondition (.site scope.filter) scope.site :: (scope.time.toList ++ conditions) := by
    cases scope.time with
    | none =>
      rw [List.reduceOption_cons_of_some, List.reduceOption_cons_of_none, reduceOption_map_some]
      rfl
    | some e =>
      rw [List.reduceOption_cons_of_some, List.reduceOption_cons_of_some, reduceOption_map_some]
      rfl
  rw [Scope.restrict, Expr.conjoin_eq, hitems, List.flatMap_cons]
  cases (scope.time.toList ++ conditions).flatMap Expr.conjuncts with
  | nil => rfl
  | cons e es => rfl

section

variable {name : Param → String} (hname : ∀ p q : Param, p.key = q.key → name p = name q)
  {scope : Scope} {kind : FilterKind} {values values' : List String}

include hname

theorem compareColumn_conditionSql (hlength : values.length = values'.length) (c : Column) :
    (compareColumn scope kind values c).conditionSql name =
      (compareColumn scope kind values' c).conditionSql name := by
  rw [compareColumn_conditionSql_eq, compareColumn_conditionSql_eq,
    compareColumn_sql hname hlength, compareValues_sql hname hlength]

theorem buildSessionEvent_sql (hlength : values.length = values'.length) (c : Column) :
    (buildSessionEvent scope kind values c).sql name =
      (buildSessionEvent scope kind values' c).sql name := by
  have hmatch := @compareColumn_sql name hname scope kind.positive values values' hlength c
  have hwhere : whereSql name (scope.restrict [compareColumn scope kind.positive values c]) =
      whereSql name (scope.restrict [compareColumn scope kind.positive values' c]) := by
    rw [whereSql_restrict, whereSql_restrict, List.flatMap_append, List.flatMap_append]
    simp only [List.flatMap_cons, List.flatMap_nil, List.append_nil,
      conjuncts_compareColumn_positive, sqlOfAll_eq_map, List.map_cons, List.map_append,
      List.map_nil, hmatch]
  simp only [buildSessionEvent, Expr.sql, Select.sql, hwhere]

theorem buildSessionPath_sql (hlength : values.length = values'.length)
    (aggregate label : String) :
    (buildSessionPath scope kind values aggregate label).sql name =
      (buildSessionPath scope kind values' aggregate label).sql name := by
  have hpath := @compareColumn_conditionSql name hname scope kind values values' hlength
    (.other label)
  simp only [buildSessionPath, Expr.sql, Select.sql, whereSql_some, hpath]

/-- The text of a condition does not depend on the values of its filter. -/
theorem build_sql {strategy : Strategy} {g h : Filter} (hshape : g.SameShape h)
    (hvalues : strategy.bindsValues = false → g.values = h.values) {e e' : Expr}
    (he : strategy.build scope g = .ok e) (he' : strategy.build scope h = .ok e') :
    e.sql name = e'.sql name := by
  obtain ⟨parameter, kind, values⟩ := g
  obtain ⟨parameter', kind', values'⟩ := h
  obtain ⟨rfl, rfl, hcount, -⟩ := hshape
  cases strategy with
  | column c =>
    cases he
    cases he'
    exact compareColumn_sql hname hcount c
  | urlParameter url =>
    cases he
    cases he'
    exact compareColumn_sql hname hcount _
  | sessionEvent c =>
    cases he
    cases he'
    exact buildSessionEvent_sql hname hcount c
  | sessionPath aggregate label =>
    cases he
    cases he'
    exact buildSessionPath_sql hname hcount aggregate label
  | identity columns =>
    cases he
    cases he'
    exact buildIdentity_sql hname hcount columns
  | tolerance c t =>
    obtain rfl : values = values' := hvalues rfl
    rw [he] at he'
    cases he'
    rfl

end

end Strategy

namespace Filter

/-- The conditions of filters of the same shape have the same texts and keys. -/
theorem conditionsFrom_sql {name : Param → String}
    (hname : ∀ p q : Param, p.key = q.key → name p = name q) {site : Int} {time : Option Expr}
    (htime : OptionPlain time) {filters filters' : List Filter}
    (hshape : List.Forall₂ SameShape filters filters') {n : Nat} {es es' : List Expr}
    (h : conditionsFrom Strategy.standard site time n filters = .ok es)
    (h' : conditionsFrom Strategy.standard site time n filters' = .ok es') :
    sqlOfAll name es = sqlOfAll name es' ∧
      (paramsOfAll es).map Param.key = (paramsOfAll es').map Param.key := by
  induction hshape generalizing n es es' with
  | nil =>
    cases h
    cases h'
    exact ⟨rfl, rfl⟩
  | @cons f g filters filters' hfg hrest ih =>
    obtain ⟨strategy, e, rest, hstrategy, he, hrest, rfl⟩ := conditionsFrom_cons_eq_ok h
    obtain ⟨strategy', e', rest', hstrategy', he', hrest', rfl⟩ := conditionsFrom_cons_eq_ok h'
    rw [← hfg.parameter, hstrategy] at hstrategy'
    cases hstrategy'
    have hvalues : strategy.bindsValues = false → f.values = g.values := by
      intro hb
      rw [Strategy.bindsValues_eq hstrategy, Bool.not_eq_false', List.contains_iff_mem] at hb
      exact hfg.coordinates hb
    have hs := Strategy.resolve_isPlain hstrategy
    have hkeys : e.params.map Param.key = e'.params.map Param.key := by
      rw [(Strategy.build_isPlain hs htime he).2, (Strategy.build_isPlain hs htime he').2]
      exact Strategy.params_key hfg
    obtain ⟨htexts, hrestKeys⟩ := ih hrest hrest'
    refine ⟨?_, ?_⟩
    · rw [sqlOfAll, sqlOfAll, htexts, Strategy.build_sql hname hfg hvalues he he']
    · rw [paramsOfAll, paramsOfAll, List.map_append, List.map_append, hkeys, hrestKeys]

end Filter

end Clickstream
