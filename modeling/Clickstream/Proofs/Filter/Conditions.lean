import Mathlib.Data.List.ReduceOption
import Clickstream.Filter.Strategy
import Clickstream.Proofs.TimeRange.Window

/-!
# Conditions of filters

What the strategies build.  The conditions are plain (`build_isPlain`), since the strategies name
columns and functions by words and the bounds of a coordinate are finite.  Their parameters are
those of the scope and one for each value (`Strategy.params`); they agree on their names, because
those of the scope are the same in every subquery (`consistent_of_scoped`).
-/

namespace Clickstream

open QueryText

/-! ## Conjunctions -/

theorem reduceOption_map_some {α : Type} (items : List α) :
    (items.map some).reduceOption = items := by
  rw [List.reduceOption, List.filterMap_map]
  exact List.filterMap_some

namespace Expr

theorem paramsOfAll_append (es fs : List Expr) :
    paramsOfAll (es ++ fs) = paramsOfAll es ++ paramsOfAll fs := by
  rw [paramsOfAll_eq_flatMap, paramsOfAll_eq_flatMap, paramsOfAll_eq_flatMap, List.flatMap_append]

theorem paramsOfAll_conjuncts (e : Expr) : paramsOfAll e.conjuncts = e.params := by
  cases e with
  | all items => rfl
  | _ => exact List.append_nil _

theorem allPlain_conjuncts {e : Expr} (h : e.IsPlain) : AllPlain e.conjuncts := by
  cases e with
  | all items => exact h
  | _ => exact ⟨h, trivial⟩

/-- The conjunction of conditions that are no conjunctions themselves. -/
def ofConjuncts : List Expr → Option Expr
  | [] => none
  | [e] => some e
  | kept => some (.all kept)

theorem conjoin_eq (items : List (Option Expr)) :
    conjoin items = ofConjuncts (items.reduceOption.flatMap conjuncts) := by
  unfold conjoin
  rcases items.reduceOption.flatMap conjuncts with _ | ⟨e, _ | ⟨e', es⟩⟩
  · rfl
  · rfl
  · rfl

theorem paramsOfCondition_ofConjuncts : ∀ es : List Expr,
    paramsOfCondition (ofConjuncts es) = paramsOfAll es
  | [] => rfl
  | [_] => (List.append_nil _).symm
  | _ :: _ :: _ => rfl

theorem optionPlain_ofConjuncts : ∀ {es : List Expr}, AllPlain es → OptionPlain (ofConjuncts es)
  | [], _ => trivial
  | [_], h => h.1
  | _ :: _ :: _, h => h

/-- A conjunction has the parameters of its items. -/
theorem paramsOfCondition_conjoin (items : List (Option Expr)) :
    paramsOfCondition (conjoin items) = paramsOfAll items.reduceOption := by
  rw [conjoin_eq, paramsOfCondition_ofConjuncts]
  induction items.reduceOption with
  | nil => rfl
  | cons e es ih =>
    rw [List.flatMap_cons, paramsOfAll_append, ih, paramsOfAll_conjuncts]
    rfl

/-- A conjunction of plain conditions is plain. -/
theorem optionPlain_conjoin {items : List (Option Expr)} (h : ∀ e ∈ items, OptionPlain e) :
    OptionPlain (conjoin items) := by
  rw [conjoin_eq]
  refine optionPlain_ofConjuncts (allPlain_iff.mpr ?_)
  intro e he
  obtain ⟨item, hitem, he⟩ := List.mem_flatMap.mp he
  have hplain : OptionPlain (some item) := h _ (List.reduceOption_mem_iff.mp hitem)
  exact allPlain_iff.mp (allPlain_conjuncts hplain) e he

end Expr

/-! ## Scopes -/

namespace Scope

/-- The parameters of a scope. -/
def params (scope : Scope) : List Param :=
  ⟨.site scope.filter, .int scope.site, some "site_id"⟩ :: paramsOfCondition scope.time

theorem params_restrict (scope : Scope) (conditions : List Expr) :
    paramsOfCondition (scope.restrict conditions) = scope.params ++ paramsOfAll conditions := by
  have hkept := reduceOption_map_some conditions
  rw [restrict, Expr.paramsOfCondition_conjoin]
  cases htime : scope.time with
  | none =>
    rw [List.reduceOption_cons_of_some, List.reduceOption_cons_of_none, hkept, params, htime]
    rfl
  | some e =>
    rw [List.reduceOption_cons_of_some, List.reduceOption_cons_of_some, hkept, params, htime,
      paramsOfAll, paramsOfAll]
    rfl

theorem optionPlain_restrict {scope : Scope} (htime : OptionPlain scope.time)
    {conditions : List Expr} (h : AllPlain conditions) :
    OptionPlain (scope.restrict conditions) := by
  refine Expr.optionPlain_conjoin ?_
  intro item hitem
  rcases List.mem_cons.mp hitem with rfl | hitem
  · exact ⟨rfl, trivial⟩
  · rcases List.mem_cons.mp hitem with rfl | hitem
    · exact htime
    · obtain ⟨e, he, rfl⟩ := List.mem_map.mp hitem
      exact allPlain_iff.mp h e he

end Scope

/-- The parameters that a condition in a scope may have. -/
def IsScoped (site : Int) (time : Option Expr) (p : Param) : Prop :=
  p.name = none ∨ (p.name = some "site_id" ∧ p.value = .int site) ∨ p ∈ paramsOfCondition time

/-- Parameters of conditions in one scope agree. -/
theorem consistent_of_scoped {site : Int} {time : Option Expr} (htime : TimeRange.IsWindow time)
    {ps : List Param} (h : ∀ p ∈ ps, IsScoped site time p) : Consistent ps := by
  constructor
  · intro p hp name hname
    rcases h p hp with hn | ⟨hn, -⟩ | hn
    · rw [hname] at hn
      cases hn
    · rw [hname] at hn
      cases hn
      decide
    · exact htime.consistent.reserved p hn name hname
  · intro p hp q hq name hpn hqn
    rcases h p hp with hn | ⟨hn, hpv⟩ | hn
    · rw [hpn] at hn
      cases hn
    · rcases h q hq with hm | ⟨-, hqv⟩ | hm
      · rw [hqn] at hm
        cases hm
      · rw [hpv, hqv]
        exact same_int site
      · exact absurd (hqn.trans (hpn.symm.trans hn)) (htime.name_ne_site hm)
    · rcases h q hq with hm | ⟨hm, -⟩ | hm
      · rw [hqn] at hm
        cases hm
      · exact absurd (hpn.trans (hqn.symm.trans hm)) (htime.name_ne_site hn)
      · exact htime.consistent.same p hn q hm name hpn hqn

/-! ## What strategies build -/

namespace Strategy

section

variable {scope : Scope} {kind : FilterKind} {values : List String}

theorem comparedText_positive (kind : FilterKind) (value : String) :
    comparedText kind.positive value = comparedText kind value := by
  cases kind <;> rfl

theorem valueParams_positive (scope : Scope) (kind : FilterKind) (values : List String) :
    valueParams scope kind.positive values = valueParams scope kind values := by
  simp only [valueParams, comparedText_positive]

/-- The parameter of a value has no name of its own. -/
theorem of_mem_valueParams {p : Param} (h : p ∈ valueParams scope kind values) :
    p.name = none ∧ ∃ i, p.id = .value scope.filter i := by
  obtain ⟨value, -, rfl⟩ := List.mem_map.mp h
  exact ⟨rfl, value.2, rfl⟩

theorem compareValue_params (kind : FilterKind) (p : Param) (c : Column) :
    (compareValue kind p c).params = [p] := by
  cases kind <;> rfl

theorem compareValue_isPlain (kind : FilterKind) (p : Param) {c : Column}
    (h : c.isPlain = true) : (compareValue kind p c).IsPlain := by
  cases kind with
  | equals => exact ⟨h, trivial⟩
  | notEquals => exact ⟨h, trivial⟩
  | contains => exact ⟨h, trivial⟩
  | notContains => exact ⟨⟨by decide, h, trivial, trivial⟩, trivial⟩

theorem junction_params (kind : FilterKind) (es : List Expr) :
    (junction kind es).params = paramsOfAll es := by
  unfold junction
  split
  · exact (List.append_nil _).symm
  · split
    · rfl
    · rfl

theorem junction_isPlain (kind : FilterKind) {es : List Expr} (h : AllPlain es) :
    (junction kind es).IsPlain := by
  unfold junction
  split
  · exact h.1
  · split
    · exact h
    · exact h

theorem compareColumn_params (scope : Scope) (kind : FilterKind) (values : List String)
    (c : Column) : (compareColumn scope kind values c).params = valueParams scope kind values := by
  rw [compareColumn, junction_params, paramsOfAll_eq_flatMap, List.flatMap_map]
  simp only [compareValue_params, List.flatMap_singleton']

theorem compareColumn_isPlain {c : Column} (h : c.isPlain = true) :
    (compareColumn scope kind values c).IsPlain := by
  refine junction_isPlain kind (allPlain_iff.mpr ?_)
  intro e he
  obtain ⟨p, -, rfl⟩ := List.mem_map.mp he
  exact compareValue_isPlain kind p h

theorem eventsTable_isPlain : (Source.table eventsTable).IsPlain := by
  show isName eventsTable = true
  decide

theorem buildSessionEvent_params (scope : Scope) (kind : FilterKind) (values : List String)
    (c : Column) : (buildSessionEvent scope kind values c).params =
      scope.params ++ valueParams scope kind values := by
  rw [buildSessionEvent, Expr.params, Select.params, Source.params, Scope.params_restrict,
    paramsOfAll, compareColumn_params, valueParams_positive]
  simp only [paramsOfAll, List.append_nil, List.nil_append]

theorem buildSessionEvent_isPlain (htime : OptionPlain scope.time) {c : Column}
    (h : c.isPlain = true) : (buildSessionEvent scope kind values c).IsPlain := by
  refine ⟨rfl, ?_, eventsTable_isPlain, ?_, nofun⟩
  · intro output ho
    rw [List.mem_singleton.mp ho]
    exact rfl
  · exact Scope.optionPlain_restrict htime ⟨compareColumn_isPlain h, trivial⟩

theorem buildSessionPath_params (scope : Scope) (kind : FilterKind) (values : List String)
    (aggregate label : String) : (buildSessionPath scope kind values aggregate label).params =
      scope.params ++ valueParams scope kind values := by
  rw [buildSessionPath, Expr.params, Select.params, Source.params, Select.params, Source.params,
    Scope.params_restrict, paramsOfCondition, compareColumn_params]
  simp only [paramsOfAll, List.append_nil, List.nil_append]

theorem isName_tableName {label : String} (h : isName label = true) (isDistinct : Bool)
    (outputs : List Output) (source : Source) (condition : Option Expr) (groupBy : List Column) :
    isName (Select.tableName (.mk isDistinct outputs source condition groupBy (some label))) =
      true := by
  unfold Select.tableName
  split
  · decide
  · decide
  · next heq =>
    cases heq
    exact h

theorem buildSessionPath_isPlain (htime : OptionPlain scope.time) {aggregate label : String}
    (haggregate : isName aggregate = true) (hlabel : isName label = true)
    (htable : isName (label ++ "s") = true) (hcolumn : (Column.other label).isPlain = true) :
    (buildSessionPath scope kind values aggregate label).IsPlain := by
  refine ⟨rfl, ?_, ⟨⟨?_, eventsTable_isPlain, ?_, ?_⟩, isName_tableName htable ..⟩, ?_, nofun⟩
  · intro output ho
    rw [List.mem_singleton.mp ho]
    exact rfl
  · intro output ho
    rcases List.mem_pair.mp ho with rfl | rfl
    · exact rfl
    · exact ⟨haggregate, hlabel⟩
  · exact Scope.optionPlain_restrict htime trivial
  · intro c hc
    rw [List.mem_singleton.mp hc]
    rfl
  · exact compareColumn_isPlain hcolumn

theorem buildIdentity_params (scope : Scope) (kind : FilterKind) (values : List String)
    (columns : List Column) : (buildIdentity scope kind values columns).params =
      (valueParams scope kind values).flatMap fun p => columns.map fun _ => p := by
  have hitem : ∀ p : Param, (if kind.isNegated then Expr.all (columns.map (compareValue kind p))
      else .any (columns.map (compareValue kind p))).params = columns.map fun _ => p := by
    intro p
    have hall : paramsOfAll (columns.map (compareValue kind p)) = columns.map fun _ => p := by
      rw [paramsOfAll_eq_flatMap, List.flatMap_map]
      simp only [compareValue_params, List.map_eq_flatMap]
    split
    · exact hall
    · exact hall
  rw [buildIdentity, junction_params, paramsOfAll_eq_flatMap, List.flatMap_map]
  simp only [hitem]

theorem buildIdentity_isPlain {columns : List Column} (h : ∀ c ∈ columns, c.isPlain = true) :
    (buildIdentity scope kind values columns).IsPlain := by
  refine junction_isPlain kind (allPlain_iff.mpr ?_)
  intro e he
  obtain ⟨p, -, rfl⟩ := List.mem_map.mp he
  have hall : AllPlain (columns.map (compareValue kind p)) := by
    refine allPlain_iff.mpr ?_
    intro e he
    obtain ⟨c, hc, rfl⟩ := List.mem_map.mp he
    exact compareValue_isPlain kind p (h c hc)
  split
  · exact hall
  · exact hall

end

/-! ### Coordinates -/

theorem isFinite_of_round {ctx : DecimalContext} {negative : Bool} {coefficient : Nat}
    {exponent : Int} {d : Decimal} (h : Decimal.round ctx negative coefficient exponent = .ok d) :
    d.isFinite = true := by
  have hfinite : ∀ (c : Nat) (e : Int), (if ctx.maxExponent < e + Decimal.digitCount c - 1 then
      .error .overflow else .ok (.finite negative c e) : Except DecimalSignal Decimal) = .ok d →
      d.isFinite = true := by
    intro c e h
    split at h
    · cases h
    · cases h
      rfl
  unfold Decimal.round at h
  split at h
  · cases h
    rfl
  · simp only at h
    split at h
    · exact hfinite _ _ h
    · exact hfinite _ _ h

theorem isFinite_of_add {ctx : DecimalContext} {x y d : Decimal} (hx : x.isFinite = true)
    (hy : y.isFinite = true) (h : Decimal.add ctx x y = .ok d) : d.isFinite = true := by
  cases x with
  | infinite _ => cases hx
  | nan _ _ _ => cases hx
  | finite s₁ c₁ e₁ =>
    cases y with
    | infinite _ => cases hy
    | nan _ _ _ => cases hy
    | finite s₂ c₂ e₂ =>
      have h : (if e₁ < e₂ then Decimal.addAligned ctx s₂ c₂ e₂ s₁ c₁ e₁
          else Decimal.addAligned ctx s₁ c₁ e₁ s₂ c₂ e₂) = .ok d := h
      split at h
      · exact isFinite_of_round h
      · exact isFinite_of_round h

theorem isFinite_negate {d : Decimal} (h : d.isFinite = true) : d.negate.isFinite = true := by
  cases d with
  | finite _ _ _ => rfl
  | infinite _ => cases h
  | nan _ _ _ => cases h

theorem decimalOutcome_eq_ok {x : Except DecimalSignal Decimal} {d : Decimal}
    (h : decimalOutcome x = .ok d) : x = .ok d := by
  cases x with
  | error signal => cases h
  | ok e => exact congrArg Except.ok (Except.ok.inj h)

theorem isFinite_of_readCoordinate {parameter value : String} {d : Decimal}
    (h : readCoordinate parameter value = .ok d) : d.isFinite = true := by
  unfold readCoordinate at h
  split at h
  · cases h
  · split at h
    · next hfinite =>
      cases h
      exact hfinite
    · cases h

/-- The bounds between which a coordinate matches a value.  The value has to be a finite numeral. -/
def coordinateBounds (parameter : String) (tolerance : Decimal) (value : String) :
    Outcome (Decimal × Decimal) := do
  let target ← readCoordinate parameter value
  let low ← decimalOutcome (Decimal.sub .standard target tolerance)
  let high ← decimalOutcome (Decimal.add .standard target tolerance)
  .ok (low, high)

/-- The condition for a coordinate with its bounds. -/
def coordinateCondition (kind : FilterKind) (c : Column) (bounds : Decimal × Decimal) : Expr :=
  if kind.isNegated then
    .any [.compare (.column c) .lt (.number bounds.1), .compare (.column c) .gt (.number bounds.2),
      .isNull (.column c)]
  else
    .all [.compare (.column c) .ge (.number bounds.1), .compare (.column c) .le (.number bounds.2)]

theorem buildCoordinate_eq (kind : FilterKind) (parameter : String) (c : Column)
    (tolerance : Decimal) (value : String) :
    buildCoordinate kind parameter c tolerance value =
      (coordinateBounds parameter tolerance value).map (coordinateCondition kind c) := by
  unfold buildCoordinate coordinateBounds
  cases readCoordinate parameter value with
  | error e => rfl
  | ok target =>
    rw [Outcome.ok_bind, Outcome.ok_bind]
    cases decimalOutcome (Decimal.sub .standard target tolerance) with
    | error e => rfl
    | ok low =>
      rw [Outcome.ok_bind, Outcome.ok_bind]
      cases decimalOutcome (Decimal.add .standard target tolerance) with
      | error e => rfl
      | ok high => cases kind <;> rfl

theorem isFinite_of_coordinateBounds {parameter value : String} {tolerance : Decimal}
    {bounds : Decimal × Decimal} (h : coordinateBounds parameter tolerance value = .ok bounds)
    (ht : tolerance.isFinite = true) : bounds.1.isFinite = true ∧ bounds.2.isFinite = true := by
  obtain ⟨target, htarget, h⟩ := Outcome.bind_eq_ok.mp h
  obtain ⟨low, hlow, h⟩ := Outcome.bind_eq_ok.mp h
  obtain ⟨high, hhigh, h⟩ := Outcome.bind_eq_ok.mp h
  cases h
  have hfinite := isFinite_of_readCoordinate htarget
  exact ⟨isFinite_of_add hfinite (isFinite_negate ht) (decimalOutcome_eq_ok hlow),
    isFinite_of_add hfinite ht (decimalOutcome_eq_ok hhigh)⟩

section

variable {kind : FilterKind} {parameter : String} {c : Column} {tolerance : Decimal}

theorem buildCoordinate_eq_ok {value : String} {e : Expr} :
    buildCoordinate kind parameter c tolerance value = .ok e ↔
      ∃ bounds, coordinateBounds parameter tolerance value = .ok bounds ∧
        coordinateCondition kind c bounds = e := by
  rw [buildCoordinate_eq, Outcome.map_eq_ok]

theorem buildCoordinate_isPlain (hc : c.isPlain = true) (ht : tolerance.isFinite = true)
    {value : String} {e : Expr} (h : buildCoordinate kind parameter c tolerance value = .ok e) :
    e.IsPlain ∧ e.params = [] := by
  obtain ⟨bounds, hbounds, rfl⟩ := buildCoordinate_eq_ok.mp h
  obtain ⟨hlow, hhigh⟩ := isFinite_of_coordinateBounds hbounds ht
  unfold coordinateCondition
  split
  · exact ⟨⟨⟨hc, hlow⟩, ⟨hc, hhigh⟩, hc, trivial⟩, rfl⟩
  · exact ⟨⟨⟨hc, hlow⟩, ⟨hc, hhigh⟩, trivial⟩, rfl⟩

/-- The conditions for coordinates are those for the values. -/
theorem of_mem_buildCoordinates {values : List String} {es : List Expr}
    (h : buildCoordinates kind parameter c tolerance values = .ok es) {e : Expr} (he : e ∈ es) :
    ∃ value ∈ values, buildCoordinate kind parameter c tolerance value = .ok e := by
  induction values generalizing es with
  | nil =>
    cases h
    cases he
  | cons value values ih =>
    obtain ⟨first, hfirst, h⟩ := Outcome.bind_eq_ok.mp h
    obtain ⟨rest, hrest, h⟩ := Outcome.bind_eq_ok.mp h
    cases h
    rcases List.mem_cons.mp he with rfl | he
    · exact ⟨value, List.mem_cons_self, hfirst⟩
    · obtain ⟨v, hv, he⟩ := ih hrest he
      exact ⟨v, List.mem_cons_of_mem value hv, he⟩

theorem buildCoordinates_isPlain (hc : c.isPlain = true) (ht : tolerance.isFinite = true)
    {values : List String} {es : List Expr}
    (h : buildCoordinates kind parameter c tolerance values = .ok es) :
    AllPlain es ∧ paramsOfAll es = [] := by
  have hplain : ∀ e ∈ es, e.IsPlain ∧ e.params = [] := by
    intro e he
    obtain ⟨value, -, hvalue⟩ := of_mem_buildCoordinates h he
    exact buildCoordinate_isPlain hc ht hvalue
  refine ⟨allPlain_iff.mpr fun e he => (hplain e he).1, ?_⟩
  rw [paramsOfAll_eq_flatMap]
  exact List.flatMap_eq_nil_iff.mpr fun e he => (hplain e he).2

end

/-! ### All strategies -/

/-- The names in a strategy are words, and a tolerance is finite. -/
def IsPlain : Strategy → Bool
  | .column c | .sessionEvent c => c.isPlain
  | .urlParameter _ => true
  | .sessionPath aggregate label =>
    isName aggregate && isName label && isName (label ++ "s") && (Column.other label).isPlain
  | .identity columns => columns.all Column.isPlain
  | .tolerance c t => c.isPlain && t.isFinite

/-- The parameters of what a strategy builds. -/
def params (strategy : Strategy) (scope : Scope) (filter : Filter) : List Param :=
  match strategy with
  | .column _ | .urlParameter _ => valueParams scope filter.kind filter.values
  | .sessionEvent _ | .sessionPath _ _ =>
    scope.params ++ valueParams scope filter.kind filter.values
  | .identity columns =>
    (valueParams scope filter.kind filter.values).flatMap fun p => columns.map fun _ => p
  | .tolerance _ _ => []

/-- A plain strategy builds plain conditions; each value has its parameters in them. -/
theorem build_isPlain {strategy : Strategy} (hs : strategy.IsPlain = true) {scope : Scope}
    (htime : OptionPlain scope.time) {filter : Filter} {e : Expr}
    (h : strategy.build scope filter = .ok e) :
    e.IsPlain ∧ e.params = strategy.params scope filter := by
  cases strategy with
  | column c =>
    cases h
    exact ⟨compareColumn_isPlain hs, compareColumn_params ..⟩
  | urlParameter name =>
    cases h
    exact ⟨compareColumn_isPlain rfl, compareColumn_params ..⟩
  | sessionEvent c =>
    cases h
    exact ⟨buildSessionEvent_isPlain htime hs, buildSessionEvent_params ..⟩
  | sessionPath aggregate label =>
    cases h
    simp only [IsPlain, Bool.and_eq_true] at hs
    obtain ⟨⟨⟨haggregate, hlabel⟩, htable⟩, hcolumn⟩ := hs
    exact ⟨buildSessionPath_isPlain htime haggregate hlabel htable hcolumn,
      buildSessionPath_params ..⟩
  | identity columns =>
    cases h
    exact ⟨buildIdentity_isPlain (List.all_eq_true.mp hs), buildIdentity_params ..⟩
  | tolerance c t =>
    simp only [IsPlain, Bool.and_eq_true] at hs
    simp only [build] at h
    split at h
    · cases h
    · obtain ⟨es, hes, rfl⟩ := Outcome.map_eq_ok.mp h
      obtain ⟨hplain, hparams⟩ := buildCoordinates_isPlain hs.1 hs.2 hes
      exact ⟨junction_isPlain _ hplain, (junction_params _ _).trans hparams⟩

/-- What a strategy builds has the parameters of the scope, and its own. -/
theorem of_mem_params {strategy : Strategy} {scope : Scope} {filter : Filter} {p : Param}
    (h : p ∈ strategy.params scope filter) :
    p ∈ scope.params ∨ p ∈ valueParams scope filter.kind filter.values := by
  cases strategy with
  | column c => exact .inr h
  | urlParameter name => exact .inr h
  | sessionEvent c => exact List.mem_append.mp h
  | sessionPath aggregate label => exact List.mem_append.mp h
  | identity columns =>
    obtain ⟨q, hq, hp⟩ := List.mem_flatMap.mp h
    obtain ⟨c, -, rfl⟩ := List.mem_map.mp hp
    exact .inr hq
  | tolerance c t => cases h

theorem isScoped_of_mem_params {strategy : Strategy} {scope : Scope} {filter : Filter} {p : Param}
    (h : p ∈ strategy.params scope filter) : IsScoped scope.site scope.time p := by
  rcases of_mem_params h with h | h
  · rcases List.mem_cons.mp h with rfl | h
    · exact .inr (.inl ⟨rfl, rfl⟩)
    · exact .inr (.inr h)
  · exact .inl (of_mem_valueParams h).1

/-! ### The standard strategies -/

theorem standard_isPlain {parameter : String} {strategy : Strategy}
    (h : Bindings.get? standard parameter = some strategy) : strategy.IsPlain = true := by
  have hall : ∀ binding ∈ standard, binding.2.IsPlain = true := by decide
  exact hall _ (Bindings.mem_of_get? h)

/-- A strategy is that of a fixed parameter, or else for a parameter of the URL. -/
theorem resolve_cases {strategies : Bindings Strategy} {parameter : String} {strategy : Strategy}
    (h : resolve strategies parameter = .ok strategy) :
    strategies.get? parameter = some strategy ∨
      strategies.get? parameter = none ∧ ∃ name, strategy = .urlParameter name := by
  unfold resolve at h
  cases hget : strategies.get? parameter with
  | some found =>
    rw [hget] at h
    cases h
    exact .inl rfl
  | none =>
    rw [hget] at h
    simp only at h
    split at h
    · unfold ofUrlName at h
      split at h
      · cases h
        exact .inr ⟨rfl, _, rfl⟩
      · cases h
    · cases h

theorem resolve_isPlain {parameter : String} {strategy : Strategy}
    (h : resolve standard parameter = .ok strategy) : strategy.IsPlain = true := by
  rcases resolve_cases h with hget | ⟨-, name, rfl⟩
  · exact standard_isPlain hget
  · rfl

/-! ### Failures -/

section

open Outcome

theorem decimalOutcome_sparesQuery (x : Except DecimalSignal Decimal) :
    SparesQuery (decimalOutcome x) := by
  cases x with
  | error signal => exact .raise _
  | ok d => exact .ok d

theorem readCoordinate_sparesQuery (parameter value : String) :
    SparesQuery (readCoordinate parameter value) := by
  unfold readCoordinate
  split
  · exact .reject _
  · split
    · exact .ok _
    · exact .reject _

theorem buildCoordinates_sparesQuery (kind : FilterKind) (parameter : String) (c : Column)
    (tolerance : Decimal) (values : List String) :
    SparesQuery (buildCoordinates kind parameter c tolerance values) := by
  induction values with
  | nil => exact .ok _
  | cons value values ih =>
    refine .bind ?_ fun _ _ => .bind ih fun _ _ => .ok _
    refine .bind (readCoordinate_sparesQuery _ _) fun _ _ =>
      .bind (decimalOutcome_sparesQuery _) fun _ _ =>
        .bind (decimalOutcome_sparesQuery _) fun _ _ => ?_
    split
    · exact .ok _
    · exact .ok _

theorem build_sparesQuery (strategy : Strategy) (scope : Scope) (filter : Filter) :
    SparesQuery (strategy.build scope filter) := by
  cases strategy with
  | tolerance c t =>
    simp only [build]
    split
    · exact .reject _
    · exact .map (buildCoordinates_sparesQuery _ _ _ _ _) _
  | _ => exact .ok _

theorem resolve_sparesQuery (strategies : Bindings Strategy) (parameter : String) :
    SparesQuery (resolve strategies parameter) := by
  unfold resolve
  split
  · exact .ok _
  · split
    · unfold ofUrlName
      split
      · exact .ok _
      · exact .reject _
    · exact .reject _

end

end Strategy

/-! ## Lists of filters -/

namespace Filter

variable {site : Int} {time : Option Expr} {n : Nat} {filters : List Filter} {es : List Expr}

/-- The conditions of filters are that of the first one, and those of the others. -/
theorem conditionsFrom_cons_eq_ok {strategies : Bindings Strategy} {filter : Filter}
    (h : conditionsFrom strategies site time n (filter :: filters) = .ok es) :
    ∃ strategy e rest, Strategy.resolve strategies filter.parameter = .ok strategy ∧
      strategy.build ⟨n, site, time⟩ filter = .ok e ∧
      conditionsFrom strategies site time (n + 1) filters = .ok rest ∧ es = e :: rest := by
  obtain ⟨strategy, hstrategy, h⟩ := Outcome.bind_eq_ok.mp h
  obtain ⟨e, he, h⟩ := Outcome.bind_eq_ok.mp h
  obtain ⟨rest, hrest, h⟩ := Outcome.bind_eq_ok.mp h
  cases h
  exact ⟨strategy, e, rest, hstrategy, he, hrest, rfl⟩

/-- Each condition is built by the strategy of its filter. -/
theorem forall₂_conditionsFrom {strategies : Bindings Strategy} {R : Filter → Expr → Prop}
    (h : conditionsFrom strategies site time n filters = .ok es)
    (hR : ∀ filter, ∀ e ∈ es, ∀ strategy scope,
      Strategy.resolve strategies filter.parameter = .ok strategy →
      strategy.build scope filter = .ok e → R filter e) :
    List.Forall₂ R filters es := by
  induction filters generalizing n es with
  | nil =>
    cases h
    exact .nil
  | cons filter filters ih =>
    obtain ⟨strategy, e, rest, hstrategy, he, hrest, rfl⟩ := conditionsFrom_cons_eq_ok h
    exact .cons (hR filter e List.mem_cons_self strategy _ hstrategy he)
      (ih hrest fun g e' he' => hR g e' (List.mem_cons_of_mem e he'))

/-- The conditions of filters are plain, one for each filter. -/
theorem conditionsFrom_isPlain (htime : OptionPlain time)
    (h : conditionsFrom Strategy.standard site time n filters = .ok es) :
    AllPlain es ∧ es.length = filters.length ∧ ∀ p ∈ paramsOfAll es, IsScoped site time p := by
  induction filters generalizing n es with
  | nil =>
    cases h
    exact ⟨trivial, rfl, nofun⟩
  | cons filter filters ih =>
    obtain ⟨strategy, e, rest, hstrategy, he, hrest, rfl⟩ := conditionsFrom_cons_eq_ok h
    have hs := Strategy.resolve_isPlain hstrategy
    obtain ⟨hplain, hparams⟩ := Strategy.build_isPlain hs htime he
    obtain ⟨hplains, hlength, hscoped⟩ := ih hrest
    refine ⟨⟨hplain, hplains⟩, congrArg (· + 1) hlength, ?_⟩
    intro p hp
    rcases List.mem_append.mp hp with hp | hp
    · rw [hparams] at hp
      exact Strategy.isScoped_of_mem_params hp
    · exact hscoped p hp

theorem conditionsFrom_sparesQuery (strategies : Bindings Strategy) (site : Int)
    (time : Option Expr) (n : Nat) (filters : List Filter) :
    Outcome.SparesQuery (conditionsFrom strategies site time n filters) := by
  induction filters generalizing n with
  | nil => exact .ok _
  | cons filter filters ih =>
    exact .bind (Strategy.resolve_sparesQuery _ _) fun strategy _ =>
      .bind (Strategy.build_sparesQuery strategy _ _) fun e _ => .bind (ih _) fun _ _ => .ok _

end Filter

end Clickstream
