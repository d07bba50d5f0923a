import Clickstream.Proofs.Event.Meaning

/-!
# Filters are confined to their scope

Every strategy builds a condition that looks at the events of its scope only
(`Strategy.build_respects`): comparisons read a single row, and every subquery is restricted to the
site and to the time condition, also the one that is grouped by session.  So the conditions of a
list of filters have the same truth over databases that hold the same events of the scope
(`Filter.conditionsFrom_respects`).
-/

namespace Clickstream

namespace Strategy

/-! ## Conditions without subqueries -/

section

variable {R : Database → Database → Prop}

theorem junction_respects (kind : FilterKind) {es : List Expr} (hes : ∀ e ∈ es, e.Respects R) :
    (junction kind es).Respects R := by
  unfold junction
  split
  · exact hes _ List.mem_cons_self
  · split
    · exact Respects.all hes
    · exact Respects.any hes

variable (hR : ∀ db db', R db db' → db.clock = db'.clock)

include hR

theorem compareValue_respects (kind : FilterKind) (p : Param) (c : Column) :
    (compareValue kind p c).Respects R := by
  cases kind <;> exact Respects.compare hR _ _ _

theorem compareColumn_respects (scope : Scope) (kind : FilterKind) (values : List String)
    (c : Column) : (compareColumn scope kind values c).Respects R := by
  refine junction_respects kind fun e he => ?_
  obtain ⟨p, -, rfl⟩ := List.mem_map.mp he
  exact compareValue_respects hR kind p c

theorem buildIdentity_respects (scope : Scope) (kind : FilterKind) (values : List String)
    (columns : List Column) : (buildIdentity scope kind values columns).Respects R := by
  refine junction_respects kind fun e he => ?_
  obtain ⟨p, -, rfl⟩ := List.mem_map.mp he
  have hcompared : ∀ e ∈ columns.map (compareValue kind p), e.Respects R := by
    intro e he
    obtain ⟨c, -, rfl⟩ := List.mem_map.mp he
    exact compareValue_respects hR kind p c
  split
  · exact Respects.all hcompared
  · exact Respects.any hcompared

theorem buildCoordinates_respects {kind : FilterKind} {parameter : String} {c : Column}
    {tolerance : Decimal} {values : List String} {es : List Expr}
    (h : buildCoordinates kind parameter c tolerance values = .ok es) :
    ∀ e ∈ es, e.Respects R := by
  intro e he
  obtain ⟨value, -, hvalue⟩ := of_mem_buildCoordinates h he
  obtain ⟨bounds, -, rfl⟩ := buildCoordinate_eq_ok.mp hvalue
  unfold coordinateCondition
  split
  · refine Respects.any ?_
    simp only [List.forall_mem_cons]
    exact ⟨Respects.compare hR _ _ _, Respects.compare hR _ _ _, Respects.isNull hR _, nofun⟩
  · refine Respects.all ?_
    simp only [List.forall_mem_cons]
    exact ⟨Respects.compare hR _ _ _, Respects.compare hR _ _ _, nofun⟩

end

/-! ## Conditions with subqueries -/

theorem clock_of_sameScope {site : Int} {time : Option Expr} (db db' : Database)
    (h : Database.SameScope site time db db') : db.clock = db'.clock :=
  h.clock

/-- Whether a session has a matching event in the scope is read off the events of the scope. -/
theorem buildSessionEvent_respects (scope : Scope) (kind : FilterKind) (values : List String)
    (c : Column) :
    (buildSessionEvent scope kind values c).Respects
      (Database.SameScope scope.site scope.time) := by
  refine Respects.member ?_ _ _
  intro db db' h
  have hmatch : ∀ e ∈ [compareColumn scope kind.positive values c],
      e.Respects (Database.SameScope scope.site scope.time) := by
    intro e he
    rw [List.mem_singleton.mp he]
    exact compareColumn_respects clock_of_sameScope scope _ values c
  have hkept := keptRows_congr hmatch h
  simp only [Select.firstCells, hkept]

/-- The computed pathname of a session is read off the events of the scope. -/
theorem buildSessionPath_respects (scope : Scope) (kind : FilterKind) (values : List String)
    (aggregate label : String) :
    (buildSessionPath scope kind values aggregate label).Respects
      (Database.SameScope scope.site scope.time) := by
  refine Respects.member ?_ _ _
  intro db db' h
  have hkept := @keptRows_congr scope [] nofun db db' h
  have hpath : ∀ row, passes db row (some (compareColumn scope kind values (.other label))) =
      passes db' row (some (compareColumn scope kind values (.other label))) := by
    intro row
    have := compareColumn_respects clock_of_sameScope scope kind values (.other label) db db' h row
    rw [passes, passes, this]
  simp only [Select.firstCells, Source.rows, Select.rows] at hkept ⊢
  rw [hkept]
  simp only [hpath]

/-- What a strategy builds looks at the events of its scope only. -/
theorem build_respects {strategy : Strategy} {scope : Scope} {filter : Filter} {e : Expr}
    (h : strategy.build scope filter = .ok e) :
    e.Respects (Database.SameScope scope.site scope.time) := by
  cases strategy with
  | column c =>
    cases h
    exact compareColumn_respects clock_of_sameScope _ _ _ _
  | urlParameter name =>
    cases h
    exact compareColumn_respects clock_of_sameScope _ _ _ _
  | sessionEvent c =>
    cases h
    exact buildSessionEvent_respects _ _ _ _
  | sessionPath aggregate label =>
    cases h
    exact buildSessionPath_respects _ _ _ _ _
  | identity columns =>
    cases h
    exact buildIdentity_respects clock_of_sameScope _ _ _ _
  | tolerance c t =>
    simp only [build] at h
    split at h
    · cases h
    · obtain ⟨es, hes, rfl⟩ := Outcome.map_eq_ok.mp h
      exact junction_respects _ (buildCoordinates_respects clock_of_sameScope hes)

end Strategy

/-- The conditions of filters look at the events of their scope only, whatever the strategies
are. -/
theorem Filter.conditionsFrom_respects {strategies : Bindings Strategy} {site : Int}
    {time : Option Expr} {n : Nat} {filters : List Filter} {es : List Expr}
    (h : conditionsFrom strategies site time n filters = .ok es) :
    ∀ e ∈ es, e.Respects (Database.SameScope site time) := by
  induction filters generalizing n es with
  | nil =>
    cases h
    exact nofun
  | cons filter filters ih =>
    obtain ⟨strategy, e, rest, -, he, hrest, rfl⟩ := conditionsFrom_cons_eq_ok h
    exact List.forall_mem_cons.mpr ⟨Strategy.build_respects he, ih hrest⟩

end Clickstream
