import Clickstream.Proofs.Event.Meaning

/-!
# The condition of a fragment

A fragment keeps the conjunction of the conditions that it was rendered from, to be rendered again
inside a subquery.  Conditions that are conjunctions are taken apart in it, and the one condition
that may be left is taken apart again where it is written.  Rendered by a renderer of the same stem,
the conjunction binds the parameters of the fragment, it is written as the text of the fragment
without the parentheses around its conjunctions (`Expr.IsRow`), and it means the same in every
reading of conditions (`Expr.IsReading`), that on the rows of a table among them.
-/

namespace Clickstream

/-! ## Truth of conjunctions -/

namespace Truth

theorem and_true (t : Truth) : t.and (some true) = t := by
  rcases t with _ | _ | _ <;> rfl

theorem true_and (t : Truth) : Truth.and (some true) t = t := by
  rcases t with _ | _ | _ <;> rfl

theorem and_assoc (s t u : Truth) : (s.and t).and u = s.and (t.and u) := by
  rcases s with _ | _ | _ <;> rcases t with _ | _ | _ <;> rcases u with _ | _ | _ <;> rfl

theorem all_singleton (t : Truth) : Truth.all [t] = t :=
  t.and_true

theorem all_append (ts us : List Truth) : Truth.all (ts ++ us) = (Truth.all ts).and (.all us) := by
  induction ts with
  | nil => exact (true_and _).symm
  | cons t ts ih =>
    show t.and (Truth.all (ts ++ us)) = (t.and (Truth.all ts)).and (Truth.all us)
    rw [ih, and_assoc]

/-- A conjunction of conjunctions is the conjunction of all their items. -/
theorem all_flatten (rows : List (List Truth)) :
    Truth.all rows.flatten = Truth.all (rows.map Truth.all) := by
  induction rows with
  | nil => rfl
  | cons row rows ih =>
    rw [List.flatten_cons, all_append, ih]
    rfl

end Truth

namespace Expr

/-- A reading of conditions in which a conjunction is true as its items are.  Nothing is said of
conditions that are no conjunctions. -/
def IsReading (meaning : Expr → Truth) : Prop :=
  ∀ items, meaning (.all items) = Truth.all (items.map meaning)

/-- The truth of conditions for a row is a reading. -/
theorem isReading_truth (db : Database) (row : Row) : IsReading (Expr.truth db row) := by
  intro items
  rw [Expr.truth_all, truthOfAll_eq_map]

/-! ## Conjunctions taken apart -/

mutual

/-- No junction is empty, neither the condition itself nor one that it is joined from. -/
def isFilled : Expr → Bool
  | .all items | .any items => !items.isEmpty && areFilled items
  | _ => true

/-- No junction in some conditions is empty. -/
def areFilled : List Expr → Bool
  | [] => true
  | e :: rest => e.isFilled && areFilled rest

end

/-- Some conditions in a row stand for a condition: in parentheses they are its text, unless there
is only one of them, and in every reading they are true together if it is. -/
structure IsRow (name : Param → String) (e : Expr) (row : List Expr) : Prop where
  ne_nil : row ≠ []
  sql : e.sql name = junctionSql " AND " (sqlOfAll name row)
  truth : ∀ meaning, IsReading meaning → meaning e = Truth.all (row.map meaning)

variable {name : Param → String} {e : Expr} {row : List Expr}

/-- A condition stands for itself. -/
theorem isRow_self (name : Param → String) (e : Expr) : IsRow name e [e] where
  ne_nil := List.cons_ne_nil _ _
  sql := rfl
  truth := fun meaning _ => (Truth.all_singleton (meaning e)).symm

/-- The items of a conjunction stand for it. -/
theorem isRow_conjuncts (name : Param → String) (h : e.isFilled = true) :
    IsRow name e e.conjuncts := by
  cases e with
  | all items =>
    rw [isFilled, Bool.and_eq_true, Bool.not_eq_true', List.isEmpty_eq_false_iff] at h
    exact ⟨h.1, rfl, fun meaning hmeaning => hmeaning items⟩
  | _ => exact isRow_self name _

theorem isRow_map_conjuncts (name : Param → String) {conditions : List Expr}
    (hfilled : ∀ e ∈ conditions, e.isFilled = true) :
    List.Forall₂ (IsRow name) conditions (conditions.map conjuncts) := by
  rw [List.forall₂_map_right_iff, List.forall₂_same]
  exact fun e he => isRow_conjuncts name (hfilled e he)

/-- What stands for the single item of a row stands for the row. -/
theorem IsRow.trans {item : Expr} {row : List Expr} (h : IsRow name e [item])
    (hrow : IsRow name item row) : IsRow name e row where
  ne_nil := hrow.ne_nil
  sql := h.sql.trans hrow.sql
  truth := fun meaning hmeaning => by
    rw [h.truth meaning hmeaning, List.map_singleton, Truth.all_singleton,
      hrow.truth meaning hmeaning]

/-- At the top of a clause a conjunction is written without parentheses. -/
theorem conditionSql_eq (name : Param → String) (e : Expr) :
    e.conditionSql name = " AND ".intercalate (sqlOfAll name e.conjuncts) := by
  cases e with
  | all items => rfl
  | _ => exact String.intercalate_singleton.symm

theorem isFilled_of_mem {items : List Expr} (h : areFilled items = true) :
    ∀ e ∈ items, e.isFilled = true := by
  induction items with
  | nil => exact nofun
  | cons item items ih =>
    rw [areFilled, Bool.and_eq_true] at h
    exact List.forall_mem_cons.mpr ⟨h.1, ih h.2⟩

theorem isFilled_of_mem_conjuncts (h : e.isFilled = true) :
    ∀ item ∈ e.conjuncts, item.isFilled = true := by
  cases e with
  | all items =>
    rw [isFilled, Bool.and_eq_true] at h
    exact isFilled_of_mem h.2
  | _ => exact List.forall_mem_singleton.mpr h

/-- The items of several conditions are one only if there is one condition. -/
theorem eq_singleton_of_flatMap {conditions : List Expr} {item : Expr}
    (hfilled : ∀ e ∈ conditions, e.isFilled = true)
    (h : conditions.flatMap conjuncts = [item]) :
    ∃ e, conditions = [e] ∧ e.conjuncts = [item] := by
  match conditions with
  | [] => cases h
  | [e] => exact ⟨e, rfl, (List.flatMap_singleton conjuncts e).symm.trans h⟩
  | e :: e' :: rest =>
    obtain ⟨he, he'⟩ := List.forall_mem_cons.mp hfilled
    have hfirst := List.length_pos_iff.mpr (isRow_conjuncts (fun _ => "") he).ne_nil
    have hsecond := List.length_pos_iff.mpr
      (isRow_conjuncts (fun _ => "") (he' e' List.mem_cons_self)).ne_nil
    have hlength := congrArg List.length h
    rw [List.flatMap_cons, List.flatMap_cons, List.length_append, List.length_append,
      List.length_singleton] at hlength
    omega

/-- The conjunction of some conditions is written as rows that stand for them.  If one item is left,
which may be a conjunction again, its items are the only row. -/
theorem exists_rows {conditions : List Expr} (hne : conditions ≠ [])
    (hfilled : ∀ e ∈ conditions, e.isFilled = true) (name : Param → String) :
    ∃ kept rows, ofConjuncts (conditions.flatMap conjuncts) = some kept ∧
      List.Forall₂ (IsRow name) conditions rows ∧
      kept.conditionSql name = " AND ".intercalate (sqlOfAll name rows.flatten) := by
  have hrows := isRow_map_conjuncts name hfilled
  match hitems : conditions.flatMap conjuncts with
  | [] =>
    cases hrows with
    | nil => exact absurd rfl hne
    | cons hfirst hrest =>
      rw [List.flatMap_cons, List.append_eq_nil_iff] at hitems
      exact absurd hitems.1 hfirst.ne_nil
  | [item] =>
    obtain ⟨e, rfl, he⟩ := eq_singleton_of_flatMap hfilled hitems
    have hitem : item.isFilled = true := by
      refine isFilled_of_mem_conjuncts (hfilled e List.mem_cons_self) item ?_
      rw [he]
      exact List.mem_cons_self
    have hrow := isRow_conjuncts name (hfilled e List.mem_cons_self)
    rw [he] at hrow
    refine ⟨item, [item.conjuncts], rfl, .cons (hrow.trans (isRow_conjuncts name hitem)) .nil, ?_⟩
    rw [List.flatten_singleton]
    exact conditionSql_eq name item
  | first :: second :: rest =>
    refine ⟨.all (first :: second :: rest), conditions.map conjuncts, rfl, hrows, ?_⟩
    rw [← List.flatMap_def, hitems]
    rfl

/-- Rows that stand for some conditions are true together if the conditions are. -/
theorem all_rows {conditions : List Expr} {rows : List (List Expr)}
    (h : List.Forall₂ (IsRow name) conditions rows) {meaning : Expr → Truth}
    (hmeaning : IsReading meaning) :
    Truth.all (rows.flatten.map meaning) = Truth.all (conditions.map meaning) := by
  rw [List.map_flatten, Truth.all_flatten, List.map_map]
  refine congrArg Truth.all ?_
  induction h with
  | nil => rfl
  | cons hfirst hrest ih =>
    rw [List.map_cons, List.map_cons, ih, hfirst.truth meaning hmeaning]
    rfl

theorem meaning_ofConjuncts {meaning : Expr → Truth} (hmeaning : IsReading meaning) {kept : Expr} :
    ∀ {items : List Expr}, ofConjuncts items = some kept →
      meaning kept = Truth.all (items.map meaning)
  | [_], h => by
    cases h
    exact (Truth.all_singleton _).symm
  | _ :: _ :: _, h => by
    cases h
    exact hmeaning _

/-- The conjunction of some conditions is true as they are together. -/
theorem meaning_conjoin {items : List (Option Expr)} {kept : Expr}
    (hkept : conjoin items = some kept) (hfilled : ∀ e ∈ items.reduceOption, e.isFilled = true)
    {meaning : Expr → Truth} (hmeaning : IsReading meaning) :
    meaning kept = Truth.all (items.reduceOption.map meaning) := by
  rw [conjoin_eq] at hkept
  rw [meaning_ofConjuncts hmeaning hkept,
    ← all_rows (isRow_map_conjuncts (fun _ => "") hfilled) hmeaning, List.flatMap_def]

end Expr

/-! ## The kept condition -/

namespace Fragment

/-- The condition that a fragment keeps stands for its text.  A new renderer of the same stem
renders it, binds what the fragment binds in the same order, and writes the rows of conditions that
the text of the fragment has in parentheses.  In every reading, and so for every row of every table,
it is true as the conjunction of the conditions is. -/
theorem kept_condition_renders {stem : String} {items : List (Option Expr)} {f : Fragment}
    (hsome : items.reduceOption ≠ [])
    (hfilled : ∀ e ∈ items.reduceOption, e.isFilled = true)
    (h : ofConditions stem items = .ok f) :
    ∃ kept text r rows, f.condition = some kept ∧
      (Renderer.start stem).renderCondition kept = (.ok text, r) ∧ r.params = f.params ∧
      f.sql = "AND " ++ " AND ".intercalate (sqlOfAll r.name items.reduceOption) ∧
      List.Forall₂ (Expr.IsRow r.name) items.reduceOption rows ∧
      text = " AND ".intercalate (sqlOfAll r.name rows.flatten) ∧
      (∀ meaning, Expr.IsReading meaning →
        meaning kept = Truth.all (items.reduceOption.map meaning)) ∧
      ∀ db row, kept.truth db row = Truth.all (truthOfAll db row items.reduceOption) := by
  obtain ⟨e, es, hconditions⟩ := List.exists_cons_of_ne_nil hsome
  rw [ofConditions, hconditions] at h
  dsimp only at h
  split at h
  · cases h
  · next r hrun =>
    cases h
    rw [← hconditions] at hrun ⊢
    obtain ⟨kept, rows, hkept, hrows, htext⟩ := Expr.exists_rows hsome hfilled r.name
    rw [← Expr.conjoin_eq] at hkept
    have hparams : kept.params = paramsOfAll items.reduceOption := by
      rw [← Expr.paramsOfCondition_conjoin, hkept]
      rfl
    have hmeaning := fun meaning => @Expr.meaning_conjoin items kept hkept hfilled meaning
    refine ⟨kept, kept.conditionSql r.name, r, rows, hkept, ?_, rfl, rfl, hrows, htext, hmeaning,
      ?_⟩
    · rw [Renderer.renderCondition, Renderer.write, hparams, hrun]
    · intro db row
      rw [truthOfAll_eq_map]
      exact hmeaning _ (Expr.isReading_truth db row)

/-- Conditions with conjunctions in every place where they are taken apart: below another one, as
the only item of a junction, and beside a parameter that brings along its name. -/
def nestedItems : List (Option Expr) :=
  let site : Expr := siteCondition (.given 0) 1
  let value (n : Nat) : Expr := .compare (.column .userId) .ne (.param ⟨.given n, .int n, none⟩)
  [none, some (.all [.all [value 1, site], value 2]), some (.any [.all [value 1, value 3]]),
    some (.all [site])]

/-- The nested conditions are rendered, and so is their conjunction. -/
theorem kept_condition_renders_nested :
    nestedItems.reduceOption ≠ [] ∧ (∀ e ∈ nestedItems.reduceOption, e.isFilled = true) ∧
      ∃ f kept text r, ofConditions "t" nestedItems = .ok f ∧ f.condition = some kept ∧
        (Renderer.start "t").renderCondition kept = (.ok text, r) ∧ r.params = f.params ∧
        ∀ db row, kept.truth db row = Truth.all (truthOfAll db row nestedItems.reduceOption) := by
  have hsome : nestedItems.reduceOption ≠ [] := List.cons_ne_nil _ _
  have hfilled : ∀ e ∈ nestedItems.reduceOption, e.isFilled = true := by decide
  have hrendered : ∃ f, ofConditions "t" nestedItems = .ok f := ⟨_, rfl⟩
  obtain ⟨f, hf⟩ := hrendered
  obtain ⟨kept, text, r, rows, hkept, htext, hparams, -, -, -, -, htruth⟩ :=
    kept_condition_renders hsome hfilled hf
  exact ⟨hsome, hfilled, f, kept, text, r, hf, hkept, htext, hparams, htruth⟩

end Fragment

end Clickstream
