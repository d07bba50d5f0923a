import Clickstream.Event.Meaning
import Clickstream.Proofs.Filter.Conditions

/-!
# Events that matter to a condition

A condition reads the table of events through its subqueries only, so two databases with the same
clock differ in its truth only if the rows of a subquery do (`Expr.Respects`).  A subquery that is
restricted to a scope keeps rows of that scope: if two databases hold the same events of a site
within a time condition, it keeps the same rows of both (`keptRows_congr`).
-/

namespace Clickstream

/-! ## Conditions and operands -/

section

variable (db : Database) (row : Row)

namespace Expr

theorem truth_compare (left : Expr) (comparison : Comparison) (right : Expr) :
    (compare left comparison right).truth db row =
      comparison.holds (left.cell db row) (right.cell db row) := rfl

theorem truth_isNull (operand : Expr) :
    (isNull operand).truth db row = some (operand.cell db row).isNull := rfl

theorem truth_call (function : String) (arguments : List Expr) :
    (call function arguments).truth db row =
      if function = "regexp_matches" then matchRegex (cellsOfAll db row arguments) else none := rfl

theorem truth_all (items : List Expr) :
    (all items).truth db row = Truth.all (truthOfAll db row items) := rfl

theorem truth_any (items : List Expr) :
    (any items).truth db row = Truth.any (truthOfAll db row items) := rfl

theorem truth_member (c : Column) (negated : Bool) (query : Select) :
    (member c negated query).truth db row =
      if negated then ((row c).memberOf (query.firstCells db)).negate
      else (row c).memberOf (query.firstCells db) := rfl

theorem cell_call (function : String) (arguments : List Expr) :
    (call function arguments).cell db row =
      if function = "coalesce" then Cell.coalesce (cellsOfAll db row arguments) else .null := rfl

end Expr

theorem truthOfAll_cons (e : Expr) (es : List Expr) :
    truthOfAll db row (e :: es) = e.truth db row :: truthOfAll db row es := rfl

theorem cellsOfAll_nil : cellsOfAll db row [] = [] := rfl

theorem cellsOfAll_cons (e : Expr) (es : List Expr) :
    cellsOfAll db row (e :: es) = e.cell db row :: cellsOfAll db row es := rfl

theorem passes_some (e : Expr) : passes db row (some e) = (e.truth db row == some true) := rfl

theorem rows_eventsTable : (Source.table eventsTable).rows db = db.events.map Event.cell := rfl

end

/-! ## Conjunctions -/

theorem truthOfAll_eq_map (db : Database) (row : Row) (es : List Expr) :
    truthOfAll db row es = es.map (Expr.truth db row) := by
  induction es with
  | nil => rfl
  | cons e es ih => rw [truthOfAll_cons, ih, List.map_cons]

theorem Truth.and_eq_true_iff (s t : Truth) :
    s.and t = some true ↔ s = some true ∧ t = some true := by
  rcases s with _ | _ | _ <;> rcases t with _ | _ | _ <;> decide

/-- A conjunction is true if and only if all of its items are. -/
theorem Truth.all_beq_true (ts : List Truth) :
    (Truth.all ts == some true) = ts.all (· == some true) := by
  induction ts with
  | nil => rfl
  | cons t ts ih =>
    rw [List.all_cons, ← ih, Bool.eq_iff_iff, Bool.and_eq_true]
    simp only [beq_iff_eq]
    exact Truth.and_eq_true_iff t (Truth.all ts)

theorem all_truth (db : Database) (row : Row) (es : List Expr) :
    ((Expr.all es).truth db row == some true) = es.all fun e => e.truth db row == some true := by
  rw [Expr.truth_all, Truth.all_beq_true, truthOfAll_eq_map, List.all_map]
  rfl

theorem all_passes (db : Database) (row : Row) (es : List Expr) :
    (es.map some).all (passes db row) = (truthOfAll db row es).all (· == some true) := by
  rw [truthOfAll_eq_map, List.all_map, List.all_map]
  rfl

theorem all_conjuncts (db : Database) (row : Row) (e : Expr) :
    (e.conjuncts.all fun e => e.truth db row == some true) = (e.truth db row == some true) := by
  cases e with
  | all items => exact (all_truth db row items).symm
  | _ => exact Bool.and_true _

theorem passes_ofConjuncts (db : Database) (row : Row) : ∀ es : List Expr,
    passes db row (Expr.ofConjuncts es) = es.all fun e => e.truth db row == some true
  | [] => rfl
  | [_] => (Bool.and_true _).symm
  | e :: e' :: es => all_truth db row (e :: e' :: es)

/-- A row passes a conjunction if and only if it passes all items. -/
theorem passes_conjoin (db : Database) (row : Row) (items : List (Option Expr)) :
    passes db row (Expr.conjoin items) = items.all (passes db row) := by
  rw [Expr.conjoin_eq, passes_ofConjuncts]
  induction items with
  | nil => rfl
  | cons item items ih =>
    cases item with
    | none => exact ih
    | some e =>
      rw [List.reduceOption_cons_of_some, List.flatMap_cons, List.all_append, all_conjuncts, ih]
      rfl

theorem passes_all (db : Database) (row : Row) (es : List Expr) :
    passes db row (some (.all es)) = es.all fun e => passes db row (some e) :=
  all_truth db row es

/-! ## Disjunctions -/

theorem Truth.or_eq_true_iff (s t : Truth) :
    s.or t = some true ↔ s = some true ∨ t = some true := by
  rcases s with _ | _ | _ <;> rcases t with _ | _ | _ <;> decide

/-- A disjunction is true if and only if one of its items is. -/
theorem Truth.any_beq_true (ts : List Truth) :
    (Truth.any ts == some true) = ts.any (· == some true) := by
  induction ts with
  | nil => rfl
  | cons t ts ih =>
    rw [List.any_cons, ← ih, Bool.eq_iff_iff, Bool.or_eq_true]
    simp only [beq_iff_eq]
    exact Truth.or_eq_true_iff t (Truth.any ts)

theorem passes_any (db : Database) (row : Row) (es : List Expr) :
    passes db row (some (.any es)) = es.any fun e => passes db row (some e) := by
  rw [passes_some, Expr.truth_any, Truth.any_beq_true, truthOfAll_eq_map, List.any_map]
  rfl

/-! ## Texts -/

namespace Cell

theorem equal_text (s t : String) : equal (.text s) (.text t) = some (s == t) := by
  show some (compare s t == .eq) = some (s == t)
  rw [Option.some.injEq, Bool.eq_iff_iff, beq_iff_eq, beq_iff_eq,
    Std.LawfulEqCmp.compare_eq_iff_eq]

theorem isDistinct_text (s t : String) : isDistinct (.text s) (.text t) = !(s == t) := by
  have h : (compare s t == .eq) = (s == t) := Option.some.inj (equal_text s t)
  show (!(some (compare s t) == some .eq)) = !(s == t)
  rw [← h]
  rfl

/-- A text is one of some texts, or it is not; this is never unknown. -/
theorem memberOf_eq (s : String) {cells : List Cell} (h : ∀ c ∈ cells, ∃ t, c = .text t) :
    (Cell.text s).memberOf cells = some (decide (.text s ∈ cells)) := by
  have hor : ∀ a b : Bool, Truth.or (some a) (some b) = some (a || b) := by decide
  induction cells with
  | nil => rfl
  | cons c cells ih =>
    rw [List.forall_mem_cons] at h
    obtain ⟨⟨t, rfl⟩, hrest⟩ := h
    show Truth.or ((Cell.text s).equal (.text t)) ((Cell.text s).memberOf cells) = _
    rw [ih hrest, equal_text, hor, Option.some.injEq, Bool.eq_iff_iff]
    simp only [Bool.or_eq_true, beq_iff_eq, decide_eq_true_eq, List.mem_cons, Cell.text.injEq]

end Cell

/-! ## Conditions over two databases -/

theorem leafCell_congr {db db' : Database} (h : db.clock = db'.clock) (row : Row) (e : Expr) :
    e.leafCell db row = e.leafCell db' row := by
  cases e with
  | now => exact congrArg Cell.time h
  | _ => rfl

mutual

/-- Operands are read off a row, the parameters and the clock. -/
theorem Expr.cell_congr {db db' : Database} (h : db.clock = db'.clock) (row : Row) :
    ∀ e : Expr, e.cell db row = e.cell db' row
  | .call function arguments => by
    rw [Expr.cell_call, Expr.cell_call, cellsOfAll_congr h row arguments]
  | .column c => leafCell_congr h row (.column c)
  | .param p => leafCell_congr h row (.param p)
  | .number n => leafCell_congr h row (.number n)
  | .literal text => leafCell_congr h row (.literal text)
  | .now => leafCell_congr h row .now
  | .compare .. | .isNull _ | .all _ | .any _ | .select _ | .member .. => rfl

theorem cellsOfAll_congr {db db' : Database} (h : db.clock = db'.clock) (row : Row) :
    ∀ es : List Expr, cellsOfAll db row es = cellsOfAll db' row es
  | [] => rfl
  | e :: es => by
    rw [cellsOfAll_cons, cellsOfAll_cons, Expr.cell_congr h row e, cellsOfAll_congr h row es]

end

/-- The truth of a condition is the same over related databases. -/
def Expr.Respects (R : Database → Database → Prop) (e : Expr) : Prop :=
  ∀ db db', R db db' → ∀ row, e.truth db row = e.truth db' row

namespace Respects

variable {R : Database → Database → Prop}

section

variable (hR : ∀ db db', R db db' → db.clock = db'.clock)

include hR

theorem compare (left : Expr) (comparison : Comparison) (right : Expr) :
    (Expr.compare left comparison right).Respects R := by
  intro db db' h row
  rw [Expr.truth_compare, Expr.truth_compare, Expr.cell_congr (hR _ _ h),
    Expr.cell_congr (hR _ _ h)]

theorem isNull (operand : Expr) :
    (Expr.isNull operand).Respects R := by
  intro db db' h row
  rw [Expr.truth_isNull, Expr.truth_isNull, Expr.cell_congr (hR _ _ h)]

theorem call (function : String) (arguments : List Expr) :
    (Expr.call function arguments).Respects R := by
  intro db db' h row
  rw [Expr.truth_call, Expr.truth_call, cellsOfAll_congr (hR _ _ h)]

end

theorem map_truth {es : List Expr} (hes : ∀ e ∈ es, e.Respects R) {db db' : Database}
    (h : R db db') (row : Row) : truthOfAll db row es = truthOfAll db' row es := by
  rw [truthOfAll_eq_map, truthOfAll_eq_map]
  exact List.map_congr_left fun e he => hes e he db db' h row

theorem passes_all {es : List Expr} (hes : ∀ e ∈ es, e.Respects R) {db db' : Database}
    (h : R db db') (row : Row) :
    (es.map some).all (passes db row) = (es.map some).all (passes db' row) := by
  rw [all_passes, all_passes, map_truth hes h]

theorem all {es : List Expr} (hes : ∀ e ∈ es, e.Respects R) : (Expr.all es).Respects R := by
  intro db db' h row
  rw [Expr.truth_all, Expr.truth_all, map_truth hes h]

theorem any {es : List Expr} (hes : ∀ e ∈ es, e.Respects R) : (Expr.any es).Respects R := by
  intro db db' h row
  rw [Expr.truth_any, Expr.truth_any, map_truth hes h]

/-- A subquery is read through the cells of its first result. -/
theorem member {query : Select}
    (hquery : ∀ db db', R db db' → query.firstCells db = query.firstCells db') (c : Column)
    (negated : Bool) : (Expr.member c negated query).Respects R := by
  intro db db' h row
  rw [Expr.truth_member, Expr.truth_member, hquery db db' h]

end Respects

/-! ## Scopes -/

namespace Database

/-- An event of a site that passes a time condition. -/
def inScope (db : Database) (site : Int) (time : Option Expr) (e : Event) : Bool :=
  e.site == site && passes db e.cell time

/-- The events of a site that pass a time condition, in order. -/
def scopeEvents (db : Database) (site : Int) (time : Option Expr) : List Event :=
  db.events.filter (db.inScope site time)

/-- Two databases hold the same events of a site that pass a time condition. -/
structure SameScope (site : Int) (time : Option Expr) (db db' : Database) : Prop where
  clock : db.clock = db'.clock
  events : db.scopeEvents site time = db'.scopeEvents site time

end Database

theorem compare_int_beq (m n : Int) : (some (compare m n == .eq) == some true) = (m == n) := by
  rw [Bool.eq_iff_iff, beq_iff_eq, beq_iff_eq, Option.some.injEq, beq_iff_eq,
    Std.LawfulEqCmp.compare_eq_iff_eq]

theorem passes_siteCondition (db : Database) (id : ParamId) (site : Int) (e : Event) :
    passes db e.cell (some (siteCondition id site)) = (e.site == site) :=
  compare_int_beq e.site site

/-- A subquery in a scope keeps the events of the scope that pass its further conditions. -/
theorem keptRows_eq (db : Database) (scope : Scope) (conditions : List Expr) :
    ((db.events.map Event.cell).filter fun row => passes db row (scope.restrict conditions)) =
      ((db.scopeEvents scope.site scope.time).map Event.cell).filter fun row =>
        (conditions.map some).all (passes db row) := by
  rw [List.filter_map, List.filter_map, Database.scopeEvents, List.filter_filter]
  refine congrArg _ (List.filter_congr fun e _ => ?_)
  simp only [Function.comp_apply, Scope.restrict, passes_conjoin, List.all_cons,
    passes_siteCondition, Database.inScope]
  exact (Bool.and_assoc ..).symm.trans (Bool.and_comm ..)

/-- A subquery in a scope keeps the same rows of databases with the same events in the scope. -/
theorem keptRows_congr {scope : Scope} {conditions : List Expr}
    (hconditions : ∀ e ∈ conditions, e.Respects (Database.SameScope scope.site scope.time))
    {db db' : Database} (h : Database.SameScope scope.site scope.time db db') :
    ((Source.table eventsTable).rows db).filter
        (fun row => passes db row (scope.restrict conditions)) =
      ((Source.table eventsTable).rows db').filter
        fun row => passes db' row (scope.restrict conditions) := by
  rw [rows_eventsTable, rows_eventsTable, keptRows_eq, keptRows_eq, h.events]
  exact List.filter_congr fun row _ => Respects.passes_all hconditions h row

end Clickstream
