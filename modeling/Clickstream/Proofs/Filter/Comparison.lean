import Clickstream.Proofs.Event.Meaning
import Clickstream.Proofs.Pattern.Like

/-!
# Comparisons with values

Whether a column passes the comparison with the values of a filter.  A text matches a value if it is
that value, or if the value is a part of it (`FilterKind.matchesText`).  Null matches nothing, so it
passes no inclusion; an exclusion of parts of texts takes it for the empty text, which a value of
nothing but wildcards matches (`FilterKind.matchesText_empty`).  The values of an inclusion are
alternatives and those of an exclusion are excluded together (`FilterKind.combine`).

The condition that compares a column of texts is true for a row if and only if the text of the row
passes (`Strategy.passes_compareColumn`), and that for a coordinate if and only if the number lies
between its bounds, or for an exclusion outside of them (`Strategy.passes_coordinateCondition`).
-/

namespace Clickstream

/-! ## Lists -/

theorem all_congr_of_mem {α : Type} {xs : List α} {p q : α → Bool} (h : ∀ x ∈ xs, p x = q x) :
    xs.all p = xs.all q := by
  rw [Bool.eq_iff_iff, List.all_eq_true, List.all_eq_true]
  exact forall₂_congr fun x hx => by rw [h x hx]

theorem any_congr_of_mem {α : Type} {xs : List α} {p q : α → Bool} (h : ∀ x ∈ xs, p x = q x) :
    xs.any p = xs.any q := by
  rw [List.any_eq_not_all_not, List.any_eq_not_all_not,
    all_congr_of_mem fun x hx => congrArg not (h x hx)]

/-! ## Texts -/

/-- A part of the text fits the value, read as a pattern. -/
def HasPart (value text : String) : Prop :=
  ∃ part, part <:+: text.toList ∧ FitsLike value.toList part

/-- A value of nothing but wildcards for any sequence of characters. -/
def IsWild (value : String) : Prop :=
  ∀ c ∈ value.toList, c = '%'

namespace FilterKind

/-- A text matches a value: it is the value, or the value is a part of it, in which a percent sign
stands for any text and an underscore for any character. -/
def matchesText (kind : FilterKind) (value text : String) : Bool :=
  if kind.isPattern then matchesLike (Strategy.comparedText kind value).toList text.toList
  else text == value

/-- A text, or its absence, passes the comparison with a value. -/
def passesText (kind : FilterKind) (value : String) (text : Option String) : Bool :=
  match kind with
  | .equals | .contains => text.any (kind.matchesText value)
  | .notEquals => !text.any (kind.matchesText value)
  | .notContains => !kind.matchesText value (text.getD "")

/-- The values of an inclusion are alternatives, those of an exclusion are excluded together. -/
def combine (kind : FilterKind) (passes : String → Bool) (values : List String) : Bool :=
  if kind.isNegated then values.all passes else values.any passes

theorem isNegated_positive (kind : FilterKind) : kind.positive.isNegated = false := by
  cases kind <;> rfl

theorem passesText_positive (kind : FilterKind) (value : String) (text : Option String) :
    kind.positive.passesText value text = text.any (kind.matchesText value) := by
  cases kind <;> rfl

/-- Values excluded together are excluded one by one. -/
theorem combine_bne (kind : FilterKind) (values : List String) (f : String → Bool) :
    kind.combine (fun value => f value != kind.isNegated) values =
      (values.any f != kind.isNegated) := by
  unfold combine
  cases kind.isNegated with
  | false =>
    rw [if_neg Bool.false_ne_true, Bool.bne_false]
    exact congrArg values.any (funext fun value => Bool.bne_false _)
  | true =>
    rw [if_pos rfl, Bool.bne_true, List.not_any_eq_all_not]
    exact congrArg values.all (funext fun value => Bool.bne_true _)

theorem toList_comparedText (value : String) :
    (Strategy.comparedText contains value).toList = '%' :: value.toList ++ ['%'] := by
  show ("%" ++ value ++ "%").toList = _
  rw [String.toList_append, String.toList_append]
  rfl

/-- A text that matches a value as a part of it has a part that fits the value. -/
theorem matchesText_contains_iff {value text : String} :
    contains.matchesText value text = true ↔ HasPart value text := by
  show matchesLike (Strategy.comparedText contains value).toList text.toList = true ↔ _
  rw [toList_comparedText, matchesLike_iff, fitsLike_enclosed, HasPart]

/-- The empty text has a value as a part only if the value is wild. -/
theorem matchesText_empty (value : String) :
    contains.matchesText value "" = true ↔ IsWild value := by
  rw [matchesText_contains_iff, IsWild, ← fitsLike_empty]
  constructor
  · rintro ⟨part, hpart, hfits⟩
    obtain rfl := List.infix_nil.mp hpart
    exact hfits
  · intro h
    exact ⟨[], List.infix_refl _, h⟩

/-- The wildcard for one character is not wild: the empty text does not have it. -/
example : contains.matchesText "_" "" = false := by decide

/-- Every text has a wild value as a part. -/
theorem matchesText_of_isWild {value : String} (h : IsWild value) (text : String) :
    contains.matchesText value text = true :=
  matchesText_contains_iff.mpr ⟨[], List.nil_infix, fitsLike_empty.mpr h⟩

end FilterKind

/-! ## Cells -/

namespace Cell

/-- A number lies between two others, both included. -/
def isBetween (c low high : Cell) : Bool :=
  (c.order? low).any (· != .lt) && (c.order? high).any (· != .gt)

end Cell

/-! ## Conditions -/

namespace Strategy

variable {db : Database} {row : Row}

theorem passes_junction (kind : FilterKind) (es : List Expr) :
    passes db row (some (junction kind es)) =
      if kind.isNegated then es.all fun e => passes db row (some e)
      else es.any fun e => passes db row (some e) := by
  unfold junction
  split
  · rw [List.all_cons, List.any_cons, List.all_nil, List.any_nil, Bool.and_true, Bool.or_false,
      ite_self]
  · split
    · exact passes_all db row es
    · exact passes_any db row es

/-- The conditions for the values of a filter are combined as its kind says. -/
theorem passes_junction_map {kind : FilterKind} {es : List Expr} {accepts : String → Bool}
    {values : List String}
    (h : (es.map fun e => passes db row (some e)) = values.map accepts) :
    passes db row (some (junction kind es)) = kind.combine accepts values := by
  have hall := congrArg (List.all · id) h
  have hany := congrArg (List.any · id) h
  simp only [List.all_map, List.any_map] at hall hany
  rw [passes_junction, FilterKind.combine]
  split
  · exact hall
  · exact hany

theorem passes_junction_params {scope : Scope} {kind : FilterKind} {build : Param → Expr}
    {accepts : String → Bool}
    (h : ∀ id value, passes db row (some (build ⟨id, .text (comparedText kind value), none⟩)) =
      accepts value) (values : List String) :
    passes db row (some (junction kind ((valueParams scope kind values).map build))) =
      kind.combine accepts values := by
  refine passes_junction_map ?_
  have hvalues : values = values.zipIdx.map Prod.fst := (List.zipIdx_map_fst 0 values).symm
  rw [valueParams, List.map_map, List.map_map]
  conv => rhs; rw [hvalues, List.map_map]
  exact List.map_congr_left fun value _ => h _ value.1

/-- In a comparison with a part of a text, null is the empty text. -/
theorem cell_coalesce {c : Column} {text : Option String} (hc : row c = Cell.ofText? text) :
    (Expr.call "coalesce" [.column c, .literal ""]).cell db row = .text (text.getD "") := by
  rw [Expr.cell_call, if_pos rfl, cellsOfAll_cons, cellsOfAll_cons, cellsOfAll_nil]
  show Cell.coalesce [row c, .text ""] = _
  rw [hc]
  cases text with
  | none => rfl
  | some text => rfl

/-- The comparison of a column of texts with a value is true if the text passes it. -/
theorem passes_compareValue {c : Column} {text : Option String} (hc : row c = Cell.ofText? text)
    (kind : FilterKind) (id : ParamId) (value : String) :
    passes db row (some (compareValue kind ⟨id, .text (comparedText kind value), none⟩ c)) =
      kind.passesText value text := by
  have hbeq : ∀ b : Bool, (some b == some true) = b := by decide
  cases kind with
  | equals =>
    show ((row c).equal (.text value) == some true) = text.any (· == value)
    rw [hc]
    cases text with
    | none => rfl
    | some text => exact (congrArg (· == some true) (Cell.equal_text text value)).trans (hbeq _)
  | notEquals =>
    show (some ((row c).isDistinct (.text value)) == some true) = !text.any (· == value)
    rw [hc, hbeq]
    cases text with
    | none => rfl
    | some text => exact Cell.isDistinct_text text value
  | contains =>
    show (Comparison.matchText (row c) (.text (comparedText .contains value)) == some true) = _
    rw [hc]
    cases text with
    | none => rfl
    | some text => exact hbeq _
  | notContains =>
    show ((Comparison.matchText (Expr.cell db row (.call "coalesce" [.column c, .literal ""]))
      (.text (comparedText .notContains value))).negate == some true) = _
    rw [cell_coalesce hc]
    exact hbeq _

/-- The condition that compares a column of texts with the values of a filter. -/
theorem passes_compareColumn {c : Column} {text : Option String} (hc : row c = Cell.ofText? text)
    (scope : Scope) (kind : FilterKind) (values : List String) :
    passes db row (some (compareColumn scope kind values c)) =
      kind.combine (fun value => kind.passesText value text) values :=
  passes_junction_params (fun id value => passes_compareValue hc kind id value) values

/-! ### Visitors -/

/-- A visitor passes an inclusion with one of the ids, and an exclusion with all of them. -/
theorem passes_buildIdentity {columns : List Column} {text : Column → Option String}
    (hc : ∀ c ∈ columns, row c = Cell.ofText? (text c)) (scope : Scope) (kind : FilterKind)
    (values : List String) :
    passes db row (some (buildIdentity scope kind values columns)) =
      kind.combine (fun value =>
        if kind.isNegated then columns.all fun c => kind.passesText value (text c)
        else columns.any fun c => kind.passesText value (text c)) values := by
  refine passes_junction_params (fun id value => ?_) values
  split
  · rw [passes_all, List.all_map]
    exact all_congr_of_mem fun c hm => passes_compareValue (hc c hm) kind id value
  · rw [passes_any, List.any_map]
    exact any_congr_of_mem fun c hm => passes_compareValue (hc c hm) kind id value

/-! ### Coordinates -/

theorem exists_ofDecimal {d : Decimal} (h : d.isFinite = true) :
    ∃ x, Cell.ofDecimal d = .real x := by
  cases d with
  | finite negative coefficient exponent => exact ⟨_, rfl⟩
  | infinite negative => cases h
  | nan negative signaling payload => cases h

/-- The condition for a coordinate is true if it lies between the bounds, for an exclusion if it
does not, also because there is none. -/
theorem passes_coordinateCondition {c : Column} {x : Option Binary64}
    (hc : row c = Event.coordinateCell x) (kind : FilterKind) {bounds : Decimal × Decimal}
    (hlow : bounds.1.isFinite = true) (hhigh : bounds.2.isFinite = true) :
    passes db row (some (coordinateCondition kind c bounds)) =
      ((row c).isBetween (.ofDecimal bounds.1) (.ofDecimal bounds.2) != kind.isNegated) := by
  obtain ⟨low, hlow⟩ := exists_ofDecimal hlow
  obtain ⟨high, hhigh⟩ := exists_ofDecimal hhigh
  have hnumber : ∀ (comparison : Comparison) (d : Decimal),
      passes db row (some (.compare (.column c) comparison (.number d))) =
        (comparison.holds (row c) (.ofDecimal d) == some true) := fun _ _ => rfl
  have hnull : passes db row (some (.isNull (.column c))) = (some (row c).isNull == some true) :=
    rfl
  unfold coordinateCondition
  cases hkind : kind.isNegated with
  | true =>
    rw [if_pos rfl, passes_any]
    simp only [List.any_cons, List.any_nil, hnumber, hnull, hlow, hhigh, hc]
    cases x with
    | none => rfl
    | some x =>
      simp only [Comparison.holds, Cell.isBetween, Event.coordinateCell, Cell.order?]
      cases compare x.rank low.rank <;> cases compare x.rank high.rank <;> rfl
  | false =>
    rw [if_neg Bool.false_ne_true, passes_all]
    simp only [List.all_cons, List.all_nil, hnumber, hlow, hhigh, hc]
    cases x with
    | none => rfl
    | some x =>
      simp only [Comparison.holds, Cell.isBetween, Event.coordinateCell, Cell.order?]
      cases compare x.rank low.rank <;> cases compare x.rank high.rank <;> rfl

/-- The conditions for coordinates are true as the numbers lie between their bounds. -/
theorem passes_buildCoordinates {kind : FilterKind} {parameter : String} {c : Column}
    {tolerance : Decimal} (ht : tolerance.isFinite = true) {x : Option Binary64}
    (hc : row c = Event.coordinateCell x) {values : List String} {es : List Expr}
    (h : buildCoordinates kind parameter c tolerance values = .ok es) :
    (es.map fun e => passes db row (some e)) = values.map fun value =>
      (coordinateBounds parameter tolerance value).toOption.any fun bounds =>
        (row c).isBetween (.ofDecimal bounds.1) (.ofDecimal bounds.2) != kind.isNegated := by
  induction values generalizing es with
  | nil =>
    cases h
    rfl
  | cons value values ih =>
    obtain ⟨e, he, h⟩ := Outcome.bind_eq_ok.mp h
    obtain ⟨rest, hrest, h⟩ := Outcome.bind_eq_ok.mp h
    cases h
    obtain ⟨bounds, hbounds, rfl⟩ := buildCoordinate_eq_ok.mp he
    obtain ⟨hlow, hhigh⟩ := isFinite_of_coordinateBounds hbounds ht
    rw [List.map_cons, List.map_cons, ih hrest, hbounds,
      passes_coordinateCondition hc kind hlow hhigh]
    rfl

end Strategy

end Clickstream
