import Clickstream.Proofs.Filter.Coordinates
import Clickstream.Proofs.Number.Positional
import Clickstream.Proofs.Text.Blank

/-!
# Texts of coordinates

Coordinates are the only values that become part of the text of a query.  In whatever form a value
is written, its bounds stand there in positional notation, and they are exact if both of them have
short coefficients (`BoundsText`, `boundsText_of_coordinateBounds`).  In compiled filters, the
condition of a filter on a coordinate is the junction of the comparisons with these bounds
(`compile_coordinateText`).
-/

namespace Clickstream

/-! ## Numerals of values -/

namespace Strategy

/-- The characters of a value that count: no white space around them, and no underscores. -/
def plainText (value : String) : List Char :=
  (Text.trimBoth Text.isBlank value.toList).filter (· != '_')

theorem readNamed?_isFinite {cs : List Char} {d : Decimal} (h : Decimal.readNamed? cs = some d) :
    d.isFinite = false := by
  unfold Decimal.readNamed? at h
  dsimp only at h
  split at h
  · cases h
    rfl
  · cases h
    rfl
  · obtain ⟨n, -, rfl⟩ := Option.map_eq_some_iff.mp h
    rfl
  · obtain ⟨n, -, rfl⟩ := Option.map_eq_some_iff.mp h
    rfl
  · cases h

/-- The number of a value is what its plain text denotes. -/
theorem exists_numeral {value : String} {x : ℚ} (h : coordinate? value = some x) :
    ∃ n, Numeral.read? (plainText value) = some n ∧ n.value = x := by
  have hplain : (Text.trimBoth Text.isBlank (Text.strip value).toList).filter (· != '_') =
      plainText value := by
    rw [Text.strip, String.toList_ofList, Text.trimBoth_trimBoth]
    rfl
  rw [coordinate?, Decimal.read, hplain] at h
  cases hread : Numeral.read? (plainText value) with
  | some n =>
    rw [hread] at h
    dsimp only at h
    refine ⟨n, rfl, ?_⟩
    unfold Decimal.ofNumeral at h
    dsimp only at h
    split at h
    · cases h
    · exact Option.some.inj h
  | none =>
    rw [hread] at h
    dsimp only at h
    cases hnamed : Decimal.readNamed? (plainText value) with
    | none =>
      rw [hnamed] at h
      cases h
    | some d =>
      rw [hnamed] at h
      have hd : d.toRat? = some x := h
      have hfinite := readNamed?_isFinite hnamed
      rw [← Decimal.isSome_toRat?, hd] at hfinite
      cases hfinite

/-! ## Bounds -/

/-- The text is a numeral that denotes the number. -/
def Denotes (text : String) (x : ℚ) : Prop :=
  ∃ n, Numeral.read? text.toList = some n ∧ n.value = x

/-- The text of a number as it stands in a query: an optional minus, digits, and a point with
further digits unless there are none. -/
def IsNumberText (text : String) : Prop :=
  ∃ negative whole fraction, IsPositional text.toList negative whole fraction

/-- What the texts of the bounds of a value are.  They are exact if both numbers have short
coefficients. -/
structure BoundsText (value : String) (texts : String × String) : Prop where
  low : IsNumberText texts.1
  high : IsNumberText texts.2
  exact : ∃ n, Numeral.read? (plainText value) = some n ∧
    (DecimalContext.standard.Fits (n.value - 1 / 1000) →
      DecimalContext.standard.Fits (n.value + 1 / 1000) →
      Denotes texts.1 (n.value - 1 / 1000) ∧ Denotes texts.2 (n.value + 1 / 1000))

theorem isNumberText_toText {d : Decimal} (h : d.isFinite = true) : IsNumberText d.toText := by
  rw [← Decimal.isSome_toRat?, Option.isSome_iff_exists] at h
  obtain ⟨x, hx⟩ := h
  exact (Decimal.read?_toText hx).1

/-- If both bounds of a number have short coefficients, decimals can write both. -/
theorem writes_bounds {x : ℚ} (hlow : DecimalContext.standard.Fits (x - 1 / 1000))
    (hhigh : DecimalContext.standard.Fits (x + 1 / 1000)) :
    DecimalContext.standard.Writes (x - 1 / 1000) ∧
      DecimalContext.standard.Writes (x + 1 / 1000) := by
  have hunits : ∀ d : Int, (d : ℚ) * 10 ^ (-3 : Int) = d / 1000 := by
    intro d
    rw [show (10 : ℚ) ^ (-3 : Int) = 1 / 1000 by norm_num, mul_one_div]
  constructor
  · refine DecimalContext.writes_of_fits (d := 2) (l := -3) (by decide) (by decide) ?_ hlow hhigh
    rw [hunits]
    push_cast
    ring
  · refine DecimalContext.writes_of_fits (d := -2) (l := -3) (by decide) (by decide) ?_ hhigh hlow
    rw [hunits]
    push_cast
    ring

/-- The bounds of a value are written in positional notation, and exactly if that is possible. -/
theorem boundsText_of_coordinateBounds {parameter value : String} {bounds : Decimal × Decimal}
    (h : coordinateBounds parameter coordinateTolerance value = .ok bounds) :
    BoundsText value (bounds.1.toText, bounds.2.toText) := by
  obtain ⟨hfiniteLow, hfiniteHigh⟩ := isFinite_of_coordinateBounds h rfl
  refine ⟨isNumberText_toText hfiniteLow, isNumberText_toText hfiniteHigh, ?_⟩
  obtain ⟨d, hd, h⟩ := Outcome.bind_eq_ok.mp h
  obtain ⟨low, hlow, h⟩ := Outcome.bind_eq_ok.mp h
  obtain ⟨high, hhigh, h⟩ := Outcome.bind_eq_ok.mp h
  cases h
  rcases readCoordinate_cases parameter value with ⟨⟨r, hr⟩, -⟩ | ⟨d', x, hread, hx, hvalue⟩
  · rw [hr] at hd
    cases hd
  · rw [hread] at hd
    cases hd
    obtain ⟨n, hn, rfl⟩ := exists_numeral hvalue
    refine ⟨n, hn, fun hfitsLow hfitsHigh => ?_⟩
    obtain ⟨hwritesLow, hwritesHigh⟩ := writes_bounds hfitsLow hfitsHigh
    have hctx := DecimalContext.isProper_standard
    exact ⟨(Decimal.read?_toText (Decimal.toRat?_of_sub hctx hx toRat?_coordinateTolerance
        (decimalOutcome_eq_ok hlow) hwritesLow)).2,
      (Decimal.read?_toText (Decimal.toRat?_of_add hctx hx toRat?_coordinateTolerance
        (decimalOutcome_eq_ok hhigh) hwritesHigh)).2⟩

/-! ## Conditions -/

/-- The comparison of a column with the texts of two bounds. -/
def coordinateText (kind : FilterKind) (column : String) (texts : String × String) : String :=
  if kind.isNegated then
    "(" ++ column ++ " < " ++ texts.1 ++ " OR " ++ column ++ " > " ++ texts.2 ++ " OR " ++ column ++
      " IS NULL)"
  else "(" ++ column ++ " >= " ++ texts.1 ++ " AND " ++ column ++ " <= " ++ texts.2 ++ ")"

theorem coordinateCondition_sql (name : Param → String) (kind : FilterKind) (c : Column)
    (bounds : Decimal × Decimal) : (coordinateCondition kind c bounds).sql name =
      coordinateText kind c.sql (bounds.1.toText, bounds.2.toText) := by
  unfold coordinateCondition coordinateText
  split
  all_goals
    simp only [Expr.sql, sqlOfAll, junctionSql, Comparison.sql, String.intercalate_cons_cons,
      String.intercalate_singleton, String.append_assoc]
    rfl

theorem buildCoordinates_sql (name : Param → String) {kind : FilterKind} {parameter : String}
    {c : Column} {values : List String} {es : List Expr}
    (h : buildCoordinates kind parameter c coordinateTolerance values = .ok es) :
    ∃ texts, sqlOfAll name es = texts.map (coordinateText kind c.sql) ∧
      List.Forall₂ BoundsText values texts := by
  induction values generalizing es with
  | nil =>
    cases h
    exact ⟨[], rfl, .nil⟩
  | cons value values ih =>
    obtain ⟨first, hfirst, h⟩ := Outcome.bind_eq_ok.mp h
    obtain ⟨rest, hrest, h⟩ := Outcome.bind_eq_ok.mp h
    cases h
    obtain ⟨bounds, hbounds, rfl⟩ := buildCoordinate_eq_ok.mp hfirst
    obtain ⟨texts, htexts, hall⟩ := ih hrest
    refine ⟨_ :: texts, ?_, .cons (boundsText_of_coordinateBounds hbounds) hall⟩
    rw [sqlOfAll, coordinateCondition_sql, htexts, List.map_cons]

end Strategy

namespace Filter

open Strategy

/-! ## Lists of filters -/

/-- The text of a condition is that of a filter on a coordinate. -/
def IsCoordinateText (filter : Filter) (piece : String) : Prop :=
  ∃ texts, piece = junctionSql (if filter.kind.isNegated then " AND " else " OR ")
      (texts.map (coordinateText filter.kind filter.parameter)) ∧
    List.Forall₂ BoundsText filter.values texts

theorem build_isCoordinateText (name : Param → String) {filter : Filter}
    (hparameter : filter.parameter ∈ coordinateParameters) {strategy : Strategy} {scope : Scope}
    {e : Expr} (hresolve : resolve standard filter.parameter = .ok strategy)
    (h : strategy.build scope filter = .ok e) : filter.IsCoordinateText (e.sql name) := by
  obtain ⟨c, -, hc, hcoordinate⟩ := resolve_coordinate hparameter
  rw [hcoordinate] at hresolve
  cases hresolve
  rw [build] at h
  split at h
  · cases h
  · obtain ⟨es, hes, rfl⟩ := Outcome.map_eq_ok.mp h
    obtain ⟨texts, htexts, hall⟩ := buildCoordinates_sql name hes
    refine ⟨texts, ?_, hall⟩
    rw [junction_sql, htexts, hc]

/-- In compiled filters, the conditions stand one after the other.  That of a filter on a coordinate
compares it with the bounds of the values: the numerals of the bounds are in positional notation,
and they denote the value less and plus the tolerance exactly, if both of these have short
coefficients. -/
theorem compile_coordinateText {filters : List Filter} {site : Value} {time : Option Expr}
    {f : Fragment} (h : compile standard filters site time = .ok f) :
    ∃ pieces, f.sql = rowText pieces ∧
      List.Forall₂ (fun filter piece => filter.parameter ∈ coordinateParameters →
        filter.IsCoordinateText piece) filters pieces := by
  cases filters with
  | nil =>
    cases h
    exact ⟨[], rfl, .nil⟩
  | cons filter filters =>
    obtain ⟨s, -, h⟩ := Outcome.bind_eq_ok.mp h
    obtain ⟨es, hes, h⟩ := Outcome.bind_eq_ok.mp h
    obtain ⟨name, hname⟩ := Fragment.exists_sql_eq h
    rw [reduceOption_map_some] at hname
    refine ⟨_, hname, ?_⟩
    rw [sqlOfAll_eq_map, List.forall₂_map_right_iff]
    exact forall₂_conditionsFrom hes fun filter e _ strategy scope hstrategy he hparameter =>
      build_isCoordinateText name hparameter hstrategy he

/-- One latitude in two forms: with white space and an underscore, and with an exponent. -/
def sameLatitude : Filter :=
  ⟨"lat", .equals, [" 4_8.2\n", "482e-1"]⟩

/-- Both forms have the same bounds, and the bounds are exact. -/
theorem compile_coordinateText_sameLatitude : ∃ f pieces,
    compile standard [sameLatitude] (.int 1) none = .ok f ∧
    f.sql = "AND ((lat >= 48.199 AND lat <= 48.201) OR (lat >= 48.199 AND lat <= 48.201))" ∧
    f.sql = rowText pieces ∧
    List.Forall₂ (fun filter piece => filter.parameter ∈ coordinateParameters →
      filter.IsCoordinateText piece) [sameLatitude] pieces := by
  obtain ⟨pieces, hsql, hpieces⟩ := compile_coordinateText
    (rfl : compile standard [sameLatitude] (.int 1) none = .ok _)
  exact ⟨_, pieces, rfl, rfl, hsql, hpieces⟩

end Filter

end Clickstream
