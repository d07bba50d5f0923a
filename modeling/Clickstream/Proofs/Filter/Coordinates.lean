import Clickstream.Proofs.Filter.Selection
import Clickstream.Proofs.Filter.Values
import Clickstream.Proofs.Number.Decimal

/-!
# Values of coordinates

The values of a filter on a coordinate are numerals, which are compared within a tolerance.  A value
that is no finite numeral is refused.  Of the others, those in reach have bounds, and those beyond
the range of decimals have none (`InReach`, `OutOfReach`, `coordinateBounds_cases`): there the
arithmetic overflows, and the fault is passed on.  A filter compiles if all of its values are in
reach, and the first one that is not decides how it fails (`compile_coordinate`).
-/

namespace Clickstream

namespace Strategy

/-! ## Numbers of values -/

/-- The number that a value is a finite numeral of. -/
def coordinate? (value : String) : Option ℚ :=
  (Decimal.read (Text.strip value).toList).toOption.bind Decimal.toRat?

/-- The bounds of a value are within the range of decimals. -/
def InReach (value : String) : Prop :=
  ∃ x, coordinate? value = some x ∧ |x| + 1 / 1000 < DecimalContext.standard.limit

/-- The bounds of a value are beyond the range of decimals. -/
def OutOfReach (value : String) : Prop :=
  ∃ x, coordinate? value = some x ∧ DecimalContext.standard.limit ≤ |x| + 1 / 1000

theorem toRat?_coordinateTolerance : coordinateTolerance.toRat? = some (1 / 1000) := by
  refine congrArg some ?_
  rw [Decimal.withSign, if_neg Bool.false_ne_true]
  norm_num

theorem not_inReach {value : String} (h : OutOfReach value) : ¬ InReach value := by
  rintro ⟨x, hx, hlt⟩
  obtain ⟨y, hy, hle⟩ := h
  cases hx.symm.trans hy
  exact not_le.mpr hlt hle

/-- A value is read as a finite numeral, or it is refused. -/
theorem readCoordinate_cases (parameter value : String) :
    (∃ r, readCoordinate parameter value = reject r) ∧ coordinate? value = none ∨
      ∃ d x, readCoordinate parameter value = .ok d ∧ d.toRat? = some x ∧
        coordinate? value = some x := by
  unfold readCoordinate coordinate?
  cases Decimal.read (Text.strip value).toList with
  | error signal => exact .inl ⟨⟨_, rfl⟩, rfl⟩
  | ok d =>
    dsimp only
    rw [← Decimal.isSome_toRat?]
    cases hd : d.toRat? with
    | none => exact .inl ⟨⟨_, if_neg Bool.false_ne_true⟩, hd⟩
    | some x => exact .inr ⟨d, x, if_pos rfl, hd, hd⟩

/-! ## Bounds -/

theorem max_abs_sub_abs_add {x t : ℚ} (ht : 0 ≤ t) : max |x - t| |x + t| = |x| + t := by
  rcases le_total 0 x with hx | hx
  · rw [abs_of_nonneg hx, abs_of_nonneg (add_nonneg hx ht), max_eq_right]
    exact abs_le.mpr ⟨by linarith, by linarith⟩
  · rw [abs_of_nonpos hx, abs_of_nonpos (by linarith : x - t ≤ 0), max_eq_left]
    · ring
    · exact abs_le.mpr ⟨by linarith, by linarith⟩

theorem decimalOutcome_cases (x : Except DecimalSignal Decimal) :
    (∃ d, x = .ok d ∧ decimalOutcome x = .ok d) ∨
      ∃ signal, x = .error signal ∧ decimalOutcome x = raise (.decimal signal) := by
  cases x with
  | ok d => exact .inl ⟨d, rfl, rfl⟩
  | error signal => exact .inr ⟨signal, rfl, rfl⟩

/-- A value that is no finite numeral is refused, one out of reach overflows, and one in reach has
bounds. -/
theorem coordinateBounds_cases (parameter value : String) :
    coordinate? value = none ∧
        (∃ r, coordinateBounds parameter coordinateTolerance value = .error (.rejected r)) ∨
      OutOfReach value ∧ coordinateBounds parameter coordinateTolerance value =
        .error (.fault (.decimal .overflow)) ∨
      InReach value ∧
        ∃ bounds, coordinateBounds parameter coordinateTolerance value = .ok bounds := by
  have hctx := DecimalContext.isProper_standard
  unfold coordinateBounds
  rcases readCoordinate_cases parameter value with ⟨⟨r, hr⟩, hnone⟩ | ⟨d, x, hread, hd, hx⟩
  · rw [hr]
    exact .inl ⟨hnone, r, rfl⟩
  · have hmax := @max_abs_sub_abs_add x (1 / 1000) (by norm_num)
    have hsub := @Decimal.sub_eq_error_iff _ _ _ _ _ hctx hd toRat?_coordinateTolerance
    have hadd := @Decimal.add_eq_error_iff _ _ _ _ _ hctx hd toRat?_coordinateTolerance
    rw [hread, Outcome.ok_bind]
    by_cases hlimit : DecimalContext.standard.limit ≤ |x| + 1 / 1000
    · refine .inr (.inl ⟨⟨x, hx, hlimit⟩, ?_⟩)
      rw [← hmax, le_max_iff] at hlimit
      by_cases hlow : DecimalContext.standard.limit ≤ |x - 1 / 1000|
      · rw [hsub.mpr ⟨rfl, hlow⟩]
        rfl
      · rw [hadd.mpr ⟨rfl, hlimit.resolve_left hlow⟩]
        rcases decimalOutcome_cases (Decimal.sub .standard d coordinateTolerance) with
          ⟨low, -, hok⟩ | ⟨signal, herror, -⟩
        · rw [hok]
          rfl
        · exact absurd (hsub.mp herror).2 hlow
    · refine .inr (.inr ⟨⟨x, hx, not_le.mp hlimit⟩, ?_⟩)
      rw [← hmax, le_max_iff, not_or] at hlimit
      rcases decimalOutcome_cases (Decimal.sub .standard d coordinateTolerance) with
        ⟨low, -, hlow⟩ | ⟨signal, herror, -⟩
      · rcases decimalOutcome_cases (Decimal.add .standard d coordinateTolerance) with
          ⟨high, -, hhigh⟩ | ⟨signal, herror, -⟩
        · rw [hlow, hhigh]
          exact ⟨(low, high), rfl⟩
        · exact absurd (hadd.mp herror).2 hlimit.2
      · exact absurd (hsub.mp herror).2 hlimit.1

theorem coordinateBounds_failsOnly (parameter value : String) :
    Outcome.FailsOnly (fun e => (∃ r, e = .rejected r) ∨ e = .fault (.decimal .overflow))
      (coordinateBounds parameter coordinateTolerance value) := by
  rcases coordinateBounds_cases parameter value with ⟨-, r, h⟩ | ⟨-, h⟩ | ⟨-, bounds, h⟩
  · rw [h]
    exact .error (.inl ⟨r, rfl⟩)
  · rw [h]
    exact .error (.inr rfl)
  · rw [h]
    exact .ok bounds

theorem coordinateBounds_ok_iff {parameter value : String} :
    (∃ bounds, coordinateBounds parameter coordinateTolerance value = .ok bounds) ↔
      InReach value := by
  rcases coordinateBounds_cases parameter value with
    ⟨hnone, r, h⟩ | ⟨hout, h⟩ | ⟨hreach, h⟩
  · rw [h]
    refine iff_of_false nofun ?_
    rintro ⟨x, hx, -⟩
    rw [hnone] at hx
    cases hx
  · rw [h]
    exact iff_of_false nofun (not_inReach hout)
  · exact iff_of_true h hreach

theorem coordinateBounds_overflow_iff {parameter value : String} :
    coordinateBounds parameter coordinateTolerance value = .error (.fault (.decimal .overflow)) ↔
      OutOfReach value := by
  rcases coordinateBounds_cases parameter value with
    ⟨hnone, r, h⟩ | ⟨hout, h⟩ | ⟨hreach, bounds, h⟩
  · rw [h]
    refine iff_of_false nofun ?_
    rintro ⟨x, hx, -⟩
    rw [hnone] at hx
    cases hx
  · exact iff_of_true h hout
  · rw [h]
    exact iff_of_false nofun fun hout => not_inReach hout hreach

/-! ## Several values -/

/-- An item of a list stands at its head, or further on behind the head. -/
theorem exists_split_cons_iff {α : Type} {P Q : α → Prop} {first : α} {items : List α} :
    (∃ before item after, first :: items = before ++ item :: after ∧ (∀ a ∈ before, P a) ∧ Q item) ↔
      Q first ∨ P first ∧
        ∃ before item after, items = before ++ item :: after ∧ (∀ a ∈ before, P a) ∧ Q item := by
  constructor
  · rintro ⟨before, item, after, h, hbefore, hitem⟩
    cases before with
    | nil =>
      cases h
      exact .inl hitem
    | cons a before =>
      cases h
      obtain ⟨hfirst, hbefore⟩ := List.forall_mem_cons.mp hbefore
      exact .inr ⟨hfirst, before, item, after, rfl, hbefore, hitem⟩
  · rintro (hfirst | ⟨hfirst, before, item, after, rfl, hbefore, hitem⟩)
    · exact ⟨[], first, items, rfl, List.forall_mem_nil _, hfirst⟩
    · exact ⟨first :: before, item, after, rfl, List.forall_mem_cons.mpr ⟨hfirst, hbefore⟩, hitem⟩

section

variable {kind : FilterKind} {parameter : String} {c : Column} {tolerance : Decimal}

theorem buildCoordinates_cons_eq_error_iff {first : String} {values : List String} {e : Failure} :
    buildCoordinates kind parameter c tolerance (first :: values) = .error e ↔
      coordinateBounds parameter tolerance first = .error e ∨
        (∃ bounds, coordinateBounds parameter tolerance first = .ok bounds) ∧
          buildCoordinates kind parameter c tolerance values = .error e := by
  rw [buildCoordinates, buildCoordinate_eq]
  cases hfirst : coordinateBounds parameter tolerance first with
  | error e' =>
    constructor
    · intro h
      cases h
      exact .inl rfl
    · rintro (h | ⟨⟨bounds, h⟩, -⟩)
      · cases h
        rfl
      · cases h
  | ok bounds =>
    have hrest : ((buildCoordinates kind parameter c tolerance values >>= fun es =>
        .ok (coordinateCondition kind c bounds :: es)) = .error e) ↔
        buildCoordinates kind parameter c tolerance values = .error e := by
      rw [Outcome.bind_eq_error]
      refine or_iff_left ?_
      rintro ⟨es, -, h⟩
      cases h
    refine hrest.trans ?_
    rw [and_iff_right ⟨bounds, rfl⟩]
    refine (or_iff_right ?_).symm
    intro h
    cases h

/-- Some values fail as the first one without bounds does. -/
theorem buildCoordinates_eq_error_iff {values : List String} {e : Failure} :
    buildCoordinates kind parameter c tolerance values = .error e ↔
      ∃ before value after, values = before ++ value :: after ∧
        (∀ v ∈ before, ∃ bounds, coordinateBounds parameter tolerance v = .ok bounds) ∧
        coordinateBounds parameter tolerance value = .error e := by
  induction values with
  | nil =>
    constructor
    · intro h
      cases h
    · rintro ⟨before, value, after, h, -⟩
      exact absurd h.symm (List.append_ne_nil_of_right_ne_nil _ (List.cons_ne_nil _ _))
  | cons first values ih =>
    rw [buildCoordinates_cons_eq_error_iff, ih, exists_split_cons_iff]

end

theorem resolve_coordinate {parameter : String} (h : parameter ∈ coordinateParameters) :
    ∃ c : Column, c.isCoordinate = true ∧ c.sql = parameter ∧
      resolve standard parameter = .ok (.tolerance c coordinateTolerance) := by
  rcases List.mem_pair.mp h with rfl | rfl
  · exact ⟨.lat, rfl, rfl, rfl⟩
  · exact ⟨.lon, rfl, rfl, rfl⟩

end Strategy

namespace Filter

open Strategy

/-! ## Filters on coordinates -/

/-- A filter on a coordinate compiles once its condition is built. -/
theorem exists_compile_coordinate_eq {parameter : String}
    (hparameter : parameter ∈ coordinateParameters) (kind : FilterKind) (values : List String)
    (site : Int) (time : Option Expr) : ∃ c finish,
    compile standard [⟨parameter, kind, values⟩] (.int site) time =
      if kind.isPattern then .error (.rejected (.coordinatePattern parameter))
      else (buildCoordinates kind parameter c coordinateTolerance values).map finish := by
  obtain ⟨c, hc, -, hresolve⟩ := resolve_coordinate hparameter
  have hplain : c.isPlain = true := by
    cases c with
    | other sql => cases hc
    | _ => rfl
  refine ⟨c, fun es =>
    (Fragment.ofConditions "f" [some (junction kind es)]).toOption.getD .empty, ?_⟩
  rw [compile_eq rfl, conditionsFrom, hresolve, Outcome.ok_bind, build]
  cases kind.isPattern with
  | true => rfl
  | false =>
    rw [if_neg Bool.false_ne_true, if_neg Bool.false_ne_true]
    cases hbuild : buildCoordinates kind parameter c coordinateTolerance values with
    | error e => rfl
    | ok es =>
      obtain ⟨-, hparams⟩ := buildCoordinates_isPlain hplain rfl hbuild
      have hnone : (junction kind es).params = [] := by
        rw [junction_params, hparams]
      obtain ⟨f, hf⟩ := Fragment.exists_ofConditions hnone "f"
      show Fragment.ofConditions "f" [some (junction kind es)] =
        .ok ((Fragment.ofConditions "f" [some (junction kind es)]).toOption.getD .empty)
      rw [hf]
      rfl

/-- What becomes of a filter on a coordinate.  It fails in two ways only: it is refused, or the
arithmetic overflows.  It overflows if and only if it is no pattern and one of its values is out of
reach while all values before that are in reach; and it compiles if and only if it is no pattern and
all of its values are in reach. -/
structure IsCoordinateOutcome (kind : FilterKind) (values : List String)
    (outcome : Outcome Fragment) : Prop where
  fails : outcome.FailsOnly fun e => (∃ r, e = .rejected r) ∨ e = .fault (.decimal .overflow)
  overflows_iff : outcome = .error (.fault (.decimal .overflow)) ↔ kind.isPattern = false ∧
    ∃ before value after, values = before ++ value :: after ∧ (∀ v ∈ before, InReach v) ∧
      OutOfReach value
  compiles_iff : (∃ f, outcome = .ok f) ↔ kind.isPattern = false ∧ ∀ value ∈ values, InReach value

/-- A filter on a coordinate compiles, is refused or overflows by the reach of its values. -/
theorem compile_coordinate {parameter : String} (hparameter : parameter ∈ coordinateParameters)
    (kind : FilterKind) (values : List String) (site : Int) (time : Option Expr) :
    IsCoordinateOutcome kind values
      (compile standard [⟨parameter, kind, values⟩] (.int site) time) := by
  obtain ⟨c, finish, hcompile⟩ := exists_compile_coordinate_eq hparameter kind values site time
  rw [hcompile]
  cases hpattern : kind.isPattern with
  | true =>
    rw [if_pos rfl]
    refine ⟨.error (.inl ⟨_, rfl⟩), ?_, ?_⟩
    all_goals
      rw [hpattern]
      exact iff_of_false nofun nofun
  | false =>
    rw [if_neg Bool.false_ne_true]
    refine ⟨Outcome.FailsOnly.map ?_ _, ?_, ?_⟩
    · intro e he
      obtain ⟨-, value, -, -, -, hvalue⟩ := buildCoordinates_eq_error_iff.mp he
      exact coordinateBounds_failsOnly _ _ e hvalue
    · rw [and_iff_right hpattern, Outcome.map_eq_error, buildCoordinates_eq_error_iff]
      simp only [coordinateBounds_ok_iff, coordinateBounds_overflow_iff]
    · simp only [and_iff_right hpattern, ← @coordinateBounds_ok_iff parameter]
      rw [← @exists_buildCoordinates_iff kind parameter c]
      constructor
      · rintro ⟨f, h⟩
        obtain ⟨es, hes, -⟩ := Outcome.map_eq_ok.mp h
        exact ⟨es, hes⟩
      · rintro ⟨es, hes⟩
        exact ⟨_, Outcome.map_eq_ok.mpr ⟨es, hes, rfl⟩⟩

/-- The first value is in reach, the second one is not. -/
theorem compile_coordinate_secondValue :
    "lon" ∈ coordinateParameters ∧ InReach "48.2" ∧ OutOfReach "1e1000000" ∧
    compile standard [⟨"lon", .notEquals, ["48.2", "1e1000000"]⟩] (.int 1) none =
      .error (.fault (.decimal .overflow)) := by
  have hfirst : InReach "48.2" := by
    refine ⟨482 * 10 ^ (-1 : Int), rfl, ?_⟩
    have htop : (10 : ℚ) ^ (0 : Int) ≤ 10 ^ DecimalContext.standard.topExponent :=
      DecimalContext.ten_zpow_le (by decide)
    have hlimit : ((10 : ℚ) ^ 28 - 1 / 2) * 10 ^ (0 : Int) ≤ DecimalContext.standard.limit :=
      mul_le_mul_of_nonneg_left htop (by norm_num)
    refine lt_of_lt_of_le ?_ hlimit
    norm_num [abs_of_pos]
  have hsecond : OutOfReach "1e1000000" := by
    refine ⟨1 * 10 ^ (1000000 : Int), rfl, ?_⟩
    have hlimit : DecimalContext.standard.limit ≤ 10 ^ (1000000 : Int) :=
      DecimalContext.standard.limit_le
    rw [one_mul, abs_of_pos (DecimalContext.ten_zpow_pos _)]
    linarith
  exact ⟨by decide, hfirst, hsecond,
    (compile_coordinate (by decide) _ _ _ _).overflows_iff.mpr
      ⟨rfl, ["48.2"], "1e1000000", [], rfl, List.forall_mem_singleton.mpr hfirst, hsecond⟩⟩

/-- The difference of a value out of reach and the tolerance overflows, and the filter is not
refused. -/
theorem overflow_not_refused :
    compile standard [⟨"lat", .equals, ["1e1000000"]⟩] (.int 1) none =
      .error (.fault (.decimal .overflow)) ∧
    ¬ Outcome.Refuses (compile standard [⟨"lat", .equals, ["1e1000000"]⟩] (.int 1) none) := by
  have hfault : compile standard [⟨"lat", .equals, ["1e1000000"]⟩] (.int 1) none =
    .error (.fault (.decimal .overflow)) := rfl
  refine ⟨hfault, fun hrefuses => ?_⟩
  obtain ⟨r, hr⟩ := hrefuses _ hfault
  cases hr

end Filter

end Clickstream
