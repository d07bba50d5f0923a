import Clickstream.Proofs.Filter.Partition

/-!
# Filters on parts of texts

A value of a filter on parts is compared as a pattern: its wildcards are not taken for themselves.
So an inclusion finds the texts of which some part fits the value (`HasPart`), and an exclusion the
other ones (`contains_finds_parts`).  The texts that hold the value itself are among the found ones,
and they are all of them for exactly those values that hold no wildcard (`hasPart_iff_isInfix`).
-/

namespace Clickstream

/-! ## Parts -/

/-- The value holds no wildcard. -/
def IsLiteral (value : String) : Prop :=
  ∀ c ∈ value.toList, ¬ IsWildcard c

/-- A value is a part of every text that it occurs in. -/
theorem hasPart_of_isInfix {value text : String} (h : value.toList <:+: text.toList) :
    HasPart value text :=
  ⟨value.toList, h, fitsLike_refl value.toList⟩

/-- Having a value as a part means that the value occurs, whatever the text is, for the values
without wildcards only. -/
theorem hasPart_iff_isInfix {value : String} :
    (∀ text : String, HasPart value text ↔ value.toList <:+: text.toList) ↔ IsLiteral value := by
  constructor
  · intro h c hc hwildcard
    -- The bare text of the value fits it, but holds no wildcard, and so not the value.
    obtain ⟨hfits, hbare⟩ := fitsLike_bare value.toList
    have hpart : HasPart value (String.ofList (bareText value.toList)) := by
      rw [HasPart, String.toList_ofList]
      exact ⟨_, List.infix_refl _, hfits⟩
    have hoccurs := (h _).mp hpart
    rw [String.toList_ofList] at hoccurs
    exact hbare c (hoccurs.subset hc) hwildcard
  · intro h text
    constructor
    · rintro ⟨part, hpart, hfits⟩
      rwa [(fitsLike_of_plain h).mp hfits] at hpart
    · exact hasPart_of_isInfix

namespace Filter

/-! ## Compiled filters -/

section

variable {parameter : String} {c : Column}

/-- The condition of a filter on a column looks at this column of a row alone. -/
theorem exists_compile_column {time : Option Expr} (htime : TimeRange.IsWindow time)
    (hstrategy : Strategy.resolve Strategy.standard parameter = .ok (.column c)) (kind : FilterKind)
    (values : List String) (site : Int) :
    ∃ f, compile Strategy.standard [⟨parameter, kind, values⟩] (.int site) time = .ok f ∧
      ∀ (db : Database) (row : Row) (text : Option String), row c = Cell.ofText? text →
        Clickstream.passes db row f.condition =
          kind.combine (fun value => kind.passesText value text) values := by
  have hbuilt : conditionsFrom Strategy.standard site time 0 [⟨parameter, kind, values⟩] =
      .ok [Strategy.compareColumn ⟨0, site, time⟩ kind values c] := by
    rw [conditionsFrom, hstrategy]
    rfl
  obtain ⟨f, r, hf, -, hcondition⟩ := renders_conditions htime hbuilt
  refine ⟨f, ?_, fun db row text hrow => ?_⟩
  · rw [compile_eq rfl, hbuilt, Outcome.ok_bind, hf]
  · rw [hcondition, passes_conjoin, List.map_singleton, List.all_cons, List.all_nil, Bool.and_true,
      Strategy.passes_compareColumn hrow]

/-- A filter on a part of a column includes the rows of which a part of the text in the column fits
the value, and excludes them.  Every text that holds the value itself is found, and no other texts
are if and only if the value holds no wildcard. -/
theorem contains_finds_parts [ZoneDatabase] {range : TimeRangeSpec} {now : Moment} {time : Fragment}
    (htime : range.compile now = .ok time)
    (hstrategy : Strategy.resolve Strategy.standard parameter = .ok (.column c)) (value : String)
    (site : Int) :
    ∃ included excluded,
      compile Strategy.standard [⟨parameter, .contains, [value]⟩] (.int site) time.condition =
        .ok included ∧
      compile Strategy.standard [⟨parameter, .notContains, [value]⟩] (.int site) time.condition =
        .ok excluded ∧
      (∀ (db : Database) (row : Row) (text : String), row c = .text text →
        (Clickstream.passes db row included.condition = true ↔ HasPart value text) ∧
        (Clickstream.passes db row excluded.condition = true ↔ ¬ HasPart value text)) ∧
      (∀ text : String, value.toList <:+: text.toList → HasPart value text) ∧
      ((∀ text : String, HasPart value text ↔ value.toList <:+: text.toList) ↔
        IsLiteral value) := by
  obtain ⟨hwindow, -⟩ := TimeRange.renders_window htime
  obtain ⟨included, hincluded, hpasses⟩ :=
    exists_compile_column hwindow hstrategy .contains [value] site
  obtain ⟨excluded, hexcluded, hpasses'⟩ :=
    exists_compile_column hwindow hstrategy .notContains [value] site
  refine ⟨included, excluded, hincluded, hexcluded, fun db row text hrow => ⟨?_, ?_⟩,
    fun _ => hasPart_of_isInfix, hasPart_iff_isInfix⟩
  · have hcondition : Clickstream.passes db row included.condition =
        (FilterKind.contains.matchesText value text || false) := hpasses db row (some text) hrow
    rw [hcondition, Bool.or_false, FilterKind.matchesText_contains_iff]
  · have hcondition : Clickstream.passes db row excluded.condition =
        (!FilterKind.contains.matchesText value text && true) := hpasses' db row (some text) hrow
    rw [hcondition, Bool.and_true, ← FilterKind.matchesText_contains_iff, Bool.not_eq_true',
      Bool.not_eq_true]

end

/-- A visit of a page whose path holds a hyphen. -/
def aboutVisit : Event :=
  { Request.visit 1 Request.hourEnd with
    attributes := fun a => if a = .pathname then some "/about-us" else none }

/-- An underscore finds a path with a hyphen in its place. -/
theorem contains_finds_parts_underscore :
    ∃ time included excluded,
      Request.withoutSignup.range.compile Request.withoutSignup.now = .ok time ∧
      compile Strategy.standard [⟨"pathname", .contains, ["about_us"]⟩] (.int 1) time.condition =
        .ok included ∧
      compile Strategy.standard [⟨"pathname", .notContains, ["about_us"]⟩] (.int 1)
        time.condition = .ok excluded ∧
      Clickstream.passes ⟨[aboutVisit], Request.hourEnd⟩ aboutVisit.cell included.condition =
        true ∧
      ¬ Clickstream.passes ⟨[aboutVisit], Request.hourEnd⟩ aboutVisit.cell excluded.condition =
        true := by
  obtain ⟨time, -, htime, -⟩ := Request.withoutSignup_compile
  obtain ⟨included, excluded, hincluded, hexcluded, hpasses, -⟩ :=
    @contains_finds_parts "pathname" _ _ _ _ _ htime rfl "about_us" 1
  have hpart : HasPart "about_us" "/about-us" := FilterKind.matchesText_contains_iff.mp rfl
  obtain ⟨hfound, hleft⟩ := hpasses ⟨[aboutVisit], Request.hourEnd⟩ aboutVisit.cell "/about-us" rfl
  exact ⟨time, included, excluded, htime, hincluded, hexcluded, hfound.mpr hpart,
    fun hpassed => hleft.mp hpassed hpart⟩

/-- A path that does not hold the text of the value is included, and excluded by the opposite
filter. -/
theorem absent_value_found :
    ∃ included excluded,
      compile Strategy.standard [⟨"pathname", .contains, ["about_us"]⟩] (.int 1) none =
        .ok included ∧
      compile Strategy.standard [⟨"pathname", .notContains, ["about_us"]⟩] (.int 1) none =
        .ok excluded ∧
      aboutVisit.cell (.attribute .pathname) = .text "/about-us" ∧
      ¬ "about_us".toList <:+: "/about-us".toList ∧
      Clickstream.passes ⟨[aboutVisit], Request.hourEnd⟩ aboutVisit.cell included.condition =
        true ∧
      Clickstream.passes ⟨[aboutVisit], Request.hourEnd⟩ aboutVisit.cell excluded.condition =
        false :=
  ⟨_, _, rfl, rfl, rfl, by decide, rfl, rfl⟩

end Filter

end Clickstream
