import Mathlib.Tactic.IntervalCases
import Clickstream.Calendar.ZoneTable
import Clickstream.Proofs.TimeRange.Previous

/-!
# Days in requests

A request names a day by the ten characters `YYYY-MM-DD`, ASCII digits and hyphens, of a day of the
years 1 to 9999 (`CivilDate.IsDay`, `CivilDate.Spells`).  The check takes digits of any script and
overlooks a line feed at the end, and the reader knows other forms of a date; what passes both is
this form alone (`readDay_canonical`), so a day has one text in a request and is read back from it.
-/

namespace Clickstream

/-! ## Days of the calendar -/

/-- Every fourth year is a leap year, of the full centuries every fourth one. -/
def IsLeap (year : Nat) : Prop :=
  4 ∣ year ∧ (¬ 100 ∣ year ∨ 400 ∣ year)

theorem isLeapYear_iff_isLeap (year : Nat) : isLeapYear year = true ↔ IsLeap year := by
  rw [isLeapYear_iff, IsLeap]
  omega

namespace CivilDate

/-- A day of the Gregorian calendar in the years 1 to 9999. -/
structure IsDay (c : CivilDate) : Prop where
  year : 1 ≤ c.year ∧ c.year ≤ 9999
  month : 1 ≤ c.month ∧ c.month ≤ 12
  day : 1 ≤ c.day ∧ c.day ≤ 31
  thirty : c.month ∈ [4, 6, 9, 11] → c.day ≤ 30
  february : c.month = 2 → c.day ≤ 28 ∨ c.day = 29 ∧ IsLeap c.year

theorem le_daysInMonth_iff {year month day : Nat} (hmonth : 1 ≤ month ∧ month ≤ 12) :
    day ≤ daysInMonth year month ↔ day ≤ 31 ∧ (month ∈ [4, 6, 9, 11] → day ≤ 30) ∧
      (month = 2 → day ≤ 28 ∨ day = 29 ∧ IsLeap year) := by
  rw [← isLeapYear_iff_isLeap, daysInMonth, if_neg (by omega)]
  obtain ⟨hlow, hhigh⟩ := hmonth
  interval_cases month <;> cases isLeapYear year <;> simp [monthLengths] <;> omega

theorem isValid_iff {c : CivilDate} : c.isValid = true ↔ c.IsDay := by
  simp only [isValid, Bool.and_eq_true, decide_eq_true_eq]
  constructor
  · rintro ⟨⟨⟨⟨hyear, hmonth⟩, hmonth'⟩, hday⟩, hlength⟩
    obtain ⟨hday', hthirty, hfebruary⟩ := (le_daysInMonth_iff ⟨hmonth, hmonth'⟩).mp hlength
    exact ⟨hyear, ⟨hmonth, hmonth'⟩, ⟨hday, hday'⟩, hthirty, hfebruary⟩
  · intro h
    exact ⟨⟨⟨⟨h.year, h.month.1⟩, h.month.2⟩, h.day.1⟩,
      (le_daysInMonth_iff h.month).mpr ⟨h.day.2, h.thirty, h.february⟩⟩

/-- The characters are four digits for the year, two for the month and two for the day, with hyphens
between them. -/
def Spells (c : CivilDate) (cs : List Char) : Prop :=
  ∃ y₁ y₂ y₃ y₄ m₁ m₂ d₁ d₂ : Nat,
    (∀ d ∈ [y₁, y₂, y₃, y₄, m₁, m₂, d₁, d₂], d < 10) ∧
    c = ⟨Text.ofDigits [y₁, y₂, y₃, y₄], Text.ofDigits [m₁, m₂], Text.ofDigits [d₁, d₂]⟩ ∧
    cs = [y₁.digitChar, y₂.digitChar, y₃.digitChar, y₄.digitChar, '-',
      m₁.digitChar, m₂.digitChar, '-', d₁.digitChar, d₂.digitChar]

end CivilDate

namespace Date

theorem isDay_civil (d : Date) : d.civil.IsDay :=
  CivilDate.isValid_iff.mp d.isValid_civil

theorem exists_civil_eq {c : CivilDate} (h : c.IsDay) : ∃ d : Date, d.civil = c := by
  obtain ⟨d, hd⟩ := exists_ofCivil? (CivilDate.isValid_iff.mpr h)
  exact ⟨d, civil_of_ofCivil? hd⟩

/-- The characters that spell a day are those of the text of its date. -/
theorem spells_civil_iff {d : Date} {cs : List Char} :
    d.civil.Spells cs ↔ d.toText.toList = cs := by
  constructor
  · rintro ⟨y₁, y₂, y₃, y₄, m₁, m₂, d₁, d₂, hdigits, hcivil, rfl⟩
    have hparts : ∀ d ∈ [y₁, y₂, y₃, y₄] ++ ([m₁, m₂] ++ [d₁, d₂]), d < 10 := hdigits
    rw [List.forall_mem_append, List.forall_mem_append] at hparts
    have hyear := asciiNumber?_digitChars hparts.1
    have hmonth := asciiNumber?_digitChars hparts.2.1
    have hday := asciiNumber?_digitChars hparts.2.2
    simp only [List.map_cons, List.map_nil] at hyear hmonth hday
    refine toText_of_read? ?_
    rw [read?, hyear, hmonth, hday]
    show ofCivil? _ = some d
    rw [← hcivil, d.ofCivil?_civil]
  · rintro rfl
    obtain ⟨hyear, hmonth, hday⟩ := d.civil_lt
    refine ⟨_, _, _, _, _, _, _, _, ?_, ?_, d.toList_toText⟩
    · simp only [List.forall_mem_cons]
      exact ⟨by omega, by omega, by omega, by omega, by omega, by omega, by omega, by omega,
        List.forall_mem_nil _⟩
    · generalize d.civil = c at *
      obtain ⟨year, month, day⟩ := c
      simp only [CivilDate.mk.injEq, Text.ofDigits, List.foldl_cons, List.foldl_nil] at *
      omega

end Date

/-- The text is the one that a request has for a day: it spells a day of the calendar. -/
def IsDayText (text : String) : Prop :=
  ∃ c : CivilDate, c.IsDay ∧ c.Spells text.toList

theorem isDayText_iff {text : String} : IsDayText text ↔ ∃ d : Date, text = d.toText := by
  constructor
  · rintro ⟨c, hc, hspells⟩
    obtain ⟨d, rfl⟩ := Date.exists_civil_eq hc
    exact ⟨d, (String.toList_inj.mp (Date.spells_civil_iff.mp hspells)).symm⟩
  · rintro ⟨d, rfl⟩
    exact ⟨d.civil, d.isDay_civil, Date.spells_civil_iff.mpr rfl⟩

namespace TimeRangeSpec

/-! ## Checked days -/

variable {spec : TimeRangeSpec} {field text start stop name : String}

/-- What is no text of a day is refused for its form, or because the calendar has no such day. -/
theorem readDay_of_not_isDayText (h : ¬ IsDayText text) : readDay field text =
    reject (if looksLikeDate text.toList then .noCalendarDate field text
      else .dateForm field text) := by
  have hread : ∀ d, readDay field text ≠ .ok d := fun d hd =>
    h (isDayText_iff.mpr ⟨d, readDay_eq_ok.mp hd⟩)
  unfold readDay at hread ⊢
  split
  · next hlooks =>
    rw [if_pos hlooks] at hread
    cases hdate : Date.ofIso? text.toList with
    | none => rfl
    | some d =>
      rw [hdate] at hread
      exact absurd rfl (hread d)
  · rfl

/-- The request names two days and a zone, and no minutes. -/
structure NamesDays (spec : TimeRangeSpec) (start stop name : String) : Prop where
  start : supplied? spec.startDate = some start
  stop : supplied? spec.endDate = some stop
  zone : supplied? spec.timeZone = some name
  minutes : spec.hasMinutes = false

theorem NamesDays.resolve_eq [ZoneDatabase] (h : spec.NamesDays start stop name) :
    spec.resolve = (do
    let first ← readDay "start_date" start
    let last ← readDay "end_date" stop
    if last < first then reject (.datesInverted start)
    else do
      let zone ← readZone name
      .ok (.days first last zone)) := by
  have hdates : spec.hasDates = true := by
    rw [hasDates, supplied?_eq_some h.start]
    rfl
  rw [resolve, hdates, h.minutes, resolveDays, h.start, h.stop, h.zone]
  rfl

theorem readDay_of_isDayText (field : String) (h : IsDayText text) :
    ∃ d : Date, text = d.toText ∧ readDay field text = .ok d := by
  obtain ⟨d, rfl⟩ := isDayText_iff.mp h
  exact ⟨d, rfl, readDay_toText field d⟩

theorem exists_refusal (field : String) (h : ¬ IsDayText text) :
    ∃ r, readDay field text = .error (.rejected r) ∧ r.subject = field ∧ r.given = .text text := by
  refine ⟨_, readDay_of_not_isDayText h, ?_⟩
  split
  · exact ⟨rfl, rfl⟩
  · exact ⟨rfl, rfl⟩

/-- A request names a day by the text of the day and by nothing else.  The texts of days are the ten
ASCII characters `YYYY-MM-DD` for a day of the years 1 to 9999; each of them is accepted, read as
this day, and written again for it.  Every other text is refused, with the field that has it, and a
request that names its days by their texts fails by the order of the days or by the zone only. -/
theorem readDay_canonical [ZoneDatabase] :
    (∀ field text, (∃ d, readDay field text = .ok d) ↔ IsDayText text) ∧
    (∀ field text d, readDay field text = .ok d →
      d.toText = text ∧ d.civil.IsDay ∧ d.civil.Spells text.toList) ∧
    (∀ field (c : CivilDate), c.IsDay → ∃ d : Date, d.civil = c ∧ readDay field d.toText = .ok d) ∧
    (∀ field text, ¬ IsDayText text → ∃ r, readDay field text = .error (.rejected r) ∧
      r.subject = field ∧ r.given = .text text) ∧
    ∀ (spec : TimeRangeSpec) start stop name, spec.NamesDays start stop name →
      (¬ IsDayText start → ∃ r, spec.resolve = .error (.rejected r) ∧
        r.subject = "start_date" ∧ r.given = .text start) ∧
      (IsDayText start → ¬ IsDayText stop → ∃ r, spec.resolve = .error (.rejected r) ∧
        r.subject = "end_date" ∧ r.given = .text stop) ∧
      (IsDayText start → IsDayText stop → ∃ first last : Date,
        start = first.toText ∧ stop = last.toText ∧ spec.resolve =
          if last < first then reject (.datesInverted start)
          else (readZone name).map (.days first last)) := by
  refine ⟨fun field text => ⟨?_, ?_⟩, ?_, ?_, fun field text h => exists_refusal field h, ?_⟩
  · rintro ⟨d, hd⟩
    exact isDayText_iff.mpr ⟨d, readDay_eq_ok.mp hd⟩
  · intro h
    obtain ⟨d, -, hd⟩ := readDay_of_isDayText field h
    exact ⟨d, hd⟩
  · intro field text d hd
    obtain rfl := readDay_eq_ok.mp hd
    exact ⟨rfl, d.isDay_civil, Date.spells_civil_iff.mpr rfl⟩
  · intro field c hc
    obtain ⟨d, hd⟩ := Date.exists_civil_eq hc
    exact ⟨d, hd, readDay_toText field d⟩
  · intro spec start stop name h
    refine ⟨fun hstart => ?_, fun hstart hstop => ?_, fun hstart hstop => ?_⟩
    · obtain ⟨r, hread, hr⟩ := exists_refusal "start_date" hstart
      refine ⟨r, ?_, hr⟩
      rw [h.resolve_eq, hread]
      rfl
    · obtain ⟨first, -, hfirst⟩ := readDay_of_isDayText "start_date" hstart
      obtain ⟨r, hread, hr⟩ := exists_refusal "end_date" hstop
      refine ⟨r, ?_, hr⟩
      rw [h.resolve_eq, hfirst, hread]
      rfl
    · obtain ⟨first, hstart, hfirst⟩ := readDay_of_isDayText "start_date" hstart
      obtain ⟨last, hstop, hlast⟩ := readDay_of_isDayText "end_date" hstop
      refine ⟨first, last, hstart, hstop, ?_⟩
      rw [h.resolve_eq, hfirst, Outcome.ok_bind, hlast, Outcome.ok_bind]
      cases readZone name <;> rfl

/-- From the twenty-eighth of February in a leap year, in Berlin. -/
def fromLeapEve (stop : String) : TimeRangeSpec :=
  ⟨some "2024-02-28", some stop, some "Europe/Berlin", none, none⟩

theorem fromLeapEve_namesDays {stop : String} (h : supplied? (some stop) = some stop) :
    (fromLeapEve stop).NamesDays "2024-02-28" stop "Europe/Berlin" :=
  ⟨rfl, h, rfl, rfl⟩

/-- The twenty-ninth is a day to the end of which a request may go, a thirtieth is not: it has the
form of a day and is none. -/
theorem readDay_canonical_leapEve :
    (∃ zone, (fromLeapEve "2024-02-29").resolve =
      .ok (.days ⟨738944, by decide, by decide⟩ ⟨738945, by decide, by decide⟩ zone)) ∧
    ∃ r, (fromLeapEve "2024-02-30").resolve = .error (.rejected r) ∧ r.subject = "end_date" ∧
      r.given = .text "2024-02-30" := by
  obtain ⟨haccepted, -, -, -, hresolve⟩ := readDay_canonical
  have heve : readDay "start_date" "2024-02-28" = .ok ⟨738944, by decide, by decide⟩ := rfl
  have hleap : readDay "end_date" "2024-02-29" = .ok ⟨738945, by decide, by decide⟩ := rfl
  have hnone : ¬ IsDayText "2024-02-30" := by
    rw [← haccepted "end_date"]
    rintro ⟨d, hd⟩
    cases hd
  have hday : IsDayText "2024-02-28" := (haccepted _ _).mp ⟨_, heve⟩
  refine ⟨?_, ?_⟩
  · obtain ⟨first, last, hfirst, hlast, h⟩ :=
      (hresolve _ _ _ _ (fromLeapEve_namesDays rfl)).2.2 hday ((haccepted _ _).mp ⟨_, hleap⟩)
    obtain rfl := Except.ok.inj (heve.symm.trans (readDay_eq_ok.mpr hfirst))
    obtain rfl := Except.ok.inj (hleap.symm.trans (readDay_eq_ok.mpr hlast))
    rw [h, if_neg (by decide)]
    exact ⟨ZoneTable.europeBerlin.toZone, rfl⟩
  · exact (hresolve _ _ _ _ (fromLeapEve_namesDays rfl)).2.1 hday hnone

/-- A week has a date, but it is not how a request names one. -/
example : (Date.ofIso? "2024-W09-4".toList).map Date.civil = some ⟨2024, 2, 29⟩ ∧
    looksLikeDate "2024-W09-4".toList = false := by
  decide +kernel

end TimeRangeSpec

end Clickstream
