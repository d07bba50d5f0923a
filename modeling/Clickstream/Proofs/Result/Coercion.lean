import Clickstream.Json.Writer
import Clickstream.Proofs.Result.Normalize
import Clickstream.Proofs.Result.Number
import Clickstream.Proofs.Traversal

/-!
# Coercion of result rows

A row is normalized field by field, and rows one by one: both are traversals.  Either there is a
number in a field, and it is read (`normalizeField_of_holdsNumber`), or the field stays
(`normalizeField_of_not_holdsNumber`).  Normalizing changes no more than that, and doing it again
changes nothing (`normalize_coerces`).  It fails if a number is not read (`normalize_fails`), and a
numeral that is too large becomes infinite (`normalize_standard`).
-/

namespace Clickstream

open Outcome (collect Settles forall₂_forall_iff)

/-! ## Standard values -/

/-- The values that standard JSON has texts for: all doubles are finite. -/
inductive Json.IsStandard : Value → Prop
  | null : IsStandard .null
  | bool (b : Bool) : IsStandard (.bool b)
  | int (n : Int) : IsStandard (.int n)
  | real {x : Binary64} (h : x.isFinite = true) : IsStandard (.real x)
  | text (s : String) : IsStandard (.text s)
  | list {items : List Value} (h : ∀ v ∈ items, IsStandard v) : IsStandard (.list items)
  | object {fields : Fields} (h : ∀ field ∈ fields, IsStandard field.2) :
    IsStandard (.object fields)

theorem Json.isStandard_real {x : Binary64} : IsStandard (.real x) ↔ x.isFinite = true :=
  ⟨fun h => by cases h; assumption, .real⟩

/-- A number that is read is standard if it is an integer or below the bound. -/
theorem NumberText.isStandard_value (t : NumberText) : Json.IsStandard t.value ↔
    t.spelling.IsInteger ∨ |t.spelling.numeral.value| < Binary64.overflowBound := by
  rw [value]
  split_ifs with hinteger
  · exact iff_of_true (.int _) (.inl hinteger)
  · rw [Json.isStandard_real, Numeral.isFinite_toBinary64]
    exact (or_iff_right hinteger).symm

namespace Schema

/-! ## Fields -/

variable {schema : Schema}

/-- Normalizes a field. -/
def normalizeField (schema : Schema) (field : String × Value) :
    Outcome ((String × Value) × List NotNumeric) :=
  (schema.normalizeValue field.1 field.2).map fun result => ((field.1, result.1), result.2)

theorem normalizeRow_eq_collect (schema : Schema) (row : Fields) :
    schema.normalizeRow row = collect schema.normalizeField row := by
  induction row with
  | nil => rfl
  | cons field row ih =>
    rw [normalizeRow, collect, normalizeField, ih]
    cases schema.normalizeValue field.1 field.2 <;> rfl

theorem normalize_eq_collect (schema : Schema) (rows : List Fields) :
    schema.normalize rows = collect (collect schema.normalizeField) rows := by
  induction rows with
  | nil => rfl
  | cons row rows ih =>
    rw [normalize, collect, normalizeRow_eq_collect, ih]

/-- The text of a field is this number, and the field may be coerced. -/
structure HoldsNumber (schema : Schema) (field : String × Value) (t : NumberText) : Prop where
  kind : schema.kindOf field.1 = .number ∨ schema.kindOf field.1 = .auto
  text : field.2 = .text t.text

/-- The number in a field is not read. -/
def IsUnreadable (schema : Schema) (field : String × Value) : Prop :=
  ∃ t, schema.HoldsNumber field t ∧ t.IsUnreadable

/-- The number in a field is not read, for this cause. -/
def FailsBy (schema : Schema) (field : String × Value) (e : Failure) : Prop :=
  ∃ t, schema.HoldsNumber field t ∧ ∃ f, t.fault? = some f ∧ e = .fault f

/-- The warning that a field gives rise to: its text is no number, and not empty, but it is declared
to hold numbers. -/
def complaints (schema : Schema) (field : String × Value) : List NotNumeric :=
  match field.2 with
  | .text s =>
    if s ≠ "" ∧ schema.kindOf field.1 = .number ∧ ¬ IsNumber s then [⟨field.1, s⟩] else []
  | _ => []

/-- What normalizing makes of a field: a text that is a number becomes the number if the field may
be coerced, and everything else stays. -/
structure Coerces (schema : Schema) (field field' : String × Value) : Prop where
  name : field'.1 = field.1
  fixed : schema.kindOf field.1 = .identifier ∨ schema.kindOf field.1 = .text → field'.2 = field.2
  noText : (∀ s, field.2 ≠ .text s) → field'.2 = field.2
  empty : field.2 = .text "" → field'.2 = field.2
  noNumber : ∀ s, field.2 = .text s → ¬ IsNumber s → field'.2 = field.2
  number : ∀ t, schema.HoldsNumber field t → field'.2 = t.value
  changed : field'.2 ≠ field.2 → (∃ s, field.2 = .text s) ∧
    (schema.kindOf field.1 = .number ∨ schema.kindOf field.1 = .auto)

variable {field field' : String × Value} {t : NumberText}

theorem isFixed_eq_true {kind : FieldKind} :
    kind.isFixed = true ↔ kind = .identifier ∨ kind = .text := by
  cases kind <;> decide

theorem isFixed_eq_false {kind : FieldKind} :
    kind.isFixed = false ↔ kind = .number ∨ kind = .auto := by
  cases kind <;> decide

theorem complaints_of_isNumber {s : String} (hs : field.2 = .text s) (h : IsNumber s) :
    schema.complaints field = [] := by
  simp [complaints, hs, h]

theorem complaints_of_forall_ne (h : ∀ s, field.2 ≠ .text s) : schema.complaints field = [] := by
  unfold complaints
  split
  · next heq => exact absurd heq (h _)
  · rfl

/-- The number in a field is read. -/
theorem normalizeField_of_holdsNumber (h : schema.HoldsNumber field t) :
    schema.normalizeField field = t.outcome.map fun v => ((field.1, v), []) := by
  have hfixed : ¬ (schema.kindOf field.1).isFixed = true := by
    rw [isFixed_eq_false.mpr h.kind]
    exact Bool.false_ne_true
  rw [normalizeField, h.text, normalizeValue, if_neg hfixed, parseNumber_text]
  · cases t.outcome <;> rfl
  · exact t.text_ne_empty

/-- Any other field stays, and there is a warning if it should have been a number. -/
theorem normalizeField_of_not_holdsNumber (h : ¬ ∃ t, schema.HoldsNumber field t) :
    schema.normalizeField field = .ok (field, schema.complaints field) := by
  obtain ⟨name, v⟩ := field
  cases v with
  | text s =>
    by_cases hempty : s = ""
    · subst hempty
      rfl
    cases hfixed : (schema.kindOf name).isFixed with
    | true =>
      have hkind : schema.kindOf name ≠ .number := by
        intro hnumber
        rw [hnumber] at hfixed
        cases hfixed
      rw [normalizeField, normalizeValue_of_fixed fun _ => hfixed]
      simp [complaints, hkind, Except.map]
    | false =>
      have hs : ¬ IsNumber s := by
        rintro ⟨t, rfl⟩
        exact h ⟨t, isFixed_eq_false.mp hfixed, rfl⟩
      rw [normalizeField, normalizeValue, hfixed, parseNumber_of_not_isNumber hs]
      · simp [complaints, hs, hempty, Except.map]
      · exact hempty
  | _ => rfl

theorem coerces_of_holdsNumber (h : schema.HoldsNumber field t) :
    schema.Coerces field (field.1, t.value) where
  name := rfl
  fixed hfixed := by
    rw [← isFixed_eq_true, isFixed_eq_false.mpr h.kind] at hfixed
    cases hfixed
  noText hne := absurd h.text (hne t.text)
  empty hempty := absurd (Value.text.inj (h.text.symm.trans hempty)) t.text_ne_empty
  noNumber s hs hno := by
    rw [h.text] at hs
    cases hs
    exact absurd t.isNumber_text hno
  number _ h' := NumberText.value_congr (Value.text.inj (h.text.symm.trans h'.text))
  changed _ := ⟨⟨t.text, h.text⟩, h.kind⟩

theorem coerces_of_not_holdsNumber (h : ¬ ∃ t, schema.HoldsNumber field t) :
    schema.Coerces field field where
  name := rfl
  fixed _ := rfl
  noText _ := rfl
  empty _ := rfl
  noNumber _ _ _ := rfl
  number t ht := absurd ⟨t, ht⟩ h
  changed hne := absurd rfl hne

/-- A number that is read is no text, so it stays when the field is normalized again. -/
theorem settles_normalizeField (schema : Schema) :
    Settles schema.normalizeField schema.Coerces schema.complaints := by
  intro field field' warnings h
  by_cases hnumber : ∃ t, schema.HoldsNumber field t
  · obtain ⟨t, ht⟩ := hnumber
    rw [normalizeField_of_holdsNumber ht] at h
    obtain ⟨v, houtcome, hresult⟩ := Outcome.map_eq_ok.mp h
    cases hresult
    obtain ⟨-, rfl⟩ := NumberText.outcome_eq_ok.mp houtcome
    have hstays : ¬ ∃ t', schema.HoldsNumber (field.1, t.value) t' := by
      rintro ⟨t', ht'⟩
      exact t.value_ne_text t'.text ht'.text
    refine ⟨coerces_of_holdsNumber ht, ?_, (complaints_of_isNumber ht.text t.isNumber_text).symm⟩
    rw [normalizeField_of_not_holdsNumber hstays, complaints_of_forall_ne t.value_ne_text]
  · have hkept := normalizeField_of_not_holdsNumber hnumber
    rw [hkept] at h
    cases h
    exact ⟨coerces_of_not_holdsNumber hnumber, hkept, rfl⟩

theorem normalizeField_eq_error {e : Failure} :
    schema.normalizeField field = .error e ↔ schema.FailsBy field e := by
  constructor
  · intro h
    by_cases hnumber : ∃ t, schema.HoldsNumber field t
    · obtain ⟨t, ht⟩ := hnumber
      rw [normalizeField_of_holdsNumber ht, Outcome.map_eq_error,
        NumberText.outcome_eq_error] at h
      exact ⟨t, ht, h⟩
    · rw [normalizeField_of_not_holdsNumber hnumber] at h
      cases h
  · rintro ⟨t, ht, hfault⟩
    rw [normalizeField_of_holdsNumber ht, Outcome.map_eq_error]
    exact NumberText.outcome_eq_error.mpr hfault

theorem isUnreadable_iff : schema.IsUnreadable field ↔ ∃ e, schema.FailsBy field e := by
  constructor
  · rintro ⟨t, ht, hunreadable⟩
    obtain ⟨f, hf⟩ := t.exists_fault_iff.mpr hunreadable
    exact ⟨_, t, ht, f, hf, rfl⟩
  · rintro ⟨_, t, ht, f, hf, rfl⟩
    exact ⟨t, ht, t.exists_fault_iff.mp ⟨f, hf⟩⟩

theorem exists_normalizeField_eq_ok :
    (∃ result, schema.normalizeField field = .ok result) ↔ ¬ schema.IsUnreadable field := by
  simp only [isUnreadable_iff, ← normalizeField_eq_error]
  cases schema.normalizeField field with
  | error e => exact iff_of_false nofun fun h => h ⟨e, rfl⟩
  | ok result => exact iff_of_true ⟨result, rfl⟩ nofun

/-! ## Rows -/

theorem settles_normalize (schema : Schema) :
    Settles schema.normalize (List.Forall₂ (List.Forall₂ schema.Coerces))
      (List.flatMap (List.flatMap schema.complaints)) := by
  intro rows rows' warnings h
  rw [normalize_eq_collect] at h ⊢
  exact (settles_normalizeField schema).collect.collect rows rows' warnings h

/-- Normalizing changes nothing but the texts that are numbers, in fields that may be coerced.  Doing
it again changes nothing more and gives the same warnings, one for each text that should have been a
number. -/
theorem normalize_coerces {rows rows' : List Fields} {warnings : List NotNumeric}
    (h : schema.normalize rows = .ok (rows', warnings)) :
    List.Forall₂ (List.Forall₂ schema.Coerces) rows rows' ∧
      schema.normalize rows' = .ok (rows', warnings) ∧
      warnings = rows.flatMap (List.flatMap schema.complaints) :=
  settles_normalize schema rows rows' warnings h

theorem normalize_coerces_declared :
    let schema := extending [("pageviews", .number)]
    let rows : List Fields :=
      [[("user_id", .text "007"), ("pageviews", .text "007"), ("share", .text "0.5")],
        [("pageviews", .text "n/a"), ("title", .text "n/a"), ("share", .null)]]
    let rows' : List Fields :=
      [[("user_id", .text "007"), ("pageviews", .int 7),
          ("share", .real (.ofDecimal false 5 (-1)))],
        [("pageviews", .text "n/a"), ("title", .text "n/a"), ("share", .null)]]
    let warnings : List NotNumeric := [⟨"pageviews", "n/a"⟩]
    schema.normalize rows = .ok (rows', warnings) ∧
      List.Forall₂ (List.Forall₂ schema.Coerces) rows rows' ∧
      schema.normalize rows' = .ok (rows', warnings) ∧
      warnings = rows.flatMap (List.flatMap schema.complaints) :=
  ⟨rfl, normalize_coerces rfl⟩

/-! ## Failures -/

theorem normalize_eq_error {rows : List Fields} {e : Failure} :
    schema.normalize rows = .error e ↔ collect schema.normalizeField rows.flatten = .error e := by
  rw [normalize_eq_collect, ← Outcome.collect_flatten, Outcome.map_eq_error]

/-- Rows are normalized unless there is a number in them that is not read, in a field that may be
coerced.  The first such field makes them fail.  Texts that are no numbers stay. -/
theorem normalize_fails (schema : Schema) (rows : List Fields) :
    ((∃ result, schema.normalize rows = .ok result) ↔
      ∀ row ∈ rows, ∀ field ∈ row, ¬ schema.IsUnreadable field) ∧
    (∀ e, schema.normalize rows = .error e ↔
      ∃ done field rest, rows.flatten = done ++ field :: rest ∧
        (∀ other ∈ done, ¬ schema.IsUnreadable other) ∧ schema.FailsBy field e) ∧
    ∀ rows' warnings, schema.normalize rows = .ok (rows', warnings) →
      List.Forall₂ (List.Forall₂ fun field field' => field'.1 = field.1 ∧
        ∀ s, field.2 = .text s → ¬ IsNumber s → field'.2 = field.2) rows rows' := by
  refine ⟨?succeeds, fun e => ?fails, fun rows' warnings h => ?kept⟩
  case succeeds =>
    simp only [normalize_eq_collect, Outcome.exists_collect_eq_ok, exists_normalizeField_eq_ok]
  case fails =>
    simp only [normalize_eq_error, Outcome.collect_eq_error, exists_normalizeField_eq_ok,
      normalizeField_eq_error]
  case kept =>
    exact (settles_normalize schema rows rows' warnings h).1.imp fun _ _ hrow =>
      hrow.imp fun _ _ hfield => ⟨hfield.name, hfield.noNumber⟩

theorem normalize_fails_identifier :
    ∃ result, standard.normalize [[("user_id", .text "\x1c1"), ("share", .text "n/a")]] =
      .ok result := by
  refine (normalize_fails standard _).1.mpr ?_
  rintro _ hrow field hfield ⟨t, ht, -⟩
  rw [List.mem_singleton.mp hrow] at hfield
  rcases List.mem_pair.mp hfield with rfl | rfl
  · rcases ht.kind with hkind | hkind <;> cases hkind
  · exact (by decide : ¬ IsNumber "n/a") ⟨t, (Value.text.inj ht.text).symm⟩

/-- A separator in front of a digit is white space around a numeral, but not for the reader of
integers: the row fails. -/
theorem separated_not_normalized : standard.normalize [[("a", .text "\x1c1")]] =
    .error (.fault (.integerText (Text.quoted "\x1c1"))) := rfl

/-! ## Infinite numbers -/

/-- A field without a number stays. -/
theorem Coerces.kept (h : schema.Coerces field field')
    (hnumber : ¬ ∃ t, schema.HoldsNumber field t) : field'.2 = field.2 := by
  by_contra hne
  obtain ⟨⟨s, hs⟩, hkind⟩ := h.changed hne
  by_cases hnumeric : IsNumber s
  · obtain ⟨t, rfl⟩ := hnumeric
    exact hnumber ⟨t, hkind, hs⟩
  · exact hne (h.noNumber s hs hnumeric)

/-- The number in a field is an integer or below the bound, if there is one. -/
def IsBounded (schema : Schema) (field : String × Value) : Prop :=
  ∀ t, schema.HoldsNumber field t →
    t.spelling.IsInteger ∨ |t.spelling.numeral.value| < Binary64.overflowBound

theorem Coerces.isStandard_iff (h : schema.Coerces field field')
    (hstandard : Json.IsStandard field.2) :
    Json.IsStandard field'.2 ↔ schema.IsBounded field := by
  by_cases hnumber : ∃ t, schema.HoldsNumber field t
  · obtain ⟨t, ht⟩ := hnumber
    constructor
    · intro hstandard' t' ht'
      rwa [h.number t' ht', NumberText.isStandard_value] at hstandard'
    · intro hbounded
      rw [h.number t ht, NumberText.isStandard_value]
      exact hbounded t ht
  · rw [h.kept hnumber]
    exact iff_of_true hstandard fun t ht => absurd ⟨t, ht⟩ hnumber

/-- A double that is read is finite if and only if the numeral is below the bound, otherwise it is
the infinity of its sign.  So normalizing standard values gives standard ones if and only if the
numerals are below the bound. -/
theorem normalize_standard (schema : Schema) :
    (∀ s x, parseNumber s = .ok (some (.real x)) → x ≠ .nan ∧
      ∃ t : NumberText, t.text = s ∧ ¬ t.spelling.IsInteger ∧
        (x.isFinite = true ↔ |t.spelling.numeral.value| < Binary64.overflowBound) ∧
        (x.isFinite = false → x = .infinite t.spelling.sign.isNegative)) ∧
    ∀ rows rows' warnings, schema.normalize rows = .ok (rows', warnings) →
      (∀ row ∈ rows, ∀ field ∈ row, Json.IsStandard field.2) →
      ((∀ row ∈ rows', ∀ field ∈ row, Json.IsStandard field.2) ↔
        ∀ row ∈ rows, ∀ field ∈ row, schema.IsBounded field) := by
  refine ⟨fun s x h => ?double, fun rows rows' warnings h hstandard => ?rows⟩
  case double =>
    obtain ⟨t, htext, -, hvalue⟩ := parseNumber_eq_some.mp h
    obtain ⟨hinteger, rfl⟩ := NumberText.value_eq_real.mp hvalue
    exact ⟨Numeral.toBinary64_ne_nan _, t, htext, hinteger, Numeral.isFinite_toBinary64 _,
      Numeral.toBinary64_of_not_isFinite⟩
  case rows =>
    refine forall₂_forall_iff (settles_normalize schema rows rows' warnings h).1
      fun row row' hrow hcoerces => ?_
    exact forall₂_forall_iff hcoerces fun field field' hfield hcoerces =>
      hcoerces.isStandard_iff (hstandard row hrow field hfield)

theorem normalize_standard_half :
    (∃ t : NumberText, t.text = "0.5" ∧ |t.spelling.numeral.value| < Binary64.overflowBound) ∧
      ((∀ row ∈ [[("share", Value.real (.ofDecimal false 5 (-1)))]], ∀ field ∈ row,
          Json.IsStandard field.2) ↔
        ∀ row ∈ [[("share", Value.text "0.5")]], ∀ field ∈ row, standard.IsBounded field) := by
  obtain ⟨-, t, htext, -, hfinite, -⟩ :=
    (normalize_standard standard).1 "0.5" (.ofDecimal false 5 (-1)) rfl
  refine ⟨⟨t, htext, hfinite.mp (by decide)⟩, ?_⟩
  refine (normalize_standard standard).2 [[("share", .text "0.5")]] _ [] rfl
    fun row hrow field hfield => ?_
  rw [List.mem_singleton.mp hrow] at hfield
  rw [List.mem_singleton.mp hfield]
  exact .text "0.5"

/-- There are no names of infinity, but there is a numeral for it, and standard JSON has no text for
the row. -/
theorem overflow_normalized :
    parseNumber "1e999" = .ok (some (.real (.infinite false))) ∧
      standard.normalize [[("share", .text "1e999")]] =
        .ok ([[("share", .real (.infinite false))]], []) ∧
      Json.write (.object [("share", .real (.infinite false))]) =
        .ok "\x7b\"share\": Infinity\x7d" ∧
      ¬ Json.IsStandard (.real (.infinite false)) := by
  refine ⟨rfl, rfl, by decide, ?_⟩
  rintro ⟨⟩
  contradiction

end Schema

end Clickstream
