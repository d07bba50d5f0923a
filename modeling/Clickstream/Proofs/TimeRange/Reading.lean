import Clickstream.Proofs.Number.Overflow
import Clickstream.Proofs.Outcome
import Clickstream.TimeRange.Spec

/-!
# Reading time ranges

A request is read field by field, the texts first (`ofFields_eq_ok`, `ofFields_eq_error`).  A text
field fails only for an integer that is too long to be written (`readText_eq_error`).  A field of
minutes is refused, and the refusal names the field and its value, or it holds an integer beyond the
greatest double (`readMinutes_eq_error`).  So these integers are the only reason why reading fails
without a refusal (`ofFields_refuses_unless_longInteger`); what it returns has whole numbers or
finite doubles for minutes (`HasFiniteMinutes`).
-/

namespace Clickstream

open Outcome

/-! ## Integers -/

/-- An integer is long if it has more than 4300 digits. -/
theorem Value.isLong_iff {n : Int} : isLong n = true ↔ 10 ^ maxIntegerDigits ≤ n.natAbs := by
  have hlength := @Nat.length_toDigits_le_iff 10 n.natAbs maxIntegerDigits (by decide) (by decide)
  rw [isLong, decide_eq_true_eq, ← Nat.not_le, hlength, Nat.not_lt]

/-- The value is an integer, and the double nearest to it would lie beyond the greatest one. -/
def Value.IsLargeInteger (v : Value) : Prop :=
  ∃ n : Int, v = .int n ∧ Binary64.overflowBound ≤ |(n : ℚ)|

namespace Binary64

theorem isFinite_iff {x : Binary64} : x.isFinite = true ↔ ∃ d, x.toDyadic? = some d := by
  cases x with
  | finite negative m e => exact iff_of_true rfl ⟨_, rfl⟩
  | infinite negative => exact iff_of_false Bool.false_ne_true nofun
  | nan => exact iff_of_false Bool.false_ne_true nofun

/-- An integer has a double if and only if its magnitude is below the bound. -/
theorem ofInt?_cases (n : Int) :
    (∃ x, ofInt? n = some x ∧ x.isFinite = true ∧ |(n : ℚ)| < overflowBound) ∨
      ofInt? n = none ∧ overflowBound ≤ |(n : ℚ)| := by
  have hbound : (ofRatio (n < 0) n.natAbs 1).isFinite = true ↔ |(n : ℚ)| < overflowBound := by
    rw [isFinite_ofRatio_iff _ _ Nat.one_pos, Nat.cast_one, div_one, Nat.cast_natAbs, Int.cast_abs]
  cases hfinite : (ofRatio (n < 0) n.natAbs 1).isFinite with
  | true =>
    refine .inl ⟨_, ?_, hfinite, hbound.mp hfinite⟩
    unfold ofInt?
    split
    · next heq =>
      rw [heq] at hfinite
      cases hfinite
    · rfl
  | false =>
    refine .inr ⟨?_, not_lt.mp fun h => ?_⟩
    · rw [ofInt?, ofRatio_of_not_isFinite hfinite]
    · rw [hbound.mpr h] at hfinite
      cases hfinite

end Binary64

namespace TimeRangeSpec

variable {fields : Fields} {spec : TimeRangeSpec} {field : String} {v w : Value} {e : Failure}

/-! ## Texts -/

theorem readText_eq_error :
    readText v = .error e ↔ v.holdsLong = true ∧ e = .fault .unwritableInteger := by
  unfold readText
  split
  · exact iff_of_false nofun nofun
  · exact iff_of_false nofun nofun
  · unfold Value.plain?
    cases v.holdsLong with
    | true => exact ⟨fun h => ⟨rfl, (Except.error.inj h).symm⟩, fun h => congrArg _ h.2.symm⟩
    | false => exact iff_of_false nofun nofun

/-! ## Minutes -/

theorem readDouble_eq_error (h : readDouble field v = .error e) :
    e = .rejected (.minutesNotNumber field v) ∨
      v.IsLargeInteger ∧ e = .fault .integerToDouble := by
  unfold readDouble at h
  split at h
  · next n =>
    rcases Binary64.ofInt?_cases n with ⟨x, hx, -⟩ | ⟨hnone, hlarge⟩
    · rw [hx] at h
      cases h
    · rw [hnone] at h
      cases h
      exact .inr ⟨⟨n, rfl, hlarge⟩, rfl⟩
  · cases h
  · split at h
    · cases h
    · cases h
      exact .inl rfl
  · split at h
    · cases h
    · cases h
      exact .inl rfl
  · cases h
    exact .inl rfl

theorem readDouble_of_isLargeInteger (h : v.IsLargeInteger) :
    readDouble field v = .error (.fault .integerToDouble) := by
  obtain ⟨n, rfl, hlarge⟩ := h
  rcases Binary64.ofInt?_cases n with ⟨x, -, -, hsmall⟩ | ⟨hnone, -⟩
  · exact absurd hlarge (not_le.mpr hsmall)
  · unfold readDouble
    simp only [hnone]
    rfl

/-- The value is absent, or it stands for a finite double. -/
def IsReadable (field : String) (v : Value) : Prop :=
  v = .null ∨ v = .text "" ∨ ∃ x, readDouble field v = .ok x ∧ x.isFinite = true

/-- Minutes are refused, with their field and value, or they are an integer that is too large. -/
theorem readMinutes_eq_error (h : readMinutes field v = .error e) :
    e = .rejected (.minutesNotNumber field v) ∨ e = .rejected (.minutesNotFinite field v) ∨
      v.IsLargeInteger ∧ e = .fault .integerToDouble := by
  unfold readMinutes at h
  split at h
  · cases h
  · cases h
  · rcases bind_eq_error.mp h with h | ⟨x, -, h⟩
    · exact (readDouble_eq_error h).imp_right .inr
    · split at h
      · cases h
      · cases h
        exact .inr (.inl rfl)

theorem readMinutes_of_isLargeInteger (h : v.IsLargeInteger) :
    readMinutes field v = .error (.fault .integerToDouble) := by
  have hread := @readDouble_of_isLargeInteger field v h
  obtain ⟨n, rfl, -⟩ := h
  unfold readMinutes
  dsimp only
  rw [hread]
  rfl

theorem exists_readMinutes_iff :
    (∃ minutes, readMinutes field v = .ok minutes) ↔ IsReadable field v := by
  unfold readMinutes
  split
  · exact iff_of_true ⟨none, rfl⟩ (.inl rfl)
  · exact iff_of_true ⟨none, rfl⟩ (.inr (.inl rfl))
  · next hnull hempty =>
    constructor
    · rintro ⟨minutes, h⟩
      obtain ⟨x, hx, h⟩ := bind_eq_ok.mp h
      split at h
      · next d hd => exact .inr (.inr ⟨x, hx, Binary64.isFinite_iff.mpr ⟨d, hd⟩⟩)
      · cases h
    · rintro (h | h | ⟨x, hx, hfinite⟩)
      · exact absurd h hnull
      · exact absurd h hempty
      · obtain ⟨d, hd⟩ := Binary64.isFinite_iff.mp hfinite
        rw [hx, ok_bind, hd]
        exact ⟨_, rfl⟩

/-- A whole number or a finite double. -/
inductive IsFiniteMinutes : Value → Prop
  | int (n : Int) : IsFiniteMinutes (.int n)
  | real {x : Binary64} (h : x.isFinite = true) : IsFiniteMinutes (.real x)

theorem isFiniteMinutes_of_readMinutes (h : readMinutes field v = .ok (some w)) :
    IsFiniteMinutes w := by
  unfold readMinutes at h
  split at h
  · cases h
  · cases h
  · obtain ⟨x, -, h⟩ := bind_eq_ok.mp h
    split at h
    · next d hd =>
      cases h
      split_ifs
      · exact .int _
      · exact .real (Binary64.isFinite_iff.mpr ⟨d, hd⟩)
    · cases h

/-- The minutes of a request are whole numbers or finite doubles, where there are any. -/
structure HasFiniteMinutes (spec : TimeRangeSpec) : Prop where
  start : ∀ v, spec.minutesStart = some v → IsFiniteMinutes v
  stop : ∀ v, spec.minutesEnd = some v → IsFiniteMinutes v

/-! ## Requests -/

/-- A request is what its five fields are read as. -/
theorem ofFields_eq_ok : ofFields fields = .ok spec ↔
    readText (fields.get "start_date") = .ok spec.startDate ∧
    readText (fields.get "end_date") = .ok spec.endDate ∧
    readText (fields.get "time_zone") = .ok spec.timeZone ∧
    readMinutes "past_minutes_start" (fields.get "past_minutes_start") = .ok spec.minutesStart ∧
    readMinutes "past_minutes_end" (fields.get "past_minutes_end") = .ok spec.minutesEnd := by
  constructor
  · intro h
    obtain ⟨startDate, hfirst, h⟩ := bind_eq_ok.mp h
    obtain ⟨endDate, hlast, h⟩ := bind_eq_ok.mp h
    obtain ⟨timeZone, hzone, h⟩ := bind_eq_ok.mp h
    obtain ⟨start, hstart, h⟩ := bind_eq_ok.mp h
    obtain ⟨stop, hstop, h⟩ := bind_eq_ok.mp h
    cases h
    exact ⟨hfirst, hlast, hzone, hstart, hstop⟩
  · intro ⟨hfirst, hlast, hzone, hstart, hstop⟩
    rw [ofFields, hfirst, ok_bind, hlast, ok_bind, hzone, ok_bind, hstart, ok_bind, hstop]
    rfl

/-- The fields that are texts. -/
def textFields : List String :=
  ["start_date", "end_date", "time_zone"]

/-- The fields that are minutes. -/
def minutesFields : List String :=
  ["past_minutes_start", "past_minutes_end"]

/-- A text field holds an integer that is too long to be written. -/
def HasLongText (fields : Fields) : Prop :=
  ∃ name ∈ textFields, (fields.get name).holdsLong = true

theorem ofFields_of_hasLongText (h : HasLongText fields) :
    ofFields fields = .error (.fault .unwritableInteger) := by
  have hlong : ∀ {name}, (fields.get name).holdsLong = true →
      readText (fields.get name) = .error (.fault .unwritableInteger) := fun h =>
    readText_eq_error.mpr ⟨h, rfl⟩
  -- The first text that cannot be read decides; they all fail in the same way.
  have hrest : ∀ {name} {f : Option String → Outcome TimeRangeSpec},
      (∀ text, f text = .error (.fault .unwritableInteger)) →
      (readText (fields.get name) >>= f) = .error (.fault .unwritableInteger) := by
    intro name f hf
    cases hread : readText (fields.get name) with
    | error e => rw [(readText_eq_error.mp hread).2]; rfl
    | ok text => exact hf text
  obtain ⟨name, hname, hlongName⟩ := h
  unfold ofFields
  simp only [textFields, List.mem_cons, List.not_mem_nil, or_false] at hname
  rcases hname with rfl | rfl | rfl
  · rw [hlong hlongName]
    rfl
  · exact hrest fun _ => by rw [hlong hlongName]; rfl
  · exact hrest fun _ => hrest fun _ => by rw [hlong hlongName]; rfl

/-- Reading fails for a long integer in a text, and otherwise as the minutes fail. -/
theorem ofFields_eq_error : ofFields fields = .error e ↔
    HasLongText fields ∧ e = .fault .unwritableInteger ∨
    ¬ HasLongText fields ∧
      (readMinutes "past_minutes_start" (fields.get "past_minutes_start") = .error e ∨
        IsReadable "past_minutes_start" (fields.get "past_minutes_start") ∧
          readMinutes "past_minutes_end" (fields.get "past_minutes_end") = .error e) := by
  by_cases hlong : HasLongText fields
  · rw [ofFields_of_hasLongText hlong]
    constructor
    · intro h
      exact .inl ⟨hlong, (Except.error.inj h).symm⟩
    · rintro (⟨-, rfl⟩ | ⟨hnot, -⟩)
      · rfl
      · exact absurd hlong hnot
  · have htext : ∀ name ∈ textFields, ∃ text, readText (fields.get name) = .ok text := by
      intro name hname
      cases hread : readText (fields.get name) with
      | error e => exact absurd ⟨name, hname, (readText_eq_error.mp hread).1⟩ hlong
      | ok text => exact ⟨text, rfl⟩
    obtain ⟨startDate, hfirst⟩ := htext "start_date" (by decide)
    obtain ⟨endDate, hlast⟩ := htext "end_date" (by decide)
    obtain ⟨timeZone, hzone⟩ := htext "time_zone" (by decide)
    rw [ofFields, hfirst, ok_bind, hlast, ok_bind, hzone, ok_bind, bind_eq_error]
    constructor
    · rintro (h | ⟨minutes, hminutes, h⟩)
      · exact .inr ⟨hlong, .inl h⟩
      · refine .inr ⟨hlong, .inr ⟨exists_readMinutes_iff.mp ⟨minutes, hminutes⟩, ?_⟩⟩
        rcases bind_eq_error.mp h with h | ⟨_, -, h⟩
        · exact h
        · cases h
    · rintro (⟨hyes, -⟩ | ⟨-, h | ⟨hreadable, h⟩⟩)
      · exact absurd hyes hlong
      · exact .inl h
      · obtain ⟨minutes, hminutes⟩ := exists_readMinutes_iff.mpr hreadable
        exact .inr ⟨minutes, hminutes, bind_eq_error.mpr (.inl h)⟩

theorem hasFiniteMinutes_of_ofFields (h : ofFields fields = .ok spec) :
    spec.HasFiniteMinutes := by
  obtain ⟨-, -, -, hstart, hstop⟩ := ofFields_eq_ok.mp h
  constructor
  · intro v hv
    rw [hv] at hstart
    exact isFiniteMinutes_of_readMinutes hstart
  · intro v hv
    rw [hv] at hstop
    exact isFiniteMinutes_of_readMinutes hstop

/-- A field of minutes is refused, by its name and with its value. -/
def RefusesMinutes (fields : Fields) (e : Failure) : Prop :=
  ∃ field ∈ minutesFields, e = .rejected (.minutesNotNumber field (fields.get field)) ∨
    e = .rejected (.minutesNotFinite field (fields.get field))

theorem refusesMinutes_or_large (hfield : field ∈ minutesFields)
    (h : readMinutes field (fields.get field) = .error e) :
    RefusesMinutes fields e ∨ (fields.get field).IsLargeInteger ∧ e = .fault .integerToDouble := by
  rcases readMinutes_eq_error h with h | h | h
  · exact .inl ⟨field, hfield, .inl h⟩
  · exact .inl ⟨field, hfield, .inr h⟩
  · exact .inr h

/-- Minutes fail without a refusal if and only if they are an integer that is too large. -/
theorem readMinutes_eq_fault : readMinutes field v = .error (.fault .integerToDouble) ↔
    v.IsLargeInteger := by
  refine ⟨fun h => ?_, readMinutes_of_isLargeInteger⟩
  rcases readMinutes_eq_error h with h | h | ⟨hlarge, -⟩
  · cases h
  · cases h
  · exact hlarge

theorem exists_ofFields_iff : (∃ spec, ofFields fields = .ok spec) ↔ ¬ HasLongText fields ∧
    IsReadable "past_minutes_start" (fields.get "past_minutes_start") ∧
    IsReadable "past_minutes_end" (fields.get "past_minutes_end") := by
  constructor
  · rintro ⟨spec, h⟩
    obtain ⟨-, -, -, hstart, hstop⟩ := ofFields_eq_ok.mp h
    refine ⟨fun hlong => ?_, exists_readMinutes_iff.mp ⟨_, hstart⟩,
      exists_readMinutes_iff.mp ⟨_, hstop⟩⟩
    rw [ofFields_of_hasLongText hlong] at h
    cases h
  · rintro ⟨hlong, hstart, hstop⟩
    cases h : ofFields fields with
    | ok spec => exact ⟨spec, rfl⟩
    | error e =>
      obtain ⟨start, hstart⟩ := exists_readMinutes_iff.mpr hstart
      obtain ⟨stop, hstop⟩ := exists_readMinutes_iff.mpr hstop
      rcases ofFields_eq_error.mp h with ⟨hyes, -⟩ | ⟨-, he | ⟨-, he⟩⟩
      · exact absurd hyes hlong
      · rw [hstart] at he
        cases he
      · rw [hstop] at he
        cases he

theorem ofFields_eq_unwritable :
    ofFields fields = .error (.fault .unwritableInteger) ↔ HasLongText fields := by
  refine ⟨fun h => ?_, ofFields_of_hasLongText⟩
  have hminutes : ∀ {field v}, readMinutes field v ≠ .error (.fault .unwritableInteger) := by
    intro field v h
    rcases readMinutes_eq_error h with h | h | ⟨-, h⟩ <;> cases h
  rcases ofFields_eq_error.mp h with ⟨hlong, -⟩ | ⟨-, h | ⟨-, h⟩⟩
  · exact hlong
  · exact absurd h hminutes
  · exact absurd h hminutes

theorem ofFields_eq_tooLarge :
    ofFields fields = .error (.fault .integerToDouble) ↔ ¬ HasLongText fields ∧
      ((fields.get "past_minutes_start").IsLargeInteger ∨
        IsReadable "past_minutes_start" (fields.get "past_minutes_start") ∧
          (fields.get "past_minutes_end").IsLargeInteger) := by
  have htext : Failure.fault .integerToDouble ≠ .fault .unwritableInteger := nofun
  simp only [ofFields_eq_error, readMinutes_eq_fault, htext, and_false, false_or]

/-- Reading the parameters of a request fails only because minutes are refused, unless an integer
is too long for a text field or too large for a field of minutes.  A request that is read has
whole numbers or finite doubles for minutes. -/
theorem ofFields_refuses_unless_longInteger (fields : Fields) :
    let start := fields.get "past_minutes_start"
    let stop := fields.get "past_minutes_end"
    (∀ spec, ofFields fields = .ok spec → spec.HasFiniteMinutes) ∧
    ((∃ spec, ofFields fields = .ok spec) ↔ ¬ HasLongText fields ∧
      IsReadable "past_minutes_start" start ∧ IsReadable "past_minutes_end" stop) ∧
    FailsOnly (fun e => RefusesMinutes fields e ∨ e = .fault .unwritableInteger ∨
      e = .fault .integerToDouble) (ofFields fields) ∧
    (ofFields fields = .error (.fault .unwritableInteger) ↔ HasLongText fields) ∧
    (ofFields fields = .error (.fault .integerToDouble) ↔ ¬ HasLongText fields ∧
      (start.IsLargeInteger ∨ IsReadable "past_minutes_start" start ∧ stop.IsLargeInteger)) ∧
    (¬ HasLongText fields → ¬ start.IsLargeInteger → ¬ stop.IsLargeInteger →
      Refuses (ofFields fields)) := by
  intro start stop
  have hfails : FailsOnly (fun e => RefusesMinutes fields e ∨ e = .fault .unwritableInteger ∨
      e = .fault .integerToDouble) (ofFields fields) := by
    intro e he
    rcases ofFields_eq_error.mp he with ⟨-, rfl⟩ | ⟨-, h | ⟨-, h⟩⟩
    · exact .inr (.inl rfl)
    · exact (refusesMinutes_or_large (by decide) h).imp_right fun h => .inr h.2
    · exact (refusesMinutes_or_large (by decide) h).imp_right fun h => .inr h.2
  refine ⟨fun spec => hasFiniteMinutes_of_ofFields, exists_ofFields_iff, hfails,
    ofFields_eq_unwritable, ofFields_eq_tooLarge, ?_⟩
  intro hlong hstart hstop e he
  rcases hfails e he with ⟨field, -, h | h⟩ | rfl | rfl
  · exact ⟨_, h⟩
  · exact ⟨_, h⟩
  · exact absurd (ofFields_eq_unwritable.mp he) hlong
  · rcases (ofFields_eq_tooLarge.mp he).2 with h | ⟨-, h⟩
    · exact absurd h hstart
    · exact absurd h hstop

/-- A day written as a number, and a number of minutes that no double comes near. -/
def endlessFields : Fields :=
  [("start_date", .int 20240601), ("past_minutes_start", .text "1e400")]

/-- A number of minutes that is too large is refused if it is a text. -/
theorem ofFields_refuses_unless_longInteger_text :
    ¬ HasLongText endlessFields ∧
    ¬ (endlessFields.get "past_minutes_start").IsLargeInteger ∧
    ¬ (endlessFields.get "past_minutes_end").IsLargeInteger ∧
    Refuses (ofFields endlessFields) := by
  have hlong : ¬ HasLongText endlessFields := by
    intro ⟨name, hname, hlong⟩
    simp only [textFields, List.mem_cons, List.not_mem_nil, or_false] at hname
    rcases hname with rfl | rfl | rfl
    · have hdigits : 10 ^ maxIntegerDigits ≤ 20240601 := Value.isLong_iff.mp hlong
      have hpow : 10 ^ 8 ≤ 10 ^ maxIntegerDigits := Nat.pow_le_pow_right (by decide) (by decide)
      omega
    · cases hlong
    · cases hlong
  have hstart : ¬ (endlessFields.get "past_minutes_start").IsLargeInteger := by
    rintro ⟨n, h, -⟩
    cases h
  have hstop : ¬ (endlessFields.get "past_minutes_end").IsLargeInteger := by
    rintro ⟨n, h, -⟩
    cases h
  obtain ⟨-, -, -, -, -, hrefuses⟩ := ofFields_refuses_unless_longInteger endlessFields
  exact ⟨hlong, hstart, hstop, hrefuses hlong hstart hstop⟩

/-- An integer beyond the doubles is not refused as a number of minutes, nor is an integer of too
many digits as a day. -/
theorem hugeIntegers_not_refused :
    (ofFields [("past_minutes_start", .int (10 ^ 400))] = .error (.fault .integerToDouble) ∧
      ¬ Refuses (ofFields [("past_minutes_start", .int (10 ^ 400))])) ∧
    ofFields [("start_date", .int (10 ^ 4300))] = .error (.fault .unwritableInteger) ∧
      ¬ Refuses (ofFields [("start_date", .int (10 ^ 4300))]) := by
  have hlarge : (Value.int (10 ^ 400)).IsLargeInteger := by
    refine ⟨_, rfl, Binary64.overflowBound_lt_ten_zpow.le.trans ?_⟩
    rw [Int.cast_pow, Int.cast_ofNat, abs_of_pos (by positivity), ← zpow_natCast]
    exact zpow_le_zpow_right₀ (by norm_num) (by norm_num)
  have hminutes : ofFields [("past_minutes_start", .int (10 ^ 400))] =
      .error (.fault .integerToDouble) := by
    refine ofFields_eq_tooLarge.mpr ⟨?_, .inl hlarge⟩
    intro ⟨name, hname, hlong⟩
    simp only [textFields, List.mem_cons, List.not_mem_nil, or_false] at hname
    rcases hname with rfl | rfl | rfl <;> cases hlong
  have hlong : ∀ digits, maxIntegerDigits = digits →
      HasLongText [("start_date", .int (10 ^ digits))] := by
    intro digits hdigits
    refine ⟨"start_date", by decide, Value.isLong_iff.mpr ?_⟩
    rw [hdigits]
    exact (Int.natAbs_pow 10 digits).ge
  have hday := ofFields_of_hasLongText (hlong 4300 rfl)
  refine ⟨⟨hminutes, fun h => ?_⟩, hday, fun h => ?_⟩
  · obtain ⟨r, hr⟩ := h _ hminutes
    cases hr
  · obtain ⟨r, hr⟩ := h _ hday
    cases hr

end TimeRangeSpec

end Clickstream
