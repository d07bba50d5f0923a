import Mathlib.Data.List.Basic
import Mathlib.Data.List.Induction
import Clickstream.Proofs.Calendar.Civil
import Clickstream.Proofs.Text.Digits
import Clickstream.TimeRange.Resolved

/-!
# Dates as texts

The text of a date is its year, month and day in ten characters (`Date.toList_toText`).  It looks
like a date, and reading it gives the date back (`Date.read?_toText`).  Only digits are read as a
number (`eq_digits_of_asciiNumber?`), so no other text is read as this date (`Date.toText_of_read?`):
a request names a day by the text of the day (`TimeRangeSpec.readDay_eq_ok`).
-/

namespace Clickstream

/-! ## Digits -/

theorem isDigit_digitChar : ∀ d < 10, Text.isDigit d.digitChar = true := by decide

/-- A row of decimal digits is read as the number that they denote. -/
theorem asciiNumber?_digitChars {ds : List Nat} (h : ∀ d ∈ ds, d < 10) :
    asciiNumber? (ds.map Nat.digitChar) = some (Text.ofDigits ds) := by
  have hall : ((ds.map Nat.digitChar).all fun c => 48 ≤ c.toNat && c.toNat ≤ 57) = true := by
    rw [List.all_map, List.all_eq_true]
    intro d hd
    have hlt := h d hd
    simp only [Function.comp_apply, Nat.toNat_digitChar_of_lt_ten hlt, Bool.and_eq_true,
      decide_eq_true_eq]
    omega
  rw [asciiNumber?, if_pos hall, List.foldl_map, Text.ofDigits]
  refine congrArg some (List.foldl_ext _ _ _ fun n d hd => ?_)
  rw [Nat.toNat_digitChar_of_lt_ten (h d hd)]
  omega

theorem asciiNumber?_two {n : Nat} (h : n < 100) :
    asciiNumber? [(n / 10).digitChar, (n % 10).digitChar] = some n := by
  have hdigits : ∀ d ∈ [n / 10, n % 10], d < 10 := by
    simp only [List.forall_mem_cons]
    exact ⟨by omega, by omega, nofun⟩
  refine (asciiNumber?_digitChars hdigits).trans (congrArg some ?_)
  simp only [Text.ofDigits, List.foldl_cons, List.foldl_nil]
  omega

theorem asciiNumber?_four {n : Nat} (h : n < 10000) :
    asciiNumber? [(n / 10 ^ 3).digitChar, (n / 10 ^ 2 % 10).digitChar, (n / 10 % 10).digitChar,
      (n % 10).digitChar] = some n := by
  have hdigits : ∀ d ∈ [n / 10 ^ 3, n / 10 ^ 2 % 10, n / 10 % 10, n % 10], d < 10 := by
    simp only [List.forall_mem_cons]
    exact ⟨by omega, by omega, by omega, by omega, nofun⟩
  refine (asciiNumber?_digitChars hdigits).trans (congrArg some ?_)
  simp only [Text.ofDigits, List.foldl_cons, List.foldl_nil]
  omega

theorem digitChar_sub {c : Char} (h : 48 ≤ c.toNat ∧ c.toNat ≤ 57) :
    (c.toNat - 48).digitChar = c := by
  rw [← Char.toNat_inj, Nat.toNat_digitChar_of_lt_ten (by omega)]
  omega

/-- The number that digits denote is written with these digits. -/
theorem digits_ofDigits {ds : List Nat} (hne : ds ≠ []) (h : ∀ d ∈ ds, d < 10) :
    Text.digits 10 ds.length (Text.ofDigits ds) = ds.map Nat.digitChar := by
  induction ds using List.reverseRecOn with
  | nil => exact absurd rfl hne
  | append_singleton ds d ih =>
    obtain ⟨hds, hd⟩ := List.forall_mem_append.mp h
    have hlast : d < 10 := hd d (List.mem_singleton_self d)
    have hvalue : Text.ofDigits (ds ++ [d]) = 10 * Text.ofDigits ds + d := by
      simp [Text.ofDigits, Nat.mul_comm]
    have hquotient : (10 * Text.ofDigits ds + d) / 10 = Text.ofDigits ds := by omega
    have hrest : (10 * Text.ofDigits ds + d) % 10 = d := by omega
    rw [hvalue, List.length_append, List.length_singleton, List.map_append, List.map_singleton]
    cases ds with
    | nil => simp [Text.ofDigits, Text.digits_one hlast]
    | cons first rest =>
      rw [List.length_cons, Text.digits_succ (by decide), hquotient, hrest, ← List.length_cons,
        ih (List.cons_ne_nil _ _) hds]

/-- Only a row of decimal digits is read as a number, and it is the number in these digits. -/
theorem eq_digits_of_asciiNumber? {cs : List Char} {n : Nat} (hne : cs ≠ [])
    (h : asciiNumber? cs = some n) : cs = Text.digits 10 cs.length n := by
  have hall : ∀ c ∈ cs, 48 ≤ c.toNat ∧ c.toNat ≤ 57 := by
    unfold asciiNumber? at h
    split at h
    · next hcs => simpa using hcs
    · cases h
  have hdigits : ∀ d ∈ cs.map fun c => c.toNat - 48, d < 10 := by
    intro d hd
    obtain ⟨c, hc, rfl⟩ := List.mem_map.mp hd
    have hrange := hall c hc
    omega
  have hchars : (cs.map fun c => c.toNat - 48).map Nat.digitChar = cs := by
    rw [List.map_map]
    exact (List.map_congr_left fun c hc => digitChar_sub (hall c hc)).trans (List.map_id cs)
  rw [← hchars, asciiNumber?_digitChars hdigits] at h
  have hwritten := digits_ofDigits (List.map_eq_nil_iff.not.mpr hne) hdigits
  rw [hchars, Option.some.inj h, List.length_map] at hwritten
  exact hwritten.symm

/-! ## Texts -/

theorem daysInMonth_le (year month : Nat) : daysInMonth year month ≤ 31 := by
  have hlengths : ∀ length ∈ monthLengths (isLeapYear year), length ≤ 31 := by
    cases isLeapYear year <;> decide
  unfold daysInMonth
  split
  · omega
  · rw [List.getD_eq_getElem?_getD]
    cases hlength : (monthLengths (isLeapYear year))[month - 1]? with
    | none => exact Nat.zero_le 31
    | some length => exact hlengths length (List.mem_of_getElem? hlength)

namespace Date

theorem civil_lt (d : Date) : d.civil.year < 10000 ∧ d.civil.month < 100 ∧ d.civil.day < 100 := by
  obtain ⟨hyear, hmonth, hday, -⟩ := d.civil_spec
  have hlength := daysInMonth_le d.civil.year d.civil.month
  omega

/-- The ten characters of a date. -/
theorem toList_toText (d : Date) : d.toText.toList =
    [(d.civil.year / 10 ^ 3).digitChar, (d.civil.year / 10 ^ 2 % 10).digitChar,
      (d.civil.year / 10 % 10).digitChar, (d.civil.year % 10).digitChar, '-',
      (d.civil.month / 10).digitChar, (d.civil.month % 10).digitChar, '-',
      (d.civil.day / 10).digitChar, (d.civil.day % 10).digitChar] := by
  obtain ⟨hyear, hmonth, hday⟩ := d.civil_lt
  simp [toText, Text.toList_padded, Text.digits_four (by decide : 1 < 10) hyear,
    Text.digits_two (by decide : 1 < 10) hmonth, Text.digits_two (by decide : 1 < 10) hday]

theorem read?_toText (d : Date) : read? d.toText.toList = some d := by
  obtain ⟨hyear, hmonth, hday⟩ := d.civil_lt
  rw [toList_toText, read?, asciiNumber?_four hyear, asciiNumber?_two hmonth,
    asciiNumber?_two hday]
  exact d.ofCivil?_civil

/-- A text that is read as a date is the text of this date. -/
theorem toText_of_read? {cs : List Char} {d : Date} (h : read? cs = some d) :
    d.toText.toList = cs := by
  unfold read? at h
  split at h
  · obtain ⟨year, hyear, h⟩ := Option.bind_eq_some_iff.mp h
    obtain ⟨month, hmonth, h⟩ := Option.bind_eq_some_iff.mp h
    obtain ⟨day, hday, h⟩ := Option.bind_eq_some_iff.mp h
    have hyear := eq_digits_of_asciiNumber? (List.cons_ne_nil _ _) hyear
    have hmonth := eq_digits_of_asciiNumber? (List.cons_ne_nil _ _) hmonth
    have hday := eq_digits_of_asciiNumber? (List.cons_ne_nil _ _) hday
    simp only [List.length_cons, List.length_nil, Nat.zero_add, Nat.reduceAdd] at hyear hmonth hday
    simp [toText, civil_of_ofCivil? h, Text.toList_padded, ← hyear, ← hmonth, ← hday]
  · cases h

theorem toText_ne_empty (d : Date) : d.toText ≠ "" := by
  intro h
  have hlist := d.toList_toText
  rw [h] at hlist
  cases hlist

end Date

namespace TimeRangeSpec

theorem looksLikeDate_toText (d : Date) : looksLikeDate d.toText.toList = true := by
  obtain ⟨hyear, hmonth, hday⟩ := d.civil_lt
  rw [d.toList_toText]
  simp (disch := omega) [looksLikeDate, isDigit_digitChar]

/-- Of the forms of a date only the one with year, month, day and hyphens looks like a date. -/
theorem ofIso?_of_looksLikeDate {cs : List Char} (h : looksLikeDate cs = true) :
    Date.ofIso? cs = Date.read? cs := by
  unfold Date.ofIso?
  split
  · -- The letter of the week stands where a digit of the month is expected.
    have hletter : Text.isDigit 'W' = false := by decide
    simp [looksLikeDate, hletter] at h
  · cases h
  · cases h
  · cases h
  · cases h
  · rfl

/-- A day that is named by the text of a date is this date. -/
theorem readDay_toText (field : String) (d : Date) : readDay field d.toText = .ok d := by
  have hlooks := looksLikeDate_toText d
  rw [readDay, if_pos hlooks, ofIso?_of_looksLikeDate hlooks, d.read?_toText]

/-- A day is named by the text of a date, and by no other text. -/
theorem readDay_eq_ok {field text : String} {d : Date} :
    readDay field text = .ok d ↔ text = d.toText := by
  constructor
  · intro h
    unfold readDay at h
    split at h
    · next hlooks =>
      rw [ofIso?_of_looksLikeDate hlooks] at h
      split at h
      · next date hdate =>
        cases h
        exact (String.toList_inj.mp (Date.toText_of_read? hdate)).symm
      · cases h
    · cases h
  · rintro rfl
    exact readDay_toText field d

end TimeRangeSpec

end Clickstream
