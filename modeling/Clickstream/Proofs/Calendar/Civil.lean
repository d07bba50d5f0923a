import Mathlib.Algebra.GroupWithZero.Nat
import Mathlib.Data.Nat.Init
import Clickstream.Calendar.Date

/-!
# Day numbers and civil dates

The civil form of a date is a day of the calendar, and its day number is the one that the date has
(`Date.civil_spec`), so the civil form names the date (`Date.ofCivil?_civil`), and no other civil
form does (`Date.civil_of_ofCivil?`).  Every day of the calendar is a date (`Date.exists_ofCivil?`).
The two parts of the computation are each undone: splitting off the year (`Date.splitYear_spec`)
leaves the days before the year and a day of it, and splitting off the month (`splitMonth_spec`) the
days before the month and a day of that.
-/

namespace Clickstream

/-! ## Years -/

theorem isLeapYear_iff (year : Nat) :
    isLeapYear year = true ↔ year % 4 = 0 ∧ (year % 100 ≠ 0 ∨ year % 400 = 0) := by
  simp [isLeapYear]

/-- The number of days of a year. -/
def yearLength (year : Nat) : Nat :=
  if isLeapYear year then 366 else 365

theorem le_yearLength (year : Nat) : 365 ≤ yearLength year := by
  unfold yearLength
  split <;> omega

theorem yearLength_of_leap {year : Nat} (h : year % 4 = 0)
    (h' : year % 100 ≠ 0 ∨ year % 400 = 0) : yearLength year = 366 :=
  if_pos ((isLeapYear_iff year).mpr ⟨h, h'⟩)

/-- The days before a year, by the periods that the years before it make up. -/
theorem daysBeforeYear_succ {n100 n4 n1 : Nat} (n400 : Nat) (h100 : n100 ≤ 3) (h4 : n4 ≤ 24)
    (h1 : n1 ≤ 3) : daysBeforeYear (400 * n400 + 100 * n100 + 4 * n4 + n1 + 1) =
      146097 * n400 + 36524 * n100 + 1461 * n4 + 365 * n1 := by
  rw [daysBeforeYear, Nat.add_sub_cancel]
  omega

/-- A day number is a number of days before a year, and a day of the year. -/
theorem Date.splitYear_spec {number : Nat} (h : 1 ≤ number) :
    1 ≤ (splitYear number).1 ∧ (splitYear number).2 < yearLength (splitYear number).1 ∧
      daysBeforeYear (splitYear number).1 + (splitYear number).2 + 1 = number := by
  unfold splitYear
  dsimp only
  generalize h400 : (number - 1) / 146097 = n400
  generalize h100 : (number - 1) % 146097 / 36524 = n100
  generalize h4 : (number - 1) % 146097 % 36524 / 1461 = n4
  generalize h1 : (number - 1) % 146097 % 36524 % 1461 / 365 = n1
  generalize hrest : (number - 1) % 146097 % 36524 % 1461 % 365 = rest
  have hnumber : number = 146097 * n400 + 36524 * n100 + 1461 * n4 + 365 * n1 + rest + 1 := by omega
  have hbounds : n100 ≤ 4 ∧ n4 ≤ 24 ∧ n1 ≤ 4 ∧ rest < 365 := by omega
  -- A fourth century or a fourth year is the last day of a period, which belongs to the year before.
  have hcentury : n100 = 4 → n4 = 0 ∧ n1 = 0 ∧ rest = 0 := by omega
  have hyear : n1 = 4 → n4 ≤ 23 ∧ rest = 0 := by omega
  clear h400 h100 h4 h1 hrest h
  split
  · next hlast =>
    rw [Bool.or_eq_true, decide_eq_true_eq, decide_eq_true_eq] at hlast
    obtain ⟨n100', n4', h100', h4', hyears, hdays⟩ : ∃ n100' n4', n100' ≤ 3 ∧ n4' ≤ 24 ∧
        400 * n400 + 100 * n100 + 4 * n4 + n1 = 400 * n400 + 100 * n100' + 4 * n4' + 3 + 1 ∧
        number = 146097 * n400 + 36524 * n100' + 1461 * n4' + 1095 + 365 + 1 := by
      by_cases hn100 : n100 = 4
      · exact ⟨3, 24, by omega⟩
      · exact ⟨n100, n4, by omega⟩
    have hbefore := daysBeforeYear_succ n400 h100' h4' (Nat.le_refl 3)
    have hleap : yearLength (400 * n400 + 100 * n100' + 4 * n4' + 3 + 1) = 366 :=
      yearLength_of_leap (by omega) (by omega)
    rw [hyears]
    dsimp only
    omega
  · next hlast =>
    rw [Bool.or_eq_true, decide_eq_true_eq, decide_eq_true_eq, not_or] at hlast
    have hbefore := @daysBeforeYear_succ n100 n4 n1 n400 (by omega) (by omega) (by omega)
    have hlength := le_yearLength (400 * n400 + 100 * n100 + 4 * n4 + n1 + 1)
    dsimp only
    omega

/-- After the days before a year come those of the year. -/
theorem daysBeforeYear_add_two (n : Nat) :
    daysBeforeYear (n + 2) = daysBeforeYear (n + 1) + yearLength (n + 1) := by
  have hyear : ∀ k, daysBeforeYear (k + 1) = k * 365 + k / 4 - k / 100 + k / 400 := fun _ => rfl
  have hleap := isLeapYear_iff (n + 1)
  simp only [ne_eq, ← Nat.dvd_iff_mod_eq_zero] at hleap
  have hfour_of : 100 ∣ n + 1 → 4 ∣ n + 1 := Nat.dvd_trans (by decide)
  have hhundred_of : 400 ∣ n + 1 → 100 ∣ n + 1 := Nat.dvd_trans (by decide)
  have hle : n / 100 ≤ n / 4 := Nat.div_le_div_left (by decide) (by decide)
  -- A quotient grows in the years that its divisor divides.
  rw [hyear, hyear, Nat.succ_div, Nat.succ_div, Nat.succ_div, yearLength]
  by_cases hfour : 4 ∣ n + 1
  · by_cases hhundred : 100 ∣ n + 1
    · by_cases hfourHundred : 400 ∣ n + 1
      · have hlong := hleap.mpr ⟨hfour, .inr hfourHundred⟩
        rw [if_pos hfour, if_pos hhundred, if_pos hfourHundred, if_pos hlong]
        omega
      · have hshort := mt hleap.mp fun h => h.2.elim (· hhundred) hfourHundred
        rw [if_pos hfour, if_pos hhundred, if_neg hfourHundred, if_neg hshort]
        omega
    · have hlong := hleap.mpr ⟨hfour, .inl hhundred⟩
      rw [if_pos hfour, if_neg hhundred, if_neg (mt hhundred_of hhundred), if_pos hlong]
      omega
  · have hhundred := mt hfour_of hfour
    have hshort := mt hleap.mp fun h => hfour h.1
    rw [if_neg hfour, if_neg hhundred, if_neg (mt hhundred_of hhundred), if_neg hshort]
    omega

theorem daysBeforeYear_le {year year' : Nat} (hone : 1 ≤ year) (h : year < year') :
    daysBeforeYear year + yearLength year ≤ daysBeforeYear year' := by
  obtain ⟨n, rfl⟩ := Nat.exists_eq_add_of_le' hone
  induction year', h using Nat.le_induction with
  | base => exact Nat.le_of_eq (daysBeforeYear_add_two n).symm
  | succ m hm ih =>
    obtain ⟨k, rfl⟩ := Nat.exists_eq_add_of_le' (Nat.one_le_of_lt hm)
    rw [daysBeforeYear_add_two k]
    exact Nat.le_add_right_of_le ih

/-- A day number has one year and one day of it. -/
theorem Date.splitYear_eq {year rest : Nat} (hone : 1 ≤ year) (h : rest < yearLength year) :
    splitYear (daysBeforeYear year + rest + 1) = (year, rest) := by
  obtain ⟨hone', hrest, hsum⟩ :=
    splitYear_spec (Nat.le_add_left 1 (daysBeforeYear year + rest))
  generalize splitYear (daysBeforeYear year + rest + 1) = split at *
  have hyear : split.1 = year := by
    rcases Nat.lt_trichotomy split.1 year with hlt | heq | hgt
    · have := daysBeforeYear_le hone' hlt
      omega
    · exact heq
    · have := daysBeforeYear_le hone hgt
      omega
  rw [hyear] at hsum
  exact Prod.ext hyear (by omega)

/-! ## Months -/

/-- A day is a number of days before a month, and a day of the month. -/
theorem splitMonth_spec (lengths : List Nat) {n : Nat} (h : n < lengths.sum) :
    (splitMonth lengths n).1 < lengths.length ∧
      (splitMonth lengths n).2 < lengths.getD (splitMonth lengths n).1 0 ∧
      (lengths.take (splitMonth lengths n).1).sum + (splitMonth lengths n).2 = n := by
  induction lengths generalizing n with
  | nil => cases h
  | cons length lengths ih =>
    rw [splitMonth]
    split
    · next hlt => simp [hlt]
    · next hge =>
      rw [List.sum_cons] at h
      obtain ⟨hmonth, hday, hsum⟩ := ih (n := n - length) (by omega)
      dsimp only
      refine ⟨by simpa using hmonth, by simpa using hday, ?_⟩
      rw [List.take_succ_cons, List.sum_cons]
      omega

theorem sum_monthLengths (year : Nat) :
    (monthLengths (isLeapYear year)).sum = yearLength year := by
  unfold yearLength
  cases isLeapYear year <;> rfl

theorem length_monthLengths (leap : Bool) : (monthLengths leap).length = 12 := rfl

theorem daysBeforeMonth_eq (leap : Bool) (month : Nat) :
    daysBeforeMonth leap (month + 1) = ((monthLengths leap).take month).sum := by
  rw [daysBeforeMonth, Nat.add_sub_cancel, List.sum_eq_foldl]

/-- A month and a day of it are split off from the number of days before. -/
theorem splitMonth_eq (lengths : List Nat) {month day : Nat} (h : day < lengths.getD month 0) :
    splitMonth lengths ((lengths.take month).sum + day) = (month, day) := by
  induction lengths generalizing month with
  | nil => cases h
  | cons length lengths ih =>
    cases month with
    | zero =>
      have hlt : day < length := h
      rw [List.take_zero, List.sum_nil, Nat.zero_add, splitMonth, if_pos hlt]
    | succ month =>
      have hge : ¬ length + (lengths.take month).sum + day < length := by omega
      rw [List.take_succ_cons, List.sum_cons, splitMonth, if_neg hge, Nat.add_assoc,
        Nat.add_sub_cancel_left, ih h]

theorem sum_take_add_getD_le (lengths : List Nat) (month : Nat) :
    (lengths.take month).sum + lengths.getD month 0 ≤ lengths.sum := by
  induction lengths generalizing month with
  | nil => simp
  | cons length lengths ih =>
    cases month with
    | zero => simp
    | succ month => simpa [Nat.add_assoc] using ih month

/-! ## Dates -/

namespace Date

/-- The parts of a civil form, by the spans that they were split off from. -/
theorem civil_spec (d : Date) :
    (1 ≤ d.civil.year ∧ d.civil.year ≤ 9999) ∧ (1 ≤ d.civil.month ∧ d.civil.month ≤ 12) ∧
      (1 ≤ d.civil.day ∧ d.civil.day ≤ daysInMonth d.civil.year d.civil.month) ∧
      dayNumber d.civil.year d.civil.month d.civil.day = d.number := by
  obtain ⟨hone, hlength, hnumber⟩ := splitYear_spec d.one_le
  have hlast := d.le_last
  rw [← sum_monthLengths] at hlength
  obtain ⟨hmonth, hday, hsum⟩ := splitMonth_spec _ hlength
  rw [length_monthLengths] at hmonth
  unfold civil dayNumber daysInMonth
  dsimp only
  rw [daysBeforeMonth_eq, if_neg (Nat.succ_ne_zero _), Nat.add_sub_cancel]
  generalize (splitYear d.number).1 = year at *
  refine ⟨⟨hone, ?_⟩, ⟨Nat.le_add_left 1 _, hmonth⟩, ⟨Nat.le_add_left 1 _, hday⟩, by omega⟩
  rw [daysBeforeYear] at hnumber
  rw [lastDay] at hlast
  omega

/-- The civil form of a date is a day of the calendar. -/
theorem isValid_civil (d : Date) : d.civil.isValid = true := by
  obtain ⟨hyear, hmonth, hday, -⟩ := d.civil_spec
  simp [CivilDate.isValid, hyear, hmonth, hday]

/-- A number names the date with this number, if there is one. -/
theorem ofNumber?_eq_some {n : Int} {d : Date} : ofNumber? n = some d ↔ (d.number : Int) = n := by
  constructor
  · intro h
    unfold ofNumber? at h
    split at h
    · next hbounds =>
      cases h
      exact Int.toNat_of_nonneg (by omega)
    · cases h
  · rintro rfl
    have hbounds : 1 ≤ (d.number : Int) ∧ (d.number : Int) ≤ lastDay := by
      have := d.one_le
      have := d.le_last
      omega
    rw [ofNumber?, dif_pos hbounds]
    rfl

/-- The civil form of a date names the date. -/
theorem ofCivil?_civil (d : Date) : ofCivil? d.civil = some d := by
  rw [ofCivil?, if_pos d.isValid_civil, d.civil_spec.2.2.2]
  exact ofNumber?_eq_some.mpr rfl

/-- A date has the civil form that names it. -/
theorem civil_of_ofCivil? {c : CivilDate} {d : Date} (h : ofCivil? c = some d) : d.civil = c := by
  unfold ofCivil? at h
  split at h
  · next hvalid =>
    have hnumber := ofNumber?_eq_some.mp h
    simp only [CivilDate.isValid, Bool.and_eq_true, decide_eq_true_eq] at hvalid
    obtain ⟨year, month, day⟩ := c
    obtain ⟨⟨⟨⟨⟨hyear, -⟩, hmonth⟩, -⟩, hday⟩, hlast⟩ := hvalid
    dsimp only at *
    obtain ⟨month, rfl⟩ := Nat.exists_eq_add_of_le' hmonth
    obtain ⟨day, rfl⟩ := Nat.exists_eq_add_of_le' hday
    rw [daysInMonth, if_neg (Nat.succ_ne_zero _), Nat.add_sub_cancel] at hlast
    have hrest := sum_take_add_getD_le (monthLengths (isLeapYear year)) month
    rw [sum_monthLengths] at hrest
    have hnumber' : d.number = daysBeforeYear year +
        (((monthLengths (isLeapYear year)).take month).sum + day) + 1 := by
      rw [dayNumber, daysBeforeMonth_eq] at hnumber
      omega
    have hsplit := @splitYear_eq year
      (((monthLengths (isLeapYear year)).take month).sum + day) hyear (by omega)
    unfold civil
    rw [hnumber', hsplit]
    dsimp only
    rw [splitMonth_eq _ hlast]
  · cases h

/-- Every day of the calendar is a date. -/
theorem exists_ofCivil? {c : CivilDate} (h : c.isValid = true) : ∃ d, ofCivil? c = some d := by
  have hvalid := h
  simp only [CivilDate.isValid, Bool.and_eq_true, decide_eq_true_eq] at hvalid
  obtain ⟨⟨⟨⟨⟨hyear, hlastYear⟩, hmonth⟩, -⟩, hday⟩, hlength⟩ := hvalid
  obtain ⟨month, hmonth⟩ := Nat.exists_eq_add_of_le' hmonth
  rw [hmonth, daysInMonth, if_neg (Nat.succ_ne_zero _), Nat.add_sub_cancel] at hlength
  have hrest := sum_take_add_getD_le (monthLengths (isLeapYear c.year)) month
  have hyears := daysBeforeYear_le hyear (show c.year < 10000 by omega)
  have hlastDay : daysBeforeYear 10000 = lastDay := rfl
  rw [sum_monthLengths] at hrest
  rw [ofCivil?, if_pos h, dayNumber, hmonth, daysBeforeMonth_eq]
  exact ⟨_, dif_pos (by omega)⟩

end Date

end Clickstream
