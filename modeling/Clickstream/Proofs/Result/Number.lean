import Clickstream.Proofs.Number.Overflow
import Clickstream.Proofs.Number.Positional
import Clickstream.Proofs.Result.NumberText

/-!
# Numbers of moderate length

A text that is not longer than the longest integer, and in which there is no separator, is read if
it is a number: as an integer, which is the signed value of the digits, or as the nearest double
(`parseNumber_moderate`).  A written integer is such a number (`NumberText.ofInt`), and zeros in
front of the digits do not change the number (`NumberText.value_withZeros`).
-/

namespace Clickstream

open Numeral (Spelling Sign)
open Text (isSeparator)

/-! ## Texts of moderate length -/

/-- A text is not longer than the longest integer, and there is no separator in it. -/
structure IsModerate (s : String) : Prop where
  length_le : s.length ≤ maxIntegerDigits
  isSeparator_eq_false : ∀ c ∈ s.toList, isSeparator c = false

instance (s : String) : Decidable (IsModerate s) :=
  decidable_of_iff (s.length ≤ maxIntegerDigits ∧ s.toList.any isSeparator = false) <| by
    simp only [List.any_eq_false, Bool.not_eq_true]
    exact ⟨fun h => ⟨h.1, h.2⟩, fun h => ⟨h.1, h.2⟩⟩

namespace NumberText

theorem not_isUnreadable {t : NumberText} (h : IsModerate t.text) : ¬ t.IsUnreadable := by
  have hlength := h.length_le
  have hseparator := h.isSeparator_eq_false
  rw [toList_text] at hseparator
  rw [← String.length_toList, toList_text] at hlength
  simp only [List.length_append, Spelling.text] at hlength
  rintro (⟨c, hc, hc'⟩ | ⟨-, hlong⟩)
  · refine Bool.false_ne_true ((hseparator c ?_).symm.trans hc')
    simp only [List.mem_append] at hc ⊢
    exact hc.imp_right .inr
  · omega

end NumberText

/-- A moderate text is read if it is a number. -/
theorem IsModerate.parseNumber_eq_some {s : String} (h : IsModerate s) {v : Value} :
    parseNumber s = .ok (some v) ↔ ∃ t : NumberText, t.text = s ∧ t.value = v := by
  rw [Clickstream.parseNumber_eq_some]
  refine exists_congr fun t => and_congr_right ?_
  rintro rfl
  exact and_iff_right (NumberText.not_isUnreadable h)

/-! ## Leading zeros -/

namespace NumberText

/-- A number with zeros in front of its digits. -/
def withZeros (t : NumberText) {zeros : List Char} (h : Numeral.AllZeros zeros) : NumberText :=
  { t with spelling := t.spelling.withZeros h }

theorem value_withZeros (t : NumberText) {zeros : List Char} (h : Numeral.AllZeros zeros) :
    (t.withZeros h).value = t.value := by
  show (if t.spelling.IsInteger then _ else _) = value t
  rw [value, ← t.spelling.integer_withZeros h, ← t.spelling.toBinary64_withZeros h]
  rfl

theorem isModerate_of_withZeros {t : NumberText} {zeros : List Char} {h : Numeral.AllZeros zeros}
    (hmoderate : IsModerate (t.withZeros h).text) : IsModerate t.text := by
  have hsublist : t.text.toList.Sublist (t.withZeros h).text.toList := by
    rw [toList_text, toList_text]
    refine .append (.refl _) (.append (.append (.refl _) (.append ?_ (.refl _))) (.refl _))
    exact List.sublist_append_right zeros t.spelling.whole
  refine ⟨?_, fun c hc => hmoderate.isSeparator_eq_false c (hsublist.subset hc)⟩
  rw [← String.length_toList]
  exact hsublist.length_le.trans (String.length_toList ▸ hmoderate.length_le)

end NumberText

/-! ## Written integers -/

namespace NumberText

/-- The text of an integer. -/
def ofInt (n : Int) : NumberText :=
  ⟨[], .ofInt n, [], nofun, nofun⟩

theorem text_ofInt (n : Int) : (ofInt n).text = toString n := by
  refine String.ext ?_
  rw [toList_text, Json.toList_toString, ← Sign.text_ofNegative]
  show (_ ++ (_ ++ [])) ++ [] = _
  rw [List.append_nil, List.append_nil]
  rfl

theorem value_ofInt (n : Int) : (ofInt n).value = .int n :=
  congrArg Value.int (Spelling.integer_ofInt n)

end NumberText

theorem parseNumber_toString {n : Int} (h : (toString n).length ≤ maxIntegerDigits) :
    parseNumber (toString n) = .ok (some (.int n)) := by
  refine parseNumber_eq_some.mpr ⟨.ofInt n, NumberText.text_ofInt n, ?_, NumberText.value_ofInt n⟩
  rintro (⟨c, hc, -⟩ | ⟨-, hlong⟩)
  · cases hc
  · rw [← NumberText.text_ofInt, ← String.length_toList, NumberText.toList_text] at h
    simp only [List.length_append, Spelling.text] at h
    omega

/-! ## The grammar -/

/-- A moderate text is read as an integer, the signed value of its digits, if it is a number with
neither a point nor an exponent, as a double if it is any other number, and as nothing if it is
none.  So a written integer is read as itself, and zeros in front of the digits make no
difference. -/
theorem parseNumber_moderate :
    (∀ s, IsModerate s →
      (∀ n, parseNumber s = .ok (some (.int n)) ↔
        ∃ t : NumberText, t.text = s ∧ t.spelling.IsInteger ∧ t.spelling.integer = n) ∧
      (∀ x, parseNumber s = .ok (some (.real x)) ↔
        ∃ t : NumberText, t.text = s ∧ ¬ t.spelling.IsInteger ∧
          t.spelling.numeral.toBinary64 = x) ∧
      (parseNumber s = .ok none ↔ ¬ IsNumber s)) ∧
    (∀ n : Int, (toString n).length ≤ maxIntegerDigits →
      parseNumber (toString n) = .ok (some (.int n))) ∧
    ∀ (t : NumberText) (zeros : List Char) (h : Numeral.AllZeros zeros),
      IsModerate (t.withZeros h).text → parseNumber (t.withZeros h).text = parseNumber t.text := by
  refine ⟨fun s hs => ⟨fun n => ?integer, fun x => ?double, parseNumber_eq_none⟩,
    fun n => parseNumber_toString, fun t zeros h hmoderate => ?zeros⟩
  case integer => simp only [hs.parseNumber_eq_some, NumberText.value_eq_int]
  case double => simp only [hs.parseNumber_eq_some, NumberText.value_eq_real]
  case zeros =>
    have hplain := NumberText.isModerate_of_withZeros hmoderate
    rw [hmoderate.parseNumber_eq_some.mpr ⟨_, rfl, rfl⟩,
      hplain.parseNumber_eq_some.mpr ⟨t, rfl, rfl⟩, NumberText.value_withZeros]

theorem parseNumber_moderate_spaced :
    parseNumber " -042\n" = .ok (some (.int (-42))) ∧
      parseNumber ".5E+1" = .ok (some (.real (.ofDecimal false 5 0))) ∧
      parseNumber "4_2" = .ok none ∧
      parseNumber (toString (12345678901234567890 : Int)) =
        .ok (some (.int 12345678901234567890)) ∧
      parseNumber "007" = parseNumber "7" := by
  refine ⟨?integer, ?double, ?none, ?written, ?zeros⟩
  case integer =>
    exact ((parseNumber_moderate.1 " -042\n" (by decide)).1 (-42)).mpr
      ⟨⟨[' '], ⟨.minus, ['0', '4', '2'], none, none, by decide, by decide, by decide⟩, ['\n'],
        by decide, by decide⟩, rfl, by decide, rfl⟩
  case double =>
    exact ((parseNumber_moderate.1 ".5E+1" (by decide)).2.1 _).mpr
      ⟨⟨[], ⟨.absent, [], some ['5'], some ⟨'E', .plus, ['1'], .inr rfl, by decide, by decide⟩,
        by decide, by decide, by decide⟩, [], by decide, by decide⟩, rfl, by decide, rfl⟩
  case none => exact (parseNumber_moderate.1 "4_2" (by decide)).2.2.mpr (by decide)
  case written => exact parseNumber_moderate.2.1 _ (by decide)
  case zeros =>
    exact parseNumber_moderate.2.2 ⟨[], ⟨.absent, ['7'], none, none, by decide, by decide,
      by decide⟩, [], by decide, by decide⟩ ['0', '0'] (by decide) (by decide)

end Clickstream
