import Clickstream.Proofs.Json.Number
import Clickstream.Proofs.Number.Decimal
import Clickstream.Proofs.Number.Spelling

/-!
# Positional notation

A finite decimal is written as an optional minus, digits, and a point with further digits if its
exponent is negative (`IsPositional`, `exists_isPositional`).  Read as a numeral, such a text has
the value of the decimal (`read?_toText`).
-/

namespace Clickstream

open Json (IsDigits isDigits_toDigits isDigits_zeros asciiValue asciiValue_append asciiValue_zeros
  asciiValue_toDigits fractionText signText)

/-! ## Numerals -/

namespace Numeral

/-- The number that a numeral denotes. -/
def value (n : Numeral) : ℚ :=
  Decimal.withSign n.negative (n.coefficient * 10 ^ n.scale)

theorem digitValue?_of_isAsciiDigit {c : Char} (h : Text.isAsciiDigit c = true) :
    Text.digitValue? c = some (c.toNat - 48) := by
  rw [Text.isAsciiDigit, Bool.and_eq_true, decide_eq_true_eq, decide_eq_true_eq] at h
  have hzero : (decide (48 ≤ c.toNat) && decide (c.toNat < 48 + 10)) = true := by
    rw [Bool.and_eq_true, decide_eq_true_eq, decide_eq_true_eq]
    omega
  have hfind : (Text.zeroDigits.find? fun z => decide (z ≤ c.toNat) && decide (c.toNat < z + 10)) =
      some 48 := List.find?_cons_of_pos hzero
  rw [Text.digitValue?, hfind]
  rfl

/-- The sign of a number that is written with a minus only if it needs one. -/
def Sign.ofNegative (negative : Bool) : Sign :=
  if negative then .minus else .absent

theorem Sign.text_ofNegative (negative : Bool) :
    (Sign.ofNegative negative).text = signText negative := by
  cases negative <;> rfl

theorem Sign.isNegative_ofNegative (negative : Bool) :
    (Sign.ofNegative negative).isNegative = negative := by
  cases negative <;> rfl

theorem allDigits_of_isDigits {ds : List Char} (h : IsDigits ds) : AllDigits ds :=
  fun c hc => Option.isSome_of_eq_some (digitValue?_of_isAsciiDigit (h c hc))

theorem ofDigits_digitValues {ds : List Char} (h : IsDigits ds) :
    Text.ofDigits (digitValues ds) = asciiValue ds := by
  refine congrArg Text.ofDigits (?_ : ds.filterMap Text.digitValue? = ds.map fun c => c.toNat - 48)
  rw [← List.filterMap_eq_map]
  exact List.filterMap_congr fun c hc => digitValue?_of_isAsciiDigit (h c hc)

/-- An integer as it is written. -/
def Spelling.ofInt (n : Int) : Spelling where
  sign := .ofNegative (decide (n < 0))
  whole := Nat.toDigits 10 n.natAbs
  fraction := none
  exponent := none
  allDigits_whole := allDigits_of_isDigits (isDigits_toDigits _)
  allDigits_fraction := nofun
  digits_ne_nil := List.append_ne_nil_of_left_ne_nil
    (List.ne_nil_of_length_pos Nat.length_toDigits_pos) _

theorem Spelling.integer_ofInt (n : Int) : (ofInt n).integer = n := by
  have hvalue : Text.ofDigits (digitValues (ofInt n).whole) = n.natAbs :=
    (ofDigits_digitValues (isDigits_toDigits _)).trans (asciiValue_toDigits _)
  have hsign : (ofInt n).sign.isNegative = decide (n < 0) := Sign.isNegative_ofNegative _
  rw [integer, hvalue, hsign]
  by_cases hneg : n < 0
  · rw [if_pos (decide_eq_true hneg)]
    omega
  · rw [if_neg (by simpa using hneg)]
    omega

end Numeral

/-! ## Texts -/

/-- A text is an optional minus and digits, with a point and further digits unless there are
none. -/
structure IsPositional (text : List Char) (negative : Bool) (whole fraction : List Char) :
    Prop where
  parts : text = signText negative ++ (whole ++ fractionText fraction)
  isDigits_whole : IsDigits whole
  whole_ne_nil : whole ≠ []
  isDigits_fraction : IsDigits fraction

/-- A text in positional notation is a spelling, with a point only if digits follow it. -/
def IsPositional.spelling {text whole fraction : List Char} {negative : Bool}
    (h : IsPositional text negative whole fraction) : Numeral.Spelling where
  sign := .ofNegative negative
  whole := whole
  fraction := if fraction.isEmpty then none else some fraction
  exponent := none
  allDigits_whole := Numeral.allDigits_of_isDigits h.isDigits_whole
  allDigits_fraction := by
    cases fraction with
    | nil => exact nofun
    | cons c fraction => exact Numeral.allDigits_of_isDigits h.isDigits_fraction
  digits_ne_nil := List.append_ne_nil_of_left_ne_nil h.whole_ne_nil _

/-- A number in positional notation is a numeral, which denotes its digits with their sign. -/
theorem IsPositional.read? {text whole fraction : List Char} {negative : Bool}
    (h : IsPositional text negative whole fraction) :
    ∃ n, Numeral.read? text = some n ∧ n.value = Decimal.withSign negative
      (asciiValue (whole ++ fraction) * 10 ^ (-(fraction.length : Int))) := by
  have hpoint : Numeral.Spelling.pointText h.spelling.fraction = fractionText fraction := by
    cases fraction <;> rfl
  have htext : h.spelling.text = text := by
    refine Eq.trans ?_ h.parts.symm
    show (Numeral.Sign.ofNegative negative).text ++
      (whole ++ (Numeral.Spelling.pointText h.spelling.fraction ++ [])) = _
    rw [List.append_nil, hpoint, Numeral.Sign.text_ofNegative]
  have hread := h.spelling.read?_text
  rw [htext] at hread
  have hvalues : (h.spelling.fraction.map Numeral.digitValues).getD [] =
      Numeral.digitValues fraction := by
    cases fraction <;> rfl
  have hcoefficient : h.spelling.numeral.coefficient = asciiValue (whole ++ fraction) := by
    rw [← Numeral.ofDigits_digitValues (h.isDigits_whole.append h.isDigits_fraction),
      Numeral.digitValues_append, ← hvalues]
    rfl
  have hscale : h.spelling.numeral.scale = -(fraction.length : Int) := by
    rw [← Numeral.length_digitValues (Numeral.allDigits_of_isDigits h.isDigits_fraction), ← hvalues,
      ← zero_sub]
    rfl
  refine ⟨_, hread, ?_⟩
  rw [Numeral.value, hcoefficient, hscale]
  exact congrArg (Decimal.withSign · _) (Numeral.Sign.isNegative_ofNegative negative)

/-! ## Decimals -/

namespace Decimal

/-- Digits with a point before the last ones are the digits of the same number. -/
theorem exists_writePlaces (c : Nat) {places : Nat} (hplaces : places ≠ 0) :
    ∃ whole fraction, (writePlaces (Nat.toDigits 10 c) places).toList =
        whole ++ fractionText fraction ∧
      IsDigits whole ∧ whole ≠ [] ∧ IsDigits fraction ∧ fraction.length = places ∧
      asciiValue (whole ++ fraction) = c := by
  have hlength : 0 < (Nat.toDigits 10 c).length := Nat.length_toDigits_pos
  have hdigits : IsDigits (List.replicate (places + 1 - (Nat.toDigits 10 c).length) '0' ++
      Nat.toDigits 10 c) := (isDigits_zeros _).append (isDigits_toDigits c)
  have hvalue : asciiValue (List.replicate (places + 1 - (Nat.toDigits 10 c).length) '0' ++
      Nat.toDigits 10 c) = c := by
    rw [asciiValue_append, asciiValue_zeros, asciiValue_toDigits, zero_mul, zero_add]
  have hlong : places < (List.replicate (places + 1 - (Nat.toDigits 10 c).length) '0' ++
      Nat.toDigits 10 c).length := by
    rw [List.length_append, List.length_replicate]
    omega
  rw [writePlaces, if_neg hplaces]
  generalize List.replicate (places + 1 - (Nat.toDigits 10 c).length) '0' ++ Nat.toDigits 10 c =
    padded at hdigits hvalue hlong
  have hfraction : (padded.drop (padded.length - places)).length = places := by
    rw [List.length_drop]
    omega
  refine ⟨padded.take (padded.length - places), padded.drop (padded.length - places), ?_,
    fun d hd => hdigits d (List.mem_of_mem_take hd), ?_,
    fun d hd => hdigits d (List.mem_of_mem_drop hd), hfraction, ?_⟩
  · have hne : (padded.drop (padded.length - places)).isEmpty = false := by
      rw [List.isEmpty_eq_false_iff, ← List.length_pos_iff, hfraction]
      exact Nat.pos_of_ne_zero hplaces
    rw [fractionText, hne]
    simp
  · rw [← List.length_pos_iff, List.length_take]
    omega
  · rw [List.take_append_drop]
    exact hvalue

/-- A finite decimal is written in positional notation, with the digits of its number. -/
theorem exists_isPositional (negative : Bool) (c : Nat) (e : Int) : ∃ whole fraction,
    IsPositional (toText (.finite negative c e)).toList negative whole fraction ∧
      (asciiValue (whole ++ fraction) : ℚ) * 10 ^ (-(fraction.length : Int)) = c * 10 ^ e := by
  rw [toText]
  rw [Json.toList_signed]
  have hnone : fractionText [] = [] := rfl
  split_ifs with he hc
  · refine ⟨Nat.toDigits 10 c, [], ⟨?_, isDigits_toDigits c,
      List.ne_nil_of_length_pos Nat.length_toDigits_pos, nofun⟩, ?_⟩
    · rw [String.toList_ofList, hnone, List.append_nil]
    · rw [List.append_nil, asciiValue_toDigits, hc, Nat.cast_zero, zero_mul, zero_mul]
  · refine ⟨Nat.toDigits 10 c ++ List.replicate e.toNat '0', [], ⟨?_,
      (isDigits_toDigits c).append (isDigits_zeros _), ?_, nofun⟩, ?_⟩
    · rw [String.toList_ofList, hnone, List.append_nil]
    · exact List.append_ne_nil_of_left_ne_nil
        (List.ne_nil_of_length_pos Nat.length_toDigits_pos) _
    · rw [List.append_nil, asciiValue_append, asciiValue_toDigits, asciiValue_zeros,
        List.length_replicate, add_zero, List.length_nil, Nat.cast_zero, neg_zero, zpow_zero,
        mul_one, Nat.cast_mul, ← Nat.pow_eq, Binary64.cast_pow_toNat 10 he, Nat.cast_ofNat]
  · obtain ⟨whole, fraction, htext, hwhole, hne, hfraction, hlength, hvalue⟩ :=
      exists_writePlaces c (show (-e).toNat ≠ 0 by omega)
    refine ⟨whole, fraction, ⟨?_, hwhole, hne, hfraction⟩, ?_⟩
    · rw [htext]
    · rw [hvalue, hlength, Int.toNat_of_nonneg (by omega), neg_neg]

/-- The text of a finite decimal is in positional notation, and denotes its number. -/
theorem read?_toText {d : Decimal} {x : ℚ} (h : d.toRat? = some x) :
    (∃ negative whole fraction, IsPositional d.toText.toList negative whole fraction) ∧
      ∃ n, Numeral.read? d.toText.toList = some n ∧ n.value = x := by
  cases d with
  | infinite _ => cases h
  | nan _ _ _ => cases h
  | finite negative c e =>
    cases h
    obtain ⟨whole, fraction, hpositional, hvalue⟩ := exists_isPositional negative c e
    obtain ⟨n, hread, hn⟩ := hpositional.read?
    exact ⟨⟨_, _, _, hpositional⟩, n, hread, by rw [hn, hvalue]⟩

end Decimal

end Clickstream
