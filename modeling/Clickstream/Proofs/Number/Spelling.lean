import Clickstream.Number.Numeral
import Clickstream.Proofs.Text.Blank

/-!
# Spellings of numerals

A numeral is spelled as a sign or none, digits of any script with an optional point, and an optional
exponent (`Numeral.Spelling`).  The reader takes these parts one after the other.  It accepts a text
if and only if the text is a spelling, and returns the parts of it (`Numeral.read?_eq_some_iff`).
-/

namespace Clickstream.Numeral

/-! ## Parts -/

/-- All characters are decimal digits, of any script. -/
def AllDigits (ds : List Char) : Prop :=
  ∀ c ∈ ds, Text.isDigit c = true

instance (ds : List Char) : Decidable (AllDigits ds) :=
  List.decidableBAll _ ds

/-- The values of digits. -/
def digitValues (ds : List Char) : List Nat :=
  ds.filterMap Text.digitValue?

/-- A sign as it is written. -/
inductive Sign
  | absent
  | plus
  | minus
  deriving DecidableEq

namespace Sign

def text : Sign → List Char
  | absent => []
  | plus => ['+']
  | minus => ['-']

def isNegative : Sign → Bool
  | minus => true
  | _ => false

end Sign

/-- An exponent as it is written: a mark, a sign or none, and digits. -/
structure WrittenExponent where
  mark : Char
  sign : Sign
  digits : List Char
  isMark : mark = 'e' ∨ mark = 'E'
  allDigits : AllDigits digits
  digits_ne_nil : digits ≠ []

namespace WrittenExponent

def text (e : WrittenExponent) : List Char :=
  e.mark :: (e.sign.text ++ e.digits)

def value (e : WrittenExponent) : Int :=
  if e.sign.isNegative then -(Text.ofDigits (digitValues e.digits) : Int)
  else Text.ofDigits (digitValues e.digits)

end WrittenExponent

/-- A numeral as it is written: a sign or none; digits, then a point with further digits behind it
or neither, with a digit on at least one side of the point; and an exponent or none. -/
structure Spelling where
  sign : Sign
  whole : List Char
  /-- The digits behind the point, if there is a point. -/
  fraction : Option (List Char)
  exponent : Option WrittenExponent
  allDigits_whole : AllDigits whole
  allDigits_fraction : AllDigits (fraction.getD [])
  digits_ne_nil : whole ++ fraction.getD [] ≠ []

namespace Spelling

/-- The text of a point with the digits behind it. -/
def pointText : Option (List Char) → List Char
  | none => []
  | some ds => '.' :: ds

/-- The text of an exponent, empty if there is none. -/
def exponentText : Option WrittenExponent → List Char
  | none => []
  | some e => e.text

def text (w : Spelling) : List Char :=
  w.sign.text ++ (w.whole ++ (pointText w.fraction ++ exponentText w.exponent))

/-- What the parts stand for. -/
def numeral (w : Spelling) : Numeral :=
  ⟨w.sign.isNegative, digitValues w.whole, w.fraction.map digitValues,
    w.exponent.map WrittenExponent.value⟩

/-- There is neither a point nor an exponent. -/
def IsInteger (w : Spelling) : Prop :=
  w.fraction = none ∧ w.exponent = none

instance (w : Spelling) : Decidable w.IsInteger :=
  decidable_of_iff (w.fraction.isNone = true ∧ w.exponent.isNone = true)
    (and_congr Option.isNone_iff_eq_none Option.isNone_iff_eq_none)

/-- The signed value of the digits. -/
def integer (w : Spelling) : Int :=
  if w.sign.isNegative then -(Text.ofDigits (digitValues w.whole) : Int)
  else Text.ofDigits (digitValues w.whole)

end Spelling

/-! ## Characters -/

theorem ne_of_isDigit {c d : Char} (hc : Text.isDigit c = true) (hd : Text.isDigit d = false) :
    c ≠ d := by
  rintro rfl
  rw [hc] at hd
  cases hd

namespace Spelling

/-- A spelling consists of digits, signs, a point and the mark of an exponent. -/
theorem forall_text {P : Char → Prop} (hdigit : ∀ c, Text.isDigit c = true → P c)
    (hsigns : P '+' ∧ P '-') (hmarks : P '.' ∧ P 'e' ∧ P 'E') (w : Spelling) :
    ∀ c ∈ w.text, P c := by
  have hsign : ∀ sign : Sign, ∀ c ∈ sign.text, P c := by
    intro sign
    cases sign with
    | absent => exact nofun
    | plus => exact List.forall_mem_singleton.mpr hsigns.1
    | minus => exact List.forall_mem_singleton.mpr hsigns.2
  have hpoint : ∀ c ∈ pointText w.fraction, P c := by
    have hdigits := w.allDigits_fraction
    cases hfraction : w.fraction with
    | none => exact nofun
    | some ds =>
      rw [hfraction] at hdigits
      exact List.forall_mem_cons.mpr ⟨hmarks.1, fun c hc => hdigit c (hdigits c hc)⟩
  have hexponent : ∀ c ∈ exponentText w.exponent, P c := by
    cases w.exponent with
    | none => exact nofun
    | some e =>
      refine List.forall_mem_cons.mpr ⟨?_, List.forall_mem_append.mpr
        ⟨hsign e.sign, fun c hc => hdigit c (e.allDigits c hc)⟩⟩
      rcases e.isMark with h | h
      · exact h ▸ hmarks.2.1
      · exact h ▸ hmarks.2.2
  exact List.forall_mem_append.mpr ⟨hsign w.sign, List.forall_mem_append.mpr
    ⟨fun c hc => hdigit c (w.allDigits_whole c hc), List.forall_mem_append.mpr ⟨hpoint, hexponent⟩⟩⟩

theorem isBlank_of_mem_text (w : Spelling) : ∀ c ∈ w.text, Text.isBlank c = false :=
  forall_text (fun _ => Text.isBlank_of_isDigit) (by decide) (by decide) w

theorem ne_underscore_of_mem_text (w : Spelling) : ∀ c ∈ w.text, c ≠ '_' :=
  forall_text (fun _ hc => ne_of_isDigit hc (by decide)) (by decide) (by decide) w

theorem text_ne_nil (w : Spelling) : w.text ≠ [] := by
  intro hnil
  obtain ⟨-, hrest⟩ := List.append_eq_nil_iff.mp hnil
  obtain ⟨hwhole, hrest⟩ := List.append_eq_nil_iff.mp hrest
  obtain ⟨hpoint, -⟩ := List.append_eq_nil_iff.mp hrest
  refine w.digits_ne_nil (List.append_eq_nil_iff.mpr ⟨hwhole, ?_⟩)
  cases hfraction : w.fraction with
  | none => rfl
  | some ds =>
    rw [hfraction] at hpoint
    cases hpoint

end Spelling

/-! ## Digits -/

theorem AllDigits.append {ds es : List Char} (hds : AllDigits ds) (hes : AllDigits es) :
    AllDigits (ds ++ es) :=
  List.forall_mem_append.mpr ⟨hds, hes⟩

theorem allDigits_cons {c : Char} {ds : List Char} :
    AllDigits (c :: ds) ↔ Text.isDigit c = true ∧ AllDigits ds :=
  List.forall_mem_cons

theorem digitValues_append (ds es : List Char) :
    digitValues (ds ++ es) = digitValues ds ++ digitValues es :=
  List.filterMap_append

theorem exists_digitValue {c : Char} (h : Text.isDigit c = true) :
    ∃ d, Text.digitValue? c = some d :=
  Option.isSome_iff_exists.mp h

theorem length_digitValues {ds : List Char} (h : AllDigits ds) :
    (digitValues ds).length = ds.length := by
  rw [digitValues, List.length_filterMap_eq_countP]
  exact List.countP_eq_length.mpr h

theorem digitValues_eq_nil {ds : List Char} (h : AllDigits ds) : digitValues ds = [] ↔ ds = [] := by
  rw [← List.length_eq_zero_iff, length_digitValues h, List.length_eq_zero_iff]

/-- There is no value on either side of the point if and only if there is no digit. -/
theorem isEmpty_digitValues {whole : List Char} {fraction : Option (List Char)}
    (hwhole : AllDigits whole) (hfraction : AllDigits (fraction.getD [])) :
    ((digitValues whole).isEmpty && ((fraction.map digitValues).getD []).isEmpty) = true ↔
      whole ++ fraction.getD [] = [] := by
  have hvalues : (fraction.map digitValues).getD [] = digitValues (fraction.getD []) := by
    cases fraction <;> rfl
  rw [Bool.and_eq_true, List.isEmpty_iff, List.isEmpty_iff, hvalues, digitValues_eq_nil hwhole,
    digitValues_eq_nil hfraction, List.append_eq_nil_iff]

/-- The leading digits are split off, up to a character that is none. -/
theorem spanDigits_append {ds rest : List Char} (hds : AllDigits ds)
    (hrest : spanDigits rest = ([], rest)) : spanDigits (ds ++ rest) = (digitValues ds, rest) := by
  induction ds with
  | nil => exact hrest
  | cons c ds ih =>
    obtain ⟨hc, hds⟩ := allDigits_cons.mp hds
    obtain ⟨d, hd⟩ := exists_digitValue hc
    rw [List.cons_append, spanDigits, hd]
    dsimp only
    rw [ih hds]
    exact congrArg (·, rest) (List.filterMap_cons_some hd).symm

theorem spanDigits_of_not_isDigit {c : Char} (h : Text.isDigit c = false) (rest : List Char) :
    spanDigits (c :: rest) = ([], c :: rest) := by
  have hnone : Text.digitValue? c = none := Option.not_isSome_iff_eq_none.mp (by
    rw [← Text.isDigit, h]
    exact Bool.false_ne_true)
  rw [spanDigits, hnone]

theorem exists_spanDigits (cs : List Char) : ∃ ds, AllDigits ds ∧ cs = ds ++ (spanDigits cs).2 ∧
    (spanDigits cs).1 = digitValues ds := by
  induction cs with
  | nil => exact ⟨[], nofun, rfl, rfl⟩
  | cons c cs ih =>
    rw [spanDigits]
    cases hc : Text.digitValue? c with
    | none => exact ⟨[], nofun, rfl, rfl⟩
    | some d =>
      obtain ⟨ds, hds, hcs, hvalues⟩ := ih
      refine ⟨c :: ds, allDigits_cons.mpr ⟨Option.isSome_of_eq_some hc, hds⟩, ?_, ?_⟩
      · exact congrArg (c :: ·) hcs
      · rw [digitValues, List.filterMap_cons_some hc]
        exact congrArg (d :: ·) hvalues

/-! ## Signs -/

theorem spanSign_append (sign : Sign) {rest : List Char} (hrest : spanSign rest = (false, rest)) :
    spanSign (sign.text ++ rest) = (sign.isNegative, rest) := by
  cases sign with
  | absent => exact hrest
  | plus => rfl
  | minus => rfl

theorem spanSign_cons {c : Char} (hplus : c ≠ '+') (hminus : c ≠ '-') (rest : List Char) :
    spanSign (c :: rest) = (false, c :: rest) := by
  unfold spanSign
  split
  · next heq => exact absurd (List.cons.inj heq).1 hplus
  · next heq => exact absurd (List.cons.inj heq).1 hminus
  · rfl

theorem spanSign_of_isDigit {c : Char} (hc : Text.isDigit c = true) (rest : List Char) :
    spanSign (c :: rest) = (false, c :: rest) :=
  spanSign_cons (ne_of_isDigit hc (by decide)) (ne_of_isDigit hc (by decide)) rest

theorem exists_spanSign (cs : List Char) : ∃ sign : Sign,
    cs = sign.text ++ (spanSign cs).2 ∧ (spanSign cs).1 = sign.isNegative := by
  unfold spanSign
  split
  · exact ⟨.plus, rfl, rfl⟩
  · exact ⟨.minus, rfl, rfl⟩
  · exact ⟨.absent, rfl, rfl⟩

/-! ## Points and exponents -/

open Spelling (pointText exponentText)

theorem spanDigits_exponentText (e : Option WrittenExponent) :
    spanDigits (exponentText e) = ([], exponentText e) := by
  cases e with
  | none => rfl
  | some e => rcases e.isMark with h | h <;> exact spanDigits_of_not_isDigit (by rw [h]; decide) _

theorem spanDigits_pointText (fraction : Option (List Char)) (e : Option WrittenExponent) :
    spanDigits (pointText fraction ++ exponentText e) =
      ([], pointText fraction ++ exponentText e) := by
  cases fraction with
  | none => exact spanDigits_exponentText e
  | some ds => exact spanDigits_of_not_isDigit (by decide) _

theorem spanFraction_append {fraction : Option (List Char)} (h : AllDigits (fraction.getD []))
    (e : Option WrittenExponent) :
    spanFraction (pointText fraction ++ exponentText e) =
      (fraction.map digitValues, exponentText e) := by
  cases fraction with
  | none =>
    cases e with
    | none => rfl
    | some e =>
      show spanFraction (e.mark :: _) = (none, e.mark :: _)
      rcases e.isMark with h | h <;> rw [h] <;> rfl
  | some ds =>
    have hspan := @spanDigits_append ds _ h (spanDigits_exponentText e)
    show (some (spanDigits (ds ++ exponentText e)).1, (spanDigits (ds ++ exponentText e)).2) = _
    rw [hspan]
    rfl

theorem exists_spanFraction_eq (cs : List Char) : ∃ fraction : Option (List Char),
    AllDigits (fraction.getD []) ∧ cs = pointText fraction ++ (spanFraction cs).2 ∧
      (spanFraction cs).1 = fraction.map digitValues := by
  unfold spanFraction
  split
  · next cs =>
    obtain ⟨ds, hds, hcs, hvalues⟩ := exists_spanDigits cs
    exact ⟨some ds, hds, congrArg ('.' :: ·) hcs, congrArg some hvalues⟩
  · exact ⟨none, nofun, rfl, rfl⟩

theorem readExponent?_exponentText (e : Option WrittenExponent) :
    readExponent? (exponentText e) = some (e.map WrittenExponent.value) := by
  cases e with
  | none => rfl
  | some e =>
    have hmark : (e.mark = 'e' || e.mark = 'E') = true := by
      simpa using e.isMark
    obtain ⟨c, rest, hcons⟩ := List.exists_cons_of_ne_nil e.digits_ne_nil
    have hdigits := e.allDigits
    have hsign : spanSign e.digits = (false, e.digits) := by
      rw [hcons] at hdigits ⊢
      exact spanSign_of_isDigit (allDigits_cons.mp hdigits).1 rest
    have hspan := spanDigits_append hdigits spanDigits.eq_1
    rw [List.append_nil] at hspan
    have hvalues : digitValues e.digits ≠ [] := (digitValues_eq_nil hdigits).not.mpr e.digits_ne_nil
    show readExponent? (e.mark :: (e.sign.text ++ e.digits)) = _
    rw [readExponent?, if_pos hmark, spanSign_append e.sign hsign]
    dsimp only
    rw [hspan, Option.map_some, WrittenExponent.value]
    cases hd : digitValues e.digits with
    | nil => exact absurd hd hvalues
    | cons d ds => rfl

theorem exists_readExponent {cs : List Char} {x : Option Int} (h : readExponent? cs = some x) :
    ∃ e : Option WrittenExponent, cs = exponentText e ∧ x = e.map WrittenExponent.value := by
  unfold readExponent? at h
  split at h
  · cases h
    exact ⟨none, rfl, rfl⟩
  · next c cs =>
    split_ifs at h with hmark
    obtain ⟨sign, hcs, hnegative⟩ := exists_spanSign cs
    obtain ⟨ds, hds, hrest, hvalues⟩ := exists_spanDigits (spanSign cs).2
    dsimp only at h
    split at h
    · cases h
    · next values hne heq =>
      cases h
      rw [heq] at hrest hvalues
      obtain rfl : values = digitValues ds := hvalues
      rw [hrest, List.append_nil] at hcs
      rw [hnegative]
      exact ⟨some ⟨c, sign, ds, by simpa using hmark, hds, fun hnil => hne (by rw [hnil]; rfl)⟩,
        congrArg (c :: ·) hcs, rfl⟩
    · cases h

/-! ## The reader -/

namespace Spelling

/-- The characters behind the sign do not begin with another one. -/
theorem spanSign_unsigned (w : Spelling) :
    spanSign (w.whole ++ (pointText w.fraction ++ exponentText w.exponent)) =
      (false, w.whole ++ (pointText w.fraction ++ exponentText w.exponent)) := by
  cases hwhole : w.whole with
  | cons c rest =>
    have hdigits := w.allDigits_whole
    rw [hwhole] at hdigits
    exact spanSign_of_isDigit (allDigits_cons.mp hdigits).1 _
  | nil =>
    cases hfraction : w.fraction with
    | some ds => exact spanSign_cons (by decide) (by decide) _
    | none =>
      refine absurd ?_ w.digits_ne_nil
      rw [hwhole, hfraction]
      rfl

theorem read?_text (w : Spelling) : read? w.text = some w.numeral := by
  have hwhole := spanDigits_append w.allDigits_whole (spanDigits_pointText w.fraction w.exponent)
  have hdigit := Bool.eq_false_iff.mpr
    ((isEmpty_digitValues w.allDigits_whole w.allDigits_fraction).not.mpr w.digits_ne_nil)
  simp only [read?, text, spanSign_append w.sign w.spanSign_unsigned, hwhole,
    spanFraction_append w.allDigits_fraction w.exponent, hdigit,
    readExponent?_exponentText w.exponent]
  rfl

/-! ## Integers -/

theorem isInteger_numeral (w : Spelling) : w.numeral.isInteger = decide w.IsInteger := by
  rw [Bool.eq_iff_iff, decide_eq_true_eq, Numeral.isInteger, numeral]
  simp [IsInteger]

/-- An integer is spelled with a sign or none and digits. -/
theorem text_of_isInteger {w : Spelling} (h : w.IsInteger) : w.text = w.sign.text ++ w.whole := by
  rw [text, h.1, h.2]
  exact congrArg (w.sign.text ++ ·) (List.append_nil w.whole)

theorem whole_ne_nil_of_isInteger {w : Spelling} (h : w.IsInteger) : w.whole ≠ [] := by
  have hne := w.digits_ne_nil
  rw [h.1] at hne
  rwa [Option.getD_none, List.append_nil] at hne

end Spelling

/-- A text is read as a numeral if and only if it is a spelling of the numeral. -/
theorem read?_eq_some_iff {cs : List Char} {n : Numeral} :
    read? cs = some n ↔ ∃ w : Spelling, w.text = cs ∧ w.numeral = n := by
  constructor
  · intro h
    obtain ⟨sign, hcs, hnegative⟩ := exists_spanSign cs
    obtain ⟨ds, hds, hwhole, hvalues⟩ := exists_spanDigits (spanSign cs).2
    obtain ⟨fraction, hfraction, hpoint, hplaces⟩ :=
      exists_spanFraction_eq (spanDigits (spanSign cs).2).2
    simp only [read?, hnegative, hvalues, hplaces] at h
    split_ifs at h with hempty
    obtain ⟨x, hx, rfl⟩ := Option.map_eq_some_iff.mp h
    obtain ⟨e, hexponent, rfl⟩ := exists_readExponent hx
    rw [hexponent] at hpoint
    rw [hpoint] at hwhole
    rw [hwhole] at hcs
    exact ⟨⟨sign, ds, fraction, e, hds, hfraction,
      (isEmpty_digitValues hds hfraction).not.mp hempty⟩, hcs.symm, rfl⟩
  · rintro ⟨w, rfl, rfl⟩
    exact w.read?_text

/-! ## Leading zeros -/

/-- All characters are digits for zero, of any script. -/
def AllZeros (zeros : List Char) : Prop :=
  ∀ c ∈ zeros, Text.digitValue? c = some 0

instance (zeros : List Char) : Decidable (AllZeros zeros) :=
  List.decidableBAll _ zeros

theorem AllZeros.allDigits {zeros : List Char} (h : AllZeros zeros) : AllDigits zeros :=
  fun c hc => Option.isSome_of_eq_some (h c hc)

theorem ofDigits_zeros_append {zeros : List Char} (h : AllZeros zeros) (ds : List Nat) :
    Text.ofDigits (digitValues zeros ++ ds) = Text.ofDigits ds := by
  induction zeros with
  | nil => rfl
  | cons c zeros ih =>
    obtain ⟨hc, hzeros⟩ := List.forall_mem_cons.mp h
    rw [digitValues, List.filterMap_cons_some hc]
    exact ih hzeros

/-- A spelling with zeros in front of its digits. -/
def Spelling.withZeros (w : Spelling) {zeros : List Char} (h : AllZeros zeros) : Spelling where
  sign := w.sign
  whole := zeros ++ w.whole
  fraction := w.fraction
  exponent := w.exponent
  allDigits_whole := h.allDigits.append w.allDigits_whole
  allDigits_fraction := w.allDigits_fraction
  digits_ne_nil := by
    rw [List.append_assoc]
    exact List.append_ne_nil_of_right_ne_nil zeros w.digits_ne_nil

namespace Spelling

variable (w : Spelling) {zeros : List Char} (h : AllZeros zeros)

theorem integer_withZeros : (w.withZeros h).integer = w.integer := by
  rw [integer, integer, withZeros, digitValues_append, ofDigits_zeros_append h]

theorem toBinary64_withZeros : (w.withZeros h).numeral.toBinary64 = w.numeral.toBinary64 := by
  have hcoefficient : (w.withZeros h).numeral.coefficient = w.numeral.coefficient := by
    simp only [coefficient, numeral, withZeros, digitValues_append, List.append_assoc,
      ofDigits_zeros_append h]
  rw [toBinary64, toBinary64, hcoefficient]
  rfl

end Spelling

end Clickstream.Numeral
