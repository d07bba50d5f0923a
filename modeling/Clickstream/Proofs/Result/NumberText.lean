import Clickstream.Proofs.Number.Spelling
import Clickstream.Proofs.Outcome
import Clickstream.Result.Number

/-!
# Numbers in result texts

A result text is a number if it is a spelled numeral with white space around it (`NumberText`), and
it is read as the integer or the double of the numeral.  The readers of integers and doubles are
stricter than that: they do not take separators for white space, and integers may not have too many
digits.  Such a text is neither a number nor none, it fails to be read (`parseNumber_text`).
-/

namespace Clickstream

open Numeral (Spelling Sign AllDigits digitValues)
open Text (IsBlank isBlank isSpacing isSeparator trimBoth)

/-- A result text that is a number: a numeral with white space around it. -/
structure NumberText where
  before : List Char
  spelling : Spelling
  after : List Char
  isBlank_before : IsBlank before
  isBlank_after : IsBlank after

namespace NumberText

def text (t : NumberText) : String :=
  String.ofList (t.before ++ (t.spelling.text ++ t.after))

/-- The number of the text: an integer if there is neither a point nor an exponent, and the nearest
double otherwise. -/
def value (t : NumberText) : Value :=
  if t.spelling.IsInteger then .int t.spelling.integer else .real t.spelling.numeral.toBinary64

theorem value_ne_text (t : NumberText) (s : String) : t.value ≠ .text s := by
  rw [value]
  split_ifs <;> nofun

/-- What keeps the number from being read, if anything does.  The digits of an integer are counted
before the characters behind them are looked at. -/
def fault? (t : NumberText) : Option Fault :=
  if t.spelling.IsInteger then
    if t.before.any isSeparator then some (.integerText (Text.quoted t.text))
    else if maxIntegerDigits < t.spelling.whole.length then
      some (.integerDigits t.spelling.whole.length)
    else if t.after.any isSeparator then some (.integerText (Text.quoted t.text))
    else none
  else if t.before.any isSeparator || t.after.any isSeparator then
    some (.doubleText (Text.quoted t.text))
  else none

end NumberText

/-! ## Integers -/

/-- The characters that an integer is cut off behind. -/
def isRun (c : Char) : Bool :=
  Text.isDigit c || c == '_'

theorem dropUnderscores?_eq {cs : List Char} (h : ∀ c ∈ cs, c ≠ '_') (afterDigit : Bool) :
    dropUnderscores? afterDigit cs = some cs := by
  induction cs generalizing afterDigit with
  | nil => rw [dropUnderscores?]
  | cons c cs ih =>
    obtain ⟨hc, hcs⟩ := List.forall_mem_cons.mp h
    rw [dropUnderscores?, ih hcs, Option.map_some]
    · rintro _ _ rfl
      exact absurd rfl hc
    · rintro rfl
      exact absurd rfl hc

theorem ne_of_isBlank {c d : Char} (hc : isBlank c = true) (hd : isBlank d = false) : c ≠ d := by
  rintro rfl
  rw [hc] at hd
  cases hd

theorem isRun_of_isBlank {c : Char} (h : isBlank c = true) : isRun c = false := by
  rw [isRun, Bool.or_eq_false_iff, beq_eq_false_iff_ne]
  refine ⟨Bool.eq_false_iff.mpr fun hdigit => ?_, ne_of_isBlank h (by decide)⟩
  rw [Text.isBlank_of_isDigit hdigit] at h
  cases h

/-- White space in front of a numeral that is not removed is no digit. -/
theorem readInteger_of_blank {cs rest : List Char} {c : Char}
    (htrim : trimBoth isSpacing cs = c :: rest) (hc : isBlank c = true) :
    readInteger cs = .error .malformed := by
  have hsign := Numeral.spanSign_cons (ne_of_isBlank hc (by decide : isBlank '+' = false))
    (ne_of_isBlank hc (by decide : isBlank '-' = false)) rest
  have hrun : (c :: rest).takeWhile (fun c => Text.isDigit c || c == '_') = [] := by
    show (c :: rest).takeWhile isRun = []
    exact List.takeWhile_cons_of_neg (by rw [isRun_of_isBlank hc]; exact Bool.false_ne_true)
  simp only [readInteger, htrim, hsign, hrun]
  rfl

/-- The integer of some digits is read, unless they are too many or white space follows that is not
removed. -/
theorem readInteger_of_digits {cs ds rest : List Char} {sign : Sign}
    (htrim : trimBoth isSpacing cs = sign.text ++ (ds ++ rest)) (hds : AllDigits ds)
    (hne : ds ≠ []) (hrest : IsBlank rest) :
    readInteger cs =
      if maxIntegerDigits < ds.length then .error (.tooLong ds.length)
      else if rest = [] then
        .ok (if sign.isNegative then -(Text.ofDigits (digitValues ds) : Int)
          else Text.ofDigits (digitValues ds))
      else .error .malformed := by
  have hsign : Numeral.spanSign (ds ++ rest) = (false, ds ++ rest) := by
    obtain ⟨c, tail, rfl⟩ := List.exists_cons_of_ne_nil hne
    exact Numeral.spanSign_of_isDigit (hds c List.mem_cons_self) _
  have hrun : (ds ++ rest).takeWhile (fun c => Text.isDigit c || c == '_') = ds := by
    show (ds ++ rest).takeWhile isRun = ds
    have hall : ∀ c ∈ ds, isRun c = true := fun c hc => by rw [isRun, hds c hc, Bool.true_or]
    rw [List.takeWhile_append_of_pos hall]
    cases rest with
    | nil => exact List.append_nil ds
    | cons c rest =>
      have hstop : ¬ isRun c = true := by
        rw [isRun_of_isBlank (hrest c List.mem_cons_self)]
        exact Bool.false_ne_true
      rw [List.takeWhile_cons_of_neg hstop, List.append_nil]
  have hplain := dropUnderscores?_eq
    (fun c hc => Numeral.ne_of_isDigit (hds c hc) (by decide : Text.isDigit '_' = false)) false
  have hlength : (ds.isEmpty || decide (ds.length < (ds ++ rest).length)) = true ↔ rest ≠ [] := by
    rw [List.isEmpty_eq_false_iff.mpr hne, Bool.false_or, decide_eq_true_eq, List.length_append,
      ← List.length_pos_iff]
    omega
  simp only [readInteger, htrim, Numeral.spanSign_append sign hsign, hrun, hplain, hlength]
  split_ifs <;> first | rfl | contradiction

/-! ## Doubles -/

theorem asciiLower_of_isBlank {c : Char} (h : isBlank c = true) : asciiLower c = c := by
  unfold asciiLower
  split_ifs with hletter
  · rw [Bool.and_eq_true, decide_eq_true_eq, decide_eq_true_eq] at hletter
    obtain ⟨range, hmem, hrange⟩ := List.any_eq_true.mp h
    rw [Bool.and_eq_true, decide_eq_true_eq, decide_eq_true_eq] at hrange
    have hfar : ∀ range ∈ Text.blankRanges, range.2 < 65 ∨ 90 < range.1 := by decide
    have := hfar range hmem
    omega
  · rfl

/-- There is no white space in the names of infinity and NaN. -/
theorem readNamedBinary64?_of_blank {cs : List Char} {c : Char} (hc : c ∈ cs)
    (hblank : isBlank c = true) : readNamedBinary64? cs = none := by
  obtain ⟨sign, hcs, -⟩ := Numeral.exists_spanSign cs
  have hmem : c ∈ ((Numeral.spanSign cs).2.map asciiLower) := by
    rw [hcs] at hc
    rcases List.mem_append.mp hc with hsign | hname
    · have hnone : sign.text.any isBlank = false := by
        cases sign <;> rfl
      exact absurd hblank (List.any_eq_false.mp hnone c hsign)
    · exact List.mem_map.mpr ⟨c, hname, asciiLower_of_isBlank hblank⟩
  have hne : ∀ name : String, name.toList.any isBlank = false →
      String.ofList ((Numeral.spanSign cs).2.map asciiLower) ≠ name := by
    rintro _ hname rfl
    rw [String.toList_ofList] at hname
    exact List.any_eq_false.mp hname c hmem hblank
  unfold readNamedBinary64?
  dsimp only
  split
  · next heq => exact absurd heq (hne "inf" rfl)
  · next heq => exact absurd heq (hne "infinity" rfl)
  · next heq => exact absurd heq (hne "nan" rfl)
  · rfl

/-- The double of a numeral is read, unless there is white space around it that is not removed. -/
theorem readBinary64?_of_spelling {cs before after : List Char} {w : Spelling}
    (htrim : trimBoth isSpacing cs = before ++ (w.text ++ after)) (hbefore : IsBlank before)
    (hafter : IsBlank after) :
    readBinary64? cs =
      if before = [] ∧ after = [] then some w.numeral.toBinary64 else none := by
  have hblank : ∀ c ∈ before ++ after, isBlank c = true :=
    List.forall_mem_append.mpr ⟨hbefore, hafter⟩
  have hunderscore : ∀ c ∈ before ++ (w.text ++ after), c ≠ '_' :=
    List.forall_mem_append.mpr ⟨fun c hc => ne_of_isBlank (hbefore c hc) (by decide),
      List.forall_mem_append.mpr ⟨w.ne_underscore_of_mem_text,
        fun c hc => ne_of_isBlank (hafter c hc) (by decide)⟩⟩
  simp only [readBinary64?, htrim, dropUnderscores?_eq hunderscore]
  split_ifs with hnil
  · obtain ⟨rfl, rfl⟩ := hnil
    rw [List.nil_append, List.append_nil, w.read?_text]
  · obtain ⟨c, hc⟩ : ∃ c, c ∈ before ++ after :=
      List.exists_mem_of_ne_nil _ (List.append_eq_nil_iff.not.mpr hnil)
    have hmem : c ∈ before ++ (w.text ++ after) := by
      rcases List.mem_append.mp hc with hc | hc
      · exact List.mem_append_left _ hc
      · exact List.mem_append_right _ (List.mem_append_right _ hc)
    have hread : Numeral.read? (before ++ (w.text ++ after)) = none := by
      cases h : Numeral.read? (before ++ (w.text ++ after)) with
      | none => rfl
      | some n =>
        obtain ⟨w', htext, -⟩ := Numeral.read?_eq_some_iff.mp h
        rw [← htext] at hmem
        exact absurd (hblank c hc) (by rw [w'.isBlank_of_mem_text c hmem]; exact Bool.false_ne_true)
    rw [hread]
    exact readNamedBinary64?_of_blank hmem (hblank c hc)

/-! ## Result texts -/

/-- A text is a number. -/
def IsNumber (s : String) : Prop :=
  ∃ t : NumberText, t.text = s

namespace NumberText

theorem isNumber_text (t : NumberText) : IsNumber t.text :=
  ⟨t, rfl⟩

theorem toList_text (t : NumberText) :
    t.text.toList = t.before ++ (t.spelling.text ++ t.after) :=
  String.toList_ofList

theorem text_ne_empty (t : NumberText) : t.text ≠ "" := by
  intro hempty
  have hnil := t.toList_text
  rw [hempty] at hnil
  have hrest := (List.append_eq_nil_iff.mp hnil.symm).2
  exact t.spelling.text_ne_nil (List.append_eq_nil_iff.mp hrest).1

theorem trimBoth_isBlank (t : NumberText) : trimBoth isBlank t.text.toList = t.spelling.text := by
  rw [toList_text, Text.trimBoth_append t.spelling.text_ne_nil t.spelling.isBlank_of_mem_text,
    List.dropWhile_eq_nil_iff.mpr t.isBlank_before, List.rdropWhile_eq_nil_iff.mpr t.isBlank_after,
    List.nil_append, List.append_nil]

theorem trimBoth_isSpacing (t : NumberText) : trimBoth isSpacing t.text.toList =
    t.before.dropWhile isSpacing ++ (t.spelling.text ++ t.after.rdropWhile isSpacing) := by
  rw [toList_text, Text.trimBoth_append t.spelling.text_ne_nil fun c hc =>
    Text.isSpacing_eq_false (t.spelling.isBlank_of_mem_text c hc)]

/-- What is read of a numeral with white space around it: its number, or why it is none. -/
def outcome (t : NumberText) : Outcome Value :=
  match t.fault? with
  | some fault => raise fault
  | none => .ok t.value

theorem isBlank_leading (t : NumberText) : IsBlank (t.before.dropWhile isSpacing) :=
  t.isBlank_before.mono (List.dropWhile_sublist isSpacing).subset

theorem isBlank_trailing (t : NumberText) : IsBlank (t.after.rdropWhile isSpacing) :=
  t.isBlank_after.mono (List.rdropWhile_prefix isSpacing _).subset

theorem outcome_eq_ok {t : NumberText} {v : Value} :
    t.outcome = .ok v ↔ t.fault? = none ∧ t.value = v := by
  rw [outcome]
  cases t.fault? with
  | none => exact ⟨fun h => ⟨rfl, Except.ok.inj h⟩, fun h => congrArg Except.ok h.2⟩
  | some f => exact iff_of_false nofun nofun

theorem outcome_eq_error {t : NumberText} {e : Failure} :
    t.outcome = .error e ↔ ∃ f, t.fault? = some f ∧ e = .fault f := by
  rw [outcome]
  cases t.fault? with
  | none => exact iff_of_false nofun nofun
  | some f =>
    constructor
    · rintro ⟨⟩
      exact ⟨f, rfl, rfl⟩
    · rintro ⟨_, ⟨⟩, rfl⟩
      rfl

/-- Numbers with one text are one number. -/
theorem value_congr {t t' : NumberText} (h : t.text = t'.text) : t.value = t'.value := by
  have hnumeral : t.spelling.numeral = t'.spelling.numeral := by
    have hread := t.spelling.read?_text
    rw [← t.trimBoth_isBlank, h, t'.trimBoth_isBlank, t'.spelling.read?_text] at hread
    exact (Option.some.inj hread).symm
  have hinteger : t.spelling.integer = t'.spelling.integer := by
    show (if t.spelling.numeral.negative then -(Text.ofDigits t.spelling.numeral.whole : Int)
      else Text.ofDigits t.spelling.numeral.whole) = _
    rw [hnumeral]
    rfl
  have hkind : t.spelling.IsInteger ↔ t'.spelling.IsInteger := by
    rw [← decide_eq_decide, ← t.spelling.isInteger_numeral, hnumeral,
      t'.spelling.isInteger_numeral]
  simp only [value, hinteger, hnumeral, hkind]

theorem readIntegerText_text {t : NumberText} (h : t.spelling.IsInteger) :
    readIntegerText t.text = t.outcome := by
  have htrim := t.trimBoth_isSpacing
  rw [readIntegerText, Value.integerOfChars, outcome, fault?, value, if_pos h, if_pos h]
  cases hbefore : t.before.any isSeparator with
  | true =>
    -- The first separator is left, and the sign or the first digit is looked for there.
    have hne : t.before.dropWhile isSpacing ≠ [] := by
      rw [Ne, Text.dropWhile_isSpacing_eq_nil t.isBlank_before, hbefore]
      exact Ne.symm Bool.false_ne_true
    obtain ⟨c, rest, hcons⟩ := List.exists_cons_of_ne_nil hne
    have hblank := t.isBlank_leading
    rw [hcons] at htrim hblank
    rw [readInteger_of_blank htrim (hblank c List.mem_cons_self)]
    rfl
  | false =>
    rw [(Text.dropWhile_isSpacing_eq_nil t.isBlank_before).mpr hbefore, List.nil_append,
      Spelling.text_of_isInteger h, List.append_assoc] at htrim
    -- What is left behind the digits counts only once they are not too many.
    simp only [readInteger_of_digits htrim t.spelling.allDigits_whole
      (Spelling.whole_ne_nil_of_isInteger h) t.isBlank_trailing,
      Text.rdropWhile_isSpacing_eq_nil t.isBlank_after]
    by_cases hlong : maxIntegerDigits < t.spelling.whole.length
    · simp only [if_pos hlong]
      rfl
    · simp only [if_neg hlong]
      cases t.after.any isSeparator <;> rfl

theorem readDoubleText_text {t : NumberText} (h : ¬ t.spelling.IsInteger) :
    readDoubleText t.text = t.outcome := by
  have hread := readBinary64?_of_spelling t.trimBoth_isSpacing t.isBlank_leading t.isBlank_trailing
  simp only [Text.dropWhile_isSpacing_eq_nil t.isBlank_before,
    Text.rdropWhile_isSpacing_eq_nil t.isBlank_after, ← Bool.or_eq_false_iff] at hread
  rw [readDoubleText, hread, outcome, fault?, value, if_neg h, if_neg h]
  cases t.before.any isSeparator || t.after.any isSeparator <;> rfl

end NumberText

/-- A numeral with white space around it is read as its number, unless something keeps it from being
read. -/
theorem parseNumber_text (t : NumberText) : parseNumber t.text = t.outcome.map some := by
  rw [parseNumber, t.trimBoth_isBlank, t.spelling.read?_text]
  dsimp only
  rw [t.spelling.isInteger_numeral]
  by_cases h : t.spelling.IsInteger
  · rw [if_pos (decide_eq_true h), NumberText.readIntegerText_text h]
  · rw [if_neg (by simpa using h), NumberText.readDoubleText_text h]

/-- A text is a number if and only if a numeral is left of it once the white space is removed. -/
theorem isNumber_iff {s : String} :
    IsNumber s ↔ (Numeral.read? (trimBoth isBlank s.toList)).isSome = true := by
  constructor
  · rintro ⟨t, rfl⟩
    rw [t.trimBoth_isBlank, t.spelling.read?_text, Option.isSome_some]
  · intro h
    obtain ⟨n, hread⟩ := Option.isSome_iff_exists.mp h
    obtain ⟨w, htext, -⟩ := Numeral.read?_eq_some_iff.mp hread
    obtain ⟨before, after, hbefore, hafter, hs⟩ := Text.exists_trimBoth isBlank s.toList
    refine ⟨⟨before, w, after, hbefore, hafter⟩, ?_⟩
    rw [NumberText.text, htext, ← hs, String.ofList_toList]

instance (s : String) : Decidable (IsNumber s) :=
  decidable_of_iff _ isNumber_iff.symm

/-- Any other text is no number. -/
theorem parseNumber_of_not_isNumber {s : String} (h : ¬ IsNumber s) : parseNumber s = .ok none := by
  rw [isNumber_iff, Option.not_isSome_iff_eq_none] at h
  rw [parseNumber, h]

/-! ## The three results -/

namespace NumberText

/-- The number of the text is not read: there is a separator around it, or it is an integer with too
many digits. -/
def IsUnreadable (t : NumberText) : Prop :=
  (∃ c ∈ t.before ++ t.after, isSeparator c = true) ∨
    t.spelling.IsInteger ∧ maxIntegerDigits < t.spelling.whole.length

theorem fault?_eq_none {t : NumberText} : t.fault? = none ↔ ¬ t.IsUnreadable := by
  have hany : (∃ c ∈ t.before ++ t.after, isSeparator c = true) ↔
      (t.before.any isSeparator || t.after.any isSeparator) = true := by
    rw [← List.any_append, List.any_eq_true]
  rw [IsUnreadable, hany, fault?]
  by_cases hinteger : t.spelling.IsInteger
  · cases t.before.any isSeparator <;> cases t.after.any isSeparator <;>
      by_cases hlong : maxIntegerDigits < t.spelling.whole.length <;> simp [hinteger, hlong]
  · cases t.before.any isSeparator <;> cases t.after.any isSeparator <;> simp [hinteger]

theorem exists_fault_iff (t : NumberText) : (∃ f, t.fault? = some f) ↔ t.IsUnreadable := by
  rw [← not_iff_not, ← fault?_eq_none, ← Option.isSome_iff_exists, Option.not_isSome_iff_eq_none]

theorem value_eq_int {t : NumberText} {n : Int} :
    t.value = .int n ↔ t.spelling.IsInteger ∧ t.spelling.integer = n := by
  rw [value]
  split_ifs with h <;> simp [h]

theorem value_eq_real {t : NumberText} {x : Binary64} :
    t.value = .real x ↔ ¬ t.spelling.IsInteger ∧ t.spelling.numeral.toBinary64 = x := by
  rw [value]
  split_ifs with h <;> simp [h]

end NumberText

theorem parseNumber_eq_none {s : String} : parseNumber s = .ok none ↔ ¬ IsNumber s := by
  constructor
  · rintro h ⟨t, rfl⟩
    rw [parseNumber_text] at h
    obtain ⟨v, -, hnone⟩ := Outcome.map_eq_ok.mp h
    cases hnone
  · exact parseNumber_of_not_isNumber

theorem parseNumber_eq_some {s : String} {v : Value} : parseNumber s = .ok (some v) ↔
    ∃ t : NumberText, t.text = s ∧ ¬ t.IsUnreadable ∧ t.value = v := by
  simp only [← NumberText.fault?_eq_none, ← NumberText.outcome_eq_ok]
  constructor
  · intro h
    by_cases hs : IsNumber s
    · obtain ⟨t, rfl⟩ := hs
      rw [parseNumber_text] at h
      obtain ⟨_, houtcome, hsome⟩ := Outcome.map_eq_ok.mp h
      cases hsome
      exact ⟨t, rfl, houtcome⟩
    · rw [parseNumber_of_not_isNumber hs] at h
      cases h
  · rintro ⟨t, rfl, houtcome⟩
    rw [parseNumber_text, houtcome]
    rfl

end Clickstream
