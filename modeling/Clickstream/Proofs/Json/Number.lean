import Mathlib.Algebra.Order.Field.Basic
import Clickstream.Json.Reader
import Clickstream.Json.Writer
import Clickstream.Proofs.Number.Shortest
import Clickstream.Proofs.Text.Ascii

/-!
# Numbers in JSON

Numbers are read back from their text, if it ends at a comma, at a closing mark or with the whole
text (`EndsValue`).  An integer is written with its digits (`readAtom_int`).  A double is written
with its shortest digits, in one of three notations: below one, around the point, and with an
exponent (`exists_notation`).  Each of them reads as a decimal of the same value, which rounds to
the double (`readAtom_real`).
-/

namespace Clickstream.Json

/-! ## Digits -/

/-- All characters are decimal digits. -/
def IsDigits (ds : List Char) : Prop :=
  ∀ c ∈ ds, Text.isAsciiDigit c = true

theorem IsDigits.append {ds es : List Char} (hds : IsDigits ds) (hes : IsDigits es) :
    IsDigits (ds ++ es) :=
  List.forall_mem_append.mpr ⟨hds, hes⟩

theorem IsDigits.isPlain {ds : List Char} (h : IsDigits ds) : Text.IsPlain ds := by
  intro c hc
  have hdigit := h c hc
  simp only [Text.isAsciiDigit, Bool.and_eq_true, decide_eq_true_eq] at hdigit
  rw [Text.isPlainByte_iff]
  omega

theorem isDigits_zeros (n : Nat) : IsDigits (List.replicate n '0') := by
  intro c hc
  rw [List.eq_of_mem_replicate hc]
  rfl

theorem isDigits_toDigits (n : Nat) : IsDigits (Nat.toDigits 10 n) := by
  intro c hc
  have hdigit := Nat.isDigit_of_mem_toDigits (by decide) (by decide) hc
  obtain ⟨hlow, hhigh⟩ := Char.isDigit_iff_toNat.mp hdigit
  exact Bool.and_eq_true_iff.mpr ⟨decide_eq_true hlow, decide_eq_true hhigh⟩

theorem ofDigits_append (ds es : List Nat) :
    Text.ofDigits (ds ++ es) = Text.ofDigits ds * 10 ^ es.length + Text.ofDigits es := by
  have hfold : ∀ (es : List Nat) (n : Nat), es.foldl (fun n d => 10 * n + d) n =
      n * 10 ^ es.length + Text.ofDigits es := by
    intro es
    induction es with
    | nil => intro n; simp [Text.ofDigits]
    | cons d es ih =>
      intro n
      rw [Text.ofDigits, List.foldl_cons, ih, List.foldl_cons, ih, List.length_cons]
      ring
  rw [Text.ofDigits, List.foldl_append]
  exact hfold es _

@[simp] theorem asciiValue_append (ds es : List Char) :
    asciiValue (ds ++ es) = asciiValue ds * 10 ^ es.length + asciiValue es := by
  simp [asciiValue, ofDigits_append]

@[simp] theorem asciiValue_zeros (n : Nat) : asciiValue (List.replicate n '0') = 0 := by
  induction n with
  | zero => rfl
  | succ n ih => rw [List.replicate_succ', asciiValue_append, ih]; rfl

@[simp] theorem asciiValue_toDigits (n : Nat) : asciiValue (Nat.toDigits 10 n) = n := by
  refine Eq.trans ?_ (Nat.ofDigitChars_toDigits (by decide) (Nat.le_refl 10))
  rw [asciiValue, Text.ofDigits, List.foldl_map]
  rfl

/-- Digits of a number do not begin with a zero. -/
def LeadsNonzero (ds : List Char) : Prop :=
  ∃ c rest, ds = c :: rest ∧ c ≠ '0'

theorem digitChar_ne_zero : ∀ d < 10, 0 < d → Nat.digitChar d ≠ '0' := by decide

theorem leadsNonzero_toDigits {n : Nat} (hn : 0 < n) : LeadsNonzero (Nat.toDigits 10 n) := by
  induction n using Nat.strong_induction_on with
  | _ n ih =>
    by_cases hlt : n < 10
    · rw [Nat.toDigits_of_lt_base hlt]
      exact ⟨_, _, rfl, digitChar_ne_zero n hlt hn⟩
    · obtain ⟨c, rest, hdigits, hc⟩ := ih (n / 10) (by omega) (by omega)
      rw [Nat.toDigits_of_base_le (by decide) (by omega), hdigits]
      exact ⟨c, _, rfl, hc⟩

/-! ## Parts of a number -/

/-- What may follow a value: nothing, a comma or a closing mark. -/
def EndsValue (rest : List Char) : Prop :=
  ∀ c tail, rest = c :: tail → c = ',' ∨ c = ']' ∨ c = '\x7d'

theorem endsValue_nil : EndsValue [] := nofun

theorem endsValue_comma (rest : List Char) : EndsValue (',' :: rest) := by
  rintro c tail ⟨⟩
  exact .inl rfl

theorem endsValue_bracket (rest : List Char) : EndsValue (']' :: rest) := by
  rintro c tail ⟨⟩
  exact .inr (.inl rfl)

theorem endsValue_brace (rest : List Char) : EndsValue ('\x7d' :: rest) := by
  rintro c tail ⟨⟩
  exact .inr (.inr rfl)

/-- The characters do not begin with a digit. -/
def EndsDigits (rest : List Char) : Prop :=
  ∀ c tail, rest = c :: tail → Text.isAsciiDigit c = false

theorem EndsValue.endsDigits {rest : List Char} (h : EndsValue rest) : EndsDigits rest := by
  intro c tail hrest
  rcases h c tail hrest with rfl | rfl | rfl <;> rfl

theorem spanAsciiDigits_append {ds rest : List Char} (hds : IsDigits ds) (hrest : EndsDigits rest) :
    spanAsciiDigits (ds ++ rest) = (ds, rest) := by
  rw [spanAsciiDigits, List.span_eq_takeWhile_dropWhile, List.takeWhile_append_of_pos hds,
    List.dropWhile_append_of_pos hds]
  cases rest with
  | nil => simp
  | cons c tail => simp [hrest c tail rfl]

/-- The digits before the point: a zero, or digits that do not begin with zero. -/
def IsWhole (ds : List Char) : Prop :=
  IsDigits ds ∧ (ds = ['0'] ∨ LeadsNonzero ds)

theorem isWhole_toDigits (n : Nat) : IsWhole (Nat.toDigits 10 n) := by
  refine ⟨isDigits_toDigits n, ?_⟩
  rcases Nat.eq_zero_or_pos n with rfl | hn
  · exact .inl rfl
  · exact .inr (leadsNonzero_toDigits hn)

theorem readWhole?_append {ds rest : List Char} (hds : IsWhole ds) (hrest : EndsDigits rest) :
    readWhole? (ds ++ rest) = some (ds, rest) := by
  obtain ⟨hdigits, rfl | ⟨c, tail, rfl, hc⟩⟩ := hds
  · rfl
  · obtain ⟨hdigit, htail⟩ := List.forall_mem_cons.mp hdigits
    rw [List.cons_append, readWhole?.eq_def]
    split
    · next heq => exact absurd (List.cons.inj heq).1 hc
    · next heq =>
      cases heq
      rw [if_pos hdigit, spanAsciiDigits_append htail hrest]
    · next heq => cases heq

/-- The text of the digits after the point, if there are any. -/
def fractionText (fs : List Char) : List Char :=
  if fs.isEmpty then [] else '.' :: fs

theorem readFraction?_append {fs rest : List Char} (hfs : IsDigits fs) (hne : fs ≠ [])
    (hrest : EndsDigits rest) : readFraction? ('.' :: (fs ++ rest)) = some (fs, rest) := by
  rw [readFraction?, spanAsciiDigits_append hfs hrest]
  cases fs with
  | nil => exact absurd rfl hne
  | cons c fs => rfl

theorem readFraction?_of_ne {rest : List Char} (h : ∀ tail, rest ≠ '.' :: tail) :
    readFraction? rest = none := by
  unfold readFraction?
  split
  · next tail => exact absurd rfl (h tail)
  · rfl

/-- The text of an exponent. -/
def exponentText (negative : Bool) (ds : List Char) : List Char :=
  'e' :: (if negative then '-' else '+') :: ds

theorem readExponent?_append (negative : Bool) {ds rest : List Char} (hds : IsDigits ds)
    (hne : ds ≠ []) (hrest : EndsDigits rest) :
    readExponent? (exponentText negative ds ++ rest) =
      some (if negative then -(asciiValue ds : Int) else asciiValue ds, rest) := by
  have hsign : Numeral.spanSign ((if negative then '-' else '+') :: (ds ++ rest)) =
      (negative, ds ++ rest) := by
    cases negative <;> rfl
  rw [exponentText, List.cons_append, List.cons_append, readExponent?, if_pos (by decide), hsign]
  dsimp only
  rw [spanAsciiDigits_append hds hrest]
  cases ds with
  | nil => exact absurd rfl hne
  | cons c ds => rfl

theorem readExponent?_of_endsValue {rest : List Char} (h : EndsValue rest) :
    readExponent? rest = none := by
  cases rest with
  | nil => rfl
  | cons c tail => rcases h c tail rfl with rfl | rfl | rfl <;> rfl

/-! ## Numbers -/

/-- A number without a fraction and an exponent is an integer. -/
theorem readNumber_integer (negative : Bool) {ds rest : List Char} (hds : IsWhole ds)
    (hlength : ds.length ≤ maxIntegerDigits) (hrest : EndsValue rest) :
    readNumber negative (ds ++ rest) =
      .ok (.int (if negative then -(asciiValue ds : Int) else asciiValue ds), rest) := by
  have hfraction : readFraction? rest = none := by
    refine readFraction?_of_ne fun tail heq => ?_
    rcases hrest _ _ heq with h | h | h <;> cases h
  rw [readNumber, readWhole?_append hds hrest.endsDigits]
  simp only [hfraction, readExponent?_of_endsValue hrest]
  rw [if_neg (by omega)]

/-- The exponent of a number, if one is written. -/
inductive ReadsExponent : List Char → Int → Prop
  | absent : ReadsExponent [] 0
  | written (negative : Bool) {ds : List Char} (hds : IsDigits ds) (hne : ds ≠ []) :
    ReadsExponent (exponentText negative ds)
      (if negative then -(asciiValue ds : Int) else asciiValue ds)

theorem endsDigits_exponent {text rest : List Char} {x : Int} (h : ReadsExponent text x)
    (hrest : EndsValue rest) : EndsDigits (text ++ rest) := by
  cases h with
  | absent => exact hrest.endsDigits
  | written negative _ _ =>
    rintro c tail ⟨⟩
    rfl

/-- A number with a fraction or an exponent is a double. -/
theorem readNumber_decimal (negative : Bool) {ds fs text rest : List Char} {x : Int}
    (hds : IsWhole ds) (hfs : IsDigits fs) (htext : ReadsExponent text x)
    (hwritten : fs ≠ [] ∨ text ≠ []) (hrest : EndsValue rest) :
    readNumber negative (ds ++ (fractionText fs ++ (text ++ rest))) =
      .ok (.real (.ofDecimal negative (asciiValue (ds ++ fs)) (x - fs.length)), rest) := by
  have hends := endsDigits_exponent htext hrest
  rw [readNumber]
  by_cases hne : fs = []
  · subst hne
    rw [fractionText, if_pos List.isEmpty_nil, List.nil_append, readWhole?_append hds hends]
    cases htext with
    | absent => simp at hwritten
    | @written exponentNegative es hes hes' =>
      have hfraction : readFraction? (exponentText exponentNegative es ++ rest) = none :=
        readFraction?_of_ne nofun
      simp only [hfraction, readExponent?_append _ hes hes' hrest.endsDigits]
      simp
  · have hpoint : EndsDigits ('.' :: (fs ++ (text ++ rest))) := by
      rintro c tail ⟨⟩
      rfl
    rw [fractionText, if_neg (by simpa using hne), List.cons_append, readWhole?_append hds hpoint]
    simp only [readFraction?_append hfs hne hends]
    cases htext with
    | absent => simp [readExponent?_of_endsValue hrest]
    | written exponentNegative hes hes' =>
      simp [readExponent?_append _ hes hes' hrest.endsDigits]

/-! ## Notations -/

/-- Removed zeros can be put back. -/
theorem exists_dropTrailingZeros (ds : List Char) :
    ∃ n, ds = Binary64.dropTrailingZeros ds ++ List.replicate n '0' := by
  refine ⟨(ds.reverse.takeWhile (· == '0')).length, ?_⟩
  have hzeros : ds.reverse.takeWhile (· == '0') =
      List.replicate (ds.reverse.takeWhile (· == '0')).length '0' := by
    refine List.eq_replicate_iff.mpr ⟨rfl, fun c hc => ?_⟩
    simpa using List.all_eq_true.mp List.all_takeWhile c hc
  rw [Binary64.dropTrailingZeros, ← List.reverse_replicate, ← hzeros, ← List.reverse_append,
    List.takeWhile_append_dropWhile, List.reverse_reverse]

/-- The digits of a positive number without the zeros at the end. -/
theorem exists_significant {n : Nat} (hn : 0 < n) :
    ∃ zeros, IsDigits (Binary64.dropTrailingZeros (Nat.toDigits 10 n)) ∧
      LeadsNonzero (Binary64.dropTrailingZeros (Nat.toDigits 10 n)) ∧
      (Nat.toDigits 10 n).length =
        (Binary64.dropTrailingZeros (Nat.toDigits 10 n)).length + zeros ∧
      n = asciiValue (Binary64.dropTrailingZeros (Nat.toDigits 10 n)) * 10 ^ zeros := by
  obtain ⟨zeros, hzeros⟩ := exists_dropTrailingZeros (Nat.toDigits 10 n)
  have hall := isDigits_toDigits n
  have hvalue := asciiValue_toDigits n
  obtain ⟨c, rest, hlead, hc⟩ := leadsNonzero_toDigits hn
  generalize Nat.toDigits 10 n = digits at *
  generalize Binary64.dropTrailingZeros digits = ds at *
  subst hzeros
  refine ⟨zeros, (List.forall_mem_append.mp hall).1, ?_, by simp, by simpa using hvalue.symm⟩
  cases ds with
  | nil =>
    have hmem : c ∈ List.replicate zeros '0' := by
      rw [← List.nil_append (List.replicate _ _), hlead]
      exact List.mem_cons_self
    exact absurd (List.eq_of_mem_replicate hmem) hc
  | cons d ds =>
    cases hlead
    exact ⟨c, ds, rfl, hc⟩

/-- A text is a decimal number in some notation. -/
def IsNotation (text : List Char) (x : ℚ) : Prop :=
  ∃ ds fs exponentText x', IsWhole ds ∧ IsDigits fs ∧ ReadsExponent exponentText x' ∧
    (fs ≠ [] ∨ exponentText ≠ []) ∧ text = ds ++ (fractionText fs ++ exponentText) ∧
    (asciiValue (ds ++ fs) : ℚ) * 10 ^ (x' - fs.length) = x

section

variable {ds : List Char}

theorem LeadsNonzero.append (h : LeadsNonzero ds) (es : List Char) : LeadsNonzero (ds ++ es) := by
  obtain ⟨c, rest, rfl, hc⟩ := h
  exact ⟨c, rest ++ es, rfl, hc⟩

theorem LeadsNonzero.take (h : LeadsNonzero ds) {n : Nat} (hn : 0 < n) :
    LeadsNonzero (ds.take n) := by
  obtain ⟨c, rest, rfl, hc⟩ := h
  obtain ⟨n, rfl⟩ := Nat.exists_eq_succ_of_ne_zero hn.ne'
  exact ⟨c, rest.take n, rfl, hc⟩

/-- A number below one is written with zeros before its digits. -/
theorem isNotation_small (hds : IsDigits ds) (hlead : LeadsNonzero ds) (zeros : Nat) :
    IsNotation ('0' :: '.' :: (List.replicate zeros '0' ++ ds))
      (asciiValue ds * (10 : ℚ) ^ (-(zeros : Int) - ds.length)) := by
  refine ⟨['0'], List.replicate zeros '0' ++ ds, [], 0, ⟨isDigits_zeros 1, .inl rfl⟩,
    (isDigits_zeros zeros).append hds, .absent, .inl ?_, ?_, ?_⟩
  · obtain ⟨c, rest, rfl, -⟩ := hlead
    simp
  · obtain ⟨c, rest, rfl, -⟩ := hlead
    simp [fractionText]
  · have hzero : asciiValue ['0'] = 0 := rfl
    simp only [asciiValue_append, hzero, asciiValue_zeros, List.length_append,
      List.length_replicate]
    push_cast
    ring_nf

/-- A whole number is written with zeros behind its digits, and a zero behind the point. -/
theorem isNotation_whole (hds : IsDigits ds) (hlead : LeadsNonzero ds) (zeros : Nat) :
    IsNotation (ds ++ List.replicate zeros '0' ++ ['.', '0'])
      (asciiValue ds * (10 : ℚ) ^ (zeros : Int)) := by
  refine ⟨ds ++ List.replicate zeros '0', ['0'], [], 0,
    ⟨hds.append (isDigits_zeros zeros), .inr (hlead.append _)⟩, isDigits_zeros 1, .absent,
    .inl (List.cons_ne_nil _ _), rfl, ?_⟩
  have hzero : asciiValue ['0'] = 0 := rfl
  simp only [asciiValue_append, hzero, asciiValue_zeros, List.length_replicate, List.length_cons,
    List.length_nil]
  push_cast
  rw [zpow_natCast]
  ring

/-- A number may have the point between its digits. -/
theorem isNotation_between (hds : IsDigits ds) (hlead : LeadsNonzero ds) {point : Nat}
    (hpos : 0 < point) (hlt : point < ds.length) :
    IsNotation (ds.take point ++ '.' :: ds.drop point)
      (asciiValue ds * (10 : ℚ) ^ ((point : Int) - ds.length)) := by
  have hne : ds.drop point ≠ [] := by simpa using hlt
  refine ⟨ds.take point, ds.drop point, [], 0,
    ⟨fun c hc => hds c (List.mem_of_mem_take hc), .inr (hlead.take hpos)⟩,
    fun c hc => hds c (List.mem_of_mem_drop hc), .absent, .inl hne, ?_, ?_⟩
  · simp [fractionText, hne]
  · rw [List.take_append_drop, List.length_drop, Nat.cast_sub hlt.le]
    ring_nf

/-- A number may have one digit before the point, and an exponent. -/
theorem isNotation_scientific (hds : IsDigits ds) {c : Char} {rest es : List Char}
    (hlead : ds = c :: rest) (hc : c ≠ '0') (negative : Bool) (hes : IsDigits es) (hne : es ≠ []) :
    IsNotation ([c] ++ (fractionText rest ++ exponentText negative es))
      (asciiValue ds * (10 : ℚ) ^
        ((if negative then -(asciiValue es : Int) else asciiValue es) + 1 - ds.length)) := by
  subst hlead
  obtain ⟨hdigit, hrest⟩ := List.forall_mem_cons.mp hds
  refine ⟨[c], rest, exponentText negative es, _,
    ⟨List.forall_mem_singleton.mpr hdigit, .inr ⟨c, [], rfl, hc⟩⟩, hrest, .written negative hes hne,
    .inr (List.cons_ne_nil _ _), rfl, ?_⟩
  rw [List.singleton_append, List.length_cons]
  push_cast
  ring_nf

end

/-- The digits of an exponent, at least two of them. -/
theorem exists_exponentDigits (n : Nat) : ∃ es, IsDigits es ∧ es ≠ [] ∧ asciiValue es = n ∧
    (if (toString n).length < 2 then "0" ++ toString n else toString n).toList = es := by
  have hdigits : (toString n).toList = Nat.toDigits 10 n := by
    simp [Nat.toString_eq_repr, Nat.repr_eq_ofList_toDigits]
  split_ifs
  · refine ⟨'0' :: Nat.toDigits 10 n, (isDigits_zeros 1).append (isDigits_toDigits n),
      List.cons_ne_nil _ _, ?_, ?_⟩
    · exact (asciiValue_append ['0'] (Nat.toDigits 10 n)).trans
        (by rw [asciiValue_toDigits]; simp [asciiValue, Text.ofDigits])
    · simp
  · exact ⟨_, isDigits_toDigits n, Nat.toDigits_ne_nil, asciiValue_toDigits n, hdigits⟩

/-- The written digits are a number, wherever the point is. -/
theorem isNotation_writeDigits {ds : List Char} (hds : IsDigits ds) (hlead : LeadsNonzero ds)
    (point : Int) : IsNotation (Binary64.writeDigits ds point).toList
      (asciiValue ds * (10 : ℚ) ^ (point - ds.length)) := by
  unfold Binary64.writeDigits
  dsimp only
  by_cases hposition : (-4 < point && point ≤ 16) = true
  · rw [if_pos hposition]
    by_cases hsmall : point ≤ 0
    · rw [if_pos hsmall]
      have hpoint : point = -((-point).toNat : Int) := by omega
      have := isNotation_small hds hlead (-point).toNat
      rw [← hpoint] at this
      simpa using this
    · rw [if_neg hsmall]
      obtain ⟨n, rfl⟩ : ∃ n : Nat, point = n := ⟨point.toNat, by omega⟩
      rw [Int.toNat_natCast]
      by_cases hlength : ds.length ≤ n
      · have hzeros : (n : Int) - ds.length = ((n - ds.length : Nat) : Int) := by omega
        rw [List.take_of_length_le hlength, List.drop_eq_nil_of_le hlength, hzeros]
        simpa using isNotation_whole hds hlead (n - ds.length)
      · have hne : ds.drop n ≠ [] := by simpa using hlength
        have hmin : min n ds.length = n := by omega
        simpa [hne, hmin] using isNotation_between hds hlead (by omega) (Nat.lt_of_not_le hlength)
  · rw [if_neg hposition]
    obtain ⟨c, rest, hcons, hc⟩ := hlead
    obtain ⟨es, hes, hne, hvalue, htext⟩ := exists_exponentDigits (point - 1).natAbs
    have hnotation := isNotation_scientific hds hcons hc (decide (point - 1 < 0)) hes hne
    have hexponent : (if decide (point - 1 < 0) = true then -(asciiValue es : Int)
        else asciiValue es) = point - 1 := by
      rw [hvalue]
      split_ifs with hneg
      · have := of_decide_eq_true hneg
        omega
      · have : ¬ point - 1 < 0 := fun h => hneg (decide_eq_true h)
        omega
    rw [hexponent, sub_add_cancel] at hnotation
    have hsign : (if point - 1 < 0 then "-" else "+").toList =
        [if decide (point - 1 < 0) = true then '-' else '+'] := by
      by_cases hneg : point - 1 < 0 <;> simp [hneg]
    rw [String.toList_append, String.toList_append, String.toList_append, htext, hsign]
    subst hcons
    cases rest with
    | nil => simpa [fractionText, exponentText] using hnotation
    | cons d rest => simpa [fractionText, exponentText] using hnotation

theorem isNotation_zero : IsNotation ['0', '.', '0'] 0 :=
  ⟨['0'], ['0'], [], 0, ⟨isDigits_zeros 1, .inl rfl⟩, isDigits_zeros 1, .absent,
    .inl (List.cons_ne_nil _ _), rfl, by simp [asciiValue, Text.ofDigits]⟩

/-! ## Written numbers -/

/-- The sign of a written number. -/
def signText (negative : Bool) : List Char :=
  if negative then ['-'] else []

/-- The characters begin with a digit. -/
def BeginsDigit (cs : List Char) : Prop :=
  ∃ c tail, cs = c :: tail ∧ Text.isAsciiDigit c = true

theorem IsWhole.beginsDigit {ds : List Char} (h : IsWhole ds) (rest : List Char) :
    BeginsDigit (ds ++ rest) := by
  obtain ⟨hdigits, rfl | ⟨c, tail, rfl, -⟩⟩ := h
  · exact ⟨'0', rest, rfl, rfl⟩
  · exact ⟨c, tail ++ rest, rfl, hdigits c List.mem_cons_self⟩

theorem readAtom_signed (negative : Bool) {cs : List Char} (h : BeginsDigit cs) :
    readAtom (signText negative ++ cs) = readNumber negative cs := by
  obtain ⟨c, tail, rfl, hc⟩ := h
  cases negative with
  | false =>
    show readAtom (c :: tail) = _
    rw [readAtom]
    all_goals
      rintro _ ⟨⟩
      exact absurd hc (by decide)
  | true =>
    show readAtom ('-' :: c :: tail) = _
    rw [readAtom]
    all_goals
      rintro _ ⟨⟩
      exact absurd hc (by decide)

theorem IsNotation.beginsDigit {text : List Char} {x : ℚ} (h : IsNotation text x) :
    BeginsDigit text := by
  obtain ⟨ds, fs, es, x', hds, -, -, -, rfl, -⟩ := h
  exact hds.beginsDigit _

theorem IsNotation.isPlain {text : List Char} {x : ℚ} (h : IsNotation text x) :
    Text.IsPlain text := by
  obtain ⟨ds, fs, es, x', hds, hfs, hes, -, rfl, -⟩ := h
  have hfraction : Text.IsPlain (fractionText fs) := by
    unfold fractionText
    split_ifs
    · exact nofun
    · exact List.forall_mem_cons.mpr ⟨by decide, hfs.isPlain⟩
  have hexponent : Text.IsPlain es := by
    cases hes with
    | absent => exact nofun
    | written negative hes _ =>
      refine List.forall_mem_cons.mpr ⟨by decide, List.forall_mem_cons.mpr ⟨?_, hes.isPlain⟩⟩
      cases negative <;> decide
  exact hds.1.isPlain.append (hfraction.append hexponent)

/-! ### Integers -/

theorem toList_toString (n : Int) :
    (toString n).toList = signText (decide (n < 0)) ++ Nat.toDigits 10 n.natAbs := by
  cases n with
  | ofNat n =>
    have hsign : ¬ Int.ofNat n < 0 := Int.not_lt.mpr (Int.natCast_nonneg n)
    rw [decide_eq_false hsign]
    show (toString n).toList = _
    simp [signText, Nat.toString_eq_repr, Nat.repr_eq_ofList_toDigits]
  | negSucc n =>
    show ("-" ++ toString (n + 1)).toList = _
    simp [signText, Nat.toString_eq_repr, Nat.repr_eq_ofList_toDigits, Int.negSucc_lt_zero]

/-- An integer is read back from its digits, if they are not too many. -/
theorem readAtom_int {n : Int} (h : (Nat.toDigits 10 n.natAbs).length ≤ maxIntegerDigits)
    {rest : List Char} (hrest : EndsValue rest) :
    readAtom ((toString n).toList ++ rest) = .ok (.int n, rest) := by
  have hwhole := isWhole_toDigits n.natAbs
  rw [toList_toString, List.append_assoc, readAtom_signed _ (hwhole.beginsDigit rest),
    readNumber_integer _ hwhole h hrest, asciiValue_toDigits]
  have hsign : (if decide (n < 0) = true then -(n.natAbs : Int) else n.natAbs) = n := by
    by_cases hneg : n < 0
    · rw [if_pos (decide_eq_true hneg)]
      omega
    · rw [if_neg (by simpa using hneg)]
      omega
  rw [hsign]

/-! ### Doubles -/

/-- A number in some notation is read as the double of its value. -/
theorem readAtom_notation (negative : Bool) {text rest : List Char} {x : ℚ}
    (h : IsNotation text x) (hrest : EndsValue rest) :
    ∃ c x', readAtom (signText negative ++ (text ++ rest)) =
      .ok (.real (.ofDecimal negative c x'), rest) ∧ (c : ℚ) * 10 ^ x' = x := by
  obtain ⟨ds, fs, es, x', hds, hfs, hes, hwritten, rfl, hvalue⟩ := h
  refine ⟨_, _, ?_, hvalue⟩
  rw [List.append_assoc, List.append_assoc, readAtom_signed _ (hds.beginsDigit _),
    readNumber_decimal negative hds hfs hes hwritten hrest]

theorem toList_signed (negative : Bool) (body : String) :
    (if negative then "-" ++ body else body).toList = signText negative ++ body.toList := by
  cases negative with
  | false => rfl
  | true => simp [signText]

/-- The text of a double without its sign. -/
theorem exists_notation {m : Nat} {e : Int} (h : Binary64.IsStandard m e) :
    ∃ text x, IsNotation text x ∧
      (∀ negative, (Binary64.toText (.finite negative m e)).toList = signText negative ++ text) ∧
      (m = 0 → x = 0) ∧ (0 < m → Binary64.InInterval m e x) := by
  rcases Nat.eq_zero_or_pos m with rfl | hm
  · exact ⟨_, 0, isNotation_zero, fun negative => toList_signed negative "0.0", fun _ => rfl,
      fun h => absurd h (by decide)⟩
  · have hinterval := Binary64.shortestDigits_spec h hm
    have htext : ∀ negative, (Binary64.toText (.finite negative m e)).toList = signText negative ++
        (Binary64.writeDigits
          (Binary64.dropTrailingZeros (Nat.toDigits 10 (Binary64.shortestDigits m e).digits))
          ((Nat.toDigits 10 (Binary64.shortestDigits m e).digits).length +
            (Binary64.shortestDigits m e).exponent)).toList := by
      intro negative
      rw [Binary64.toText, if_neg hm.ne']
      exact toList_signed negative _
    generalize Binary64.shortestDigits m e = d at hinterval htext
    obtain ⟨zeros, hds, hlead, hlength, hvalue⟩ :=
      exists_significant (hinterval.coefficient_pos hm)
    refine ⟨_, _, isNotation_writeDigits hds hlead _, htext, fun h => absurd h hm.ne', fun _ => ?_⟩
    rw [hlength]
    generalize Binary64.dropTrailingZeros (Nat.toDigits 10 d.digits) = ds at hvalue ⊢
    have hscale : (d.digits : ℚ) * 10 ^ d.exponent =
        asciiValue ds * 10 ^ (((ds.length + zeros : Nat) + d.exponent : Int) - ds.length) := by
      rw [hvalue]
      push_cast
      rw [mul_assoc, ← zpow_natCast, ← zpow_add₀ (by norm_num)]
      congr 2
      ring
    exact hscale ▸ hinterval

/-- A double is read back from its text. -/
theorem readAtom_real {negative : Bool} {m : Nat} {e : Int} (h : Binary64.IsStandard m e)
    {rest : List Char} (hrest : EndsValue rest) :
    readAtom ((Binary64.toText (.finite negative m e)).toList ++ rest) =
      .ok (.real (.finite negative m e), rest) := by
  obtain ⟨text, x, hnotation, htext, hzero, hinterval⟩ := exists_notation h
  obtain ⟨c, x', hread, hvalue⟩ := readAtom_notation negative hnotation hrest
  rw [htext, List.append_assoc, hread]
  rcases Nat.eq_zero_or_pos m with rfl | hm
  · have hc : c = 0 := by
      have hten : (10 : ℚ) ^ x' ≠ 0 := zpow_ne_zero _ (by norm_num)
      rw [hzero rfl, mul_eq_zero, or_iff_left hten] at hvalue
      exact_mod_cast hvalue
    obtain rfl : e = -1074 := h.normal.resolve_left (by decide)
    rw [hc]
    rfl
  · rw [Binary64.ofDecimal_of_inInterval h hm (hvalue ▸ hinterval hm)]

end Clickstream.Json
