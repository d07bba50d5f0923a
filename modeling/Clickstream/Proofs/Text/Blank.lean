import Mathlib.Data.List.DropRight
import Clickstream.Text.Blank
import Clickstream.Text.Digit

/-!
# White space around a text

Trimming removes characters of a class from both ends (`exists_trimBoth`), up to the characters that
are not of the class (`trimBoth_append`).  White space that is trimmed as that around a numeral
vanishes unless there is one of the four separators in it (`dropWhile_isSpacing_eq_nil`,
`rdropWhile_isSpacing_eq_nil`).
-/

namespace Clickstream.Text

/-! ## Trimming -/

variable {p : Char → Bool} {cs before core after : List Char}

theorem trimBoth_eq (p : Char → Bool) (cs : List Char) :
    trimBoth p cs = (cs.dropWhile p).rdropWhile p := rfl

theorem dropWhile_append_of_neg (hne : core ≠ []) (hcore : ∀ c ∈ core, p c = false)
    (before after : List Char) :
    (before ++ (core ++ after)).dropWhile p = before.dropWhile p ++ (core ++ after) := by
  obtain ⟨c, rest, rfl⟩ := List.exists_cons_of_ne_nil hne
  have hself : (c :: rest ++ after).dropWhile p = c :: rest ++ after :=
    List.dropWhile_cons_of_neg (by rw [hcore c List.mem_cons_self]; exact Bool.false_ne_true)
  rw [List.dropWhile_append, hself]
  split_ifs with hempty
  · rw [List.isEmpty_iff.mp hempty, List.nil_append]
  · rfl

/-- Trimming stops on both sides at characters that are not of the class. -/
theorem trimBoth_append (hne : core ≠ []) (hcore : ∀ c ∈ core, p c = false)
    (before after : List Char) :
    trimBoth p (before ++ (core ++ after)) =
      before.dropWhile p ++ (core ++ after.rdropWhile p) := by
  have hreverse : (before.dropWhile p ++ (core ++ after)).reverse =
      after.reverse ++ (core.reverse ++ (before.dropWhile p).reverse) := by
    simp only [List.reverse_append, List.append_assoc]
  rw [trimBoth_eq, dropWhile_append_of_neg hne hcore, List.rdropWhile, hreverse,
    dropWhile_append_of_neg (List.reverse_ne_nil_iff.mpr hne)
      fun c hc => hcore c (List.mem_reverse.mp hc)]
  simp only [List.rdropWhile, List.reverse_append, List.reverse_reverse, List.append_assoc]

/-- Nothing but characters of the class is removed. -/
theorem exists_trimBoth (p : Char → Bool) (cs : List Char) : ∃ before after,
    (∀ c ∈ before, p c = true) ∧ (∀ c ∈ after, p c = true) ∧
      cs = before ++ (trimBoth p cs ++ after) := by
  refine ⟨cs.takeWhile p, (cs.dropWhile p).rtakeWhile p, fun c hc => List.mem_takeWhile_imp hc,
    fun c hc => List.mem_rtakeWhile_imp hc, ?_⟩
  rw [trimBoth_eq, List.rdropWhile, List.rtakeWhile, ← List.reverse_append,
    List.takeWhile_append_dropWhile, List.reverse_reverse, List.takeWhile_append_dropWhile]

/-- Trimming what is trimmed changes nothing. -/
theorem trimBoth_trimBoth (p : Char → Bool) (cs : List Char) :
    trimBoth p (trimBoth p cs) = trimBoth p cs := by
  have hleft : (trimBoth p cs).dropWhile p = trimBoth p cs := by
    obtain ⟨rest, hrest⟩ := List.rdropWhile_prefix p (l := cs.dropWhile p)
    rw [← trimBoth_eq] at hrest
    cases h : trimBoth p cs with
    | nil => rfl
    | cons c ds =>
      -- The first character is that of the text without leading characters of the class.
      have hself := List.dropWhile_idempotent (p := p) cs
      rw [← hrest, h, List.cons_append, List.dropWhile_eq_self_iff] at hself
      exact List.dropWhile_eq_self_iff.mpr fun _ => hself (Nat.succ_pos _)
  rw [trimBoth_eq p (trimBoth p cs), hleft, trimBoth_eq, List.rdropWhile_idempotent]

/-! ## Separators -/

/-- The four separators U+001C to U+001F: white space that may not surround a numeral. -/
def isSeparator (c : Char) : Bool :=
  28 ≤ c.toNat && c.toNat ≤ 31

theorem isSpacing_eq_false {c : Char} (h : isBlank c = false) : isSpacing c = false := by
  rw [isSpacing, h, Bool.false_and]

theorem isSpacing_of_isBlank {c : Char} (h : isBlank c = true) : isSpacing c = !isSeparator c := by
  rw [isSpacing, h, Bool.true_and]
  rfl

/-- All characters are white space. -/
def IsBlank (cs : List Char) : Prop :=
  ∀ c ∈ cs, isBlank c = true

instance (cs : List Char) : Decidable (IsBlank cs) :=
  List.decidableBAll _ cs

theorem IsBlank.mono (h : IsBlank cs) {ds : List Char} (hsub : ds ⊆ cs) : IsBlank ds :=
  fun c hc => h c (hsub hc)

/-- White space is removed from the front as a whole if there is no separator in it. -/
theorem dropWhile_isSpacing_eq_nil (h : IsBlank cs) :
    cs.dropWhile isSpacing = [] ↔ cs.any isSeparator = false := by
  rw [List.dropWhile_eq_nil_iff, List.any_eq_false]
  refine forall₂_congr fun c hc => ?_
  rw [isSpacing_of_isBlank (h c hc), Bool.not_eq_true', Bool.not_eq_true]

/-- White space is removed from the back as a whole if there is no separator in it. -/
theorem rdropWhile_isSpacing_eq_nil (h : IsBlank cs) :
    cs.rdropWhile isSpacing = [] ↔ cs.any isSeparator = false := by
  have hreverse : IsBlank cs.reverse := h.mono fun c hc => List.mem_reverse.mp hc
  rw [List.rdropWhile, List.reverse_eq_nil_iff, dropWhile_isSpacing_eq_nil hreverse,
    List.any_reverse]

/-! ## Digits -/

theorem disjoint_ranges : ∀ least ∈ zeroDigits, ∀ range ∈ blankRanges,
    least + 9 < range.1 ∨ range.2 < least := by
  decide

/-- A digit is no white space. -/
theorem isBlank_of_isDigit {c : Char} (h : isDigit c = true) : isBlank c = false := by
  obtain ⟨d, hd⟩ := Option.isSome_iff_exists.mp h
  obtain ⟨least, hfind, -⟩ := Option.map_eq_some_iff.mp hd
  have hleast := List.mem_of_find?_eq_some hfind
  have hrange := List.find?_some hfind
  rw [Bool.and_eq_true, decide_eq_true_eq, decide_eq_true_eq] at hrange
  rw [isBlank, inRanges, List.any_eq_false]
  intro range hmem
  have hdisjoint := disjoint_ranges least hleast range hmem
  rw [Bool.and_eq_true, decide_eq_true_eq, decide_eq_true_eq]
  omega

end Clickstream.Text
