import Mathlib.Data.List.Infix
import Clickstream.Pattern.Like

/-!
# Texts that fit a pattern with wildcards

A pattern is read from the left along the text: a percent sign takes any piece of the text, an
underscore any character, and each character itself (`FitsLike`).  The matcher finds out whether
this can be done (`matchesLike_iff`).

A pattern between two percent signs fits a text if the pattern itself fits a part of it
(`fitsLike_enclosed`).  This is a search for the pattern as a text only if it holds no wildcard:
a pattern with a wildcard also fits texts that hold none (`fitsLike_bare`).
-/

namespace Clickstream

/-- The text fits the pattern. -/
inductive FitsLike : List Char → List Char → Prop
  | nil : FitsLike [] []
  | any (piece : List Char) {pattern rest : List Char} :
    FitsLike pattern rest → FitsLike ('%' :: pattern) (piece ++ rest)
  | one (c : Char) {pattern rest : List Char} :
    FitsLike pattern rest → FitsLike ('_' :: pattern) (c :: rest)
  | self (c : Char) {pattern rest : List Char} :
    FitsLike pattern rest → FitsLike (c :: pattern) (c :: rest)

/-! ## First characters -/

section

variable {pattern text : List Char}

theorem fitsLike_nil : FitsLike [] text ↔ text = [] := by
  constructor
  · rintro ⟨⟩
    rfl
  · rintro rfl
    exact .nil

theorem fitsLike_any : FitsLike ('%' :: pattern) text ↔
    ∃ piece rest, text = piece ++ rest ∧ FitsLike pattern rest := by
  constructor
  · intro h
    cases h with
    | any piece hrest => exact ⟨piece, _, rfl, hrest⟩
    | self _ hrest => exact ⟨['%'], _, rfl, hrest⟩
  · rintro ⟨piece, rest, rfl, hrest⟩
    exact .any piece hrest

theorem fitsLike_one : FitsLike ('_' :: pattern) text ↔
    ∃ c rest, text = c :: rest ∧ FitsLike pattern rest := by
  constructor
  · intro h
    cases h with
    | one c hrest => exact ⟨c, _, rfl, hrest⟩
    | self _ hrest => exact ⟨'_', _, rfl, hrest⟩
  · rintro ⟨c, rest, rfl, hrest⟩
    exact .one c hrest

theorem fitsLike_self {c : Char} (hany : c ≠ '%') (hone : c ≠ '_') :
    FitsLike (c :: pattern) text ↔ ∃ rest, text = c :: rest ∧ FitsLike pattern rest := by
  constructor
  · intro h
    cases h with
    | any => exact absurd rfl hany
    | one => exact absurd rfl hone
    | self _ hrest => exact ⟨_, rfl, hrest⟩
  · rintro ⟨rest, rfl, hrest⟩
    exact .self c hrest

/-- Of several percent signs in a row, one is enough. -/
theorem fitsLike_any_any :
    FitsLike ('%' :: '%' :: pattern) text ↔ FitsLike ('%' :: pattern) text := by
  simp only [fitsLike_any]
  constructor
  · rintro ⟨first, _, rfl, second, rest, rfl, hrest⟩
    exact ⟨first ++ second, rest, (List.append_assoc ..).symm, hrest⟩
  · rintro ⟨piece, rest, rfl, hrest⟩
    exact ⟨piece, rest, rfl, [], rest, rfl, hrest⟩

end

/-! ## The matcher -/

theorem mem_suffixes {α : Type} {xs ys : List α} : xs ∈ suffixes ys ↔ xs <:+ ys := by
  induction ys with
  | nil => simp [suffixes]
  | cons y ys ih => simp [suffixes, ih, List.suffix_cons_iff]

/-- The matcher accepts the texts that fit the pattern. -/
theorem matchesLike_iff {pattern text : List Char} :
    matchesLike pattern text = true ↔ FitsLike pattern text := by
  induction pattern generalizing text with
  | nil => simp [matchesLike, fitsLike_nil]
  | cons c pattern ih =>
    by_cases hany : c = '%'
    · subst hany
      rw [matchesLike]
      split
      · next hhead =>
        obtain ⟨pattern, rfl⟩ := List.head?_eq_some_iff.mp hhead
        rw [ih, fitsLike_any_any]
      · simp only [List.any_eq_true, mem_suffixes, ih, fitsLike_any]
        constructor
        · rintro ⟨rest, ⟨piece, rfl⟩, hrest⟩
          exact ⟨piece, rest, rfl, hrest⟩
        · rintro ⟨piece, rest, rfl, hrest⟩
          exact ⟨rest, List.suffix_append piece rest, hrest⟩
    · by_cases hone : c = '_'
      · subst hone
        cases text with
        | nil => simp [matchesLike, fitsLike_one]
        | cons d text => simp [matchesLike, fitsLike_one, ih]
      · rw [fitsLike_self hany hone]
        cases text with
        | nil => simp [matchesLike]
        | cons d text =>
          have hstep : matchesLike (c :: pattern) (d :: text) =
              (decide (c = d) && matchesLike pattern text) := by
            rw [matchesLike]
            · exact hany
            · exact hone
          rw [hstep, Bool.and_eq_true, decide_eq_true_eq, ih]
          constructor
          · rintro ⟨rfl, hrest⟩
            exact ⟨text, rfl, hrest⟩
          · rintro ⟨_, ⟨⟩, hrest⟩
            exact ⟨rfl, hrest⟩

/-! ## Parts of a text -/

theorem fitsLike_append {first second text : List Char} : FitsLike (first ++ second) text ↔
    ∃ before after, text = before ++ after ∧ FitsLike first before ∧ FitsLike second after := by
  induction first generalizing text with
  | nil => simp [fitsLike_nil]
  | cons c first ih =>
    constructor
    · intro h
      cases h with
      | any piece h =>
        obtain ⟨before, after, rfl, hfirst, hsecond⟩ := ih.mp h
        exact ⟨piece ++ before, after, (List.append_assoc ..).symm, .any piece hfirst, hsecond⟩
      | one d h =>
        obtain ⟨before, after, rfl, hfirst, hsecond⟩ := ih.mp h
        exact ⟨d :: before, after, rfl, .one d hfirst, hsecond⟩
      | self _ h =>
        obtain ⟨before, after, rfl, hfirst, hsecond⟩ := ih.mp h
        exact ⟨c :: before, after, rfl, .self c hfirst, hsecond⟩
    · rintro ⟨before, after, rfl, hfirst, hsecond⟩
      cases hfirst with
      | any piece h =>
        rw [List.append_assoc]
        exact .any piece (ih.mpr ⟨_, _, rfl, h, hsecond⟩)
      | one d h => exact .one d (ih.mpr ⟨_, _, rfl, h, hsecond⟩)
      | self _ h => exact .self c (ih.mpr ⟨_, _, rfl, h, hsecond⟩)

/-- Between two percent signs, a pattern fits a text if it fits a part of the text. -/
theorem fitsLike_enclosed {pattern text : List Char} :
    FitsLike ('%' :: pattern ++ ['%']) text ↔ ∃ part, part <:+: text ∧ FitsLike pattern part := by
  rw [List.cons_append, fitsLike_any]
  constructor
  · rintro ⟨before, rest, rfl, h⟩
    obtain ⟨part, after, rfl, hpart, -⟩ := fitsLike_append.mp h
    exact ⟨part, ⟨before, after, List.append_assoc ..⟩, hpart⟩
  · rintro ⟨part, ⟨before, after, rfl⟩, hpart⟩
    have hafter : FitsLike ['%'] after := fitsLike_any.mpr ⟨after, [], by simp, .nil⟩
    exact ⟨before, part ++ after, List.append_assoc ..,
      fitsLike_append.mpr ⟨part, after, rfl, hpart, hafter⟩⟩

/-! ## Wildcards -/

/-- Nothing but percent signs fits the empty text. -/
theorem fitsLike_empty {pattern : List Char} : FitsLike pattern [] ↔ ∀ c ∈ pattern, c = '%' := by
  induction pattern with
  | nil => simp [fitsLike_nil]
  | cons c pattern ih =>
    by_cases hany : c = '%'
    · subst hany
      rw [fitsLike_any, List.forall_mem_cons, ← ih]
      constructor
      · rintro ⟨piece, rest, htext, hrest⟩
        obtain ⟨-, rfl⟩ := List.append_eq_nil_iff.mp htext.symm
        exact ⟨rfl, hrest⟩
      · rintro ⟨-, hrest⟩
        exact ⟨[], [], rfl, hrest⟩
    · by_cases hone : c = '_'
      · subst hone
        simp [fitsLike_one]
      · simp [fitsLike_self hany hone, hany]

/-- One of the two wildcards. -/
def IsWildcard (c : Char) : Prop :=
  c = '%' ∨ c = '_'

theorem fitsLike_refl (pattern : List Char) : FitsLike pattern pattern := by
  induction pattern with
  | nil => exact .nil
  | cons c pattern ih => exact .self c ih

/-- A pattern without wildcards fits only itself. -/
theorem fitsLike_of_plain {pattern text : List Char} (h : ∀ c ∈ pattern, ¬ IsWildcard c) :
    FitsLike pattern text ↔ text = pattern := by
  induction pattern generalizing text with
  | nil => exact fitsLike_nil
  | cons c pattern ih =>
    obtain ⟨hc, hrest⟩ := List.forall_mem_cons.mp h
    obtain ⟨hany, hone⟩ := not_or.mp hc
    simp [fitsLike_self hany hone, ih hrest]

/-- A text that a pattern fits, without wildcards of its own: nothing stands for a percent sign, and
a hyphen for an underscore. -/
def bareText : List Char → List Char
  | [] => []
  | '%' :: pattern => bareText pattern
  | '_' :: pattern => '-' :: bareText pattern
  | c :: pattern => c :: bareText pattern

theorem fitsLike_bare (pattern : List Char) :
    FitsLike pattern (bareText pattern) ∧ ∀ c ∈ bareText pattern, ¬ IsWildcard c := by
  fun_induction bareText pattern with
  | case1 => exact ⟨.nil, nofun⟩
  | case2 pattern ih => exact ⟨.any [] ih.1, ih.2⟩
  | case3 pattern ih =>
    exact ⟨.one '-' ih.1, List.forall_mem_cons.mpr ⟨by simp [IsWildcard], ih.2⟩⟩
  | case4 c pattern hany hone ih =>
    exact ⟨.self c ih.1, List.forall_mem_cons.mpr ⟨fun h => h.elim hany hone, ih.2⟩⟩

end Clickstream
