import Mathlib.Data.List.Basic
import Clickstream.Pattern.Regex

/-!
# What an expression takes

The matcher prefers some ways to match over others, but whether there is a match at all does not
depend on its preferences.  An expression relates the rest of a text to what is left after a match
(`Regex.Takes`), and the matcher finds a match if and only if one of the ways that the relation
allows can be continued (`isSome_run`).  What it finds, it finds on one of these ways
(`exists_takes_of_run`).  A text has a match if the expression takes a part of it (`matchesIn_iff`),
for an expression that begins at the start of the text a beginning (`matchesIn_anchored`).

What is taken does depend on the preferences.  Repetition takes all characters of its class that
stand there, provided that this leads to a match (`run_oneOrMore`), and the place of an anchored
match is found by the first attempt (`search_anchored`).
-/

namespace Clickstream

/-! ## Classes of characters -/

namespace CharSet

theorem inSome_eq_true {ranges : List (Char × Char)} {c : Char} :
    inSome ranges c = true ↔ ∃ range ∈ ranges, range.1 ≤ c ∧ c ≤ range.2 := by
  simp [inSome]

/-- A range from a character to itself holds this character only. -/
theorem between_self {c d : Char} : d ≤ c ∧ c ≤ d ↔ c = d := by
  constructor
  · intro h
    exact Char.le_antisymm h.2 h.1
  · rintro rfl
    exact ⟨Char.le_refl _, Char.le_refl _⟩

/-- A class that excludes some characters. -/
theorem has_without {excluded : List Char} {c : Char} :
    (without (excluded.map fun d => (d, d))).has c = true ↔ c ∉ excluded := by
  rw [has, Bool.not_eq_true', Bool.eq_false_iff, ne_eq, inSome_eq_true]
  simp [between_self]

end CharSet

namespace Regex

/-! ## What is taken -/

/-- At some place in a text of a certain size, the expression takes what stands before `after`. -/
def Takes (size : Nat) : Regex → List Char → List Char → Prop
  | .empty, rest, after => rest = after
  | .one set, rest, after => ∃ c, set.has c = true ∧ rest = c :: after
  | .many set, rest, after => ∃ piece, (∀ c ∈ piece, set.has c = true) ∧ rest = piece ++ after
  | .start, rest, after => rest.length = size ∧ rest = after
  | .finish, rest, after => rest = [] ∧ rest = after
  | .seq first second, rest, after =>
    ∃ middle, first.Takes size rest middle ∧ second.Takes size middle after
  | .optional body, rest, after => body.Takes size rest after ∨ rest = after
  | .capture body, rest, after => body.Takes size rest after

section

variable {size : Nat} {rest after : List Char}

@[simp] theorem takes_empty : (empty).Takes size rest after ↔ rest = after := .rfl

@[simp] theorem takes_one {set : CharSet} :
    (one set).Takes size rest after ↔ ∃ c, set.has c = true ∧ rest = c :: after := .rfl

@[simp] theorem takes_many {set : CharSet} : (many set).Takes size rest after ↔
    ∃ piece, (∀ c ∈ piece, set.has c = true) ∧ rest = piece ++ after := .rfl

@[simp] theorem takes_start : (start).Takes size rest after ↔ rest.length = size ∧ rest = after :=
  .rfl

@[simp] theorem takes_finish : (finish).Takes size rest after ↔ rest = [] ∧ rest = after := .rfl

@[simp] theorem takes_seq {first second : Regex} : (seq first second).Takes size rest after ↔
    ∃ middle, first.Takes size rest middle ∧ second.Takes size middle after := .rfl

/-- A class that is repeated takes any characters of the class, but not none. -/
theorem takes_oneOrMore {set : CharSet} : (oneOrMore set).Takes size rest after ↔
    ∃ piece, piece ≠ [] ∧ (∀ c ∈ piece, set.has c = true) ∧ rest = piece ++ after := by
  simp only [oneOrMore, takes_seq, takes_one, takes_many]
  constructor
  · rintro ⟨middle, ⟨c, hc, rfl⟩, piece, hpiece, rfl⟩
    exact ⟨c :: piece, by simp, by simpa [hc] using hpiece, rfl⟩
  · rintro ⟨piece, hne, hpiece, rfl⟩
    cases piece with
    | nil => exact absurd rfl hne
    | cons c piece =>
      simp only [List.forall_mem_cons] at hpiece
      exact ⟨piece ++ after, ⟨c, hpiece.1, rfl⟩, piece, hpiece.2, rfl⟩

end

/-! ## The matcher -/

section

variable {α : Type}

theorem isSome_runMany {set : CharSet} {next : List Char → Option α} {accepts : List Char → Prop}
    (hnext : ∀ rest, (next rest).isSome = true ↔ accepts rest) (rest : List Char) :
    (runMany set next rest).isSome = true ↔
      ∃ after, (many set).Takes 0 rest after ∧ accepts after := by
  induction rest with
  | nil =>
    simp only [runMany, hnext, takes_many]
    constructor
    · intro h
      exact ⟨[], ⟨[], by simp, rfl⟩, h⟩
    · rintro ⟨after, ⟨piece, -, hpiece⟩, h⟩
      obtain ⟨rfl, rfl⟩ := List.append_eq_nil_iff.mp hpiece.symm
      exact h
  | cons c rest ih =>
    simp only [takes_many] at ih ⊢
    -- Either a first character is taken and the rest goes on, or nothing is.
    have hcases : (runMany set next (c :: rest)).isSome = true ↔
        (set.has c = true ∧ (runMany set next rest).isSome = true) ∨ accepts (c :: rest) := by
      rw [runMany]
      split
      · next hset => simp [Option.isSome_or, hset, hnext]
      · next hset => simp [hset, hnext]
    rw [hcases, ih]
    constructor
    · rintro (⟨hc, after, ⟨piece, hpiece, rfl⟩, h⟩ | h)
      · exact ⟨after, ⟨c :: piece, by simpa [hc] using hpiece, rfl⟩, h⟩
      · exact ⟨c :: rest, ⟨[], by simp, rfl⟩, h⟩
    · rintro ⟨after, ⟨piece, hpiece, heq⟩, h⟩
      cases piece with
      | nil =>
        rw [List.nil_append] at heq
        exact .inr (heq ▸ h)
      | cons d piece =>
        obtain ⟨rfl, rfl⟩ := List.cons.inj heq
        simp only [List.forall_mem_cons] at hpiece
        exact .inl ⟨hpiece.1, after, ⟨piece, hpiece.2, rfl⟩, h⟩

/-- The matcher finds a match if one of the ways that an expression allows can be continued.
Whether a way can be continued must not depend on the captured text. -/
theorem isSome_run {size : Nat} {r : Regex} {next : Next α} {accepts : List Char → Prop}
    (hnext : ∀ captured rest, (next captured rest).isSome = true ↔ accepts rest)
    (captured : Option (List Char)) (rest : List Char) :
    (run size r next captured rest).isSome = true ↔
      ∃ after, r.Takes size rest after ∧ accepts after := by
  induction r generalizing next accepts captured rest with
  | empty => simp [run, hnext]
  | one set =>
    cases rest with
    | nil => simp [run]
    | cons c rest =>
      rw [run]
      split
      · next hset => simp [hset, hnext]
      · next hset => simp [hset]
  | many set => exact isSome_runMany (hnext captured) rest
  | start =>
    rw [run]
    split
    · next hsize => simp [hsize, hnext]
    · next hsize => simp [hsize]
  | finish =>
    rw [run]
    split
    · next hend => simp [hend, hnext]
    · next hend => simp [hend]
  | seq first second ihfirst ihsecond =>
    rw [run, ihfirst (fun captured rest => ihsecond hnext captured rest)]
    simp only [takes_seq]
    constructor
    · rintro ⟨middle, hfirst, after, hsecond, h⟩
      exact ⟨after, ⟨middle, hfirst, hsecond⟩, h⟩
    · rintro ⟨after, ⟨middle, hfirst, hsecond⟩, h⟩
      exact ⟨middle, hfirst, after, hsecond, h⟩
  | optional body ih =>
    have hbody := ih hnext captured rest
    simp only [run, Takes, or_and_right, exists_or, ← hbody]
    cases run size body next captured rest with
    | some result => simp
    | none => simp [hnext]
  | capture body ih => exact ih (fun _ after => hnext _ after) captured rest

theorem exists_takes_of_runMany {set : CharSet} {next : List Char → Option α} {rest : List Char}
    {result : α} (h : runMany set next rest = some result) :
    ∃ piece after, (∀ c ∈ piece, set.has c = true) ∧ rest = piece ++ after ∧
      next after = some result := by
  induction rest with
  | nil => exact ⟨[], [], by simp, rfl, h⟩
  | cons c rest ih =>
    rw [runMany] at h
    split at h
    · next hc =>
      obtain hrest | ⟨-, hstop⟩ := Option.or_eq_some_iff.mp h
      · obtain ⟨piece, after, hpiece, rfl, hafter⟩ := ih hrest
        exact ⟨c :: piece, after, List.forall_mem_cons.mpr ⟨hc, hpiece⟩, rfl, hafter⟩
      · exact ⟨[], c :: rest, by simp, rfl, hstop⟩
    · exact ⟨[], c :: rest, by simp, rfl, h⟩

/-- What the matcher finds was found on one of the ways that the expression allows. -/
theorem exists_takes_of_run {size : Nat} {r : Regex} {next : Next α}
    {captured : Option (List Char)} {rest : List Char} {result : α}
    (h : run size r next captured rest = some result) :
    ∃ captured' after, r.Takes size rest after ∧ next captured' after = some result := by
  induction r generalizing next captured rest with
  | empty => exact ⟨captured, rest, rfl, h⟩
  | one set =>
    cases rest with
    | nil => exact nomatch h
    | cons c rest =>
      obtain ⟨hc, h⟩ := Option.ite_none_right_eq_some.mp h
      exact ⟨captured, rest, ⟨c, hc, rfl⟩, h⟩
  | many set =>
    obtain ⟨piece, after, hpiece, heq, h⟩ := exists_takes_of_runMany h
    exact ⟨captured, after, ⟨piece, hpiece, heq⟩, h⟩
  | start =>
    obtain ⟨hsize, h⟩ := Option.ite_none_right_eq_some.mp h
    exact ⟨captured, rest, ⟨hsize, rfl⟩, h⟩
  | finish =>
    obtain ⟨hend, h⟩ := Option.ite_none_right_eq_some.mp h
    exact ⟨captured, rest, ⟨hend, rfl⟩, h⟩
  | seq first second ihfirst ihsecond =>
    obtain ⟨captured, middle, hfirst, h⟩ := ihfirst h
    obtain ⟨captured, after, hsecond, h⟩ := ihsecond h
    exact ⟨captured, after, ⟨middle, hfirst, hsecond⟩, h⟩
  | optional body ih =>
    rw [run] at h
    split at h
    · next hbody =>
      cases h
      obtain ⟨captured, after, htakes, h⟩ := ih hbody
      exact ⟨captured, after, .inl htakes, h⟩
    · exact ⟨captured, rest, .inr rfl, h⟩
  | capture body ih =>
    obtain ⟨captured, after, htakes, h⟩ := ih h
    exact ⟨_, after, htakes, h⟩

/-- Where an expression takes nothing, the matcher finds nothing. -/
theorem run_eq_none {size : Nat} {r : Regex} {next : Next α} {captured : Option (List Char)}
    {rest : List Char} (h : ∀ after, ¬ r.Takes size rest after) :
    run size r next captured rest = none := by
  refine Option.eq_none_iff_forall_ne_some.mpr fun result hrun => ?_
  obtain ⟨-, after, htakes, -⟩ := exists_takes_of_run hrun
  exact h after htakes

end

/-! ## Places -/

section

variable {r : Regex}

/-- A match at one place. -/
theorem isSome_runHere (size : Nat) (before rest : List Char) :
    (run size r (fun captured after => some (⟨before, captured, after⟩ : Place)) none
      rest).isSome = true ↔ ∃ after, r.Takes size rest after := by
  have hrun := @isSome_run Place size r (fun captured after => some ⟨before, captured, after⟩)
    (fun _ => True) (by simp) none rest
  simpa using hrun

theorem isSome_searchFrom (size : Nat) (skipped rest : List Char) :
    (searchFrom size r skipped rest).isSome = true ↔
      ∃ before rest' after, rest = before ++ rest' ∧ r.Takes size rest' after := by
  induction rest generalizing skipped with
  | nil =>
    rw [searchFrom, isSome_runHere]
    constructor
    · rintro ⟨after, h⟩
      exact ⟨[], [], after, rfl, h⟩
    · rintro ⟨before, rest', after, heq, h⟩
      obtain ⟨rfl, rfl⟩ := List.append_eq_nil_iff.mp heq.symm
      exact ⟨after, h⟩
  | cons c rest ih =>
    have hhere := isSome_runHere (r := r) size skipped.reverse (c :: rest)
    have hcases : (searchFrom size r skipped (c :: rest)).isSome = true ↔
        (∃ after, r.Takes size (c :: rest) after) ∨
          (searchFrom size r (c :: skipped) rest).isSome = true := by
      rw [searchFrom, ← hhere]
      split
      · next hplace => simp [hplace]
      · next hplace => simp [hplace]
    rw [hcases, ih]
    constructor
    · rintro (⟨after, h⟩ | ⟨before, rest', after, rfl, h⟩)
      · exact ⟨[], c :: rest, after, rfl, h⟩
      · exact ⟨c :: before, rest', after, rfl, h⟩
    · rintro ⟨before, rest', after, heq, h⟩
      cases before with
      | nil =>
        rw [List.nil_append] at heq
        exact .inl ⟨after, heq ▸ h⟩
      | cons d before =>
        obtain ⟨rfl, rfl⟩ := List.cons.inj heq
        exact .inr ⟨before, rest', after, rfl, h⟩

/-- A text has a match if the expression takes a part of it. -/
theorem matchesIn_iff {text : List Char} : r.matchesIn text = true ↔
    ∃ before rest after, text = before ++ rest ∧ r.Takes text.length rest after :=
  isSome_searchFrom text.length [] text

/-- An expression that begins at the start of the text takes a beginning of it. -/
theorem matchesIn_anchored {text : List Char} :
    (seq .start r).matchesIn text = true ↔ ∃ after, r.Takes text.length text after := by
  simp only [matchesIn_iff, takes_seq, takes_start]
  constructor
  · rintro ⟨before, rest, after, heq, middle, ⟨hlength, rfl⟩, h⟩
    have hbefore : before = [] := by
      have hsum := congrArg List.length heq
      rw [List.length_append] at hsum
      exact List.length_eq_zero_iff.mp (by omega)
    rw [hbefore, List.nil_append] at heq
    exact ⟨after, by rwa [← heq] at h⟩
  · rintro ⟨after, h⟩
    exact ⟨[], text, after, rfl, text, ⟨rfl, rfl⟩, h⟩

end

/-! ## The first way -/

section

variable {α : Type} {set : CharSet} {piece after : List Char} {result : α}

/-- Repetition takes all characters of the class, if what follows them leads to a match. -/
theorem runMany_append {next : List Char → Option α} (hpiece : ∀ c ∈ piece, set.has c = true)
    (hafter : ∀ c ∈ after.head?, set.has c = false) (hnext : next after = some result) :
    runMany set next (piece ++ after) = some result := by
  induction piece with
  | nil =>
    cases after with
    | nil => exact hnext
    | cons c after => simp [runMany, hafter c rfl, hnext]
  | cons c piece ih =>
    obtain ⟨hc, hpiece⟩ := List.forall_mem_cons.mp hpiece
    simp [runMany, hc, ih hpiece]

theorem run_oneOrMore {size : Nat} {next : Next α} {captured : Option (List Char)}
    (hne : piece ≠ []) (hpiece : ∀ c ∈ piece, set.has c = true)
    (hafter : ∀ c ∈ after.head?, set.has c = false) (hnext : next captured after = some result) :
    run size (oneOrMore set) next captured (piece ++ after) = some result := by
  cases piece with
  | nil => exact absurd rfl hne
  | cons c piece =>
    obtain ⟨hc, hpiece⟩ := List.forall_mem_cons.mp hpiece
    simp only [oneOrMore, run, List.cons_append, hc, if_true]
    exact runMany_append hpiece hafter hnext

/-- An optional part is there if this leads to a match. -/
theorem run_optional {size : Nat} {body : Regex} {next : Next α} {captured : Option (List Char)}
    {rest : List Char} (h : run size body next captured rest = some result) :
    run size (.optional body) next captured rest = some result := by
  rw [run, h]

/-- An optional part that does not stand there is left out. -/
theorem run_optional_of_none {size : Nat} {body : Regex} {next : Next α}
    {captured : Option (List Char)} {rest : List Char}
    (h : run size body next captured rest = none) :
    run size (.optional body) next captured rest = next captured rest := by
  rw [run, h]

/-- An expression that begins at the start of the text is found there. -/
theorem search_anchored {r : Regex} {text : List Char} {place : Place}
    (h : run text.length r (fun captured after => some ⟨[], captured, after⟩) none text =
      some place) : search (seq .start r) text = some place := by
  cases text <;> simp_all [search, searchFrom, run]

end

end Regex

end Clickstream
