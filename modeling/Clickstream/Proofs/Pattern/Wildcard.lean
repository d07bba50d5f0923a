import Mathlib.Data.List.Forall2
import Clickstream.Event.Meaning
import Clickstream.Proofs.Pattern.Matching
import Clickstream.Proofs.Pattern.PathGroup

/-!
# Paths that fit a pattern

A pattern is read from the left as a list of parts: two stars, one star, or a character
(`Wildcard.parts`).  A path fits it if it can be cut into pieces, one for each part
(`Wildcard.Fits`).

The expression of a pattern is made by three replacements in its text.  Each of them changes the
text of one kind of part and leaves the others alone, so that the text stays a text of the same
parts (`replaceAll_texts`).  For this the marker must not begin inside the text of another part,
and as it begins with the character zero, that character must not occur in the pattern.  The
resulting text is read as the parts in a row (`ofChars?_regexChars`), and what this expression
takes is what the parts stand for (`takes_partsThen`).
-/

namespace Clickstream

/-! ## Replacing text -/

theorem replaceFrom_skip (old new skipped rest : List Char) :
    replaceFrom old new skipped.length (skipped ++ rest) = replaceFrom old new 0 rest := by
  induction skipped with
  | nil => rfl
  | cons c skipped ih => simpa [replaceFrom] using ih

/-- An occurrence at the start is replaced. -/
theorem replaceAll_self_append {old : List Char} (h : old ≠ []) (new rest : List Char) :
    replaceAll old new (old ++ rest) = new ++ replaceAll old new rest := by
  cases old with
  | nil => exact absurd rfl h
  | cons c old =>
    have hprefix : (c :: old).isPrefixOf (c :: (old ++ rest)) = true := by
      simp [List.isPrefixOf_iff_prefix]
    rw [replaceAll, List.cons_append, replaceFrom, if_pos hprefix, List.length_cons,
      Nat.add_sub_cancel, replaceFrom_skip]
    rfl

theorem replaceAll_cons_of_not {old rest : List Char} {c : Char}
    (h : old.isPrefixOf (c :: rest) = false) (new : List Char) :
    replaceAll old new (c :: rest) = c :: replaceAll old new rest := by
  simp [replaceAll, replaceFrom, h]

/-- No occurrence begins in a text without the first character. -/
theorem replaceAll_append_of_notMem {first : Char} {cs : List Char} (h : first ∉ cs)
    (old new rest : List Char) :
    replaceAll (first :: old) new (cs ++ rest) = cs ++ replaceAll (first :: old) new rest := by
  induction cs with
  | nil => rfl
  | cons c cs ih =>
    rw [List.mem_cons, not_or] at h
    obtain ⟨hc, hcs⟩ := h
    have hprefix : (first :: old).isPrefixOf (c :: (cs ++ rest)) = false := by
      simp [List.isPrefixOf, hc]
    rw [List.cons_append, replaceAll_cons_of_not hprefix, ih hcs, List.cons_append]

namespace Wildcard

open Regex (Token)
open PathGroup (noSlash)

/-! ## Parts -/

/-- A part of a pattern. -/
inductive Part
  | anything
  | segment
  | literal (c : Char)
  deriving DecidableEq, Repr

/-- Reads a pattern from the left; two stars that follow each other belong together. -/
def parts : List Char → List Part
  | [] => []
  | '*' :: '*' :: rest => .anything :: parts rest
  | '*' :: rest => .segment :: parts rest
  | c :: rest => .literal c :: parts rest

namespace Part

/-- What a part stands for. -/
def Fits : Part → List Char → Prop
  | .anything, _ => True
  | .segment, piece => PathGroup.IsSegment piece
  | .literal c, piece => piece = [c]

/-- The text of a part, with the given texts for two stars and for one. -/
def text (double single : List Char) : Part → List Char
  | .anything => double
  | .segment => single
  | .literal c => Regex.writeLiteral c

end Part

/-- A path fits a pattern if it can be cut into pieces, one for each part. -/
def Fits (pattern path : List Char) : Prop :=
  ∃ pieces, List.Forall₂ Part.Fits (parts pattern) pieces ∧ path = pieces.flatten

/-- A literal part is a character of the pattern, but not the star. -/
theorem mem_of_literal_mem_parts {pattern : List Char} {c : Char}
    (h : .literal c ∈ parts pattern) : c ≠ '*' ∧ c ∈ pattern := by
  fun_induction parts pattern with
  | case1 => cases h
  | case2 rest ih =>
    have := ih (by simpa using h)
    exact ⟨this.1, by simp [this.2]⟩
  | case3 rest _ ih =>
    have := ih (by simpa using h)
    exact ⟨this.1, by simp [this.2]⟩
  | case4 d rest _ hstar ih =>
    rcases List.mem_cons.mp h with hd | hrest
    · cases hd
      exact ⟨fun heq => hstar heq, List.mem_cons_self⟩
    · exact ⟨(ih hrest).1, List.mem_cons_of_mem _ (ih hrest).2⟩

/-! ## The text of an expression -/

theorem notMem_writeLiteral {c d : Char} (hc : d ≠ c) (hescape : d ≠ '\\') :
    d ∉ Regex.writeLiteral c := by
  unfold Regex.writeLiteral
  split <;> simp [hc, hescape]

theorem star_notMem_head_escape {rest : List Char} (h : ∀ rest', rest ≠ '*' :: rest') :
    (escape rest).head? ≠ some '*' := by
  cases rest with
  | nil => simp [escape]
  | cons c rest =>
    have hc : c ≠ '*' := fun heq => h rest (by rw [heq])
    simp only [escape, List.flatMap_cons, if_neg hc, Regex.writeLiteral]
    split <;> simp [hc]

/-- In the escaped text of a pattern, two stars are replaced by the marker. -/
theorem replaceAll_escape (pattern new : List Char) :
    replaceAll ['*', '*'] new (escape pattern) = (parts pattern).flatMap (Part.text new ['*']) := by
  fun_induction parts pattern with
  | case1 => rfl
  | case2 rest ih =>
    have hescape : escape ('*' :: '*' :: rest) = ['*', '*'] ++ escape rest := rfl
    rw [hescape, replaceAll_self_append (by simp), ih]
    rfl
  | case3 rest hrest ih =>
    have hescape : escape ('*' :: rest) = '*' :: escape rest := rfl
    have hprefix : ['*', '*'].isPrefixOf ('*' :: escape rest) = false := by
      have hhead := star_notMem_head_escape fun rest' heq => hrest rest' heq
      cases hcs : escape rest with
      | nil => rfl
      | cons d cs =>
        have hd : '*' ≠ d := by
          rintro rfl
          exact hhead (by rw [hcs]; rfl)
        simp [List.isPrefixOf, hd]
    rw [hescape, replaceAll_cons_of_not hprefix, ih]
    rfl
  | case4 c rest _ hstar ih =>
    have hc : c ≠ '*' := fun heq => hstar heq
    have hescape : escape (c :: rest) = Regex.writeLiteral c ++ escape rest := by
      simp only [escape, List.flatMap_cons, if_neg hc]
    rw [hescape, replaceAll_append_of_notMem (notMem_writeLiteral hc.symm (by decide)), ih]
    rfl

/-- A replacement that changes the texts of parts one by one. -/
theorem replaceAll_texts {old new : List Char} {before after : Part → List Char}
    {ps : List Part} (h : ∀ p ∈ ps, ∀ rest,
      replaceAll old new (before p ++ rest) = after p ++ replaceAll old new rest) :
    replaceAll old new (ps.flatMap before) = ps.flatMap after := by
  induction ps with
  | nil => rfl
  | cons p ps ih =>
    obtain ⟨hp, hps⟩ := List.forall_mem_cons.mp h
    rw [List.flatMap_cons, hp, ih hps, List.flatMap_cons]

theorem replaceAll_star {ps : List Part} (h : .literal '*' ∉ ps) (new : List Char) :
    replaceAll ['*'] new (ps.flatMap (Part.text marker ['*'])) =
      ps.flatMap (Part.text marker new) := by
  refine replaceAll_texts fun p hp rest => ?_
  cases p with
  | anything => exact replaceAll_append_of_notMem (by decide) [] new rest
  | segment => exact replaceAll_self_append (by simp) new rest
  | literal c =>
    have hc : '*' ≠ c := fun heq => h (heq ▸ hp)
    exact replaceAll_append_of_notMem (notMem_writeLiteral hc (by decide)) [] new rest

theorem replaceAll_marker {ps : List Part} (h : .literal '\x00' ∉ ps) (new : List Char) :
    replaceAll marker new (ps.flatMap (Part.text marker segment)) =
      ps.flatMap (Part.text new segment) := by
  refine replaceAll_texts fun p hp rest => ?_
  cases p with
  | anything => exact replaceAll_self_append (by decide) new rest
  | segment => exact replaceAll_append_of_notMem (by decide) _ new rest
  | literal c =>
    have hc : '\x00' ≠ c := fun heq => h (heq ▸ hp)
    exact replaceAll_append_of_notMem (notMem_writeLiteral hc (by decide)) _ new rest

/-- The expression of a pattern is the text of its parts between the anchors. -/
theorem regexChars_eq {pattern : List Char} (h : '\x00' ∉ pattern) :
    regexChars pattern =
      '^' :: (parts pattern).flatMap (Part.text anySequence segment) ++ ['$'] := by
  have hstar : Part.literal '*' ∉ parts pattern := fun hmem =>
    (mem_of_literal_mem_parts hmem).1 rfl
  have hzero : Part.literal '\x00' ∉ parts pattern := fun hmem =>
    h (mem_of_literal_mem_parts hmem).2
  rw [regexChars, replaceAll_escape, replaceAll_star hstar, replaceAll_marker hzero]

/-! ## The expression -/

namespace Part

/-- The units of a part. -/
def tokens : Part → List Token
  | .anything => [.set .any, .star]
  | .segment => [.set noSlash, .plus]
  | .literal c => [.literal c]

/-- The expression of a part. -/
def regex : Part → Regex
  | .anything => .many .any
  | .segment => Regex.oneOrMore noSlash
  | .literal c => .one (.only c)

end Part

/-- Some parts, then another expression. -/
def partsThen (ps : List Part) (r : Regex) : Regex :=
  ps.foldr (fun p r => .seq p.regex r) r

@[simp] theorem partsThen_nil (r : Regex) : partsThen [] r = r := rfl

@[simp] theorem partsThen_cons (p : Part) (ps : List Part) (r : Regex) :
    partsThen (p :: ps) r = .seq p.regex (partsThen ps r) := rfl

theorem tokens?_text (p : Part) (rest : List Char) :
    Regex.tokens? (p.text anySequence segment ++ rest) =
      (Regex.tokens? rest).map (p.tokens ++ ·) := by
  cases p with
  | anything =>
    simp [Part.text, anySequence, Regex.tokens?, Part.tokens, Function.comp_def]
  | segment => exact PathGroup.tokens?_noSlash rest
  | literal c => exact Regex.tokens?_writeLiteral c rest

theorem tokens?_texts (ps : List Part) (rest : List Char) :
    Regex.tokens? (ps.flatMap (Part.text anySequence segment) ++ rest) =
      (Regex.tokens? rest).map (ps.flatMap Part.tokens ++ ·) := by
  induction ps with
  | nil => simp
  | cons p ps ih =>
    rw [List.flatMap_cons, List.append_assoc, tokens?_text, ih, Option.map_map]
    simp [Function.comp_def]

/-- No part begins with a repetition, so the part in front of it is not repeated. -/
theorem isRepetition_head {tokens : List Token} (h : ∀ t ∈ tokens.head?, t.isRepetition = false)
    (ps : List Part) : ∀ t ∈ (ps.flatMap Part.tokens ++ tokens).head?, t.isRepetition = false := by
  cases ps with
  | nil => exact h
  | cons p ps =>
    cases p <;> simp [Part.tokens, Token.isRepetition, Token.literal]

theorem ofTokens?_parts {tokens : List Token} (h : ∀ t ∈ tokens.head?, t.isRepetition = false)
    (ps : List Part) :
    Regex.ofTokens? (ps.flatMap Part.tokens ++ tokens) =
      (Regex.ofTokens? tokens).map (partsThen ps) := by
  induction ps with
  | nil =>
    have hid : partsThen [] = id := rfl
    simp [hid]
  | cons p ps ih =>
    have hparts : partsThen (p :: ps) = fun r => .seq p.regex (partsThen ps r) := rfl
    rw [List.flatMap_cons, List.append_assoc, hparts]
    have hnext := isRepetition_head h ps
    generalize ps.flatMap Part.tokens ++ tokens = next at ih hnext ⊢
    cases p with
    | anything => simp [Part.tokens, Regex.ofTokens?, ih, Part.regex, Function.comp_def]
    | segment => simp [Part.tokens, Regex.ofTokens?, ih, Part.regex, Function.comp_def]
    | literal c =>
      have hliteral := Regex.ofTokens?_literals hnext [c]
      rw [ih, Option.map_map] at hliteral
      exact hliteral

/-- The text of parts between the anchors is read as the parts in a row. -/
theorem ofText?_parts (ps : List Part) :
    Regex.ofText? (String.ofList ('^' :: ps.flatMap (Part.text anySequence segment) ++ ['$'])) =
      some (.seq .start (partsThen ps (.seq .finish .empty))) := by
  have htokens := tokens?_texts ps ['$']
  have hregex := @ofTokens?_parts [.finish] (by simp [Token.isRepetition]) ps
  rw [Regex.ofText?, String.toList_ofList]
  exact PathGroup.ofChars?_anchored htokens hregex

/-- The text of a pattern is read as its parts in a row. -/
theorem ofText?_regexText {pattern : String} (h : '\x00' ∉ pattern.toList) :
    Regex.ofText? (regexText pattern) =
      some (.seq .start (partsThen (parts pattern.toList) (.seq .finish .empty))) := by
  rw [regexText, regexChars_eq h, ofText?_parts]

/-! ## Matches -/

/-- What the expression of a part takes: what the part stands for, but two stars take no line
feed. -/
def Part.Spans : Part → List Char → Prop
  | .anything, piece => '\n' ∉ piece
  | .segment, piece => PathGroup.IsSegment piece
  | .literal c, piece => piece = [c]

theorem takes_regex {size : Nat} {rest after : List Char} (p : Part) :
    p.regex.Takes size rest after ↔ ∃ piece, p.Spans piece ∧ rest = piece ++ after := by
  cases p with
  | anything =>
    have hany : ∀ piece : List Char, (∀ c ∈ piece, CharSet.any.has c = true) ↔ '\n' ∉ piece := by
      intro piece
      simp only [CharSet.has, bne_iff_ne, ne_eq]
      exact ⟨fun hne hmem => hne _ hmem rfl, fun hnot c hc heq => hnot (heq ▸ hc)⟩
    simp only [Part.regex, Regex.takes_many, Part.Spans, hany]
  | segment => exact PathGroup.takes_noSlash
  | literal c => simp [Part.regex, Part.Spans, CharSet.has]

/-- What parts in a row take is cut into pieces, one for each part. -/
theorem takes_partsThen_spans {size : Nat} {r : Regex} {ps : List Part} {rest after : List Char} :
    (partsThen ps r).Takes size rest after ↔ ∃ pieces rest',
      List.Forall₂ Part.Spans ps pieces ∧ rest = pieces.flatten ++ rest' ∧
        r.Takes size rest' after := by
  induction ps generalizing rest with
  | nil => simp
  | cons p ps ih =>
    simp only [partsThen_cons, Regex.takes_seq, takes_regex]
    constructor
    · rintro ⟨middle, ⟨piece, hpiece, rfl⟩, hmiddle⟩
      obtain ⟨pieces, rest', hpieces, rfl, hr⟩ := ih.mp hmiddle
      exact ⟨piece :: pieces, rest', .cons hpiece hpieces, by simp, hr⟩
    · rintro ⟨_, rest', hpieces, rfl, hr⟩
      cases hpieces with
      | @cons _ piece _ pieces hpiece hpieces =>
        rw [List.flatten_cons, List.append_assoc]
        exact ⟨_, ⟨piece, hpiece, rfl⟩, ih.mpr ⟨pieces, rest', hpieces, rfl, hr⟩⟩

/-- Without line feeds, what a part takes is what it stands for. -/
theorem Part.spans_iff_fits {p : Part} {piece : List Char} (h : '\n' ∉ piece) :
    p.Spans piece ↔ p.Fits piece := by
  cases p with
  | anything => exact iff_of_true h trivial
  | segment => exact .rfl
  | literal c => exact .rfl

theorem forall₂_spans_iff_fits {ps : List Part} {pieces : List (List Char)}
    (h : '\n' ∉ pieces.flatten) :
    List.Forall₂ Part.Spans ps pieces ↔ List.Forall₂ Part.Fits ps pieces := by
  induction pieces generalizing ps with
  | nil => cases ps <;> simp
  | cons piece pieces ih =>
    rw [List.flatten_cons, List.mem_append, not_or] at h
    cases ps with
    | nil => simp
    | cons p ps => rw [List.forall₂_cons, List.forall₂_cons, Part.spans_iff_fits h.1, ih h.2]

/-- In a text without line feeds, parts in a row take pieces that fit them. -/
theorem takes_partsThen {size : Nat} {r : Regex} {ps : List Part} {rest after : List Char}
    (h : '\n' ∉ rest) :
    (partsThen ps r).Takes size rest after ↔ ∃ pieces rest',
      List.Forall₂ Part.Fits ps pieces ∧ rest = pieces.flatten ++ rest' ∧
        r.Takes size rest' after := by
  rw [takes_partsThen_spans]
  refine exists_congr fun pieces => exists_congr fun rest' => ?_
  rw [and_congr_left_iff]
  rintro ⟨rfl, -⟩
  exact forall₂_spans_iff_fits fun hmem => h (List.mem_append_left _ hmem)

/-- Patterns mean what they say.  The expression of a pattern without the character zero can be
read, and it matches a path without line feeds if and only if the path can be cut into pieces, one
for each part of the pattern: anything for two stars, a segment for one star, and every other
character for itself. -/
theorem matches_iff_fits {pattern path : String} (hpattern : '\x00' ∉ pattern.toList)
    (hpath : '\n' ∉ path.toList) :
    (∃ b, matchRegex [.text path, .text (regexText pattern)] = some b) ∧
      (matchRegex [.text path, .text (regexText pattern)] = some true ↔
        Fits pattern.toList path.toList) := by
  have hmatch : matchRegex [.text path, .text (regexText pattern)] =
      some ((Regex.seq .start (partsThen (parts pattern.toList)
        (.seq .finish .empty))).matchesIn path.toList) := by
    rw [matchRegex, ofText?_regexText hpattern]
    rfl
  refine ⟨⟨_, hmatch⟩, ?_⟩
  rw [hmatch, Option.some.injEq, Regex.matchesIn_anchored]
  simp only [takes_partsThen hpath, Regex.takes_seq, Regex.takes_finish, Regex.takes_empty, Fits]
  constructor
  · rintro ⟨after, pieces, rest, hpieces, heq, middle, ⟨rfl, rfl⟩, rfl⟩
    exact ⟨pieces, hpieces, by rw [heq, List.append_nil]⟩
  · rintro ⟨pieces, hpieces, heq⟩
    exact ⟨[], pieces, [], hpieces, by rw [heq, List.append_nil], [], ⟨rfl, rfl⟩, rfl⟩

/-- Between two double stars, the letters of the marker are characters like all others. -/
theorem matches_iff_fits_doubleStar :
    matchRegex [.text "/docs/DOUBLE_STAR/a/b", .text (regexText "**DOUBLE_STAR**/*")] =
      some true := by
  refine (matches_iff_fits (by decide) (by decide)).2.mpr ?_
  have hparts : parts "**DOUBLE_STAR**/*".toList =
      .anything :: "DOUBLE_STAR".toList.map .literal ++ [.anything, .literal '/', .segment] := by
    decide
  rw [Fits, hparts]
  refine ⟨"/docs/".toList :: "DOUBLE_STAR".toList.map ([·]) ++ ["/a".toList, ['/'], ['b']], ?_, by
    decide⟩
  simp [Part.Fits, PathGroup.IsSegment]

end Wildcard

end Clickstream
