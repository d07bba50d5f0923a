import Mathlib.Data.List.Basic
import Clickstream.Event.Meaning
import Clickstream.Pattern.Wildcard
import Clickstream.Proofs.Outcome
import Clickstream.Proofs.Pattern.Matching

/-!
# Expressions of path groups

The text of the expression for a path group can be read: it is an anchor, the characters of the
path, as many segments as the group is deep, and an anchor again if there is a depth
(`ofText?_regexText`).  A path is taken literally whatever its characters are, since every
metacharacter in it stands behind a backslash (`tokens?_literals`).

So a group is what its name says: all texts that begin with its path, or those that consist of the
path and of exactly as many segments as the group is deep (`matches_iff_deeper`).
-/

namespace Clickstream

namespace Regex

/-! ## Literal characters -/

/-- Some characters, then another expression. -/
def literalThen (cs : List Char) (r : Regex) : Regex :=
  cs.foldr (fun c r => .seq (.one (.only c)) r) r

/-- The unit of a literal character. -/
def Token.literal (c : Char) : Token :=
  .set (.only c)

/-- A repetition belongs to what stands before it. -/
def Token.isRepetition : Token → Bool
  | .star | .plus => true
  | _ => false

theorem tokens?_writeLiteral (c : Char) (rest : List Char) :
    tokens? (writeLiteral c ++ rest) = (tokens? rest).map (.literal c :: ·) := by
  unfold writeLiteral
  split
  · rfl
  · next hmeta =>
    rw [List.singleton_append, tokens?.eq_def]
    -- All but the last way to read a character ask for a metacharacter.
    split <;> rename_i heq <;> cases heq
    case h_9.refl =>
      rw [if_neg hmeta]
      rfl
    all_goals exact absurd rfl hmeta

theorem tokens?_literals (cs rest : List Char) :
    tokens? (cs.flatMap writeLiteral ++ rest) =
      (tokens? rest).map (cs.map .literal ++ ·) := by
  induction cs with
  | nil => simp
  | cons c cs ih =>
    rw [List.flatMap_cons, List.append_assoc, tokens?_writeLiteral, ih, Option.map_map]
    rfl

/-- A character that is not repeated stands for itself. -/
theorem ofTokens?_literals {tokens : List Token}
    (h : ∀ t ∈ tokens.head?, t.isRepetition = false) (cs : List Char) :
    ofTokens? (cs.map .literal ++ tokens) = (ofTokens? tokens).map (literalThen cs) := by
  induction cs with
  | nil =>
    have hid : literalThen [] = id := rfl
    simp [hid]
  | cons c cs ih =>
    have hnext : ∀ t ∈ (cs.map Token.literal ++ tokens).head?, t.isRepetition = false := by
      cases cs with
      | nil => exact h
      | cons d cs =>
        rintro t ⟨⟩
        rfl
    rw [List.map_cons, List.cons_append]
    generalize cs.map Token.literal ++ tokens = next at ih hnext
    rw [Token.literal, ofTokens?.eq_def]
    -- Of the ways to read a class two ask for a repetition behind it.
    split <;> rename_i heq <;> cases heq
    case h_4.refl =>
      rw [ih, Option.map_map]
      rfl
    all_goals
      have hrepetition := hnext _ rfl
      cases hrepetition

/-- The start of a text is found in every text. -/
theorem matchesIn_start (text : List Char) : (seq .start .empty).matchesIn text = true := by
  cases text <;> simp [matchesIn, search, searchFrom, run]

end Regex

namespace PathGroup

open Regex (Token literalThen)

/-- A path with one slash at its end removed. -/
def trimmed (path : List Char) : List Char :=
  if path.getLast? = some '/' then path.dropLast else path

/-- Every character but the slash. -/
def noSlash : CharSet :=
  .without [('/', '/')]

/-- Some segments, then another expression. -/
def segmentsThen : Nat → Regex → Regex
  | 0, r => r
  | depth + 1, r =>
    .seq (.one (.only '/')) (.seq (Regex.oneOrMore noSlash) (segmentsThen depth r))

/-- The expression of a group. -/
def regex (path : List Char) : Option Nat → Regex
  | none => .seq .start (literalThen (trimmed path) .empty)
  | some depth =>
    .seq .start (literalThen (trimmed path) (segmentsThen depth (.seq .finish .empty)))

/-! ## Paths -/

theorem getLast?_writeLiteral (c : Char) : (Regex.writeLiteral c).getLast? = some c := by
  unfold Regex.writeLiteral
  split <;> rfl

/-- The slash is no metacharacter, so it can be removed before or after the others are escaped. -/
theorem escapePath_eq (path : List Char) :
    escapePath path = (trimmed path).flatMap Regex.writeLiteral := by
  rcases List.eq_nil_or_concat path with rfl | ⟨init, c, rfl⟩
  · rfl
  · rw [List.concat_eq_append]
    have hlast : ((init ++ [c]).flatMap Regex.writeLiteral).getLast? = some c := by
      simp [List.flatMap_append, getLast?_writeLiteral]
    have hpath : (init ++ [c]).getLast? = some c := by simp
    by_cases hc : c = '/'
    · subst hc
      have hslash : Regex.writeLiteral '/' = ['/'] := by decide
      simp only [escapePath, hlast, trimmed, hpath, if_true, List.dropLast_concat]
      simp [List.flatMap_append, hslash]
    · have hne : some c ≠ some '/' := by simpa using hc
      simp only [escapePath, hlast, trimmed, hpath, if_neg hne]

/-! ## Segments -/

/-- The units of a segment. -/
def segmentTokens : List Token :=
  [.literal '/', .set noSlash, .plus]

theorem tokens?_noSlash (rest : List Char) :
    Regex.tokens? (Wildcard.segment ++ rest) =
      (Regex.tokens? rest).map ([.set noSlash, .plus] ++ ·) := by
  simp [Wildcard.segment, Regex.tokens?, noSlash, Function.comp_def]

theorem tokens?_segment (rest : List Char) :
    Regex.tokens? ('/' :: Wildcard.segment ++ rest) =
      (Regex.tokens? rest).map (segmentTokens ++ ·) := by
  have hslash : Regex.writeLiteral '/' = ['/'] := by decide
  have hliteral := Regex.tokens?_writeLiteral '/' (Wildcard.segment ++ rest)
  rw [hslash, tokens?_noSlash, Option.map_map] at hliteral
  exact hliteral

theorem ofTokens?_segment (tokens : List Token) :
    Regex.ofTokens? (segmentTokens ++ tokens) = (Regex.ofTokens? tokens).map fun r =>
      .seq (.one (.only '/')) (.seq (Regex.oneOrMore noSlash) r) := by
  simp [segmentTokens, Token.literal, Regex.ofTokens?, Function.comp_def]

theorem tokens?_segments (depth : Nat) (rest : List Char) :
    Regex.tokens? ((List.replicate depth ('/' :: Wildcard.segment)).flatten ++ rest) =
      (Regex.tokens? rest).map ((List.replicate depth segmentTokens).flatten ++ ·) := by
  induction depth with
  | zero => simp
  | succ depth ih =>
    rw [List.replicate_succ, List.flatten_cons, List.append_assoc, tokens?_segment, ih,
      Option.map_map]
    rfl

theorem ofTokens?_segments (depth : Nat) (tokens : List Token) :
    Regex.ofTokens? ((List.replicate depth segmentTokens).flatten ++ tokens) =
      (Regex.ofTokens? tokens).map (segmentsThen depth) := by
  induction depth with
  | zero =>
    have hid : segmentsThen 0 = id := rfl
    simp [hid]
  | succ depth ih =>
    rw [List.replicate_succ, List.flatten_cons, List.append_assoc, ofTokens?_segment, ih,
      Option.map_map]
    rfl

/-! ## Groups -/

/-- An expression that begins at the start of the text. -/
theorem ofChars?_anchored {cs : List Char} {tokens : List Token} {r : Regex}
    (htokens : Regex.tokens? cs = some tokens) (hregex : Regex.ofTokens? tokens = some r) :
    (Regex.tokens? ('^' :: cs)).bind Regex.ofTokens? = some (.seq .start r) := by
  rw [Regex.tokens?, htokens]
  show (Regex.ofTokens? tokens).map (Regex.seq .start) = _
  rw [hregex]
  rfl

/-- The characters of a group are read as its expression. -/
theorem ofChars?_regexChars (path : List Char) (depth : Option Nat) :
    (Regex.tokens? (regexChars path depth)).bind Regex.ofTokens? = some (regex path depth) := by
  cases depth with
  | none =>
    have htokens := Regex.tokens?_literals (trimmed path) []
    have hregex := @Regex.ofTokens?_literals [] nofun (trimmed path)
    rw [regexChars, escapePath_eq]
    rw [List.append_nil] at htokens
    exact ofChars?_anchored htokens hregex
  | some depth =>
    have htokens := Regex.tokens?_literals (trimmed path)
      ((List.replicate depth ('/' :: Wildcard.segment)).flatten ++ ['$'])
    have hfinish : Regex.tokens? ['$'] = some [.finish] := rfl
    -- A segment and the last anchor are no repetitions, so the path in front of them stays literal.
    have hnext : ∀ t ∈ ((List.replicate depth segmentTokens).flatten ++ [Token.finish]).head?,
        t.isRepetition = false := by
      cases depth with
      | zero =>
        rintro t ⟨⟩
        rfl
      | succ depth =>
        rintro t ⟨⟩
        rfl
    have hregex := Regex.ofTokens?_literals hnext (trimmed path)
    rw [tokens?_segments, hfinish] at htokens
    rw [ofTokens?_segments] at hregex
    rw [regexChars, escapePath_eq, List.cons_append, List.cons_append, List.append_assoc]
    exact ofChars?_anchored htokens hregex

/-- The text of a group is read as its expression. -/
theorem ofText?_regexText {path : String} {depth : Value} {d : Option Nat} {text : String}
    (hdepth : readDepth depth = .ok d) (h : regexText path depth = .ok text) :
    Regex.ofText? text = some (regex path.toList d) := by
  rw [regexText, hdepth] at h
  obtain ⟨_, ⟨⟩, rfl⟩ := Outcome.map_eq_ok.mp h
  rw [Regex.ofText?, String.toList_ofList]
  exact ofChars?_regexChars path.toList d

/-! ## Members -/

/-- A segment of a path. -/
def IsSegment (cs : List Char) : Prop :=
  cs ≠ [] ∧ '/' ∉ cs

theorem has_noSlash (c : Char) : noSlash.has c = true ↔ c ≠ '/' := by
  have hnot := @CharSet.has_without ['/'] c
  rwa [List.mem_singleton] at hnot

section

variable {size : Nat} {rest after : List Char}

theorem takes_noSlash : (Regex.oneOrMore noSlash).Takes size rest after ↔
    ∃ segment, IsSegment segment ∧ rest = segment ++ after := by
  have hall : ∀ cs : List Char, (∀ c ∈ cs, noSlash.has c = true) ↔ '/' ∉ cs := by
    intro cs
    simp only [has_noSlash]
    exact ⟨fun hne hmem => hne _ hmem rfl, fun hnot c hc heq => hnot (heq ▸ hc)⟩
  simp only [Regex.takes_oneOrMore, IsSegment, hall, and_assoc]

theorem takes_literalThen {cs : List Char} {r : Regex} :
    (literalThen cs r).Takes size rest after ↔
      ∃ rest', rest = cs ++ rest' ∧ r.Takes size rest' after := by
  induction cs generalizing rest with
  | nil => simp [literalThen]
  | cons c cs ih =>
    have hcons : literalThen (c :: cs) r = .seq (.one (.only c)) (literalThen cs r) := rfl
    simp [hcons, ih, CharSet.has]

theorem takes_segmentsThen {depth : Nat} {r : Regex} :
    (segmentsThen depth r).Takes size rest after ↔ ∃ segments : List (List Char), ∃ rest',
      segments.length = depth ∧ (∀ segment ∈ segments, IsSegment segment) ∧
        rest = segments.flatMap ('/' :: ·) ++ rest' ∧ r.Takes size rest' after := by
  induction depth generalizing rest with
  | zero => simp [segmentsThen]
  | succ depth ih =>
    simp only [segmentsThen, Regex.takes_seq, Regex.takes_one, takes_noSlash, ih]
    constructor
    · rintro ⟨_, ⟨c, hc, rfl⟩, _, ⟨segment, hsegment, rfl⟩, segments, rest', rfl, hall, rfl, hr⟩
      obtain rfl : c = '/' := by simpa [CharSet.has] using hc
      refine ⟨segment :: segments, rest', rfl, ?_, by simp, hr⟩
      exact List.forall_mem_cons.mpr ⟨hsegment, hall⟩
    · rintro ⟨segments, rest', hlength, hall, rfl, hr⟩
      cases segments with
      | nil => cases hlength
      | cons segment segments =>
        obtain ⟨hsegment, hall⟩ := List.forall_mem_cons.mp hall
        have hsplit : (segment :: segments).flatMap ('/' :: ·) ++ rest' =
            '/' :: (segment ++ (segments.flatMap ('/' :: ·) ++ rest')) := by simp
        exact ⟨_, ⟨'/', by simp [CharSet.has], hsplit⟩, _, ⟨segment, hsegment, rfl⟩, segments, rest',
          Nat.succ.inj hlength, hall, rfl, hr⟩

end

/-- The text of a group is matched as its expression. -/
theorem matchRegex_regexText {path : String} {depth : Value} {d : Option Nat}
    (hdepth : readDepth depth = .ok d) (s : String) :
    ∃ text, regexText path depth = .ok text ∧ matchRegex [.text s, .text text] =
      some ((regex path.toList d).matchesIn s.toList) := by
  have htext : regexText path depth = .ok (String.ofList (regexChars path.toList d)) := by
    rw [regexText, hdepth]
    rfl
  refine ⟨_, htext, ?_⟩
  rw [matchRegex, ofText?_regexText hdepth htext]
  rfl

/-- A group of pages is what its name says.  Let the path of the group lose one slash at its end.
Without a depth, the group has the texts that begin with this path; with a depth, it has those that
consist of the path and of as many segments, each behind a slash. -/
theorem matches_iff_deeper (path s : String) :
    (∃ text, regexText path .null = .ok text ∧
      (matchRegex [.text s, .text text] = some true ↔ trimmed path.toList <+: s.toList)) ∧
    ∀ depth : Nat, 1 ≤ depth → ∃ text, regexText path (.int depth) = .ok text ∧
      (matchRegex [.text s, .text text] = some true ↔ ∃ segments : List (List Char),
        segments.length = depth ∧ (∀ segment ∈ segments, IsSegment segment) ∧
          s.toList = trimmed path.toList ++ segments.flatMap ('/' :: ·)) := by
  constructor
  · obtain ⟨text, htext, hmatch⟩ := @matchRegex_regexText path .null none rfl s
    refine ⟨text, htext, ?_⟩
    rw [hmatch, Option.some.injEq, regex, Regex.matchesIn_anchored]
    simp only [takes_literalThen, Regex.takes_empty]
    constructor
    · rintro ⟨after, rest, heq, rfl⟩
      exact ⟨rest, heq.symm⟩
    · rintro ⟨rest, heq⟩
      exact ⟨rest, rest, heq.symm, rfl⟩
  · intro depth hdepth
    have hread : readDepth (.int depth) = .ok (some depth) := by
      rw [readDepth, if_pos (by omega), Int.toNat_natCast]
    obtain ⟨text, htext, hmatch⟩ := @matchRegex_regexText path _ _ hread s
    refine ⟨text, htext, ?_⟩
    rw [hmatch, Option.some.injEq, regex, Regex.matchesIn_anchored]
    simp only [takes_literalThen, takes_segmentsThen, Regex.takes_seq, Regex.takes_finish,
      Regex.takes_empty]
    constructor
    · rintro ⟨_, _, heq, segments, _, hlength, hall, rfl, _, ⟨rfl, rfl⟩, rfl⟩
      exact ⟨segments, hlength, hall, by rw [heq, List.append_nil]⟩
    · rintro ⟨segments, hlength, hall, heq⟩
      exact ⟨[], _, heq, segments, [], hlength, hall, (List.append_nil _).symm, [], ⟨rfl, rfl⟩, rfl⟩

/-- The path of a group may end in a metacharacter, and a segment may hold a line feed. -/
theorem matches_iff_deeper_backslash : 1 ≤ 1 ∧ ∃ text, regexText "/a\\/" (.int 1) = .ok text ∧
    matchRegex [.text "/a\\/b\nc", .text text] = some true := by
  refine ⟨Nat.le_refl 1, ?_⟩
  obtain ⟨text, htext, hmatch⟩ := (matches_iff_deeper "/a\\/" "/a\\/b\nc").2 1 (Nat.le_refl 1)
  refine ⟨text, htext, hmatch.mpr ⟨["b\nc".toList], rfl, ?_, by decide⟩⟩
  simp [IsSegment]

end PathGroup

end Clickstream
