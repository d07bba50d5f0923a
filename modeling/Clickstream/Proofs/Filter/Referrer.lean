import Clickstream.Proofs.Filter.Parts
import Clickstream.Proofs.Pattern.PathGroup

/-!
# Referrers

A filter on the referrer should see the host of an address only.  An address names a host if the
host stands behind a scheme, or at the start, and goes on with a port, a path, a query or a fragment
(`NamesHost`).  In front of a host without a scheme, the optional scheme of the expression finds
nothing to take, and it does not have to be tried out whether the host is a scheme.

From every address that names a host, the expression takes this host and removes one `www.` in front
of it (`hostOf_of_namesHost`).  So addresses of one host pass the same filters
(`Filter.sees_host_only`).
-/

namespace Clickstream

open Regex (literalThen)

/-! ## Addresses -/

/-- A scheme: a letter of the ASCII alphabet, and then letters, digits, `+`, `.` and `-`. -/
def IsScheme (cs : List Char) : Prop :=
  ∃ first rest, cs = first :: rest ∧ first.isAlpha = true ∧
    ∀ c ∈ rest, c.isAlphanum = true ∨ c ∈ ['+', '.', '-']

/-- What stands between a scheme and a host. -/
def schemeMark : List Char :=
  [':', '/', '/']

/-- The characters that end a host: those in front of a path, a port, a query and a fragment. -/
def hostEnds : List Char :=
  ['/', ':', '?', '#']

/-- A host: some characters that do not end it. -/
structure IsHost (host : List Char) : Prop where
  nonempty : host ≠ []
  inside : ∀ c ∈ host, c ∉ hostEnds

/-- What may stand behind a host. -/
def IsTail (tail : List Char) : Prop :=
  ∀ c ∈ tail.head?, c ∈ hostEnds

/-- A text without a scheme and its mark at the start. -/
def HasNoScheme (text : List Char) : Prop :=
  ∀ scheme rest, IsScheme scheme → text ≠ scheme ++ schemeMark ++ rest

/-- An address names a host: behind a scheme, or at the start of a text without a scheme. -/
inductive NamesHost (host : List Char) : List Char → Prop
  | behindScheme {scheme tail : List Char} (hscheme : IsScheme scheme) (hhost : IsHost host)
    (htail : IsTail tail) : NamesHost host (scheme ++ schemeMark ++ (host ++ tail))
  | atStart {tail : List Char} (hhost : IsHost host) (htail : IsTail tail)
    (hbare : HasNoScheme (host ++ tail)) : NamesHost host (host ++ tail)

/-- The host without one `www.` in front of it. -/
def withoutWww (host : List Char) : List Char :=
  if "www.".toList <+: host then host.drop 4 else host

/-! ## Classes of characters -/

namespace Column

/-- The letters that a scheme begins with. -/
def schemeStart : CharSet :=
  .within [('A', 'Z'), ('a', 'z')]

/-- The characters of a scheme. -/
def schemeRest : CharSet :=
  .within [('A', 'Z'), ('a', 'z'), ('0', '9'), ('+', '+'), ('.', '.'), ('-', '-')]

/-- The characters of a host. -/
def hostChars : CharSet :=
  .without [('/', '/'), (':', ':'), ('?', '?'), ('#', '#')]

/-- A scheme and its mark. -/
def schemePattern : Regex :=
  .seq (.one schemeStart) (.seq (.many schemeRest) (literalThen schemeMark .empty))

theorem hostPattern_eq : hostPattern = .seq .start (.seq (.optional schemePattern)
    (.seq (.capture (.oneOrMore hostChars)) .empty)) := rfl

theorem wwwPattern_eq : wwwPattern = .seq .start (literalThen "www.".toList .empty) := rfl

theorem isUpper_iff {c : Char} : c.isUpper = true ↔ 'A' ≤ c ∧ c ≤ 'Z' :=
  decide_eq_true_iff

theorem isLower_iff {c : Char} : c.isLower = true ↔ 'a' ≤ c ∧ c ≤ 'z' := by
  have hrange : c.isLower = (decide ('a' ≤ c) && decide (c ≤ 'z')) := rfl
  rw [hrange, Bool.and_eq_true, decide_eq_true_iff, decide_eq_true_iff]

theorem isDigit_iff {c : Char} : c.isDigit = true ↔ '0' ≤ c ∧ c ≤ '9' := by
  have hrange : c.isDigit = (decide ('0' ≤ c) && decide (c ≤ '9')) := rfl
  rw [hrange, Bool.and_eq_true, decide_eq_true_iff, decide_eq_true_iff]

theorem has_schemeStart (c : Char) : schemeStart.has c = true ↔ c.isAlpha = true := by
  have halpha : c.isAlpha = (c.isUpper || c.isLower) := rfl
  rw [halpha, Bool.or_eq_true, isUpper_iff, isLower_iff]
  simp [schemeStart, CharSet.has, CharSet.inSome_eq_true]

theorem has_schemeRest (c : Char) :
    schemeRest.has c = true ↔ c.isAlphanum = true ∨ c ∈ ['+', '.', '-'] := by
  have halphanum : c.isAlphanum = (c.isAlpha || c.isDigit) := rfl
  rw [halphanum, Bool.or_eq_true, ← has_schemeStart, isDigit_iff]
  simp [schemeRest, schemeStart, CharSet.has, CharSet.inSome_eq_true, CharSet.between_self,
    or_assoc]

theorem has_hostChars (c : Char) : hostChars.has c = true ↔ c ∉ hostEnds :=
  @CharSet.has_without hostEnds c

/-! ## What the expressions take -/

/-- Only a scheme and its mark are taken for a scheme. -/
theorem takes_schemePattern {size : Nat} {rest after : List Char}
    (h : schemePattern.Takes size rest after) :
    ∃ scheme, IsScheme scheme ∧ rest = scheme ++ schemeMark ++ after := by
  obtain ⟨_, ⟨first, hfirst, rfl⟩, _, ⟨piece, hpiece, rfl⟩, hmark⟩ := h
  obtain ⟨_, rfl, rfl⟩ := PathGroup.takes_literalThen.mp hmark
  refine ⟨first :: piece, ⟨first, piece, rfl, (has_schemeStart first).mp hfirst, ?_⟩, by simp⟩
  intro c hc
  exact (has_schemeRest c).mp (hpiece c hc)

section

variable {α : Type} {size : Nat} {next : Regex.Next α} {result : α}

theorem run_literalThen {captured : Option (List Char)} {rest : List Char} {r : Regex}
    (h : Regex.run size r next captured rest = some result) (cs : List Char) :
    Regex.run size (literalThen cs r) next captured (cs ++ rest) = some result := by
  induction cs with
  | nil => exact h
  | cons c cs ih => simpa [literalThen, Regex.run, CharSet.has] using ih

/-- A scheme is taken up to its mark, which no scheme goes on with. -/
theorem run_schemePattern {captured : Option (List Char)} {scheme rest : List Char}
    (hscheme : IsScheme scheme) (h : next captured rest = some result) :
    Regex.run size schemePattern next captured (scheme ++ schemeMark ++ rest) = some result := by
  obtain ⟨first, piece, rfl, hfirst, hpiece⟩ := hscheme
  have hmark : Regex.run size (literalThen schemeMark .empty) next captured (schemeMark ++ rest) =
      some result := run_literalThen (r := .empty) h schemeMark
  have hcolon : ∀ c ∈ (schemeMark ++ rest).head?, schemeRest.has c = false := by
    rintro c ⟨⟩
    decide
  have hall : ∀ c ∈ piece, schemeRest.has c = true := fun c hc =>
    (has_schemeRest c).mpr (hpiece c hc)
  simp only [schemePattern, Regex.run, List.cons_append, List.append_assoc,
    (has_schemeStart first).mpr hfirst, if_true]
  exact Regex.runMany_append hall hcolon hmark

/-- A host is captured as a whole. -/
theorem run_host {captured : Option (List Char)} {host tail : List Char} (hhost : IsHost host)
    (htail : IsTail tail) (h : next (some host) tail = some result) :
    Regex.run size (.seq (.capture (.oneOrMore hostChars)) .empty) next captured (host ++ tail) =
      some result := by
  have hinside : ∀ c ∈ host, hostChars.has c = true := fun c hc =>
    (has_hostChars c).mpr (hhost.inside c hc)
  have hends : ∀ c ∈ tail.head?, hostChars.has c = false := by
    intro c hc
    rw [Bool.eq_false_iff, ne_eq, has_hostChars]
    exact not_not.mpr (htail c hc)
  refine Regex.run_oneOrMore hhost.nonempty hinside hends ?_
  simpa [Regex.run] using h

/-- A text without a scheme at its start is not tried out as one. -/
theorem run_schemePattern_of_hasNoScheme {captured : Option (List Char)} {rest : List Char}
    (hbare : HasNoScheme rest) : Regex.run size schemePattern next captured rest = none := by
  refine Regex.run_eq_none fun after htakes => ?_
  obtain ⟨scheme, hscheme, heq⟩ := takes_schemePattern htakes
  exact hbare scheme after hscheme heq

end

/-! ## The host of an address -/

/-- The host of an address is found where the address names it. -/
theorem extract_hostPattern {host url : List Char} (h : NamesHost host url) :
    hostPattern.extract url = host := by
  have hfound : ∃ after, hostPattern.search url = some ⟨[], some host, after⟩ := by
    rw [hostPattern_eq]
    cases h with
    | @behindScheme scheme tail hscheme hhost htail =>
      refine ⟨tail, Regex.search_anchored (Regex.run_optional ?_)⟩
      exact run_schemePattern hscheme (run_host hhost htail rfl)
    | @atStart tail hhost htail hbare =>
      refine ⟨tail, Regex.search_anchored ((Regex.run_optional_of_none ?_).trans ?_)⟩
      · exact run_schemePattern_of_hasNoScheme hbare
      · exact run_host hhost htail rfl
  obtain ⟨after, hfound⟩ := hfound
  rw [Regex.extract, hfound]
  rfl

/-- One `www.` is removed, and only from the start. -/
theorem removeFirst_wwwPattern (host : List Char) :
    wwwPattern.removeFirst host = withoutWww host := by
  rw [wwwPattern_eq, withoutWww, Regex.removeFirst]
  by_cases hwww : "www.".toList <+: host
  · rw [if_pos hwww]
    obtain ⟨rest, rfl⟩ := hwww
    rw [Regex.search_anchored (run_literalThen rfl _)]
    rfl
  · have hnone : Regex.search (.seq .start (literalThen "www.".toList .empty)) host = none := by
      rw [← Option.not_isSome_iff_eq_none]
      intro hfound
      obtain ⟨after, htakes⟩ := Regex.matchesIn_anchored.mp hfound
      obtain ⟨rest, heq, -⟩ := PathGroup.takes_literalThen.mp htakes
      exact hwww ⟨rest, heq.symm⟩
    rw [hnone, if_neg hwww]

end Column

theorem Event.hostOf_of_namesHost {host : List Char} {url : String}
    (h : NamesHost host url.toList) : hostOf url = String.ofList (withoutWww host) := by
  rw [hostOf, Column.extract_hostPattern h, Column.removeFirst_wwwPattern]

namespace Filter

/-- A filter on the referrer sees the host that an address names, without one `www.` in front of
it.  So it lets the events of two addresses pass alike if they differ in the scheme, in the port, in
the path, in the query and in the fragment only. -/
theorem sees_host_only [ZoneDatabase] {range : TimeRangeSpec} {now : Moment} {time : Fragment}
    (htime : range.compile now = .ok time) (kind : FilterKind) (values : List String) (site : Int)
    (host : List Char) :
    (∀ (e : Event) (url : String), e.attributes .referrer = some url →
      NamesHost host url.toList →
        e.cell .referrerDomain = .text (String.ofList (withoutWww host))) ∧
    ∃ f, compile Strategy.standard [⟨"referrer", kind, values⟩] (.int site) time.condition = .ok f ∧
      ∀ (db db' : Database) (e e' : Event) (url url' : String),
        e.attributes .referrer = some url → e'.attributes .referrer = some url' →
        NamesHost host url.toList → NamesHost host url'.toList →
          Clickstream.passes db e.cell f.condition =
            Clickstream.passes db' e'.cell f.condition := by
  have hcell : ∀ (e : Event) (url : String), e.attributes .referrer = some url →
      NamesHost host url.toList →
        e.cell .referrerDomain = Cell.ofText? (some (String.ofList (withoutWww host))) := by
    intro e url hurl hhost
    rw [Event.cell, hurl, Option.map_some, Event.hostOf_of_namesHost hhost]
  have hstrategy : Strategy.resolve Strategy.standard "referrer" =
    .ok (.column .referrerDomain) := rfl
  obtain ⟨hwindow, -⟩ := TimeRange.renders_window htime
  obtain ⟨f, hf, hpasses⟩ := exists_compile_column hwindow hstrategy kind values site
  refine ⟨hcell, f, hf, ?_⟩
  intro db db' e e' url url' hurl hurl' hhost hhost'
  rw [hpasses db _ _ (hcell e url hurl hhost), hpasses db' _ _ (hcell e' url' hurl' hhost')]

/-- A visit that an address refers to. -/
def referredVisit (url : String) : Event :=
  { Request.visit 1 Request.hourEnd with
    attributes := fun a => if a = .referrer then some url else none }

/-- An address with a scheme, a port and all else passes like one that has none of these. -/
theorem sees_host_only_ported :
    ∃ time f, Request.withoutSignup.range.compile Request.withoutSignup.now = .ok time ∧
      compile Strategy.standard [⟨"referrer", .equals, ["example.com"]⟩] (.int 1) time.condition =
        .ok f ∧
      (referredVisit "https://www.example.com:8080/a?b#c").cell .referrerDomain =
        .text "example.com" ∧
      Clickstream.passes ⟨[], Request.hourEnd⟩
          (referredVisit "https://www.example.com:8080/a?b#c").cell f.condition =
        Clickstream.passes ⟨[], Request.hourEnd⟩ (referredVisit "www.example.com/x").cell
          f.condition := by
  obtain ⟨time, -, htime, -⟩ := Request.withoutSignup_compile
  have hhost : IsHost "www.example.com".toList := ⟨by decide, by simp [hostEnds]⟩
  have hport : IsTail ":8080/a?b#c".toList := by simp [IsTail, hostEnds]
  have hpath : IsTail "/x".toList := by simp [IsTail, hostEnds]
  have hscheme : IsScheme "https".toList := ⟨'h', "ttps".toList, rfl, rfl, by simp⟩
  have hbare : HasNoScheme ("www.example.com".toList ++ "/x".toList) := by
    intro scheme rest _ heq
    have hcolon : ':' ∈ scheme ++ schemeMark ++ rest := by simp [schemeMark]
    rw [← heq] at hcolon
    exact absurd hcolon (by decide)
  have hported : NamesHost "www.example.com".toList "https://www.example.com:8080/a?b#c".toList :=
    .behindScheme hscheme hhost hport
  have hstart : NamesHost "www.example.com".toList "www.example.com/x".toList :=
    .atStart hhost hpath hbare
  obtain ⟨hcell, f, hf, hpasses⟩ :=
    sees_host_only htime .equals ["example.com"] 1 "www.example.com".toList
  exact ⟨time, f, htime, hf, hcell _ _ rfl hported, hpasses _ _ _ _ _ _ rfl rfl hported hstart⟩

end Filter

end Clickstream
