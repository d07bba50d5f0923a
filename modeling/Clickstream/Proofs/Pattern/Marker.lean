import Clickstream.Proofs.Pattern.Wildcard

/-!
# Patterns without stars

A pattern without stars should select the path that it spells, and nothing else.  But while single
stars are expanded, double stars are kept as a marker in the text of the expression, and a pattern
may hold the marker itself.  Then it is taken for two stars.

Escaping neither makes nor breaks a marker, since no character of the marker is escaped
(`prefix_literals_iff`).  So the expression of a pattern without stars is that of its characters,
with every marker read as two stars (`markedParts`, `regexChars_of_noStar`).  The pattern selects
the path that it spells and no other if and only if it holds no marker (`exact_unless_marked`).
-/

namespace Clickstream.Wildcard

/-! ## Markers in a pattern -/

/-- Reads a pattern without stars from the left: a whole marker counts as two stars, and every other
character is itself. -/
def markedParts : List Char → List Part
  | [] => []
  | c :: rest =>
    if marker <+: c :: rest then .anything :: markedParts (rest.drop (marker.length - 1))
    else .literal c :: markedParts rest
termination_by pattern => pattern.length
decreasing_by
  · simp only [List.length_drop, List.length_cons]
    omega
  · simp

theorem markedParts_marker_append (rest : List Char) :
    markedParts (marker ++ rest) = .anything :: markedParts rest := by
  have hmarker : marker = '\x00' :: marker.tail := rfl
  have hdrop : (marker.tail ++ rest).drop (marker.length - 1) = rest := List.drop_left' rfl
  rw [hmarker, List.cons_append, markedParts, if_pos (by rw [hmarker]; exact ⟨rest, rfl⟩), hdrop]

theorem markedParts_cons_of_not {c : Char} {rest : List Char} (h : ¬ marker <+: c :: rest) :
    markedParts (c :: rest) = .literal c :: markedParts rest := by
  rw [markedParts, if_neg h]

/-- A pattern is nothing, a marker in front of a pattern, or another character in front of one. -/
theorem marked_induction {P : List Char → Prop} (nil : P [])
    (mark : ∀ rest, P rest → P (marker ++ rest))
    (other : ∀ c rest, ¬ marker <+: c :: rest → P rest → P (c :: rest)) (pattern : List Char) :
    P pattern := by
  fun_induction markedParts pattern with
  | case1 => exact nil
  | case2 c rest hbegins ih =>
    obtain ⟨rest', heq⟩ := hbegins
    have hrest : rest' = rest.drop (marker.length - 1) := by
      rw [← @List.drop_left' _ marker rest' _ rfl, heq]
      rfl
    rw [← heq, hrest]
    exact mark _ ih
  | case3 c rest hbegins ih => exact other c rest hbegins ih

/-- Without a marker, all parts are characters. -/
theorem markedParts_of_notInfix {pattern : List Char} (h : ¬ marker <:+: pattern) :
    markedParts pattern = pattern.map .literal := by
  induction pattern using marked_induction with
  | nil => simp [markedParts]
  | mark rest => exact absurd (List.prefix_append marker rest).isInfix h
  | other c rest hbegins ih =>
    have hrest : ¬ marker <:+: rest := fun hmarked =>
      h (hmarked.trans (List.suffix_cons c rest).isInfix)
    rw [markedParts_cons_of_not hbegins, ih hrest, List.map_cons]

theorem anything_mem_markedParts {pattern : List Char} (h : marker <:+: pattern) :
    .anything ∈ markedParts pattern := by
  induction pattern using marked_induction with
  | nil => exact absurd h (by decide)
  | mark rest => simp [markedParts_marker_append]
  | other c rest hbegins ih =>
    rw [markedParts_cons_of_not hbegins]
    exact List.mem_cons_of_mem _ (ih ((List.infix_cons_iff.mp h).resolve_left hbegins))

/-! ## The expression -/

/-- Escaping leaves a text alone that holds no metacharacter, and makes no other text begin with
it. -/
theorem prefix_literals_iff {text : List Char} (h : ∀ c ∈ text, isMetacharacter c = false)
    (cs : List Char) : text <+: cs.flatMap Regex.writeLiteral ↔ text <+: cs := by
  induction text generalizing cs with
  | nil => simp
  | cons d text ih =>
    obtain ⟨hd, htext⟩ := List.forall_mem_cons.mp h
    cases cs with
    | nil => simp
    | cons c cs =>
      by_cases hc : isMetacharacter c = true
      · have hslash : d ≠ '\\' := by
          rintro rfl
          cases hd
        have hne : d ≠ c := by
          rintro rfl
          rw [hc] at hd
          cases hd
        simp [Regex.writeLiteral, hc, hslash, hne]
      · rw [List.flatMap_cons, Regex.writeLiteral, if_neg hc, List.singleton_append,
          List.cons_prefix_cons, List.cons_prefix_cons, ih htext]

theorem isMetacharacter_marker : ∀ c ∈ marker, isMetacharacter c = false := by
  have hall : marker.all (fun c => !isMetacharacter c) = true := by decide
  simpa only [List.all_eq_true, Bool.not_eq_true'] using hall

theorem flatMap_marker : marker.flatMap Regex.writeLiteral = marker := by decide

/-- In the text of literal characters, every marker is replaced, from the left. -/
theorem replaceAll_marker_literals (new pattern : List Char) :
    replaceAll marker new (pattern.flatMap Regex.writeLiteral) =
      (markedParts pattern).flatMap (Part.text new segment) := by
  induction pattern using marked_induction with
  | nil =>
    rw [markedParts]
    rfl
  | mark rest ih =>
    rw [List.flatMap_append, flatMap_marker, replaceAll_self_append (by decide), ih,
      markedParts_marker_append, List.flatMap_cons]
    rfl
  | other c rest hbegins ih =>
    have hliteral : replaceAll marker new (Regex.writeLiteral c ++
        rest.flatMap Regex.writeLiteral) = Regex.writeLiteral c ++
          replaceAll marker new (rest.flatMap Regex.writeLiteral) := by
      by_cases hc : c = '\x00'
      · subst hc
        have hnot : marker.isPrefixOf ('\x00' :: rest.flatMap Regex.writeLiteral) = false := by
          rw [← prefix_literals_iff isMetacharacter_marker] at hbegins
          exact Bool.eq_false_iff.mpr fun h => hbegins (List.isPrefixOf_iff_prefix.mp h)
        exact replaceAll_cons_of_not hnot new
      · exact replaceAll_append_of_notMem (notMem_writeLiteral (Ne.symm hc) (by decide)) _ new _
    rw [List.flatMap_cons, hliteral, ih, markedParts_cons_of_not hbegins, List.flatMap_cons]
    rfl

/-- The expression of a pattern without stars is that of its characters between the anchors, with
every marker as two stars. -/
theorem regexChars_of_noStar {pattern : List Char} (h : '*' ∉ pattern) :
    regexChars pattern =
      '^' :: (markedParts pattern).flatMap (Part.text anySequence segment) ++ ['$'] := by
  have hescape : escape pattern = pattern.flatMap Regex.writeLiteral := by
    refine List.flatMap_congr fun c hc => if_neg ?_
    rintro rfl
    exact h hc
  have hstar : '*' ∉ pattern.flatMap Regex.writeLiteral := by
    rw [List.mem_flatMap]
    rintro ⟨c, hc, hmem⟩
    have hne : '*' ≠ c := by
      rintro rfl
      exact h hc
    exact notMem_writeLiteral hne (by decide) hmem
  have hkeep : ∀ old new : List Char, replaceAll ('*' :: old) new
      (pattern.flatMap Regex.writeLiteral) = pattern.flatMap Regex.writeLiteral := by
    intro old new
    have hall := replaceAll_append_of_notMem hstar old new []
    have hnil : replaceAll ('*' :: old) new [] = [] := rfl
    rwa [hnil, List.append_nil] at hall
  rw [regexChars, hescape, hkeep, hkeep, replaceAll_marker_literals]

/-- A pattern without stars is matched as its parts, with every marker as two stars. -/
theorem matchRegex_of_noStar {pattern : String} (h : '*' ∉ pattern.toList) (path : String) :
    matchRegex [.text path, .text (regexText pattern)] =
      some ((Regex.seq .start (partsThen (markedParts pattern.toList)
        (.seq .finish .empty))).matchesIn path.toList) := by
  rw [matchRegex, regexText, regexChars_of_noStar h, ofText?_parts]
  rfl

/-! ## The paths that are selected -/

/-- The path can be cut into pieces, one for each character of the pattern and one without line
feeds for each marker. -/
def SpansMarked (pattern path : List Char) : Prop :=
  ∃ pieces, List.Forall₂ Part.Spans (markedParts pattern) pieces ∧ path = pieces.flatten

/-- Literal parts spell the characters. -/
theorem forall₂_spans_literals {cs : List Char} {pieces : List (List Char)} :
    List.Forall₂ Part.Spans (cs.map .literal) pieces ↔ pieces = cs.map ([·]) := by
  induction cs generalizing pieces with
  | nil => simp
  | cons c cs ih =>
    cases pieces with
    | nil => simp
    | cons piece pieces => simp [ih, Part.Spans]

/-- A pattern without a marker spans the path that it spells. -/
theorem spansMarked_iff_of_notInfix {pattern path : List Char} (h : ¬ marker <:+: pattern) :
    SpansMarked pattern path ↔ path = pattern := by
  simp only [SpansMarked, markedParts_of_notInfix h, forall₂_spans_literals, exists_eq_left]
  rw [← List.flatMap_def, List.flatMap_singleton']

/-- A piece for every part, with the same text for all markers. -/
def Part.piece (gap : List Char) : Part → List Char
  | .anything => gap
  | .segment => ['-']
  | .literal c => [c]

theorem spansMarked_pieces {gap : List Char} (h : '\n' ∉ gap) (pattern : List Char) :
    SpansMarked pattern ((markedParts pattern).flatMap (Part.piece gap)) := by
  refine ⟨(markedParts pattern).map (Part.piece gap), ?_, List.flatMap_def⟩
  rw [List.forall₂_map_right_iff, List.forall₂_same]
  intro p _
  cases p with
  | anything => exact h
  | segment => simp [Part.Spans, Part.piece, PathGroup.IsSegment]
  | literal c => rfl

/-- Every marker makes a path longer by the text in its place. -/
theorem length_flatMap_piece (ps : List Part) : (ps.flatMap (Part.piece ['-'])).length =
    (ps.flatMap (Part.piece [])).length + ps.count .anything := by
  induction ps with
  | nil => rfl
  | cons p ps ih => cases p <;> simp [Part.piece, ih] <;> omega

/-- With a marker, there is more than one path. -/
theorem exists_spansMarked_ne {pattern : List Char} (h : marker <:+: pattern) :
    ∃ path, SpansMarked pattern path ∧ path ≠ pattern := by
  by_contra hnone
  have honly : ∀ path, SpansMarked pattern path → path = pattern := by
    intro path hpath
    by_contra hne
    exact hnone ⟨path, hpath, hne⟩
  have hshort := honly _ (@spansMarked_pieces [] (by simp) pattern)
  have hlong := honly _ (@spansMarked_pieces ['-'] (by simp) pattern)
  have hcount := length_flatMap_piece (markedParts pattern)
  have hpos := List.count_pos_iff.mpr (anything_mem_markedParts h)
  rw [hshort, hlong] at hcount
  omega

/-- A pattern without stars selects the paths that it spans. -/
theorem matchRegex_iff_spansMarked {pattern : String} (h : '*' ∉ pattern.toList) (path : String) :
    matchRegex [.text path, .text (regexText pattern)] = some true ↔
      SpansMarked pattern.toList path.toList := by
  rw [matchRegex_of_noStar h, Option.some.injEq, Regex.matchesIn_anchored]
  simp only [takes_partsThen_spans, Regex.takes_seq, Regex.takes_finish, Regex.takes_empty,
    SpansMarked]
  constructor
  · rintro ⟨_, pieces, _, hpieces, heq, _, ⟨rfl, rfl⟩, rfl⟩
    exact ⟨pieces, hpieces, by rw [heq, List.append_nil]⟩
  · rintro ⟨pieces, hpieces, heq⟩
    exact ⟨[], pieces, [], hpieces, by rw [heq, List.append_nil], [], ⟨rfl, rfl⟩, rfl⟩

/-- What a pattern without stars selects.  Its expression can be read, and it matches a path if and
only if the path can be cut into the characters of the pattern, with any text without line feeds in
the place of each marker.  The path that the pattern spells is the only one if and only if the
pattern holds no marker. -/
theorem exact_unless_marked {pattern : String} (h : '*' ∉ pattern.toList) :
    (∀ path : String, ∃ b, matchRegex [.text path, .text (regexText pattern)] = some b) ∧
    (∀ path : String, matchRegex [.text path, .text (regexText pattern)] = some true ↔
      SpansMarked pattern.toList path.toList) ∧
    ((∀ path : String, matchRegex [.text path, .text (regexText pattern)] = some true ↔
      path = pattern) ↔ ¬ marker <:+: pattern.toList) := by
  refine ⟨fun path => ⟨_, matchRegex_of_noStar h path⟩, matchRegex_iff_spansMarked h, ?_⟩
  simp only [matchRegex_iff_spansMarked h]
  constructor
  · intro hexact hmarked
    obtain ⟨path, hpath, hne⟩ := exists_spansMarked_ne hmarked
    have heq := (hexact (String.ofList path)).mp (by rwa [String.toList_ofList])
    exact hne (by rw [← heq, String.toList_ofList])
  · intro hmarked path
    rw [spansMarked_iff_of_notInfix hmarked, String.toList_inj]

/-- Of two markers that overlap, the first one takes any text, and the rest of the second one is
itself. -/
theorem exact_unless_marked_overlapping :
    '*' ∉ "/a+\x00DOUBLE_STAR\x00DOUBLE_STAR\x00".toList ∧
    matchRegex [.text "/a+/bDOUBLE_STAR\x00",
      .text (regexText "/a+\x00DOUBLE_STAR\x00DOUBLE_STAR\x00")] = some true := by
  have hstar : '*' ∉ "/a+\x00DOUBLE_STAR\x00DOUBLE_STAR\x00".toList := by decide
  have hparts : markedParts "/a+\x00DOUBLE_STAR\x00DOUBLE_STAR\x00".toList =
      "/a+".toList.map .literal ++ .anything :: "DOUBLE_STAR\x00".toList.map .literal := by cbv
  refine ⟨hstar, ((exact_unless_marked hstar).2.1 _).mpr ?_⟩
  rw [SpansMarked, hparts]
  refine ⟨"/a+".toList.map ([·]) ++ "/b".toList :: "DOUBLE_STAR\x00".toList.map ([·]), ?_, by
    decide⟩
  simp [Part.Spans]

/-- A pattern that is the marker holds no star and selects a path that it does not spell. -/
theorem marker_selects_others :
    '*' ∉ "\x00DOUBLE_STAR\x00".toList ∧ "/a" ≠ "\x00DOUBLE_STAR\x00" ∧
    matchRegex [.text "/a", .text (regexText "\x00DOUBLE_STAR\x00")] = some true := by
  decide

end Clickstream.Wildcard
