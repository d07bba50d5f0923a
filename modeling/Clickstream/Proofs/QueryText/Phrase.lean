import Clickstream.Proofs.QueryText.Reading
import Clickstream.Query.Literal

/-!
# Phrases

`Reads s names` says that a text leads back to where it begins, at any depth of parentheses, and
that its placeholders are `names`.  A *phrase* is such a text without a word `AND` or `OR` outside
quotes and parentheses, so a conjunction of phrases can be taken apart again
(`pieces_intercalate`).

Texts are built from smaller ones in few ways: one behind the other, with a character between them
that belongs to no word, between parentheses, and in a list with separators.  There is one lemma for
each of them.  Texts without parameters are checked by computation (`Phrase.of_check`).
-/

namespace Clickstream.QueryText

/-! ## Texts that close what they open -/

/-- A text that leads back to its place at any depth, with the names of its placeholders. -/
structure Reads (s : String) (names : List String) : Prop where
  after : ∀ depth, (Place.text depth).after s.toList = .text depth
  placeholders : ∀ depth, placeholdersFrom (.text depth) s.toList = names.map String.toList

/-- A text that is balanced is balanced within parentheses. -/
theorem after_text_of_start {cs : List Char} (h : Place.start.after cs = .start) (depth : Nat) :
    (Place.text depth).after cs = .text depth := by
  induction depth with
  | zero => exact h
  | succ depth ih =>
    have hne : (Place.text depth).after cs ≠ .broken := by rw [ih]; exact nofun
    exact (Place.after_deeper hne).trans (congrArg Place.deeper ih)

theorem placeholdersFrom_of_notMem {p : Place} {cs : List Char} (h : '$' ∉ cs) :
    placeholdersFrom p cs = [] := by
  have := placeholdersFrom_append_of_notMem (p := p) h []
  rwa [List.append_nil] at this

namespace Reads

theorem of_closed {s : String} (h : Place.start.after s.toList = .start) (hd : '$' ∉ s.toList) :
    Reads s [] :=
  ⟨after_text_of_start h, fun _ => placeholdersFrom_of_notMem hd⟩

theorem empty : Reads "" [] := of_closed rfl (by decide)

/-- One text behind another that does not go on with a word. -/
theorem append {s t : String} {ns ms : List String} (hs : Reads s ns) (ht : Reads t ms)
    (hend : EndsWord t.toList) : Reads (s ++ t) (ns ++ ms) := by
  constructor
  · intro depth
    rw [String.toList_append, Place.after_append, hs.after, ht.after]
  · intro depth
    rw [String.toList_append, placeholdersFrom_append hend, hs.after, hs.placeholders,
      ht.placeholders, List.map_append]

/-- A text behind one without a `$`. -/
theorem prepend {s t : String} {ms : List String} (hs : Reads s []) (hd : '$' ∉ s.toList)
    (ht : Reads t ms) : Reads (s ++ t) ms := by
  constructor
  · intro depth
    rw [String.toList_append, Place.after_append, hs.after, ht.after]
  · intro depth
    rw [String.toList_append, placeholdersFrom_append_of_notMem hd, hs.after, ht.placeholders]

/-- A text between parentheses. -/
theorem enclose {s : String} {ns : List String} (hs : Reads s ns) :
    Reads ("(" ++ s ++ ")") ns := by
  have hlist : ("(" ++ s ++ ")").toList = '(' :: (s.toList ++ [')']) := by simp
  constructor
  · intro depth
    rw [hlist, Place.after_cons, Place.after_append]
    exact congrArg (fun p => p.after [')']) (hs.after (depth + 1))
  · intro depth
    have hend : EndsWord [')'] := by rintro c ⟨⟩; rfl
    have hclose : placeholdersFrom (.text (depth + 1)) [')'] = [] :=
      placeholdersFrom_of_notMem (by decide)
    have hopen : placeholdersFrom (.text depth) ('(' :: (s.toList ++ [')'])) =
        placeholdersFrom (.text (depth + 1)) (s.toList ++ [')']) := rfl
    rw [hlist, hopen, placeholdersFrom_append hend, hs.placeholders, hs.after, hclose,
      List.append_nil]

/-- Texts in a list. -/
theorem intercalate {separator : String} (hsep : Reads separator [])
    (hd : '$' ∉ separator.toList) (hend : ∀ s : String, EndsWord (separator ++ s).toList)
    {ss : List String} {nss : List (List String)} (h : List.Forall₂ Reads ss nss) :
    Reads (separator.intercalate ss) nss.flatten := by
  induction h with
  | nil => exact empty
  | @cons s ns ss nss hs hss ih =>
    cases ss with
    | nil =>
      cases hss
      rw [String.intercalate_singleton, List.flatten_cons, List.flatten_nil, List.append_nil]
      exact hs
    | cons t ss =>
      rw [String.intercalate_cons_cons, String.append_assoc, List.flatten_cons]
      exact hs.append (hsep.prepend hd ih) (hend _)

end Reads

/-! ## Phrases -/

/-- The words that join conditions. -/
def isJunction (word : List Char) : Bool :=
  [['A', 'N', 'D'], ['O', 'R']].contains (word.map Char.toUpper)

/-- A text that nothing behind or before it can be joined to but by a separator. -/
structure Phrase (s : String) (names : List String) : Prop extends Reads s names where
  words : ∀ word ∈ wordsFrom .start s.toList, isJunction word = false

/-- A word that joins nothing; it may be empty. -/
def isName (s : String) : Bool :=
  s.toList.all isWordChar && !isJunction s.toList

/-- A fixed text is a phrase. -/
def isPhrase (s : String) : Bool :=
  isBalanced s && !s.toList.contains '$' && (wordsFrom .start s.toList).all (!isJunction ·)

/-- Within parentheses there are no words that join. -/
theorem isJunction_of_deeper {p : Place} {cs : List Char} (h : p.after cs ≠ .broken) :
    ∀ word ∈ wordsFrom p.deeper cs, isJunction word = false := by
  intro word hw
  rw [eq_nil_of_mem_wordsFrom (isBreak_of_mem_marked_deeper h) word hw]
  rfl

namespace Phrase

theorem of_check {s : String} (h : isPhrase s = true) : Phrase s [] := by
  simp only [isPhrase, isBalanced, Bool.and_eq_true, beq_iff_eq, List.all_eq_true,
    Bool.not_eq_true', List.contains_eq_mem, decide_eq_false_iff_not] at h
  exact ⟨Reads.of_closed h.1.1 h.1.2, h.2⟩

theorem empty : Phrase "" [] := of_check (by decide)

/-- A name is a phrase. -/
theorem of_isName {s : String} (h : isName s = true) : Phrase s [] := by
  simp only [isName, Bool.and_eq_true, List.all_eq_true, Bool.not_eq_true'] at h
  refine ⟨Reads.of_closed (after_start_of_isWordChar h.1) ?_, ?_⟩
  · intro hd
    exact absurd (h.1 _ hd) (by decide)
  · rw [wordsFrom_eq_singleton h.1]
    intro word hw
    rw [List.mem_singleton.mp hw]
    exact h.2

/-- One phrase behind another that does not go on with a word. -/
theorem append {s t : String} {ns ms : List String} (hs : Phrase s ns) (ht : Phrase t ms)
    (hend : EndsWord t.toList) : Phrase (s ++ t) (ns ++ ms) := by
  refine ⟨hs.toReads.append ht.toReads hend, ?_⟩
  have hplace : Place.start.after s.toList = .start := hs.after 0
  have hwords := ht.words
  rw [String.toList_append]
  cases hlist : t.toList with
  | nil =>
    rw [List.append_nil]
    exact hs.words
  | cons c cs =>
    rw [hlist] at hend hwords
    have hbreak : isBreak (Place.start, c) = true := by
      rw [isBreak, hend c rfl]
      rfl
    rw [wordsFrom_cons_break hbreak] at hwords
    rw [wordsFrom_append_cons (by rw [hplace]; exact hbreak), hplace]
    intro word hw
    cases List.mem_append.mp hw with
    | inl h => exact hs.words word h
    | inr h => exact hwords word (List.mem_cons_of_mem _ h)

/-- A phrase behind a blank. -/
theorem blank {t : String} {ms : List String} (ht : Phrase t ms) : Phrase (" " ++ t) ms := by
  refine ⟨(Reads.of_closed rfl (by decide)).prepend (by decide) ht.toReads, ?_⟩
  rw [String.toList_append, show " ".toList ++ t.toList = ' ' :: t.toList from rfl,
    wordsFrom_cons_break rfl]
  intro word hw
  rcases List.mem_cons.mp hw with rfl | hw
  · rfl
  · exact ht.words word hw

/-- A text between parentheses. -/
theorem enclose {t : String} {ms : List String} (ht : Reads t ms) :
    Phrase ("(" ++ t ++ ")") ms := by
  refine ⟨ht.enclose, ?_⟩
  have hlist : ("(" ++ t ++ ")").toList = '(' :: (t.toList ++ [')']) := by simp
  have hplace : (Place.text 1).after t.toList = .text 1 := ht.after 1
  rw [hlist, wordsFrom_cons_break rfl, show Place.start.next '(' = .text 1 from rfl,
    wordsFrom_append_cons (by rw [hplace]; rfl), hplace,
    show (Place.text 1).next ')' = .start from rfl]
  intro word hw
  rw [List.mem_cons, List.mem_append] at hw
  rcases hw with rfl | h | h
  · rfl
  · have hne : (Place.text 0).after t.toList ≠ .broken := by rw [ht.after 0]; exact nofun
    exact isJunction_of_deeper hne word h
  · rw [List.mem_singleton.mp h]
    rfl

/-- Two phrases with a blank between them. -/
theorem space {s t : String} {ns ms : List String} (hs : Phrase s ns) (ht : Phrase t ms) :
    Phrase (s ++ " " ++ t) (ns ++ ms) := by
  rw [String.append_assoc]
  exact hs.append ht.blank (endsWord_append rfl rfl t)

/-- A phrase in front of a text between parentheses. -/
theorem call {s t : String} {ns ms : List String} (hs : Phrase s ns) (ht : Reads t ms) :
    Phrase (s ++ "(" ++ t ++ ")") (ns ++ ms) := by
  have hend : EndsWord ("(" ++ t ++ ")").toList := by
    rw [String.append_assoc]
    exact endsWord_append rfl rfl _
  have h := hs.append (enclose ht) hend
  rwa [← String.append_assoc, ← String.append_assoc] at h

end Phrase

/-! ## Conjunctions -/

theorem exists_phrase {ss : List String} {nss : List (List String)}
    (h : List.Forall₂ Phrase ss nss) : ∀ s ∈ ss, ∃ ns, Phrase s ns := by
  induction h with
  | nil => exact nofun
  | cons hs _ ih => exact List.forall_mem_cons.mpr ⟨⟨_, hs⟩, ih⟩

theorem toList_append_separator (s t : String) :
    (s ++ " AND " ++ t).toList = s.toList ++ ' ' :: (['A', 'N', 'D'] ++ ' ' :: t.toList) := by
  simp

/-- A conjunction of phrases is balanced. -/
theorem isBalanced_intercalate {ss : List String} (h : ∀ s ∈ ss, ∃ ns, Phrase s ns) :
    Place.start.after (" AND ".intercalate ss).toList = .start := by
  induction ss with
  | nil => rfl
  | cons s ss ih =>
    obtain ⟨ns, hs⟩ := h s List.mem_cons_self
    have hplace : Place.start.after s.toList = .start := hs.after 0
    cases ss with
    | nil => rwa [String.intercalate_singleton]
    | cons t ss =>
      rw [String.intercalate_cons_cons, toList_append_separator, Place.after_append, hplace]
      exact ih fun u hu => h u (List.mem_cons_of_mem s hu)

/-- The words of a conjunction of phrases are words of the phrases, and the word `AND`. -/
theorem words_intercalate {ss : List String} (h : ∀ s ∈ ss, ∃ ns, Phrase s ns) :
    ∀ word ∈ wordsFrom .start (" AND ".intercalate ss).toList,
      isJunction word = false ∨ word = ['A', 'N', 'D'] := by
  induction ss with
  | nil =>
    intro word hw
    exact .inl (Phrase.empty.words word hw)
  | cons s ss ih =>
    obtain ⟨ns, hs⟩ := h s List.mem_cons_self
    have hplace : Place.start.after s.toList = .start := hs.after 0
    cases ss with
    | nil =>
      rw [String.intercalate_singleton]
      exact fun word hw => .inl (hs.words word hw)
    | cons t ss =>
      rw [String.intercalate_cons_cons, toList_append_separator,
        wordsFrom_append_cons (by rw [hplace]; rfl), hplace,
        show Place.start.next ' ' = .start from rfl, wordsFrom_append_cons rfl,
        show Place.start.after ['A', 'N', 'D'] = .start from rfl]
      intro word hw
      rw [List.mem_append, List.mem_append] at hw
      rcases hw with hw | hw | hw
      · exact .inl (hs.words word hw)
      · exact .inr (List.mem_singleton.mp hw)
      · exact ih (fun u hu => h u (List.mem_cons_of_mem s hu)) word hw

/-- A phrase has no word `AND` of its own. -/
theorem Phrase.notMem_words {s : String} {ns : List String} (hs : Phrase s ns) :
    ['A', 'N', 'D'] ∉ (wordsFrom .start s.toList).tail := by
  intro h
  exact absurd (hs.words _ (List.mem_of_mem_tail h)) (by decide)

/-- A conjunction of phrases is taken apart into the phrases. -/
theorem pieces_intercalate {ss : List String} (h : ∀ s ∈ ss, ∃ ns, Phrase s ns) (hne : ss ≠ []) :
    pieces (" AND ".intercalate ss) = ss := by
  unfold pieces
  induction ss with
  | nil => exact absurd rfl hne
  | cons s ss ih =>
    obtain ⟨ns, hs⟩ := h s List.mem_cons_self
    cases ss with
    | nil =>
      have hend : ∀ c ∈ ([] : List Char).head?, c = ' ' := by
        intro c hc
        cases hc
      have := piecesFrom_append hs.notMem_words (hs.after 0) hend
      rw [List.append_nil] at this
      rw [String.intercalate_singleton, this]
      simp [piecesFrom]
    | cons t ss =>
      rw [String.intercalate_cons_cons, String.toList_append, String.toList_append,
        List.append_assoc, show " AND ".toList = separator from rfl,
        piecesFrom_append hs.notMem_words (hs.after 0) (by rintro c ⟨⟩; rfl),
        piecesFrom_separator, List.modifyHead_cons, List.append_nil, List.map_cons,
        String.ofList_toList,
        ih (fun u hu => h u (List.mem_cons_of_mem s hu)) (List.cons_ne_nil t ss)]

end Clickstream.QueryText
