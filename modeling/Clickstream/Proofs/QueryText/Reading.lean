import Mathlib.Data.List.Basic

/-!
# Reading query text

A reader of query text keeps track of quotes and parentheses.  A character stands in the text at
some depth of parentheses, in a literal between single quotes, or in an identifier between double
quotes (`Place`).  A quote written twice inside a literal closes and opens it again, so it needs no
rule of its own.  A parenthesis that closes nothing leaves the text broken for good.

Four things are read off a text.

* `isBalanced`: all quotes are closed, and every parenthesis is closed by one behind it.
* `keywords`: the words outside quotes and parentheses, in upper case.
* `pieces`: the parts between the separators ` AND ` outside quotes and parentheses.
* `placeholders`: the names behind a `$` outside quotes, at any depth.

Each of them is compositional.  The place after a text in two parts is reached part by part
(`Place.after_append`), the words of a text are those on both sides of any character that belongs to
no word (`wordsFrom_append_cons`), and placeholders are collected part by part if the second part
does not go on with a word (`placeholdersFrom_append`).  `piecesFrom_append` cuts a text at a
separator, provided that the part before it has no word `AND` of its own.
-/

namespace Clickstream

/-- Where a reader of query text stands. -/
inductive Place
  /-- Outside quotes, within a number of parentheses. -/
  | text (depth : Nat)
  /-- Between single quotes. -/
  | literal (depth : Nat)
  /-- Between double quotes. -/
  | identifier (depth : Nat)
  /-- Behind a parenthesis that closes nothing. -/
  | broken
  deriving DecidableEq, Repr

namespace Place

/-- The place before a text. -/
def start : Place := .text 0

/-- The place behind a closing parenthesis. -/
def closed : Nat → Place
  | 0 => .broken
  | depth + 1 => .text depth

/-- The place behind a character. -/
def next : Place → Char → Place
  | .text depth, c =>
    if c = '\'' then .literal depth
    else if c = '"' then .identifier depth
    else if c = '(' then .text (depth + 1)
    else if c = ')' then closed depth
    else .text depth
  | .literal depth, c => if c = '\'' then .text depth else .literal depth
  | .identifier depth, c => if c = '"' then .text depth else .identifier depth
  | .broken, _ => .broken

/-- The place behind a text. -/
def after (p : Place) (cs : List Char) : Place :=
  cs.foldl next p

/-- Outside quotes. -/
def isText : Place → Bool
  | .text _ => true
  | _ => false

/-- The same place within one more pair of parentheses. -/
def deeper : Place → Place
  | .text depth => .text (depth + 1)
  | .literal depth => .literal (depth + 1)
  | .identifier depth => .identifier (depth + 1)
  | .broken => .broken

end Place

namespace QueryText

/-! ## Readings of a text -/

/-- A character of a word. -/
def isWordChar (c : Char) : Bool :=
  c.isAlphanum || c == '_'

/-- The characters of a text with the places where they stand. -/
def marked : Place → List Char → List (Place × Char)
  | _, [] => []
  | p, c :: cs => (p, c) :: marked (p.next c) cs

/-- A character that belongs to no word outside quotes and parentheses. -/
def isBreak (m : Place × Char) : Bool :=
  !(m.1 == .start && isWordChar m.2)

/-- The words outside quotes and parentheses; between two breaks there is the empty word. -/
def wordsFrom (p : Place) (cs : List Char) : List (List Char) :=
  ((marked p cs).splitOnP isBreak).map fun word => word.map (·.2)

/-- What stands between two conditions of a conjunction. -/
def separator : List Char :=
  [' ', 'A', 'N', 'D', ' ']

/-- The parts between separators outside quotes and parentheses. The number tells how many
characters of a separator are still to be skipped. -/
def piecesFrom : Nat → Place → List Char → List (List Char)
  | _, _, [] => [[]]
  | k + 1, p, _ :: cs => piecesFrom k p cs
  | 0, p, c :: cs =>
    if p = .start ∧ separator <+: c :: cs then [] :: piecesFrom 4 p cs
    else (piecesFrom 0 (p.next c) cs).modifyHead (c :: ·)

/-- The names of the placeholders, in order. -/
def placeholdersFrom : Place → List Char → List (List Char)
  | _, [] => []
  | p, c :: cs =>
    if p.isText ∧ c = '$' then cs.takeWhile isWordChar :: placeholdersFrom (p.next c) cs
    else placeholdersFrom (p.next c) cs

/-- All quotes are closed, and parentheses match. -/
def isBalanced (sql : String) : Bool :=
  Place.start.after sql.toList == .start

/-- The words outside quotes and parentheses in upper case. -/
def keywords (sql : String) : List String :=
  (wordsFrom .start sql.toList).map fun word => String.ofList (word.map Char.toUpper)

/-- The parts of a text between the separators ` AND ` outside quotes and parentheses. -/
def pieces (sql : String) : List String :=
  (piecesFrom 0 .start sql.toList).map String.ofList

/-- The names of the placeholders of a text. -/
def placeholders (sql : String) : List String :=
  (placeholdersFrom .start sql.toList).map String.ofList

example : pieces "a = 'x AND y' AND (b AND c)" = ["a = 'x AND y'", "(b AND c)"] := by decide

example : placeholders "json(c, '$.x') = $f1 AND d IN ($f2)" = ["f1", "f2"] := by decide

end QueryText

/-! ## Places -/

namespace Place

@[simp] theorem after_nil (p : Place) : p.after [] = p := rfl

@[simp] theorem after_cons (p : Place) (c : Char) (cs : List Char) :
    p.after (c :: cs) = (p.next c).after cs := rfl

@[simp] theorem after_append (p : Place) (cs ds : List Char) :
    p.after (cs ++ ds) = (p.after cs).after ds :=
  List.foldl_append

theorem broken_after (cs : List Char) : Place.broken.after cs = .broken := by
  induction cs with
  | nil => rfl
  | cons c cs ih => exact ih

/-- Outside quotes, a character that is neither quote nor parenthesis leaves the place. -/
theorem next_text {c : Char} (h : c ∉ ['\'', '"', '(', ')']) (depth : Nat) :
    (Place.text depth).next c = .text depth := by
  simp only [List.mem_cons, List.not_mem_nil, or_false, not_or] at h
  simp only [next, h, if_false]

theorem deeper_ne_start (p : Place) : p.deeper ≠ .start := by
  cases p <;> simp [deeper, start]

theorem next_deeper {p : Place} {c : Char} (h : p.next c ≠ .broken) :
    p.deeper.next c = (p.next c).deeper := by
  cases p with
  | text depth =>
    simp only [next, deeper] at h ⊢
    split_ifs at h ⊢ with h₁ h₂ h₃ h₄
    · rfl
    · rfl
    · rfl
    · cases depth with
      | zero => exact absurd rfl h
      | succ depth => rfl
    · rfl
  | literal depth => simp only [next, deeper]; split_ifs <;> rfl
  | identifier depth => simp only [next, deeper]; split_ifs <;> rfl
  | broken => exact absurd rfl h

/-- A text that breaks nothing leads the same way within one more pair of parentheses. -/
theorem after_deeper {p : Place} {cs : List Char} (h : p.after cs ≠ .broken) :
    p.deeper.after cs = (p.after cs).deeper := by
  induction cs generalizing p with
  | nil => rfl
  | cons c cs ih =>
    have hc : p.next c ≠ .broken := by
      intro hb
      rw [after_cons, hb] at h
      exact h (broken_after cs)
    rw [after_cons, next_deeper hc, ih h, after_cons]

end Place

namespace QueryText

/-! ## Words -/

theorem marked_append (p : Place) (cs ds : List Char) :
    marked p (cs ++ ds) = marked p cs ++ marked (p.after cs) ds := by
  induction cs generalizing p with
  | nil => rfl
  | cons c cs ih => rw [List.cons_append, marked, ih]; rfl

@[simp] theorem wordsFrom_nil (p : Place) : wordsFrom p [] = [[]] := rfl

/-- The words of a text with a break in it are those on both sides of the break. -/
theorem wordsFrom_append_cons {p : Place} {cs : List Char} {c : Char}
    (h : isBreak (p.after cs, c)) (ds : List Char) :
    wordsFrom p (cs ++ c :: ds) = wordsFrom p cs ++ wordsFrom ((p.after cs).next c) ds := by
  unfold wordsFrom
  rw [marked_append, marked, List.splitOnP_append_cons _ _ h, List.map_append]

theorem wordsFrom_cons_break {p : Place} {c : Char} (h : isBreak (p, c)) (cs : List Char) :
    wordsFrom p (c :: cs) = [] :: wordsFrom (p.next c) cs :=
  @wordsFrom_append_cons p [] c h cs

theorem wordsFrom_cons_word {p : Place} {c : Char} (h : isBreak (p, c) = false) (cs : List Char) :
    wordsFrom p (c :: cs) = (wordsFrom (p.next c) cs).modifyHead (c :: ·) := by
  unfold wordsFrom
  rw [marked, List.splitOnP_cons_eq_if_modifyHead, h]
  cases (marked (p.next c) cs).splitOnP isBreak with
  | nil => rfl
  | cons word rest => rfl

/-- A text of breaks has empty words only. -/
theorem eq_nil_of_mem_wordsFrom {p : Place} {cs : List Char}
    (h : ∀ m ∈ marked p cs, isBreak m) : ∀ word ∈ wordsFrom p cs, word = [] := by
  induction cs generalizing p with
  | nil => simp
  | cons c cs ih =>
    rw [marked, List.forall_mem_cons] at h
    rw [wordsFrom_cons_break h.1]
    intro word hw
    cases List.mem_cons.mp hw with
    | inl he => exact he
    | inr ht => exact ih h.2 word ht

/-- A character of a word is neither quote nor parenthesis. -/
theorem notMem_of_isWordChar {c : Char} (h : isWordChar c = true) : c ∉ ['\'', '"', '(', ')'] := by
  intro hc
  have hno : ['\'', '"', '(', ')'].all (!isWordChar ·) = true := by decide
  have hmark := List.all_eq_true.mp hno c hc
  rw [h] at hmark
  cases hmark

theorem after_start_of_isWordChar {cs : List Char} (h : ∀ c ∈ cs, isWordChar c = true) :
    Place.start.after cs = .start := by
  induction cs with
  | nil => rfl
  | cons c cs ih =>
    rw [List.forall_mem_cons] at h
    rw [Place.after_cons, Place.start, Place.next_text (notMem_of_isWordChar h.1)]
    exact ih h.2

/-- A text without breaks is a single word. -/
theorem wordsFrom_eq_singleton {cs : List Char} (h : ∀ c ∈ cs, isWordChar c) :
    wordsFrom .start cs = [cs] := by
  induction cs with
  | nil => rfl
  | cons c cs ih =>
    rw [List.forall_mem_cons] at h
    rw [wordsFrom_cons_word (by simp [isBreak, h.1]), Place.start,
      Place.next_text (notMem_of_isWordChar h.1)]
    rw [show Place.text 0 = .start from rfl, ih h.2]
    rfl

/-- Within parentheses there are no words to be read. -/
theorem isBreak_of_mem_marked_deeper {p : Place} {cs : List Char} (h : p.after cs ≠ .broken) :
    ∀ m ∈ marked p.deeper cs, isBreak m := by
  induction cs generalizing p with
  | nil => intro m hm; cases hm
  | cons c cs ih =>
    have hc : p.next c ≠ .broken := by
      intro hb
      rw [Place.after_cons, hb] at h
      exact h (Place.broken_after cs)
    rw [marked, List.forall_mem_cons, Place.next_deeper hc]
    refine ⟨?_, ih h⟩
    simp [isBreak, Place.deeper_ne_start p]

/-! ## Pieces -/

theorem piecesFrom_skip (p : Place) (cs ds : List Char) :
    piecesFrom cs.length p (cs ++ ds) = piecesFrom 0 p ds := by
  induction cs with
  | nil => rfl
  | cons c cs ih => rw [List.length_cons, List.cons_append, piecesFrom, ih]

theorem piecesFrom_separator (cs : List Char) :
    piecesFrom 0 .start (separator ++ cs) = [] :: piecesFrom 0 .start cs := by
  rw [show separator ++ cs = ' ' :: (['A', 'N', 'D', ' '] ++ cs) from rfl, piecesFrom,
    if_pos ⟨rfl, List.prefix_append separator cs⟩]
  exact congrArg ([] :: ·) (piecesFrom_skip .start ['A', 'N', 'D', ' '] cs)

/-- A separator begins in front of a text only if the text begins with the word `AND`. What follows
the text must not complete the word. -/
theorem mem_wordsFrom_of_prefix {cs ds : List Char} (hds : ∀ c ∈ ds.head?, c = ' ')
    (h : separator <+: ' ' :: (cs ++ ds)) : ['A', 'N', 'D'] ∈ wordsFrom .start cs := by
  rw [separator, List.cons_prefix_cons] at h
  have hnot : ∀ c es, c ≠ ' ' → ¬ c :: es <+: ds := by
    intro c es hc hp
    cases ds with
    | nil => exact absurd hp (by simp)
    | cons d ds =>
      rw [List.cons_prefix_cons] at hp
      exact hc (hp.1.trans (hds d rfl))
  rcases cs with _ | ⟨a, _ | ⟨b, _ | ⟨c, _ | ⟨d, cs⟩⟩⟩⟩
  · exact absurd h.2 (hnot _ _ (by decide))
  · simp only [List.cons_append, List.nil_append, List.cons_prefix_cons] at h
    exact absurd h.2.2 (hnot _ _ (by decide))
  · simp only [List.cons_append, List.nil_append, List.cons_prefix_cons] at h
    exact absurd h.2.2.2 (hnot _ _ (by decide))
  · simp only [List.cons_append, List.nil_append, List.cons_prefix_cons] at h
    obtain ⟨-, rfl, rfl, rfl, -⟩ := h
    exact List.mem_singleton.mpr rfl
  · simp only [List.cons_append, List.cons_prefix_cons] at h
    obtain ⟨-, rfl, rfl, rfl, rfl, -⟩ := h
    have hw := @wordsFrom_append_cons .start ['A', 'N', 'D'] ' ' rfl cs
    rw [show 'A' :: 'N' :: 'D' :: ' ' :: cs = ['A', 'N', 'D'] ++ ' ' :: cs from rfl, hw]
    exact List.mem_append_left _ (List.mem_singleton.mpr rfl)

/-- The first word apart, the words behind a character are words of the whole text. -/
theorem mem_tail_wordsFrom_cons {p : Place} {c : Char} {cs word : List Char}
    (h : word ∈ (wordsFrom (p.next c) cs).tail) : word ∈ (wordsFrom p (c :: cs)).tail := by
  cases hb : isBreak (p, c) with
  | true =>
    rw [wordsFrom_cons_break hb]
    exact List.mem_of_mem_tail h
  | false =>
    rw [wordsFrom_cons_word hb]
    rwa [List.tail_modifyHead]

/-- A text without a word `AND` of its own stays in one piece. Its first word may be the end of a
longer one, and what follows must not complete its last word. -/
theorem piecesFrom_append {p : Place} {cs ds : List Char}
    (hwords : ['A', 'N', 'D'] ∉ (wordsFrom p cs).tail) (hafter : p.after cs = .start)
    (hds : ∀ c ∈ ds.head?, c = ' ') :
    piecesFrom 0 p (cs ++ ds) = (piecesFrom 0 .start ds).modifyHead (cs ++ ·) := by
  induction cs generalizing p with
  | nil =>
    rw [Place.after_nil] at hafter
    subst hafter
    rw [List.nil_append]
    cases piecesFrom 0 .start ds <;> rfl
  | cons c cs ih =>
    have hno : ¬ (p = .start ∧ separator <+: c :: (cs ++ ds)) := by
      rintro ⟨rfl, hp⟩
      have hc : c = ' ' := ((List.cons_prefix_cons.mp hp).1).symm
      subst hc
      -- The blank ends the word before it, so what follows it is no part of a longer word.
      refine hwords ?_
      rw [wordsFrom_cons_break rfl]
      exact mem_wordsFrom_of_prefix hds hp
    rw [List.cons_append, piecesFrom, if_neg hno,
      ih (fun h => hwords (mem_tail_wordsFrom_cons h)) hafter]
    cases piecesFrom 0 .start ds <;> rfl

/-! ## Placeholders -/

/-- The text does not go on with a word. -/
def EndsWord (cs : List Char) : Prop :=
  ∀ c ∈ cs.head?, isWordChar c = false

/-- A text that begins with no character of a word ends a word. -/
theorem endsWord_append {s : String} {c : Char} (h : s.toList.head? = some c)
    (hc : isWordChar c = false) (t : String) : EndsWord (s ++ t).toList := by
  intro d hd
  rw [String.toList_append, List.head?_append, h] at hd
  cases hd
  exact hc

theorem takeWhile_append_of_endsWord {cs ds : List Char} (h : EndsWord ds) :
    (cs ++ ds).takeWhile isWordChar = cs.takeWhile isWordChar := by
  induction cs with
  | nil =>
    cases ds with
    | nil => rfl
    | cons d ds => rw [List.nil_append, List.takeWhile_cons, h d rfl]; rfl
  | cons c cs ih => rw [List.cons_append, List.takeWhile_cons, List.takeWhile_cons, ih]

theorem placeholdersFrom_append {p : Place} {cs ds : List Char} (h : EndsWord ds) :
    placeholdersFrom p (cs ++ ds) = placeholdersFrom p cs ++ placeholdersFrom (p.after cs) ds := by
  induction cs generalizing p with
  | nil => rfl
  | cons c cs ih =>
    rw [List.cons_append, placeholdersFrom, placeholdersFrom, ih, takeWhile_append_of_endsWord h,
      Place.after_cons]
    split
    · rfl
    · rfl

/-- A text without a `$` has no placeholders. -/
theorem placeholdersFrom_append_of_notMem {p : Place} {cs : List Char} (h : '$' ∉ cs)
    (ds : List Char) : placeholdersFrom p (cs ++ ds) = placeholdersFrom (p.after cs) ds := by
  induction cs generalizing p with
  | nil => rfl
  | cons c cs ih =>
    rw [List.mem_cons, not_or] at h
    rw [List.cons_append, placeholdersFrom, if_neg (fun hc => h.1 hc.2.symm), ih h.2,
      Place.after_cons]

end QueryText

end Clickstream
