import Clickstream.Query.Literal

/-!
# Reading literals

A reader of query text takes a literal from an opening quote to the first quote that is not followed
by another one; two quotes that follow each other stand for one (`readLiteral`).  So what stands
behind a literal decides where it ends, and the reader knows a literal only together with it.

Writing and reading agree: a text begins with the literal of another one, and goes on with anything
but a quote, if and only if the reader finds the other text there and leaves what follows
(`readLiteral_eq_some_iff`).
-/

namespace Clickstream.QueryText

/-! ## The reader -/

/-- Reads a literal behind its opening quote: its text, and what follows the closing quote. -/
def readQuoted : List Char → Option (List Char × List Char)
  | [] => none
  | '\'' :: '\'' :: rest => (readQuoted rest).map fun read => ('\'' :: read.1, read.2)
  | '\'' :: rest => some ([], rest)
  | c :: rest => (readQuoted rest).map fun read => (c :: read.1, read.2)

/-- Reads a literal at the start of a text: what it stands for, and what follows it. -/
def readLiteral (sql : String) : Option (String × String) :=
  match sql.toList with
  | '\'' :: rest =>
    (readQuoted rest).map fun read => (String.ofList read.1, String.ofList read.2)
  | _ => none

/-- The text does not begin with a quote. -/
def StartsUnquoted (cs : List Char) : Prop :=
  cs.head? ≠ some '\''

/-! ## Between the quotes -/

/-- Behind what is written for a text, a single quote closes the literal. -/
theorem readQuoted_doubleQuotes {rest : List Char} (h : StartsUnquoted rest) (text : List Char) :
    readQuoted (doubleQuotes text ++ '\'' :: rest) = some (text, rest) := by
  induction text with
  | nil =>
    have hrest : ∀ rest', rest ≠ '\'' :: rest' := by
      intro rest' heq
      exact h (by rw [heq, List.head?_cons])
    rw [doubleQuotes, List.flatMap_nil, List.nil_append, readQuoted]
    exact hrest
  | cons c text ih =>
    rw [doubleQuotes] at ih
    rw [doubleQuotes, List.flatMap_cons, List.append_assoc]
    by_cases hc : c = '\''
    · subst hc
      simp [readQuoted, ih]
    · simp [readQuoted, hc, ih]

/-- What is read was written, and it is followed by a quote that stands alone. -/
theorem eq_of_readQuoted {cs text rest : List Char} (h : readQuoted cs = some (text, rest)) :
    cs = doubleQuotes text ++ '\'' :: rest ∧ StartsUnquoted rest := by
  fun_induction readQuoted cs generalizing text with
  | case1 => cases h
  | case2 cs ih =>
    obtain ⟨⟨inner, _⟩, hread, heq⟩ := Option.map_eq_some_iff.mp h
    cases heq
    obtain ⟨rfl, hrest⟩ := ih hread
    exact ⟨rfl, hrest⟩
  | case3 cs hcs =>
    cases h
    refine ⟨rfl, fun hhead => ?_⟩
    obtain ⟨cs', rfl⟩ := List.head?_eq_some_iff.mp hhead
    exact hcs cs' rfl
  | case4 c cs _ hc ih =>
    obtain ⟨⟨inner, _⟩, hread, heq⟩ := Option.map_eq_some_iff.mp h
    cases heq
    obtain ⟨rfl, hrest⟩ := ih hread
    refine ⟨?_, hrest⟩
    simp [doubleQuotes, show c ≠ '\'' from hc]

/-! ## Literals -/

theorem toList_sqlLiteral_append (text rest : String) :
    (sqlLiteral text ++ rest).toList =
      '\'' :: (doubleQuotes text.toList ++ '\'' :: rest.toList) := by
  simp [sqlLiteral]

/-- A literal is read as its text, whatever follows it but a quote, and nothing else is read as this
text. -/
theorem readLiteral_eq_some_iff {sql text rest : String} :
    readLiteral sql = some (text, rest) ↔
      sql = sqlLiteral text ++ rest ∧ StartsUnquoted rest.toList := by
  constructor
  · intro h
    rw [readLiteral] at h
    split at h
    · next cs hsql =>
      obtain ⟨⟨inner, following⟩, hread, heq⟩ := Option.map_eq_some_iff.mp h
      cases heq
      obtain ⟨rfl, hrest⟩ := eq_of_readQuoted hread
      refine ⟨String.toList_inj.mp ?_, by rwa [String.toList_ofList]⟩
      rw [hsql, toList_sqlLiteral_append, String.toList_ofList, String.toList_ofList]
    · cases h
  · rintro ⟨rfl, hrest⟩
    have hread := readQuoted_doubleQuotes hrest text.toList
    rw [readLiteral, toList_sqlLiteral_append]
    simp [hread]

example : readLiteral "'it''s' AND x" = some ("it's", " AND x") := by decide

end Clickstream.QueryText
