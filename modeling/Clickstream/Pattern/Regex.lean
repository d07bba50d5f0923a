/-!
# Regular expressions

The regular expressions that the library sends to the event store, and what they match. A match is
searched from the left; at one place the first way to match counts, where repetition prefers more
characters and an optional part prefers to be there. The anchors stand for the ends of the text.

Matching is written with continuations: `Regex.run r next` matches `r` at the start of the text
and hands the rest to `next`, which decides whether the way that was taken leads to a match.
-/

namespace Clickstream

/-- A class of characters. -/
inductive CharSet
  | only (c : Char)
  /-- Every character but the line feed. -/
  | any
  | within (ranges : List (Char × Char))
  | without (ranges : List (Char × Char))
  deriving DecidableEq, Repr

namespace CharSet

/-- The character lies in one of the inclusive ranges. -/
def inSome (ranges : List (Char × Char)) (c : Char) : Bool :=
  ranges.any fun range => range.1 ≤ c && c ≤ range.2

/-- The characters of the class. -/
def has : CharSet → Char → Bool
  | .only c, d => d == c
  | .any, d => d != '\n'
  | .within ranges, d => inSome ranges d
  | .without ranges, d => !inSome ranges d

end CharSet

/-- A regular expression. -/
inductive Regex
  | empty
  | one (set : CharSet)
  | many (set : CharSet)
  | start
  | finish
  | seq (first second : Regex)
  | optional (body : Regex)
  | capture (body : Regex)
  deriving DecidableEq, Repr

namespace Regex

/-- Some expressions in a row. -/
def ofList (parts : List Regex) : Regex :=
  parts.foldr .seq .empty

/-- One or more characters of a class. -/
def oneOrMore (set : CharSet) : Regex :=
  .seq (.one set) (.many set)

/-- What happens after a match: it gets the captured text, if there is one, and the rest. -/
abbrev Next (α : Type) := Option (List Char) → List Char → Option α

variable {α : Type}

/-- Takes as many characters of a class as lead to a match. -/
def runMany (set : CharSet) (next : List Char → Option α) : List Char → Option α
  | [] => next []
  | c :: rest =>
    if set.has c then (runMany set next rest).or (next (c :: rest)) else next (c :: rest)

/-- Matches at the start of the rest of a text that has `size` characters as a whole. -/
def run (size : Nat) : Regex → Next α → Next α
  | .empty, next, captured, rest => next captured rest
  | .one set, next, captured, rest =>
    match rest with
    | [] => none
    | c :: rest => if set.has c then next captured rest else none
  | .many set, next, captured, rest => runMany set (next captured) rest
  | .start, next, captured, rest => if rest.length = size then next captured rest else none
  | .finish, next, captured, rest => if rest = [] then next captured rest else none
  | .seq first second, next, captured, rest =>
    run size first (run size second next) captured rest
  | .optional body, next, captured, rest =>
    match run size body next captured rest with
    | some result => some result
    | none => next captured rest
  | .capture body, next, captured, rest =>
    run size body (fun _ after => next (some (rest.take (rest.length - after.length))) after)
      captured rest

/-- A place where an expression matches. -/
structure Place where
  before : List Char
  captured : Option (List Char)
  after : List Char
  deriving DecidableEq, Repr

/-- Searches from the left; the characters that were skipped are given in reverse. -/
def searchFrom (size : Nat) (r : Regex) (skipped : List Char) : List Char → Option Place
  | [] => run size r (fun captured after => some ⟨skipped.reverse, captured, after⟩) none []
  | c :: rest =>
    match run size r (fun captured after => some ⟨skipped.reverse, captured, after⟩) none
        (c :: rest) with
    | some place => some place
    | none => searchFrom size r (c :: skipped) rest

/-- The leftmost match in a text. -/
def search (r : Regex) (text : List Char) : Option Place :=
  searchFrom text.length r [] text

/-- The text has a match. -/
def matchesIn (r : Regex) (text : List Char) : Bool :=
  (r.search text).isSome

/-- The captured part of the leftmost match, empty if there is none. -/
def extract (r : Regex) (text : List Char) : List Char :=
  ((r.search text).bind (·.captured)).getD []

/-- Removes the leftmost match. -/
def removeFirst (r : Regex) (text : List Char) : List Char :=
  match r.search text with
  | some place => place.before ++ place.after
  | none => text

end Regex

end Clickstream
