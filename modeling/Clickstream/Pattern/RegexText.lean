import Clickstream.Pattern.Regex

/-!
# Written regular expressions

The text of a regular expression, and a reader for the texts that the library makes from path
patterns: literal characters, characters behind a backslash, `.`, a class that excludes one
character, `*` and `+` behind a class, and the two anchors.
-/

namespace Clickstream

/-- A character that has a meaning of its own in a regular expression. -/
def isMetacharacter (c : Char) : Bool :=
  ['.', '*', '+', '?', '^', '$', '\x7b', '\x7d', '(', ')', '|', '[', ']', '\\'].contains c

namespace Regex

/-! ## Writing -/

/-- A literal character. -/
def writeLiteral (c : Char) : List Char :=
  if isMetacharacter c then ['\\', c] else [c]

/-- The ranges of a class between brackets. -/
def writeRanges (ranges : List (Char × Char)) : List Char :=
  ranges.flatMap fun range => if range.1 = range.2 then [range.1] else [range.1, '-', range.2]

/-- A class of characters. -/
def writeSet : CharSet → List Char
  | .only c => writeLiteral c
  | .any => ['.']
  | .within ranges => '[' :: writeRanges ranges ++ [']']
  | .without ranges => '[' :: '^' :: writeRanges ranges ++ [']']

/-- One expression behind another; a class before its own repetition is written `+`. -/
def write : Regex → List Char
  | .empty => []
  | .one set => writeSet set
  | .many set => writeSet set ++ ['*']
  | .start => ['^']
  | .finish => ['$']
  | .seq first second =>
    match first, second with
    | .one set, .many repeated =>
      if set = repeated then writeSet set ++ ['+'] else writeSet set ++ (writeSet repeated ++ ['*'])
    | _, _ => write first ++ write second
  | .optional body => ['(', '?', ':'] ++ write body ++ [')', '?']
  | .capture body => '(' :: write body ++ [')']

/-- The text of an expression. -/
def toText (r : Regex) : String :=
  String.ofList r.write

/-! ## Reading -/

/-- A lexical unit of a regular expression. -/
inductive Token
  | set (set : CharSet)
  | star
  | plus
  | start
  | finish
  deriving DecidableEq, Repr

/-- Splits a text into units. -/
def tokens? : List Char → Option (List Token)
  | [] => some []
  | '[' :: '^' :: c :: ']' :: rest => (tokens? rest).map (.set (.without [(c, c)]) :: ·)
  | '\\' :: c :: rest => (tokens? rest).map (.set (.only c) :: ·)
  | '.' :: rest => (tokens? rest).map (.set .any :: ·)
  | '*' :: rest => (tokens? rest).map (.star :: ·)
  | '+' :: rest => (tokens? rest).map (.plus :: ·)
  | '^' :: rest => (tokens? rest).map (.start :: ·)
  | '$' :: rest => (tokens? rest).map (.finish :: ·)
  | c :: rest => if isMetacharacter c then none else (tokens? rest).map (.set (.only c) :: ·)

/-- Joins units into an expression. -/
def ofTokens? : List Token → Option Regex
  | [] => some .empty
  | .set set :: .star :: rest => (ofTokens? rest).map (.seq (.many set))
  | .set set :: .plus :: rest => (ofTokens? rest).map (.seq (oneOrMore set))
  | .set set :: rest => (ofTokens? rest).map (.seq (.one set))
  | .start :: rest => (ofTokens? rest).map (.seq .start)
  | .finish :: rest => (ofTokens? rest).map (.seq .finish)
  | .star :: _ | .plus :: _ => none

/-- Reads an expression. -/
def ofText? (text : String) : Option Regex :=
  (tokens? text.toList).bind ofTokens?

end Regex

end Clickstream
