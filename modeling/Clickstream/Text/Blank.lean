/-!
# White space

The white-space characters and the trimming of text. Numerals are surrounded by a slightly smaller
class, which lacks the information separators.
-/

namespace Clickstream.Text

/-- A character lies in one of the inclusive ranges of code points. -/
def inRanges (ranges : List (Nat × Nat)) (c : Char) : Bool :=
  ranges.any fun r => r.1 ≤ c.toNat && c.toNat ≤ r.2

/-- The inclusive ranges of white space. -/
def blankRanges : List (Nat × Nat) :=
  [(9, 13), (28, 32), (133, 133), (160, 160), (5760, 5760), (8192, 8202), (8232, 8233), (8239, 8239),
   (8287, 8287), (12288, 12288)]

/-- A white-space character, the separators U+001C to U+001F included. -/
def isBlank (c : Char) : Bool :=
  inRanges blankRanges c

/-- White space that may surround a numeral: all of it but the four separators U+001C to
U+001F. -/
def isSpacing (c : Char) : Bool :=
  isBlank c && !(28 ≤ c.toNat && c.toNat ≤ 31)

/-- Removes the characters of a class from both ends of a text. -/
def trimBoth (p : Char → Bool) (cs : List Char) : List Char :=
  ((cs.dropWhile p).reverse.dropWhile p).reverse

/-- Removes white space from both ends. -/
def strip (s : String) : String :=
  String.ofList (trimBoth isBlank s.toList)

end Clickstream.Text
