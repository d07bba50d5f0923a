import Clickstream.Failure
import Clickstream.Pattern.RegexText

/-!
# Path patterns

Two ways to select pages by their path, both sent to the event store as regular expressions.

A wildcard pattern describes a whole path: `*` stands for one path segment and `**` for any
sequence of characters. While single stars are expanded, double stars are kept as a marker.

A path group is all pages below a path, or exactly those a number of segments deeper.
-/

namespace Clickstream

/-- Replaces the occurrences of a text from the left; `skip` characters are dropped first. -/
def replaceFrom (old new : List Char) : Nat → List Char → List Char
  | _, [] => []
  | skip + 1, _ :: rest => replaceFrom old new skip rest
  | 0, c :: rest =>
    if old.isPrefixOf (c :: rest) then new ++ replaceFrom old new (old.length - 1) rest
    else c :: replaceFrom old new 0 rest

/-- Replaces all occurrences of a text that is not empty, from the left. -/
def replaceAll (old new text : List Char) : List Char :=
  replaceFrom old new 0 text

namespace Wildcard

/-- What a double star is kept as while single stars are expanded. -/
def marker : List Char :=
  "\x00DOUBLE_STAR\x00".toList

/-- A path segment. -/
def segment : List Char :=
  "[^/]+".toList

/-- Any sequence of characters. -/
def anySequence : List Char :=
  ".*".toList

/-- Takes the meaning from every metacharacter but the star. -/
def escape (pattern : List Char) : List Char :=
  pattern.flatMap fun c => if c = '*' then [c] else Regex.writeLiteral c

/-- The expression that matches the whole paths of a pattern. -/
def regexChars (pattern : List Char) : List Char :=
  let marked := replaceAll ['*', '*'] marker (escape pattern)
  let expanded := replaceAll ['*'] segment marked
  '^' :: replaceAll marker anySequence expanded ++ ['$']

/-- The text of the expression for a pattern. -/
def regexText (pattern : String) : String :=
  String.ofList (regexChars pattern.toList)

end Wildcard

namespace PathGroup

/-- A path with one slash at its end removed, every character taken literally. -/
def escapePath (path : List Char) : List Char :=
  let escaped := path.flatMap Regex.writeLiteral
  if escaped.getLast? = some '/' then escaped.dropLast else escaped

/-- The expression for the pages of a group: all below the path, or those `depth` segments
deeper. -/
def regexChars (path : List Char) : Option Nat → List Char
  | none => '^' :: escapePath path
  | some depth =>
    '^' :: escapePath path ++ (List.replicate depth ('/' :: Wildcard.segment)).flatten ++ ['$']

/-- The depth of a group: a positive integer, or none. -/
def readDepth : Value → Outcome (Option Nat)
  | .null => .ok none
  | .int n => if 1 ≤ n then .ok (some n.toNat) else reject (.depth (.int n))
  | v => reject (.depth v)

/-- The text of the expression for a group. -/
def regexText (path : String) (depth : Value) : Outcome String :=
  (readDepth depth).map fun depth => String.ofList (regexChars path.toList depth)

end PathGroup

end Clickstream
