import Clickstream.Value.Integer

/-!
# Numbers in result texts

A result text is a number if it is a numeral with white space around it: decimal digits of any
script with an optional sign, point and exponent. There are no other bases, no separators, and no
names of infinity or NaN. A numeral with neither point nor exponent is an integer, any other one a
double.
-/

namespace Clickstream

/-- Reads the text of an integer numeral. -/
def readIntegerText (s : String) : Outcome Value :=
  (Value.integerOfChars (Text.quoted s) s.toList).map .int

/-- Reads the text of any other numeral. -/
def readDoubleText (s : String) : Outcome Value :=
  match readBinary64? s.toList with
  | some x => .ok (.real x)
  | none => raise (.doubleText (Text.quoted s))

/-- The number that a text is, none if it is no numeral. -/
def parseNumber (s : String) : Outcome (Option Value) :=
  match Numeral.read? (Text.trimBoth Text.isBlank s.toList) with
  | none => .ok none
  | some n => (if n.isInteger then readIntegerText s else readDoubleText s).map some

end Clickstream
