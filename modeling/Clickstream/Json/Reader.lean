import Clickstream.Number.Numeral
import Clickstream.Text.Encoding
import Clickstream.Value.Basic

/-!
# Reading JSON

A reader for JSON texts. Beside the standard it accepts `NaN`, `Infinity` and `-Infinity`. Of two
fields of the same name the later one gives the value and the earlier one the place. Every
malformed text has one fault, that of the first place where it cannot go on.

The reader works on the remaining characters. It recurses on fuel, one unit for each step into a
value or to a next item; as at most two steps are taken for one character, twice the length of the
text is enough.
-/

namespace Clickstream.Json

/-- Why a text is not JSON. -/
inductive Malformed
  | value
  | extraData
  | comma
  | colon
  | fieldName
  | unterminated
  | controlCharacter
  | escape
  | unicodeEscape
  | byteOrderMark
  deriving DecidableEq, Repr

namespace Malformed

def message : Malformed → String
  | .value => "Expecting value"
  | .extraData => "Extra data"
  | .comma => "Expecting ',' delimiter"
  | .colon => "Expecting ':' delimiter"
  | .fieldName => "Expecting property name enclosed in double quotes"
  | .unterminated => "Unterminated string starting at"
  | .controlCharacter => "Invalid control character at"
  | .escape => "Invalid \\escape"
  | .unicodeEscape => "Invalid \\uXXXX escape"
  | .byteOrderMark => "Unexpected UTF-8 BOM (decode using utf-8-sig)"

end Malformed

/-- Why a text cannot be read: it is malformed, or it holds an integer with too many digits. -/
inductive ReadFault
  | malformed (m : Malformed)
  | longInteger (digits : Nat)
  deriving DecidableEq, Repr

/-- A value and the characters after it. -/
abbrev Step (α : Type) := Except ReadFault (α × List Char)

def fail {α : Type} (m : Malformed) : Except ReadFault α :=
  .error (.malformed m)

/-- White space between tokens. -/
def isSpace (c : Char) : Bool :=
  c == ' ' || c == '\t' || c == '\n' || c == '\r'

def skipSpace (cs : List Char) : List Char :=
  cs.dropWhile isSpace

/-! ## Strings -/

/-- The value of a hexadecimal digit. -/
def hexValue? (c : Char) : Option Nat :=
  Text.digitOfBase? 16 c

/-- Four hexadecimal digits, with at least one character behind them. -/
def readUnit? : List Char → Option (Nat × List Char)
  | a :: b :: c :: d :: e :: rest => do
    let n := (((← hexValue? a) * 16 + (← hexValue? b)) * 16 + (← hexValue? c)) * 16 + (← hexValue? d)
    return (n, e :: rest)
  | _ => none

/-- What follows a high surrogate: whether another escape stands there, and its unit. -/
inductive Partner
  | none
  | unit (n : Nat) (rest : List Char)
  | malformed

/-- Looks for an escape after a high surrogate. -/
def partner : List Char → Partner
  | '\\' :: 'u' :: a :: b :: c :: d :: e :: rest =>
    match readUnit? (a :: b :: c :: d :: e :: rest) with
    | some (n, rest) => .unit n rest
    | none => .malformed
  | _ => .none

/-- The character of a `u` escape, with the partner of a high surrogate. -/
def readUnicodeEscape (cs : List Char) : Step Char :=
  match readUnit? cs with
  | none => fail .unicodeEscape
  | some (n, rest) =>
    if Text.isHighSurrogate n then
      match partner rest with
      | .malformed => fail .unicodeEscape
      | .unit m rest' =>
        if Text.isLowSurrogate m then .ok (Text.charOfCode (Text.joinSurrogates n m), rest')
        else .ok (Text.charOfCode n, rest)
      | .none => .ok (Text.charOfCode n, rest)
    else .ok (Text.charOfCode n, rest)

/-- The character of a one-letter escape. -/
def simpleEscape? : Char → Option Char
  | '"' => some '"'
  | '\\' => some '\\'
  | '/' => some '/'
  | 'b' => some '\x08'
  | 'f' => some '\x0c'
  | 'n' => some '\n'
  | 'r' => some '\r'
  | 't' => some '\t'
  | _ => none

/-- Reads a string up to its closing quotation mark. -/
def readString : Nat → List Char → Step (List Char)
  | 0, _ => fail .unterminated
  | fuel + 1, cs =>
    match cs with
    | [] => fail .unterminated
    | '"' :: rest => .ok ([], rest)
    | ['\\'] => fail .unterminated
    | '\\' :: 'u' :: rest =>
      match readUnicodeEscape rest with
      | .error e => .error e
      | .ok (c, rest) => (readString fuel rest).map fun r => (c :: r.1, r.2)
    | '\\' :: c :: rest =>
      match simpleEscape? c with
      | none => fail .escape
      | some c => (readString fuel rest).map fun r => (c :: r.1, r.2)
    | c :: rest =>
      if c.toNat < 32 then fail .controlCharacter
      else (readString fuel rest).map fun r => (c :: r.1, r.2)

/-! ## Numbers -/

/-- Splits off the ASCII digits. -/
def spanAsciiDigits (cs : List Char) : List Char × List Char :=
  cs.span Text.isAsciiDigit

/-- The value of ASCII digits. -/
def asciiValue (cs : List Char) : Nat :=
  Text.ofDigits (cs.map fun c => c.toNat - 48)

/-- The digits before the point: a zero alone, or a row that does not begin with zero. -/
def readWhole? : List Char → Option (List Char × List Char)
  | '0' :: rest => some (['0'], rest)
  | c :: rest =>
    if Text.isAsciiDigit c then some (c :: (spanAsciiDigits rest).1, (spanAsciiDigits rest).2)
    else none
  | [] => none

/-- A point with at least one digit behind it. -/
def readFraction? : List Char → Option (List Char × List Char)
  | '.' :: rest =>
    match spanAsciiDigits rest with
    | ([], _) => none
    | (ds, rest) => some (ds, rest)
  | _ => none

/-- An exponent with at least one digit. -/
def readExponent? : List Char → Option (Int × List Char)
  | c :: rest =>
    if c = 'e' || c = 'E' then
      let (negative, rest) := Numeral.spanSign rest
      match spanAsciiDigits rest with
      | ([], _) => none
      | (ds, rest) =>
        let n : Int := asciiValue ds
        some (if negative then -n else n, rest)
    else none
  | [] => none

/-- Reads a number; a fraction or an exponent makes it a double. -/
def readNumber (negative : Bool) (cs : List Char) : Step Value :=
  match readWhole? cs with
  | none => fail .value
  | some (whole, rest) =>
    match readFraction? rest, readExponent? rest with
    | none, none =>
      if maxIntegerDigits < whole.length then .error (.longInteger whole.length)
      else
        let n : Int := asciiValue whole
        .ok (.int (if negative then -n else n), rest)
    | none, some (e, rest) => .ok (.real (.ofDecimal negative (asciiValue whole) e), rest)
    | some (fraction, rest), _ =>
      let n := asciiValue (whole ++ fraction)
      match readExponent? rest with
      | none => .ok (.real (.ofDecimal negative n (-fraction.length)), rest)
      | some (e, rest) => .ok (.real (.ofDecimal negative n (e - fraction.length)), rest)

/-! ## Values -/

/-- Reads a value that is not a string, a list or an object. -/
def readAtom : List Char → Step Value
  | 'n' :: 'u' :: 'l' :: 'l' :: rest => .ok (.null, rest)
  | 't' :: 'r' :: 'u' :: 'e' :: rest => .ok (.bool true, rest)
  | 'f' :: 'a' :: 'l' :: 's' :: 'e' :: rest => .ok (.bool false, rest)
  | 'N' :: 'a' :: 'N' :: rest => .ok (.real .nan, rest)
  | 'I' :: 'n' :: 'f' :: 'i' :: 'n' :: 'i' :: 't' :: 'y' :: rest =>
    .ok (.real (.infinite false), rest)
  | '-' :: 'I' :: 'n' :: 'f' :: 'i' :: 'n' :: 'i' :: 't' :: 'y' :: rest =>
    .ok (.real (.infinite true), rest)
  | '-' :: rest => readNumber true rest
  | cs => readNumber false cs

mutual

/-- Reads one value, without white space before it. -/
def readValue : Nat → List Char → Step Value
  | 0, _ => fail .value
  | fuel + 1, cs =>
    match cs with
    | '"' :: rest =>
      (readString (rest.length + 1) rest).map fun r => (.text (String.ofList r.1), r.2)
    | '[' :: rest =>
      match skipSpace rest with
      | ']' :: rest => .ok (.list [], rest)
      | rest => (readItems fuel rest).map fun r => (.list r.1, r.2)
    | '\x7b' :: rest =>
      match skipSpace rest with
      | '\x7d' :: rest => .ok (.object [], rest)
      | rest => (readFields fuel [] rest).map fun r => (.object r.1, r.2)
    | cs => readAtom cs

/-- Reads the items of a list up to its closing bracket. -/
def readItems : Nat → List Char → Step (List Value)
  | 0, _ => fail .value
  | fuel + 1, cs =>
    match readValue fuel cs with
    | .error e => .error e
    | .ok (v, rest) =>
      match skipSpace rest with
      | ']' :: rest => .ok ([v], rest)
      | ',' :: rest => (readItems fuel (skipSpace rest)).map fun r => (v :: r.1, r.2)
      | _ => fail .comma

/-- Reads the fields of an object up to its closing brace; the fields read before are given. -/
def readFields : Nat → Fields → List Char → Step Fields
  | 0, _, _ => fail .value
  | fuel + 1, fields, cs =>
    match cs with
    | '"' :: rest =>
      match readString (rest.length + 1) rest with
      | .error e => .error e
      | .ok (name, rest) =>
        match skipSpace rest with
        | ':' :: rest =>
          match readValue fuel (skipSpace rest) with
          | .error e => .error e
          | .ok (v, rest) =>
            let fields := fields.set (String.ofList name) v
            match skipSpace rest with
            | '\x7d' :: rest => .ok (fields, rest)
            | ',' :: rest => readFields fuel fields (skipSpace rest)
            | _ => fail .comma
        | _ => fail .colon
    | _ => fail .fieldName

end

/-- Reads a text that holds one value, with white space around it. -/
def readChars (cs : List Char) : Except ReadFault Value :=
  match readValue (2 * cs.length + 2) (skipSpace cs) with
  | .error e => .error e
  | .ok (v, rest) => if (skipSpace rest).isEmpty then .ok v else fail .extraData

/-- Reads a text. A byte order mark in front of it is a fault. -/
def readText (s : String) : Except ReadFault Value :=
  match s.toList with
  | '\ufeff' :: _ => fail .byteOrderMark
  | cs => readChars cs

end Clickstream.Json
