import Clickstream.Number.Binary64
import Clickstream.Text.Blank
import Clickstream.Text.Digit

/-!
# Numerals

The written forms of numbers. A numeral is an optional sign, digits with an optional point (digits
on at least one side of it), and an optional exponent:

  `[+-]? (d+ .? d* | . d+) ([eE] [+-]? d+)?`

where `d` is a decimal digit of any script. `Numeral.read?` accepts exactly this form. Integer and
double texts add rules of their own: surrounding white space, `_` between two digits, the names of
infinity and NaN, and a limit on the number of digits of an integer.
-/

namespace Clickstream

/-- A numeral in parts. -/
structure Numeral where
  negative : Bool
  whole : List Nat
  /-- The digits after the point, if a point is written. -/
  fraction : Option (List Nat)
  exponent : Option Int
  deriving DecidableEq, Repr

namespace Numeral

/-- Splits off the leading decimal digits. -/
def spanDigits : List Char → List Nat × List Char
  | [] => ([], [])
  | c :: cs =>
    match Text.digitValue? c with
    | some d => (d :: (spanDigits cs).1, (spanDigits cs).2)
    | none => ([], c :: cs)

/-- Splits off a sign; `true` is a minus. -/
def spanSign : List Char → Bool × List Char
  | '+' :: cs => (false, cs)
  | '-' :: cs => (true, cs)
  | cs => (false, cs)

/-- Splits off a point and the digits after it. -/
def spanFraction : List Char → Option (List Nat) × List Char
  | '.' :: cs => (some (spanDigits cs).1, (spanDigits cs).2)
  | cs => (none, cs)

/-- Reads what follows the digits: nothing, or an exponent up to the end. -/
def readExponent? : List Char → Option (Option Int)
  | [] => some none
  | c :: cs =>
    if c = 'e' || c = 'E' then
      let (negative, rest) := spanSign cs
      match spanDigits rest with
      | ([], _) => none
      | (ds, []) =>
        let n : Int := Text.ofDigits ds
        some (some (if negative then -n else n))
      | (_, _ :: _) => none
    else none

/-- Reads a numeral that fills the whole text. -/
def read? (cs : List Char) : Option Numeral :=
  let (negative, cs) := spanSign cs
  let (whole, cs) := spanDigits cs
  let (fraction, cs) := spanFraction cs
  if whole.isEmpty && (fraction.getD []).isEmpty then none
  else (readExponent? cs).map fun exponent => ⟨negative, whole, fraction, exponent⟩

/-- Neither a point nor an exponent is written. -/
def isInteger (n : Numeral) : Bool :=
  n.fraction.isNone && n.exponent.isNone

/-- All digits as one number. -/
def coefficient (n : Numeral) : Nat :=
  Text.ofDigits (n.whole ++ n.fraction.getD [])

/-- The power of ten that the coefficient is multiplied with. -/
def scale (n : Numeral) : Int :=
  n.exponent.getD 0 - (n.fraction.getD []).length

/-- The nearest double. -/
def toBinary64 (n : Numeral) : Binary64 :=
  .ofDecimal n.negative n.coefficient n.scale

end Numeral

/-! ## Underscores -/

/-- Removes underscores, each of which stands between two digits. The flag tells whether a digit
came last. -/
def dropUnderscores? : Bool → List Char → Option (List Char)
  | _, [] => some []
  | afterDigit, '_' :: c :: cs =>
    if afterDigit && Text.isDigit c then (dropUnderscores? true cs).map (c :: ·) else none
  | _, '_' :: [] => none
  | _, c :: cs => (dropUnderscores? (Text.isDigit c) cs).map (c :: ·)

/-! ## Integers -/

/-- The most digits that an integer text may have. -/
def maxIntegerDigits : Nat := 4300

/-- Why a text is no integer. -/
inductive IntegerFault
  | malformed
  | tooLong (digits : Nat)
  deriving DecidableEq, Repr

/-- Reads an integer: an optional sign and digits, with white space around them and single
underscores between digits. The number of digits is limited before anything behind them is looked
at. -/
def readInteger (cs : List Char) : Except IntegerFault Int :=
  let (negative, body) := Numeral.spanSign (Text.trimBoth Text.isSpacing cs)
  let run := body.takeWhile fun c => Text.isDigit c || c == '_'
  match dropUnderscores? false run with
  | none => .error .malformed
  | some digits =>
    if maxIntegerDigits < digits.length then .error (.tooLong digits.length)
    else if digits.isEmpty || run.length < body.length then .error .malformed
    else
      let n : Int := Text.ofDigits (digits.filterMap Text.digitValue?)
      .ok (if negative then -n else n)

/-! ## Doubles -/

/-- The lower case of an ASCII letter. -/
def asciiLower (c : Char) : Char :=
  if 65 ≤ c.toNat && c.toNat ≤ 90 then Char.ofNat (c.toNat + 32) else c

/-- The names of infinity and NaN, in any mixture of cases. -/
def readNamedBinary64? (cs : List Char) : Option Binary64 :=
  let (negative, name) := Numeral.spanSign cs
  match String.ofList (name.map asciiLower) with
  | "inf" | "infinity" => some (.infinite negative)
  | "nan" => some .nan
  | _ => none

/-- Reads a double: a numeral or a name, with white space around it and single underscores between
digits. -/
def readBinary64? (cs : List Char) : Option Binary64 :=
  match dropUnderscores? false (Text.trimBoth Text.isSpacing cs) with
  | none => none
  | some cs =>
    match Numeral.read? cs with
    | some n => some n.toBinary64
    | none => readNamedBinary64? cs

end Clickstream
