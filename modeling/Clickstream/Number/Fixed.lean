import Clickstream.Number.Shortest

/-!
# Doubles with a given number of digits

Three forms of a double in decimal: with a number of decimal places, in powers of ten with a number
of places behind the first digit, and with a number of significant digits. Each rounds the exact
value once, a tie to the even last digit. The third form is written positionally for exponents from
-4 up to the number of digits, and drops the trailing zeros of its fraction.
-/

namespace Clickstream.Binary64

/-- The form of a double in decimal. -/
inductive DecimalForm
  | fixed
  | scientific
  | general
  deriving DecidableEq, Repr

/-- A text of digits, with zeros in front up to a width. -/
def zeroFilled (width : Nat) (ds : List Char) : List Char :=
  List.replicate (width - ds.length) '0' ++ ds

/-- Splits a whole number into the digits before and after a point that stands in front of the
last `places` digits. -/
def splitPlaces (n places : Nat) : List Char × List Char :=
  let ds := zeroFilled (places + 1) (Nat.toDigits 10 n)
  ds.splitAt (ds.length - places)

/-- Joins the digits around the point. The point is left out if nothing follows it, unless it is
wanted. -/
def joinPoint (keepPoint : Bool) (whole fraction : List Char) : List Char :=
  if fraction.isEmpty && !keepPoint then whole else whole ++ '.' :: fraction

/-- The exponent with a sign and at least two digits. -/
def exponentText (mark : Char) (exponent : Int) : List Char :=
  mark :: (if exponent < 0 then '-' else '+') ::
    zeroFilled 2 (Nat.toDigits 10 exponent.natAbs)

/-- The first `count` significant digits of a ratio, rounded, and the exponent of the first. -/
def significantDigits (num den count : Nat) : Nat × Int :=
  if num = 0 then (0, 0)
  else
    let lead := leadingExponent num den
    let shift := (count : Int) - 1 - lead
    let n :=
      if 0 ≤ shift then roundRatio (num * Nat.pow 10 shift.toNat) den
      else roundRatio num (den * Nat.pow 10 (-shift).toNat)
    if n = Nat.pow 10 count then (n / 10, lead + 1) else (n, lead)

/-- A ratio with a number of decimal places. -/
def fixedText (keepPoint : Bool) (num den places : Nat) : List Char :=
  let (whole, fraction) := splitPlaces (roundRatio (num * Nat.pow 10 places) den) places
  joinPoint keepPoint whole fraction

/-- A ratio in powers of ten. -/
def scientificText (keepPoint : Bool) (mark : Char) (num den places : Nat) : List Char :=
  let (n, exponent) := significantDigits num den (places + 1)
  let (whole, fraction) := splitPlaces n places
  joinPoint keepPoint whole fraction ++ exponentText mark exponent

/-- A ratio with a number of significant digits. If the point is wanted, the trailing zeros are
wanted too. -/
def generalText (keepPoint : Bool) (mark : Char) (num den count : Nat) : List Char :=
  let count := max 1 count
  let (n, exponent) := significantDigits num den count
  let trim (ds : List Char) : List Char := if keepPoint then ds else dropTrailingZeros ds
  if -4 ≤ exponent && exponent < count then
    let (whole, fraction) := splitPlaces n ((count : Int) - 1 - exponent).toNat
    joinPoint keepPoint whole (trim fraction)
  else
    let (whole, fraction) := splitPlaces n (count - 1)
    joinPoint keepPoint whole (trim fraction) ++ exponentText mark exponent

/-- The text of a double in a decimal form; `mark` stands before an exponent. -/
def decimalText (form : DecimalForm) (keepPoint : Bool) (mark : Char) (precision : Nat)
    (x : Binary64) : List Char :=
  match x.toDyadic? with
  | none => x.toText.toList
  | some d =>
    let (num, den) := d.toRatio
    let body := match form with
      | .fixed => fixedText keepPoint num.natAbs den precision
      | .scientific => scientificText keepPoint mark num.natAbs den precision
      | .general => generalText keepPoint mark num.natAbs den precision
    if x.isNegative then '-' :: body else body

end Clickstream.Binary64
