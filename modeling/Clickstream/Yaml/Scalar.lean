import Clickstream.Number.Numeral
import Clickstream.Text.Digit
import Clickstream.Value.Basic

/-!
# Plain scalars

A scalar without quotation marks stands for null, a truth value, a number or a moment if it has the
form of one, and for its text otherwise. The forms are

* null: nothing, `~`, and `null` in three spellings;
* truth values: `yes`, `no`, `true`, `false`, `on`, `off` in three spellings each;
* doubles: digits with a point, an exponent only with a sign, `.inf` and `.nan`;
* integers: binary after `0b`, octal after `0`, hexadecimal after `0x`, decimal;
* integers and doubles in base 60, their places divided by colons;
* moments: a date, a time of day, and possibly a distance from UTC.

Within digits an underscore may stand anywhere but in front. The three spellings of a word are lower
case, upper case, and one capital in front. A date alone stays a text.
-/

namespace Clickstream.Yaml

/-! ## Words -/

/-- The spellings of a word that count. -/
def spellings (word : String) : List String :=
  [word, word.capitalize, String.ofList (word.toList.map Char.toUpper)]

def isNull (s : String) : Bool :=
  s == "" || s == "~" || (spellings "null").contains s

def readBool? (s : String) : Option Bool :=
  if (["yes", "true", "on"].flatMap spellings).contains s then some true
  else if (["no", "false", "off"].flatMap spellings).contains s then some false
  else none

/-! ## Digits -/

/-- Digits of a base up to sixteen, and underscores. -/
def isDigitRow (base : Nat) (cs : List Char) : Bool :=
  !cs.isEmpty && cs.all fun c =>
    c == '_' || (Text.digitOfBase? base c).isSome

/-- The number of a row of digits; underscores do not count. -/
def digitRow (base : Nat) (cs : List Char) : Nat :=
  (cs.filterMap (Text.digitOfBase? base)).foldl (fun n d => base * n + d) 0

/-- Decimal digits that start with a digit. -/
def isDecimalRow (cs : List Char) : Bool :=
  isDigitRow 10 cs && cs.head? != some '_'

/-- A place of a number in base 60 behind the first: one digit or two, up to 59. -/
def isSixtieth (cs : List Char) : Bool :=
  match cs with
  | [d] => d.isDigit
  | [c, d] => '0' ≤ c && c ≤ '5' && d.isDigit
  | _ => false

/-- Cuts a text at each colon. -/
def splitColons : List Char → List (List Char)
  | [] => [[]]
  | c :: cs =>
    if c = ':' then [] :: splitColons cs
    else
      match splitColons cs with
      | [] => [[c]]
      | first :: rest => (c :: first) :: rest

/-! ## Numbers -/

/-- Reads the digits of an integer behind its sign. -/
def readNatural? (cs : List Char) : Option Nat :=
  match cs with
  | '0' :: 'b' :: bits => if isDigitRow 2 bits then some (digitRow 2 bits) else none
  | '0' :: 'x' :: hex => if isDigitRow 16 hex then some (digitRow 16 hex) else none
  | ['0'] => some 0
  | '0' :: octal => if isDigitRow 8 octal then some (digitRow 8 octal) else none
  | _ =>
    match splitColons cs with
    | first :: places =>
      if isDecimalRow first && places.all isSixtieth then
        some (places.foldl (fun n place => 60 * n + digitRow 10 place) (digitRow 10 first))
      else none
    | [] => none

/-- Reads an integer. -/
def readInteger? (cs : List Char) : Option Int :=
  let (negative, body) := Numeral.spanSign cs
  (readNatural? body).map fun n => if negative then -(n : Int) else n

/-- Reads an exponent, whose sign is written; nothing is the exponent zero. -/
def readSignedExponent? (cs : List Char) : Option Int :=
  match cs with
  | [] => some 0
  | e :: sign :: digits =>
    if (e = 'e' || e = 'E') && (sign = '+' || sign = '-') && !digits.isEmpty &&
        digits.all Char.isDigit then
      let n : Int := digitRow 10 digits
      some (if sign = '-' then -n else n)
    else none
  | _ => none

/-- Reads the digits of a double behind its sign, and the sign with them. A fraction without digits
in front has no sign. -/
def readDigits? (signed negative : Bool) (cs : List Char) : Option Binary64 :=
  let whole := cs.takeWhile fun c => c.isDigit || c == '_'
  match cs.drop whole.length with
  | '.' :: rest =>
    let fraction := rest.takeWhile fun c => c.isDigit || c == '_'
    let wellFormed :=
      if whole.isEmpty then !signed && isDecimalRow fraction else isDecimalRow whole
    if wellFormed then
      (readSignedExponent? (rest.drop fraction.length)).map fun exponent =>
        let places := (fraction.filter (· != '_')).length
        .ofDecimal negative (digitRow 10 (whole ++ fraction)) (exponent - places)
    else none
  | _ => none

/-- The number of places in base 60, the last one first, the next of which counts `base`. Products
and sums are rounded one by one. -/
def sumSixties (base : Nat) (sum : Binary64) : List Binary64 → Binary64
  | [] => sum
  | place :: places => sumSixties (60 * base) (sum.add (place.mul (.ofRatio false base 1))) places

/-- Reads a double in base 60, whose last place has a point. -/
def readSixties? (negative : Bool) (cs : List Char) : Option Binary64 :=
  match (splitColons cs).reverse with
  | last :: place :: places =>
    let whole := last.takeWhile (· != '.')
    let fraction := (last.dropWhile (· != '.')).drop 1
    let inner := (place :: places).dropLast
    if isSixtieth whole && whole.length < last.length &&
        fraction.all (fun c => c.isDigit || c == '_') &&
        isDecimalRow ((place :: places).getLastD []) && inner.all isSixtieth then
      let low : Int := (fraction.filter (· != '_')).length
      let value := sumSixties 1 (.zero false)
        (.ofDecimal false (digitRow 10 (whole ++ fraction)) (-low) ::
          (place :: places).map fun p => .ofRatio false (digitRow 10 p) 1)
      some (if negative then value.negate else value)
    else none
  | _ => none

/-- Reads a double. -/
def readBinary64? (cs : List Char) : Option Binary64 :=
  let signed := cs.head? == some '+' || cs.head? == some '-'
  let (negative, body) := Numeral.spanSign cs
  match String.ofList body with
  | ".inf" | ".Inf" | ".INF" => some (.infinite negative)
  | ".nan" | ".NaN" | ".NAN" => if signed then none else some .nan
  | _ => (readDigits? signed negative body).orElse fun _ => readSixties? negative body

/-! ## Moments -/

/-- Splits off one digit or two. -/
def spanTwo : List Char → Option (Nat × List Char)
  | c :: d :: cs =>
    if !c.isDigit then none
    else if d.isDigit then some (digitRow 10 [c, d], cs)
    else some (digitRow 10 [c], d :: cs)
  | [c] => if c.isDigit then some (digitRow 10 [c], []) else none
  | [] => none

/-- Splits off a mark and the two digits behind it. -/
def spanMarked (mark : Char) : List Char → Option (Nat × List Char)
  | m :: c :: d :: cs =>
    if m = mark && c.isDigit && d.isDigit then some (digitRow 10 [c, d], cs) else none
  | _ => none

def dropBlanks (cs : List Char) : List Char :=
  cs.dropWhile fun c => c == ' ' || c == '\t'

/-- Reads the distance from UTC in ticks. -/
def readDistance? (cs : List Char) : Option (Option Int) :=
  match dropBlanks cs with
  | [] => if cs.isEmpty then some none else none
  | ['Z'] => some (some 0)
  | sign :: rest =>
    if sign = '+' || sign = '-' then do
      let (hours, rest) ← spanTwo rest
      let (minutes, rest) ← if rest.isEmpty then some (0, []) else spanMarked ':' rest
      if !rest.isEmpty then none
      let n : Int := (hours * 60 + minutes) * 60 * ticksPerSecond
      some (some (if sign = '-' then -n else n))
    else none

/-- Splits off the mark between a date and a time of day. -/
def spanTimeMark? : List Char → Option (List Char)
  | 'T' :: cs | 't' :: cs => some cs
  | ' ' :: cs | '\t' :: cs => some (dropBlanks cs)
  | _ => none

/-- Splits off a fraction of a second, in microseconds; further digits do not count. -/
def spanMicros : List Char → Nat × List Char
  | '.' :: cs =>
    let digits := cs.takeWhile Char.isDigit
    (digitRow 10 ((digits ++ List.replicate 6 '0').take 6), cs.dropWhile Char.isDigit)
  | cs => (0, cs)

/-- Reads a moment. -/
def readMoment? (cs : List Char) : Option Moment := do
  let year := cs.take 4
  if year.length < 4 || !year.all Char.isDigit then none
  let rest ← match cs.drop 4 with
    | '-' :: rest => some rest
    | _ => none
  let (month, rest) ← spanTwo rest
  let rest ← match rest with
    | '-' :: rest => some rest
    | _ => none
  let (day, rest) ← spanTwo rest
  let rest ← spanTimeMark? rest
  let (hour, rest) ← spanTwo rest
  let (minute, rest) ← spanMarked ':' rest
  let (second, rest) ← spanMarked ':' rest
  let (micros, rest) := spanMicros rest
  let offset ← readDistance? rest
  if 24 ≤ hour || 60 ≤ minute || 60 ≤ second then none
  let date ← Date.ofCivil? ⟨digitRow 10 year, month, day⟩
  let ticks := ((hour * 60 + minute) * 60 + second) * ticksPerSecond + micros
  return ⟨← (Timestamp.startOf date).add? ticks, offset⟩

/-! ## All forms -/

/-- The value of a plain scalar. -/
def resolve (cs : List Char) : Value :=
  let s := String.ofList cs
  if isNull s then .null
  else
    match readBool? s, readBinary64? cs, readInteger? cs, readMoment? cs with
    | some b, _, _, _ => .bool b
    | _, some x, _, _ => .real x
    | _, _, some n, _ => .int n
    | _, _, _, some m => .moment m
    | _, _, _, _ => .text s

end Clickstream.Yaml
