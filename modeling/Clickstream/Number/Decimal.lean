import Clickstream.Number.Numeral

/-!
# Decimals

Decimal floating-point numbers: a finite value `± c · 10^e` keeps its exponent, so `1.50` and `1.5`
are different forms of one number. Texts are read exactly, within the widest exponent range; sums
and differences are rounded to a `Context`, a half to the even digit.
-/

namespace Clickstream

/-- A decimal number. A payload of zero is none. -/
inductive Decimal
  | finite (negative : Bool) (coefficient : Nat) (exponent : Int)
  | infinite (negative : Bool)
  | nan (negative signaling : Bool) (payload : Nat)
  deriving DecidableEq, Repr

/-- The conditions under which a decimal operation has no result. -/
inductive DecimalSignal
  | malformedText
  | invalidOperation
  | overflow
  deriving DecidableEq, Repr

/-- The precision and the exponent range that results are rounded to. -/
structure DecimalContext where
  precision : Nat
  maxExponent : Int
  minExponent : Int

namespace DecimalContext

/-- Twenty-eight digits. -/
def standard : DecimalContext := ⟨28, 999999, -999999⟩

/-- The range within which texts are read exactly. -/
def widest : DecimalContext := ⟨999999999999999999, 999999999999999999, -999999999999999999⟩

/-- The least exponent that a coefficient may have. -/
def tinyExponent (ctx : DecimalContext) : Int :=
  ctx.minExponent - ctx.precision + 1

end DecimalContext

namespace Decimal

/-- The number of decimal digits; zero has one. -/
def digitCount (n : Nat) : Nat :=
  (Nat.toDigits 10 n).length

/-! ## Reading -/

/-- A numeral within the widest range. -/
def ofNumeral (n : Numeral) : Except DecimalSignal Decimal :=
  let ctx := DecimalContext.widest
  let adjusted := n.scale + digitCount n.coefficient - 1
  if n.scale < ctx.tinyExponent || ctx.maxExponent < adjusted then .error .invalidOperation
  else .ok (.finite n.negative n.coefficient n.scale)

/-- The digits after the name of a NaN. -/
def readPayload? (cs : List Char) : Option Nat :=
  match Numeral.spanDigits cs with
  | (ds, []) => some (Text.ofDigits ds)
  | _ => none

/-- The name of infinity, or of NaN with an optional payload. -/
def readNamed? (cs : List Char) : Option Decimal :=
  let (negative, name) := Numeral.spanSign cs
  match name.map asciiLower with
  | ['i', 'n', 'f'] | ['i', 'n', 'f', 'i', 'n', 'i', 't', 'y'] => some (.infinite negative)
  | 'n' :: 'a' :: 'n' :: rest => (readPayload? rest).map (.nan negative false)
  | 's' :: 'n' :: 'a' :: 'n' :: rest => (readPayload? rest).map (.nan negative true)
  | _ => none

/-- Reads a decimal. White space around the text and underscores anywhere are ignored. -/
def read (cs : List Char) : Except DecimalSignal Decimal :=
  let cs := (Text.trimBoth Text.isBlank cs).filter (· != '_')
  match Numeral.read? cs with
  | some n => ofNumeral n
  | none =>
    match readNamed? cs with
    | some d => .ok d
    | none => .error .malformedText

/-! ## Rounding -/

/-- Drops the last `places` digits of a coefficient, a half to the even digit. -/
def roundOff (coefficient places : Nat) : Nat :=
  roundRatio coefficient (Nat.pow 10 places)

/-- Rounds an exact result to a context. -/
def round (ctx : DecimalContext) (negative : Bool) (coefficient : Nat) (exponent : Int) :
    Except DecimalSignal Decimal :=
  if coefficient = 0 then
    .ok (.finite negative 0 (min (max exponent ctx.tinyExponent) ctx.maxExponent))
  else
    let lowest := max ctx.tinyExponent (exponent + digitCount coefficient - ctx.precision)
    let drop := (lowest - exponent).toNat
    let c := roundOff coefficient drop
    let e := exponent + drop
    let (c, e) := if c = Nat.pow 10 ctx.precision then (Nat.pow 10 (ctx.precision - 1), e + 1) else (c, e)
    if ctx.maxExponent < e + digitCount c - 1 then .error .overflow
    else .ok (.finite negative c e)

/-- A nonzero operand that lies far below the last digit of the other one is replaced by a single
digit just below: it decides the rounding in the same way. -/
def raise (ctx : DecimalContext) (bigCoefficient : Nat) (bigExponent : Int)
    (coefficient : Nat) (exponent : Int) : Nat × Int :=
  let digits := digitCount bigCoefficient
  let floor := bigExponent - 1 +
    (if ctx.precision < digits then 0 else (digits : Int) - ctx.precision - 1)
  if bigCoefficient ≠ 0 ∧ exponent + digitCount coefficient - 1 < floor then
    (if coefficient = 0 then 0 else 1, floor)
  else (coefficient, exponent)

/-- The coefficient with its sign. -/
def signed (negative : Bool) (coefficient : Nat) : Int :=
  if negative then -coefficient else coefficient

/-- The sum of a number and one with an exponent that is not greater. -/
def addAligned (ctx : DecimalContext) (bigSign : Bool) (bigCoefficient : Nat) (bigExponent : Int)
    (smallSign : Bool) (smallCoefficient : Nat) (smallExponent : Int) :
    Except DecimalSignal Decimal :=
  let (smallCoefficient, smallExponent) :=
    raise ctx bigCoefficient bigExponent smallCoefficient smallExponent
  let shift := if bigCoefficient = 0 then 0 else Nat.pow 10 (bigExponent - smallExponent).toNat
  let sum := signed bigSign (bigCoefficient * shift) + signed smallSign smallCoefficient
  let negative := if sum = 0 then bigSign && smallSign else sum < 0
  round ctx negative sum.natAbs smallExponent

/-- The rounded sum. -/
def add (ctx : DecimalContext) : Decimal → Decimal → Except DecimalSignal Decimal
  | .nan _ true _, _ | _, .nan _ true _ => .error .invalidOperation
  | .nan n s p, _ | _, .nan n s p => .ok (.nan n s p)
  | .infinite a, .infinite b => if a = b then .ok (.infinite a) else .error .invalidOperation
  | .infinite a, .finite .. | .finite .., .infinite a => .ok (.infinite a)
  | .finite s₁ c₁ e₁, .finite s₂ c₂ e₂ =>
    if e₁ < e₂ then addAligned ctx s₂ c₂ e₂ s₁ c₁ e₁ else addAligned ctx s₁ c₁ e₁ s₂ c₂ e₂

/-- The opposite number. A NaN has no opposite. -/
def negate : Decimal → Decimal
  | .finite s c e => .finite (!s) c e
  | .infinite s => .infinite (!s)
  | .nan s q p => .nan s q p

/-- The rounded difference. -/
def sub (ctx : DecimalContext) (x y : Decimal) : Except DecimalSignal Decimal :=
  add ctx x y.negate

/-- Neither infinite nor NaN. -/
def isFinite : Decimal → Bool
  | .finite .. => true
  | _ => false

/-! ## Writing -/

/-- Digits with the point before the last `places` of them, and a zero before a leading point. -/
def writePlaces (ds : List Char) (places : Nat) : String :=
  if places = 0 then String.ofList ds
  else
    let padded := List.replicate (places + 1 - ds.length) '0' ++ ds
    String.ofList (padded.take (padded.length - places)) ++ "." ++
      String.ofList (padded.drop (padded.length - places))

/-- Positional notation, without an exponent. -/
def toText : Decimal → String
  | .infinite negative => if negative then "-Infinity" else "Infinity"
  | .nan negative signaling payload =>
    (if negative then "-" else "") ++ (if signaling then "sNaN" else "NaN") ++
      (if payload = 0 then "" else toString payload)
  | .finite negative coefficient exponent =>
    let ds := Nat.toDigits 10 coefficient
    let body :=
      if 0 ≤ exponent then
        String.ofList (if coefficient = 0 then ds else ds ++ List.replicate exponent.toNat '0')
      else writePlaces ds (-exponent).toNat
    if negative then "-" ++ body else body

/-- The nearest double of a finite decimal. -/
def toBinary64? : Decimal → Option Binary64
  | .finite negative coefficient exponent => some (.ofDecimal negative coefficient exponent)
  | _ => none

end Decimal

end Clickstream
