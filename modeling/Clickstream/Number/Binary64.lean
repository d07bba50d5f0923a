/-!
# Doubles

A double is a finite value `± m · 2^e`, an infinity, or NaN. Finite values are kept in the one
form that the interchange format has for them: `m < 2^53`, `-1074 ≤ e ≤ 971`, and `2^52 ≤ m`
unless `e = -1074`. Every operation computes the exact rational result and rounds it once, to the
nearest double, a tie to the even significand (`Binary64.ofRatio`).
-/

namespace Clickstream

/-- A double-precision number. -/
inductive Binary64
  | finite (negative : Bool) (significand : Nat) (exponent : Int)
  | infinite (negative : Bool)
  | nan
  deriving DecidableEq, Repr

/-- A dyadic rational `significand · 2^exponent`. -/
structure Dyadic where
  significand : Int
  exponent : Int
  deriving DecidableEq, Repr

namespace Dyadic

/-- Moves factors of two from the significand to the exponent, at most `fuel` of them. -/
def halve : Nat → Int → Int → Dyadic
  | 0, m, e => ⟨m, e⟩
  | fuel + 1, m, e => if m % 2 = 0 then halve fuel (m / 2) (e + 1) else ⟨m, e⟩

/-- The form with an odd significand; zero has exponent zero. Two dyadic rationals are equal
exactly when their normal forms are. -/
def normalize (d : Dyadic) : Dyadic :=
  if d.significand = 0 then ⟨0, 0⟩
  else halve d.significand.natAbs.log2 d.significand d.exponent

/-- The significand over the exponent `e`, for `e` not above the own one. -/
def scaled (d : Dyadic) (e : Int) : Int :=
  d.significand * (Nat.pow 2 (d.exponent - e).toNat : Nat)

/-- The order of dyadic rationals, decided over their common exponent. -/
def lt (a b : Dyadic) : Bool :=
  let e := min a.exponent b.exponent
  a.scaled e < b.scaled e

/-- The integer part, towards zero. -/
def truncate (d : Dyadic) : Int :=
  if 0 ≤ d.exponent then d.significand * (Nat.pow 2 d.exponent.toNat : Nat)
  else d.significand.tdiv (Nat.pow 2 (-d.exponent).toNat : Nat)

/-- A whole number. -/
def isInteger (d : Dyadic) : Bool :=
  0 ≤ d.exponent || d.significand % (Nat.pow 2 (-d.exponent).toNat : Nat) == 0

def add (a b : Dyadic) : Dyadic :=
  let e := min a.exponent b.exponent
  ⟨a.scaled e + b.scaled e, e⟩

def mul (a b : Dyadic) : Dyadic :=
  ⟨a.significand * b.significand, a.exponent + b.exponent⟩

/-- The fraction, as a numerator and a positive denominator. -/
def toRatio (d : Dyadic) : Int × Nat :=
  if 0 ≤ d.exponent then (d.significand * (Nat.pow 2 d.exponent.toNat : Nat), 1)
  else (d.significand, Nat.pow 2 (-d.exponent).toNat)

end Dyadic

/-- The whole number nearest to `num / den`, a half to the even neighbour. -/
def roundRatio (num den : Nat) : Nat :=
  let q := num / den
  let r := num % den
  if den < 2 * r || (2 * r == den && q % 2 == 1) then q + 1 else q

/-- The whole number nearest to a ratio with a sign, a half to the even neighbour. -/
def roundRatioInt (num : Int) (den : Nat) : Int :=
  if num < 0 then -(roundRatio num.natAbs den : Int) else roundRatio num.natAbs den

namespace Binary64

/-- A zero with a sign. -/
def zero (negative : Bool) : Binary64 :=
  .finite negative 0 (-1074)

/-- The double nearest to the ratio of two whole numbers, a tie to the even significand. A ratio
that rounds beyond the largest double is infinite. -/
def ofRatio (negative : Bool) (num den : Nat) : Binary64 :=
  if num = 0 then zero negative
  else
    let scaled (e : Int) : Nat × Nat :=
      if 0 ≤ e then (num, den * Nat.pow 2 e.toNat) else (num * Nat.pow 2 (-e).toNat, den)
    let guess : Int := (num.log2 : Int) - den.log2 - 52
    let short := (scaled guess).1 / (scaled guess).2 < Nat.pow 2 52
    let e := max (if short then guess - 1 else guess) (-1074)
    let q := roundRatio (scaled e).1 (scaled e).2
    let (q, e) := if q = Nat.pow 2 53 then (Nat.pow 2 52, e + 1) else (q, e)
    if 971 < e then .infinite negative else .finite negative q e

/-- The double nearest to a dyadic rational; `negative` is the sign of a zero result. -/
def ofDyadic (negative : Bool) (d : Dyadic) : Binary64 :=
  let (num, den) := d.toRatio
  if num = 0 then zero negative else ofRatio (num < 0) num.natAbs den

/-- The double nearest to `± coefficient · 10^exponent`. Magnitudes far outside the range are
decided by the number of digits alone. -/
def ofDecimal (negative : Bool) (coefficient : Nat) (exponent : Int) : Binary64 :=
  let magnitude : Int := (Nat.toDigits 10 coefficient).length + exponent
  if coefficient = 0 then zero negative
  else if 400 < magnitude then .infinite negative
  else if magnitude < -400 then zero negative
  else if 0 ≤ exponent then ofRatio negative (coefficient * Nat.pow 10 exponent.toNat) 1
  else ofRatio negative coefficient (Nat.pow 10 (-exponent).toNat)

/-- The double nearest to a whole number, or nothing beyond the largest double. -/
def ofInt? (n : Int) : Option Binary64 :=
  match ofRatio (n < 0) n.natAbs 1 with
  | .infinite _ => none
  | x => some x

/-- The number that the 64 bits of the interchange format stand for. -/
def ofBits (bits : Nat) : Binary64 :=
  let negative := bits / Nat.pow 2 63 % 2 == 1
  let field : Nat := bits / Nat.pow 2 52 % Nat.pow 2 11
  let fraction : Nat := bits % Nat.pow 2 52
  if field = 2047 then (if fraction = 0 then .infinite negative else .nan)
  else if field = 0 then .finite negative fraction (-1074)
  else .finite negative (Nat.pow 2 52 + fraction) ((field : Int) - 1075)

/-- The low 63 bits of the interchange format, which grow with the magnitude. -/
def magnitude : Binary64 → Nat
  | .finite _ m e => (e + 1074).toNat * Nat.pow 2 52 + m
  | .infinite _ => 2047 * Nat.pow 2 52
  | .nan => 2047 * Nat.pow 2 52 + Nat.pow 2 51

/-- The 64 bits of the interchange format. -/
def toBits (x : Binary64) : Nat :=
  match x with
  | .finite true _ _ | .infinite true => Nat.pow 2 63 + x.magnitude
  | _ => x.magnitude

/-- A whole number that orders the doubles: the two zeros fall together and NaN comes last. -/
def rank : Binary64 → Int
  | x@(.finite true _ _) | x@(.infinite true) => -(x.magnitude : Int)
  | x => x.magnitude

def isFinite : Binary64 → Bool
  | .finite .. => true
  | _ => false

def isNegative : Binary64 → Bool
  | .finite negative _ _ | .infinite negative => negative
  | .nan => false

def negate : Binary64 → Binary64
  | .finite negative m e => .finite (!negative) m e
  | .infinite negative => .infinite (!negative)
  | .nan => .nan

/-- The exact value of a finite double. -/
def toDyadic? : Binary64 → Option Dyadic
  | .finite negative m e => some ⟨if negative then -m else m, e⟩
  | _ => none

/-- The sum, rounded once. A sum of opposite values is the positive zero. -/
def add (x y : Binary64) : Binary64 :=
  match x.toDyadic?, y.toDyadic? with
  | some a, some b => ofDyadic (x.isNegative && y.isNegative) (a.add b)
  | _, _ =>
    match x, y with
    | .nan, _ | _, .nan => .nan
    | .infinite a, .infinite b => if a = b then .infinite a else .nan
    | .infinite a, _ | _, .infinite a => .infinite a
    | _, _ => .nan

def sub (x y : Binary64) : Binary64 :=
  x.add y.negate

/-- The product, rounded once. -/
def mul (x y : Binary64) : Binary64 :=
  let negative := x.isNegative != y.isNegative
  match x.toDyadic?, y.toDyadic? with
  | some a, some b => ofDyadic negative (a.mul b)
  | _, _ =>
    match x, y with
    | .nan, _ | _, .nan => .nan
    | .infinite _, .finite _ 0 _ | .finite _ 0 _, .infinite _ => .nan
    | _, _ => .infinite negative

/-- Rounds to a number of decimal places: the exact value to the nearest decimal, a tie to the even
last digit, and that decimal to the nearest double. -/
def roundPlaces (x : Binary64) (places : Nat) : Binary64 :=
  match x.toDyadic? with
  | some d =>
    let (num, den) := d.toRatio
    ofRatio x.isNegative (roundRatio (num.natAbs * Nat.pow 10 places) den) (Nat.pow 10 places)
  | none => x

end Binary64

end Clickstream
