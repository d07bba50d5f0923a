import Clickstream.Number.Binary64

/-!
# Shortest decimals of doubles

The decimal text of a double has the fewest significant digits that read back as the same double,
and of the decimals with so many digits the nearest. A double is the nearest one for the interval
of reals around it that ends half-way to its neighbours (`Binary64.interval`); the ends belong to
it exactly when its significand is even. A decimal grid with `k` significant digits meets the
interval if and only if one of the two grid points next to the value does.
-/

namespace Clickstream.Binary64

/-- The interval of numbers that round to `m · 2^e`, over the common denominator of its three
members: the lower end, the value, and the upper end as numerators, and the denominator. Just above
a power of two the lower neighbour is only half as far away. -/
def interval (m : Nat) (e : Int) : Nat × Nat × Nat × Nat :=
  let below := if m = Nat.pow 2 52 && e != -1074 then 1 else 2
  let num (k : Nat) : Nat := if 2 ≤ e then k * Nat.pow 2 (e - 2).toNat else k
  let den : Nat := if 2 ≤ e then 1 else Nat.pow 2 (2 - e).toNat
  (num (4 * m - below), num (4 * m), num (4 * m + 2), den)

/-- Some decimal digits `digits · 10^exponent`. -/
structure Digits where
  digits : Nat
  exponent : Int
  deriving DecidableEq, Repr

/-- The grid point with step `10^exponent` nearest to the value among those in the interval. -/
def gridPoint? (m : Nat) (e : Int) (exponent : Int) : Option Digits :=
  let (low, value, high, den) := interval m e
  let up : Nat := if 0 ≤ exponent then 1 else Nat.pow 10 (-exponent).toNat
  let step : Nat := if 0 ≤ exponent then den * Nat.pow 10 exponent.toNat else den
  let inside (n : Nat) : Bool :=
    if m % 2 = 0 then low * up ≤ n * step && n * step ≤ high * up
    else low * up < n * step && n * step < high * up
  let n := value * up / step
  let downGap := value * up - n * step
  let upGap := (n + 1) * step - value * up
  let preferUp := upGap < downGap || (upGap == downGap && n % 2 == 1)
  if inside n && !(preferUp && inside (n + 1)) then some ⟨n, exponent⟩
  else if inside (n + 1) then some ⟨n + 1, exponent⟩
  else none

/-- The exponent of the leading decimal digit of a positive ratio. -/
def leadingExponent (num den : Nat) : Int :=
  if den ≤ num then (Nat.toDigits 10 (num / den)).length - 1
  else
    let guess : Nat := (Nat.toDigits 10 (den / num)).length
    if den ≤ num * Nat.pow 10 (guess - 1) then 1 - (guess : Int) else -(guess : Int)

/-- Tries the grids of `k`, `k + 1`, … significant digits. -/
def searchGrids (m : Nat) (e : Int) (lead : Int) : Nat → Nat → Digits
  | 0, k => ⟨m, (k : Int)⟩
  | fuel + 1, k =>
    match gridPoint? m e (lead - k + 1) with
    | some d => d
    | none => searchGrids m e lead fuel (k + 1)

/-- The shortest digits of a positive finite double. -/
def shortestDigits (m : Nat) (e : Int) : Digits :=
  let (_, value, _, den) := interval m e
  searchGrids m e (leadingExponent value den) 17 1

/-- Removes trailing zeros from a row of digits. -/
def dropTrailingZeros (ds : List Char) : List Char :=
  (ds.reverse.dropWhile (· == '0')).reverse

/-- Writes digits with the decimal point after the first `point` digits: positionally for a point
between -3 and 16, with an exponent of at least two digits otherwise. -/
def writeDigits (ds : List Char) (point : Int) : String :=
  let zeros (n : Nat) : String := String.ofList (List.replicate n '0')
  if -4 < point && point ≤ 16 then
    if point ≤ 0 then "0." ++ zeros (-point).toNat ++ String.ofList ds
    else
      let whole := ds.take point.toNat
      let rest := ds.drop point.toNat
      String.ofList whole ++ zeros (point.toNat - whole.length) ++ "." ++
        (if rest.isEmpty then "0" else String.ofList rest)
  else
    let exponent := point - 1
    let size := toString exponent.natAbs
    let mantissa := match ds with
      | [] => "0"
      | [d] => String.ofList [d]
      | d :: rest => String.ofList (d :: '.' :: rest)
    mantissa ++ "e" ++ (if exponent < 0 then "-" else "+") ++
      (if size.length < 2 then "0" ++ size else size)

/-- The text of a double: its shortest digits, a fraction or an exponent always written. -/
def toText : Binary64 → String
  | .nan => "nan"
  | .infinite negative => if negative then "-inf" else "inf"
  | .finite negative m e =>
    let body :=
      if m = 0 then "0.0"
      else
        let d := shortestDigits m e
        let ds := Nat.toDigits 10 d.digits
        writeDigits (dropTrailingZeros ds) (ds.length + d.exponent)
    if negative then "-" ++ body else body

end Clickstream.Binary64
