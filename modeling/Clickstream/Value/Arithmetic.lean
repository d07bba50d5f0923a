import Clickstream.Failure

/-!
# Numbers among values

Order and arithmetic of the values that are numbers: truth values, integers and doubles. Order is
exact. Sums and differences of integers are exact too; a double on either side makes the result a
double.
-/

namespace Clickstream.Value

/-- The exact value of a finite number. -/
def toDyadic? : Value → Option Dyadic
  | .bool b => some ⟨if b then 1 else 0, 0⟩
  | .int n => some ⟨n, 0⟩
  | .real x => x.toDyadic?
  | _ => none

/-- A whole number that is not written as a double. -/
def toWhole? : Value → Option Int
  | .bool b => some (if b then 1 else 0)
  | .int n => some n
  | _ => none

/-- A number as a double. An integer may be too large for one. -/
def toBinary64 (v : Value) : Outcome Binary64 :=
  match v with
  | .real x => .ok x
  | _ =>
    match v.toWhole?.bind Binary64.ofInt? with
    | some x => .ok x
    | none => raise .integerToDouble

/-- Combines two numbers. -/
def combine (onWhole : Int → Int → Int) (onReal : Binary64 → Binary64 → Binary64) (a b : Value) :
    Outcome Value :=
  match a.toWhole?, b.toWhole? with
  | some m, some n => .ok (.int (onWhole m n))
  | _, _ => do
    let x ← a.toBinary64
    let y ← b.toBinary64
    .ok (.real (onReal x y))

/-- The sum of two numbers. -/
def add (a b : Value) : Outcome Value :=
  combine (· + ·) .add a b

/-- The difference of two numbers. -/
def sub (a b : Value) : Outcome Value :=
  combine (· - ·) .sub a b

end Clickstream.Value
