import Clickstream.Value.Basic

/-!
# Equality of values

Two values are the same if they are equal as numbers, texts, byte strings, moments, lists or
mappings. Truth values count as the numbers one and zero, numbers are compared exactly, NaN equals
nothing, not even itself, and the order of the fields of an object does not matter.
-/

namespace Clickstream

/-- A number up to numerical equality: finite numbers in their normal form. -/
inductive NumberKey
  | finite (d : Dyadic)
  | infinite (negative : Bool)
  deriving DecidableEq, Repr

namespace NumberKey

def ofInt (n : Int) : NumberKey :=
  .finite (Dyadic.normalize ⟨n, 0⟩)

/-- NaN has no key. -/
def ofBinary64? : Binary64 → Option NumberKey
  | .nan => none
  | .infinite negative => some (.infinite negative)
  | x => x.toDyadic?.map fun d => .finite d.normalize

end NumberKey

namespace Value

/-- What a value is as a number: nothing for a value that is none, and NaN apart. -/
inductive NumberView
  | none
  | nan
  | key (k : NumberKey)

/-- The value as a number. -/
def numberView : Value → NumberView
  | .bool b => .key (.ofInt (if b then 1 else 0))
  | .int n => .key (.ofInt n)
  | .real x =>
    match NumberKey.ofBinary64? x with
    | some k => .key k
    | none => .nan
  | _ => .none

/-- Equality of values without parts. -/
def sameLeaf (a b : Value) : Bool :=
  match a.numberView, b.numberView with
  | .key j, .key k => j == k
  | .none, .none =>
    match a, b with
    | .null, .null => true
    | .text s, .text t => s == t
    | .bytes s, .bytes t => s == t
    | .moment s, .moment t => s.same t
    | _, _ => false
  | _, _ => false

mutual

/-- Equality of values. -/
def same : Value → Value → Bool
  | .list xs, .list ys => sameItems xs ys
  | .object xs, .object ys => xs.length == ys.length && sameFields xs ys
  | a, b => sameLeaf a b

/-- Equality of lists, item by item. -/
def sameItems : List Value → List Value → Bool
  | [], [] => true
  | x :: xs, y :: ys => same x y && sameItems xs ys
  | _, _ => false

/-- Every field has an equal one of the same name in the second list. -/
def sameFields : List (String × Value) → List (String × Value) → Bool
  | [], _ => true
  | (name, v) :: xs, ys =>
    (match Bindings.get? ys name with
      | some w => same v w
      | none => false) && sameFields xs ys

end

instance : BEq Value := ⟨same⟩

end Value

end Clickstream
