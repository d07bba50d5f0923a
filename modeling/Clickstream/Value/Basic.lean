import Clickstream.Bindings
import Clickstream.Number.Binary64
import Clickstream.Calendar.Timestamp

/-!
# Values

The dynamic values that cross the boundary of the library: decoded request data, bound parameters,
result rows, log context. Integers are unbounded, and a whole number, a double and a truth value
are different values even where they are equal as numbers (`Value.same`).
-/

namespace Clickstream

/-- A dynamic value. The fields of an object have distinct names and keep their order. -/
inductive Value
  | null
  | bool (b : Bool)
  | int (n : Int)
  | real (x : Binary64)
  | text (s : String)
  | bytes (bs : List UInt8)
  | moment (m : Moment)
  | list (items : List Value)
  | object (fields : List (String × Value))
  deriving Repr

instance : Inhabited Value := ⟨.null⟩

/-- The fields of an object, also a row of a result set. -/
abbrev Fields := Bindings Value

/-- The value of a field, null if it is missing. -/
def Fields.get (fields : Fields) (name : String) : Value :=
  (Bindings.get? fields name).getD .null

namespace Value

/-- The name of the kind of a value. -/
def typeName : Value → String
  | .null => "NoneType"
  | .bool _ => "bool"
  | .int _ => "int"
  | .real _ => "float"
  | .text _ => "str"
  | .bytes _ => "bytes"
  | .moment _ => "datetime.datetime"
  | .list _ => "list"
  | .object _ => "dict"

/-- Neither null nor zero nor empty. -/
def isTruthy : Value → Bool
  | .null => false
  | .bool b => b
  | .int n => n != 0
  | .real (.finite _ m _) => m != 0
  | .real _ => true
  | .text s => s != ""
  | .bytes bs => !bs.isEmpty
  | .moment _ => true
  | .list items => !items.isEmpty
  | .object fields => !fields.isEmpty

/-- A null value is an absent one. -/
def toOption : Value → Option Value
  | .null => none
  | v => some v

/-- The text of a text value. -/
def text? : Value → Option String
  | .text s => some s
  | _ => none

end Value

end Clickstream
