import Clickstream.Result.Number

/-!
# Normalizing result rows

Stores hand back counts as texts. A row is normalized field by field: identifiers and texts stay as
they are, every other text that is a number becomes one. A text in a field that is declared to hold
numbers, but is none, stays too and gives a warning.
-/

namespace Clickstream

/-- How a field is normalized. -/
inductive FieldKind
  | identifier
  | text
  | number
  /-- A field that is not declared: a number where it reads as one. -/
  | auto
  deriving DecidableEq, Repr

namespace FieldKind

def name : FieldKind → String
  | .identifier => "identifier"
  | .text => "text"
  | .number => "number"
  | .auto => "auto"

def all : List FieldKind :=
  [.identifier, .text, .number, .auto]

/-- The kind with a name. -/
def ofValue (v : Value) : Outcome FieldKind :=
  match v with
  | .text s =>
    match all.find? fun kind => kind.name == s with
    | some kind => .ok kind
    | none => raise (.notMember v.shown "FieldKind")
  | _ => raise (.notMember v.shown "FieldKind")

/-- Values of the field are never changed. -/
def isFixed : FieldKind → Bool
  | .identifier | .text => true
  | .number | .auto => false

end FieldKind

/-- The declared kinds of fields. -/
abbrev Schema := Bindings FieldKind

namespace Schema

/-- The fields that identify something in every result. -/
def standard : Schema :=
  [("session_id", .identifier), ("user_id", .identifier), ("identified_user_id", .identifier),
   ("effective_user_id", .identifier)]

/-- The standard schema with further declarations. -/
def extending (declared : Schema) : Schema :=
  Bindings.update standard declared

/-- The kind of a field. -/
def kindOf (schema : Schema) (field : String) : FieldKind :=
  (Bindings.get? schema field).getD .auto

end Schema

/-- A text that is no number in a field of numbers. -/
structure NotNumeric where
  field : String
  text : String
  deriving DecidableEq, Repr

namespace NotNumeric

def message (w : NotNumeric) : String :=
  "Numeric field " ++ w.field ++ " holds non-numeric value " ++ Text.quoted w.text

end NotNumeric

namespace Schema

/-- Normalizes the value of a field. -/
def normalizeValue (schema : Schema) (field : String) (v : Value) :
    Outcome (Value × List NotNumeric) :=
  match v with
  | .text "" => .ok (v, [])
  | .text s =>
    if (schema.kindOf field).isFixed then .ok (v, [])
    else
      match parseNumber s with
      | .error e => .error e
      | .ok (some number) => .ok (number, [])
      | .ok none => .ok (v, if schema.kindOf field = .number then [⟨field, s⟩] else [])
  | _ => .ok (v, [])

/-- Normalizes a row. -/
def normalizeRow (schema : Schema) : Fields → Outcome (Fields × List NotNumeric)
  | [] => .ok ([], [])
  | (field, v) :: rest => do
    let (v, warnings) ← schema.normalizeValue field v
    let (rest, more) ← schema.normalizeRow rest
    .ok ((field, v) :: rest, warnings ++ more)

/-- Normalizes some rows. -/
def normalize (schema : Schema) : List Fields → Outcome (List Fields × List NotNumeric)
  | [] => .ok ([], [])
  | row :: rest => do
    let (row, warnings) ← schema.normalizeRow row
    let (rest, more) ← schema.normalize rest
    .ok (row :: rest, warnings ++ more)

end Schema

end Clickstream
