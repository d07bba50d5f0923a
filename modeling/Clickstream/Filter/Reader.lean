import Clickstream.Filter.Spec

/-!
# Reading filters

The filters of a request arrive as JSON text, in bytes or characters, or as a decoded list. Each
filter is an object with the fields `parameter`, `type` and `value` and no others. What is missing
or empty means no filters.
-/

namespace Clickstream.Filter

/-- The texts of a list of texts. -/
def readTexts? : List Value → Option (List String)
  | [] => some []
  | .text s :: rest => (readTexts? rest).map (s :: ·)
  | _ :: _ => none

/-- The values of a filter: one text or more. -/
def readValues : Value → Outcome (List String)
  | .list [] => reject .filterValues
  | .list items =>
    match readTexts? items with
    | some values => .ok values
    | none => reject .filterValues
  | _ => reject .filterValues

/-- The parameter of a filter. -/
def readParameter (v : Value) : Outcome String :=
  match v with
  | .text s => if isKnownParameter s then .ok s else reject (.unknownParameter v)
  | _ => reject (.unknownParameter v)

/-- The kind of a filter. -/
def readKind (v : Value) : Outcome FilterKind :=
  match FilterKind.ofValue? v with
  | some kind => .ok kind
  | none => reject (.unknownFilterType v)

/-- The names of fields that a filter does not have, in the order of their characters. -/
def unexpectedFields (fields : Fields) : List String :=
  (fields.names.filter fun name => !(["parameter", "type", "value"].contains name)).mergeSort
    fun a b => a ≤ b

/-- Reads one filter. -/
def ofValue : Value → Outcome Filter
  | .object fields =>
    match unexpectedFields fields with
    | [] => do
      let parameter ← readParameter (Fields.get fields "parameter")
      let kind ← readKind (Fields.get fields "type")
      let values ← readValues (Fields.get fields "value")
      .ok ⟨parameter, kind, values⟩
    | names => reject (.unexpectedFields names)
  | _ => reject .filterNotObject

/-- Reads the filters of a list. -/
def readAll : List Value → Outcome (List Filter)
  | [] => .ok []
  | v :: rest => do
    let filter ← ofValue v
    let filters ← readAll rest
    .ok (filter :: filters)

/-- Reads a decoded list of filters. -/
def readList : Value → Outcome (List Filter)
  | .list items => readAll items
  | _ => reject .filtersNotList

/-- What a JSON text decodes to. -/
def decoded : Except Json.ReadFault Value → Outcome Value
  | .ok v => .ok v
  | .error (.malformed m) => reject (.filtersNotJson m)
  | .error (.longInteger digits) => raise (.integerDigits digits)

/-- Reads the filters of a request. -/
def readRequest : Value → Outcome (List Filter)
  | .null | .text "" | .bytes [] => .ok []
  | .text s => do readList (← decoded (Json.readText s))
  | .bytes bytes =>
    match Text.decode bytes with
    | .error fault => raise (.undecodable fault)
    | .ok cs => do readList (← decoded (Json.readChars cs))
  | v => readList v

end Clickstream.Filter
