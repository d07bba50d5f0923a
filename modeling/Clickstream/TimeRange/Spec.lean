import Clickstream.Value.Arithmetic
import Clickstream.Value.Integer

/-!
# Requested time ranges

A request restricts its events to whole days, to a window of past minutes, or not at all. What it
asks for is kept as it came and is checked later (`TimeRangeSpec.resolve`); only the minutes are
read as numbers here.
-/

namespace Clickstream

/-- A requested time range. -/
structure TimeRangeSpec where
  startDate : Option String
  endDate : Option String
  timeZone : Option String
  minutesStart : Option Value
  minutesEnd : Option Value
  deriving Repr

namespace TimeRangeSpec

/-- No restriction. -/
def unrestricted : TimeRangeSpec :=
  ⟨none, none, none, none, none⟩

def hasDates (spec : TimeRangeSpec) : Bool :=
  spec.startDate.isSome || spec.endDate.isSome

def hasMinutes (spec : TimeRangeSpec) : Bool :=
  spec.minutesStart.isSome || spec.minutesEnd.isSome

/-! ## Reading -/

/-- A field as a text; null and the empty text count as absent. -/
def readText (v : Value) : Outcome (Option String) :=
  match v with
  | .null | .text "" => .ok none
  | _ =>
    match v.plain? with
    | some s => .ok (some s)
    | none => raise .unwritableInteger

/-- The double that a value stands for. -/
def readDouble (field : String) (v : Value) : Outcome Binary64 :=
  match v with
  | .int n =>
    match Binary64.ofInt? n with
    | some x => .ok x
    | none => raise .integerToDouble
  | .real x => .ok x
  | .text s =>
    match readBinary64? s.toList with
    | some x => .ok x
    | none => reject (.minutesNotNumber field v)
  | .bytes bs =>
    match readBinary64? (Value.bytesAsChars bs) with
    | some x => .ok x
    | none => reject (.minutesNotNumber field v)
  | _ => reject (.minutesNotNumber field v)

/-- A number of minutes: an integer if it is whole, a finite double otherwise. -/
def readMinutes (field : String) (v : Value) : Outcome (Option Value) :=
  match v with
  | .null | .text "" => .ok none
  | _ => do
    let x ← readDouble field v
    match x.toDyadic? with
    | some d => .ok (some (if d.isInteger then .int d.truncate else .real x))
    | none => reject (.minutesNotFinite field v)

/-- Reads the parameters of a request. -/
def ofFields (fields : Fields) : Outcome TimeRangeSpec := do
  let startDate ← readText (Fields.get fields "start_date")
  let endDate ← readText (Fields.get fields "end_date")
  let timeZone ← readText (Fields.get fields "time_zone")
  let minutesStart ← readMinutes "past_minutes_start" (Fields.get fields "past_minutes_start")
  let minutesEnd ← readMinutes "past_minutes_end" (Fields.get fields "past_minutes_end")
  .ok ⟨startDate, endDate, timeZone, minutesStart, minutesEnd⟩

/-- Reads the parameters of a request, which must be an object. -/
def ofValue : Value → Outcome TimeRangeSpec
  | .object fields => ofFields fields
  | v => raise (.noFields v.typeName)

end TimeRangeSpec

end Clickstream
