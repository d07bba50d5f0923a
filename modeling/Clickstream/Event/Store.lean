import Clickstream.Event.Basic
import Clickstream.Number.Word
import Clickstream.Value.Integer

/-!
# The store of events

A store is closed, or it holds the events in the order in which they were written. Events arrive as
records; writing stops at the first record that the columns cannot hold, and the records before it
stay.
-/

namespace Clickstream

/-- A store: nothing if it is closed. -/
abbrev EventStore := Option (List Event)

/-- Why a record is not written. -/
inductive RecordFault
  /-- A value does not fit its column. -/
  | conversion
  /-- A required value is null. -/
  | constraint
  deriving DecidableEq, Repr

namespace RecordFault

/-- The kind of the cause that a failed write names. -/
def name : RecordFault → String
  | .conversion => "ConversionException"
  | .constraint => "ConstraintException"

end RecordFault

namespace Event

/-! ## Records -/

/-- An integer of 32 bits. -/
def readSmallInteger (v : Value) : Except RecordFault (Option Int) :=
  match v with
  | .null => .ok none
  | _ =>
    match v.toInteger with
    | .ok n => if fitsWord32 n then .ok (some n) else .error .conversion
    | .error _ => .error .conversion

/-- A text. -/
def readText : Value → Option String
  | .null => none
  | v => some v.plain

/-- A coordinate. -/
def readCoordinate (v : Value) : Except RecordFault (Option Binary64) :=
  match v with
  | .null => .ok none
  | .real x => .ok (some x)
  | .int n => .ok (Binary64.ofInt? n)
  | _ => .error .conversion

/-- A timestamp in UTC. -/
def readTimestamp (v : Value) : Except RecordFault (Option Timestamp) :=
  match v with
  | .null => .ok none
  | .moment m =>
    match m.toUtc? with
    | some t => .ok (some t)
    | none => .error .conversion
  | _ => .error .conversion

/-- A parameter of the URL as text; null counts as missing. -/
def readParameter (binding : String × Value) : Option (String × String) :=
  match binding.2 with
  | .null => none
  | v => some (binding.1, v.plain)

/-- The parameters of the URL. -/
def readParameters : Value → Bindings String
  | .object fields => fields.filterMap readParameter
  | _ => []

/-- A value that must not be null. -/
def required {α : Type} : Option α → Except RecordFault α
  | some a => .ok a
  | none => .error .constraint

/-- Reads a record. The type of an event is a page view unless another one is given. -/
def ofFields (fields : Fields) : Except RecordFault Event := do
  let get := Fields.get fields
  let site ← readSmallInteger (get "site_id")
  let timestamp ← readTimestamp (get "timestamp")
  let lat ← readCoordinate (get "lat")
  let lon ← readCoordinate (get "lon")
  let width ← readSmallInteger (get "screen_width")
  let height ← readSmallInteger (get "screen_height")
  let type := (Bindings.get? fields "type").getD (.text "pageview")
  return {
    site := ← required site
    session := ← required (readText (get "session_id"))
    user := ← required (readText (get "user_id"))
    timestamp := ← required timestamp
    type := ← required (readText type)
    attributes := fun a => readText (get a.name)
    lat := lat
    lon := lon
    screenWidth := width
    screenHeight := height
    urlParameters := readParameters (get "url_parameters") }

end Event

namespace EventStore

/-- The name of a store that is kept in memory. -/
def location : String := ":memory:"

/-- An empty store. -/
def empty : EventStore := some []

/-- Opens a closed store as an empty one; an open store stays as it is. -/
def opened : EventStore → EventStore
  | none => empty
  | some events => some events

/-- Reads records up to the first fault. -/
def readRecords : List Fields → List Event × Option RecordFault
  | [] => ([], none)
  | fields :: rest =>
    match Event.ofFields fields with
    | .error fault => ([], some fault)
    | .ok e =>
      let (events, fault) := readRecords rest
      (e :: events, fault)

/-- The failure of a write. -/
def insertFailure (fault : RecordFault) : Failure :=
  .storage "insert_events" (some location) (some fault.name)

/-- Writes records, and counts them. -/
def insert (store : EventStore) (records : List Fields) : Outcome Nat × EventStore :=
  if records.isEmpty then (.ok 0, store)
  else
    match store with
    | none => (.error (.unavailable location none), none)
    | some events =>
      let (added, fault) := readRecords records
      let result : Outcome Nat :=
        match fault with
        | some fault => .error (insertFailure fault)
        | none => .ok records.length
      (result, some (events ++ added))

end EventStore

end Clickstream
