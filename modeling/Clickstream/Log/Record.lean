import Clickstream.Cause
import Clickstream.Log.Level
import Clickstream.Log.Template

/-!
# Log records

A record is written as one line of JSON (`Record.line`). The line holds the time, the level, the
logger, the service, the message and, if there is one, the cause; then come the fields of the
context. A context field of the same name takes the place of a field of the record in the line
(`Record.entry`), and a context that names an attribute of the record itself is refused
(`Record.checkContext`).
-/

namespace Clickstream

/-- The name of the service, in every line. -/
def serviceName : String := "site_analytics"

structure Record where
  logger : String
  level : Int
  template : String
  arguments : List Value
  cause : Option Cause
  context : Fields
  /-- Seconds since the start of 1970. -/
  created : Binary64
  deriving Repr

namespace Record

/-- The attributes of a record, which no context may name. -/
def attributes : List String :=
  ["name", "msg", "args", "levelname", "levelno", "pathname", "filename", "module", "exc_info",
    "exc_text", "stack_info", "lineno", "funcName", "created", "msecs", "relativeCreated", "thread",
    "threadName", "processName", "process"]

/-- The names that are set when a record is written, which no context may name either. -/
def derived : List String :=
  ["message", "asctime"]

/-- A context may not name what belongs to the record. The first such name is the fault. -/
def checkContext (context : Fields) : Outcome Unit :=
  match (Bindings.names context).find? fun name => (derived ++ attributes).contains name with
  | some name => raise (.recordAttribute name)
  | none => .ok ()

/-- A context field that is written: neither the name of a task nor a name with a leading
underscore. -/
def isShown (name : String) : Bool :=
  !((attributes ++ derived).contains name || name == "taskName" || name.toList.head? == some '_')

/-- A value as it is written: a value without a JSON form by its plain form. An integer of too many
digits has neither. -/
def writable (v : Value) : Outcome Value :=
  match v.plain? with
  | none => raise .unwritableInteger
  | some s =>
    match Json.write v with
    | .ok _ => .ok v
    | .error _ => .ok (.text s)

/-- Fields with their values as they are written. -/
def writableFields : Fields → Outcome Fields
  | [] => .ok []
  | (name, v) :: rest => do
    let v ← writable v
    let rest ← writableFields rest
    .ok ((name, v) :: rest)

/-- The context fields that are written. -/
def shownContext (context : Fields) : Outcome Fields :=
  writableFields (context.filter fun f => isShown f.1)

/-- The time of a record. -/
def time (r : Record) : Outcome Moment :=
  match Moment.ofEpoch r.created with
  | .ok m => .ok m
  | .error fault => raise (.epoch fault)

/-- The message of a record. -/
def message (r : Record) : Outcome String :=
  Template.message r.template r.arguments

/-- The fields of the record itself. -/
def ownFields (r : Record) : Outcome Fields := do
  let time ← r.time
  let message ← r.message
  return [("timestamp", .text (time.toText "T")), ("level", .text (Level.name r.level)),
    ("logger", .text r.logger), ("service", .text serviceName), ("message", .text message)] ++
    (match r.cause with
      | some cause => [("exception", .text cause.summary)]
      | none => [])

/-- All fields of the line. -/
def entry (r : Record) : Outcome Fields := do
  return Bindings.update (← r.ownFields) (← shownContext r.context)

/-- The written line. -/
def line (r : Record) : Outcome String := do
  match Json.write (.object (← r.entry)) with
  | .ok s => return s
  | .error kind => raise (.unwritable kind)

end Record

end Clickstream
