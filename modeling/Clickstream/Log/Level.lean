import Clickstream.Failure

/-!
# Log levels

A level is a whole number; the larger, the graver. Six levels have names of their own, and two of
these a second name. Zero is the level of a log that has none and takes that of its parent.
-/

namespace Clickstream

namespace Level

/-- The named levels. -/
def named : List (String × Int) :=
  [("CRITICAL", 50), ("ERROR", 40), ("WARNING", 30), ("INFO", 20), ("DEBUG", 10), ("NOTSET", 0)]

/-- The second names. -/
def alsoNamed : List (String × Int) :=
  [("FATAL", 50), ("WARN", 30)]

/-- The level of a plain report. -/
def info : Int := 20

/-- The name of a level, made from its number if it has none. -/
def name (level : Int) : String :=
  match named.find? fun entry => entry.2 == level with
  | some entry => entry.1
  | none => "Level " ++ toString level

/-- A level that is given by number or by name; a number stays as it is. -/
def ofValue (v : Value) : Outcome Value :=
  match v with
  | .bool _ | .int _ => .ok v
  | .text s =>
    match (named ++ alsoNamed).lookup s with
    | some level => .ok (.int level)
    | none => raise (.unknownLevel v.shown)
  | _ => raise (.levelType v.shown)

/-- The level in force: the own one, or that of the parent. -/
def inForce (own inherited : Int) : Int :=
  if own = 0 then inherited else own

/-- A record of a level passes a log with a threshold. No log lets a level through that is not
positive. -/
def passes (threshold level : Int) : Bool :=
  0 < level && threshold ≤ level

end Level

end Clickstream
