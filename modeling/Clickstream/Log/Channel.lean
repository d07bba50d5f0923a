import Clickstream.Log.Level

/-!
# Log channels

A channel is a logger with a level and one form for its lines. Setting a channel up replaces what
was set up before, so its state depends on the last set-up alone.
-/

namespace Clickstream

/-- The form of the lines of a log. -/
inductive LineForm
  | json
  | text
  deriving DecidableEq, Repr

/-- A logger that is set up. -/
structure Channel where
  name : String
  /-- The level, as it was given or by its number. -/
  level : Value
  form : LineForm
  deriving Repr

namespace Channel

/-- The name of the logger above all others. -/
def rootName : String := "root"

/-- Sets a channel up. Without a name it is the root. -/
def configure (name : Option String) (level : Value) (json : Bool) : Outcome Channel := do
  let level ← Level.ofValue level
  let name := match name with
    | none | some "" => rootName
    | some name => name
  return ⟨name, level, if json then .json else .text⟩

end Channel

end Clickstream
