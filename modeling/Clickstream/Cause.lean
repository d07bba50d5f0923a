import Clickstream.Text.Quoted

/-!
# Causes

A condition that was met elsewhere and is reported on: its kind and its text. The text of a missing
key is the key, and it is shown in quotation marks.
-/

namespace Clickstream

/-- A condition by its kind and its text. -/
structure Cause where
  kind : String
  text : String
  deriving DecidableEq, Repr

namespace Cause

/-- The kind whose text is a key. -/
def missingKey : String := "KeyError"

/-- The text as it is reported. -/
def message (c : Cause) : String :=
  if c.kind = missingKey then Text.quoted c.text else c.text

/-- The kind with the text behind it, if there is one. -/
def summary (c : Cause) : String :=
  if c.message = "" then c.kind else c.kind ++ ": " ++ c.message

end Cause

end Clickstream
