import Clickstream.Value.Basic
import Clickstream.Number.Numeral
import Clickstream.Number.Shortest
import Clickstream.Text.Quoted

/-!
# Texts of values

Every value has a shown form, in which texts are quoted, and a plain form, in which a text is
itself and a moment is written with a space. Both appear in messages. An integer of too many digits
cannot be written at all (`Value.plain?`).
-/

namespace Clickstream

namespace Moment

/-- The time of day as arguments: hour and minute, and the smaller units up to the last one that is
not zero. -/
def clockArguments (t : Timestamp) : List Nat :=
  [t.hour, t.minute] ++
    (if t.micros ≠ 0 then [t.second, t.micros] else if t.second ≠ 0 then [t.second] else [])

/-- The shown form of a distance from UTC: whole days, which may be negative, and what is left of
the day in seconds and microseconds, as far as these are not zero. -/
def shownOffset (offset : Int) : String :=
  if offset = 0 then "datetime.timezone.utc"
  else
    let rest := offset.fmod ticksPerDay
    let parts := [("days", offset.fdiv ticksPerDay), ("seconds", rest.fdiv ticksPerSecond),
      ("microseconds", rest.fmod ticksPerSecond)]
    let shown := (parts.filter fun part => part.2 != 0).map fun part =>
      part.1 ++ "=" ++ toString part.2
    "datetime.timezone(datetime.timedelta(" ++ ", ".intercalate shown ++ "))"

/-- The shown form of a moment. -/
def shown (m : Moment) : String :=
  let c := m.timestamp.date.civil
  let parts := ([c.year, c.month, c.day] ++ clockArguments m.timestamp).map toString
  let zone := match m.offset with
    | some offset => ["tzinfo=" ++ shownOffset offset]
    | none => []
  "datetime.datetime(" ++ ", ".intercalate (parts ++ zone) ++ ")"

end Moment

namespace Value

mutual

/-- The shown form: texts are quoted. -/
def shown : Value → String
  | .null => "None"
  | .bool b => if b then "True" else "False"
  | .int n => toString n
  | .real x => x.toText
  | .text s => Text.quoted s
  | .bytes bs => Text.quotedBytes bs
  | .moment m => m.shown
  | .list items => "[" ++ ", ".intercalate (shownItems items) ++ "]"
  | .object fields => "\x7b" ++ ", ".intercalate (shownFields fields) ++ "\x7d"

/-- The shown forms of the items of a list. -/
def shownItems : List Value → List String
  | [] => []
  | v :: vs => shown v :: shownItems vs

/-- The shown forms of the fields of an object. -/
def shownFields : List (String × Value) → List String
  | [] => []
  | (name, v) :: fs => (Text.quoted name ++ ": " ++ shown v) :: shownFields fs

end

/-- The plain form. -/
def plain : Value → String
  | .text s => s
  | .moment m => m.toText " "
  | v => v.shown

/-! ## Long integers -/

/-- An integer has more digits than an integer text may have. -/
def isLong (n : Int) : Bool :=
  maxIntegerDigits < (Nat.toDigits 10 n.natAbs).length

mutual

/-- A value is a long integer or has one in it. -/
def holdsLong : Value → Bool
  | .int n => isLong n
  | .list items => itemsHoldLong items
  | .object fields => fieldsHoldLong fields
  | _ => false

/-- One of the items of a list is or has a long integer. -/
def itemsHoldLong : List Value → Bool
  | [] => false
  | v :: vs => holdsLong v || itemsHoldLong vs

/-- One of the fields of an object is or has a long integer. -/
def fieldsHoldLong : List (String × Value) → Bool
  | [] => false
  | (_, v) :: fs => holdsLong v || fieldsHoldLong fs

end

/-- The plain form, if all integers in it can be written. -/
def plain? (v : Value) : Option String :=
  if v.holdsLong then none else some v.plain

end Value

end Clickstream
