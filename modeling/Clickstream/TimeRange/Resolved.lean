import Clickstream.Calendar.IsoDate
import Clickstream.Calendar.Zone
import Clickstream.TimeRange.Spec

/-!
# Checked time ranges

A request for whole days names a first and a last day, both included, and the zone that the days
are days of. A request for past minutes names how many minutes ago the window begins and ends. A
zone alone restricts nothing: it comes with every request.
-/

namespace Clickstream

/-- A checked time range. -/
inductive TimeRange
  | unrestricted
  | days (first last : Date) (zone : Zone)
  | minutes (start stop : Value)

namespace TimeRangeSpec

/-- A text field that is there and not empty. -/
def supplied? : Option String → Option String
  | some "" | none => none
  | some s => some s

/-- A text that looks like a date: digits of any script in groups of four, two and two. A line feed
at the end is overlooked here. -/
def looksLikeDate (cs : List Char) : Bool :=
  let cs := if cs.length = 11 && cs.getLast? = some '\n' then cs.dropLast else cs
  match cs with
  | [y₁, y₂, y₃, y₄, s, m₁, m₂, t, d₁, d₂] =>
    [y₁, y₂, y₃, y₄, m₁, m₂, d₁, d₂].all Text.isDigit && s == '-' && t == '-'
  | _ => false

/-- Reads a day. -/
def readDay (field text : String) : Outcome Date :=
  if looksLikeDate text.toList then
    match Date.ofIso? text.toList with
    | some date => .ok date
    | none => reject (.noCalendarDate field text)
  else reject (.dateForm field text)

/-- Finds a zone. -/
def readZone [ZoneDatabase] (name : String) : Outcome Zone :=
  match ZoneDatabase.find? name with
  | some zone => .ok zone
  | none => reject (.unknownZone name)

/-- Checks a request for whole days. -/
def resolveDays [ZoneDatabase] (spec : TimeRangeSpec) : Outcome TimeRange :=
  match supplied? spec.startDate, supplied? spec.endDate, supplied? spec.timeZone with
  | some start, some stop, some zone => do
    let first ← readDay "start_date" start
    let last ← readDay "end_date" stop
    if last < first then reject (.datesInverted start)
    else do
      let zone ← readZone zone
      .ok (.days first last zone)
  | _, _, _ => reject .partialDates

/-- A double that is infinite or NaN. -/
def isEndless : Value → Bool
  | .real x => !x.isFinite
  | _ => false

/-- The exact value of a number of minutes; other values are not comparable with zero. -/
def minutesValue (v : Value) : Outcome Dyadic :=
  match v.toDyadic? with
  | some d => if d.significand < 0 then reject .negativeMinutes else .ok d
  | none => raise (.unordered v.typeName)

/-- Checks a request for past minutes. -/
def resolveMinutes (spec : TimeRangeSpec) : Outcome TimeRange :=
  match spec.minutesStart, spec.minutesEnd with
  | some start, some stop =>
    if isEndless start || isEndless stop then reject .infiniteMinutes
    else do
      let a ← minutesValue start
      let b ← minutesValue stop
      if b.lt a then .ok (.minutes start stop) else reject (.minutesInverted start)
  | _, _ => reject .partialMinutes

/-- Checks a requested time range. -/
def resolve [ZoneDatabase] (spec : TimeRangeSpec) : Outcome TimeRange :=
  if spec.hasDates && spec.hasMinutes then reject .mixedRange
  else if spec.hasDates then spec.resolveDays
  else if spec.hasMinutes then spec.resolveMinutes
  else .ok .unrestricted

end TimeRangeSpec

end Clickstream
