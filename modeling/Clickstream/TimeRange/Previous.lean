import Clickstream.TimeRange.Resolved

/-!
# Previous periods

The period before a time range is as long as the range and ends where it begins. Days are shifted by
their number, past minutes by the width of the window.
-/

namespace Clickstream.TimeRangeSpec

/-- A request for days in the same zone. -/
def ofDays (first last : Date) (timeZone : Option String) : TimeRangeSpec :=
  ⟨some first.toText, some last.toText, timeZone, none, none⟩

/-- A request for past minutes. -/
def ofMinutes (start stop : Value) : TimeRangeSpec :=
  ⟨none, none, none, some start, some stop⟩

/-- The days before a range of days. -/
def previousDays (spec : TimeRangeSpec) (first last : Date) : Outcome TimeRangeSpec :=
  let length : Int := last.number - first.number + 1
  match first.addDays? (-length), last.addDays? (-length) with
  | some first, some last => .ok (ofDays first last spec.timeZone)
  | _, _ => reject (.outsideCalendar "start_date" (.text (spec.startDate.getD "")))

/-- The window before a window of past minutes. -/
def previousMinutes (start stop : Value) : Outcome TimeRangeSpec := do
  let width ← start.sub stop
  let earlier ← start.add width
  .ok (ofMinutes earlier start)

/-- The period before a requested time range, none if nothing is restricted. -/
def previous [ZoneDatabase] (spec : TimeRangeSpec) : Outcome (Option TimeRangeSpec) := do
  match ← spec.resolve with
  | .unrestricted => .ok none
  | .days first last _ => (spec.previousDays first last).map some
  | .minutes start stop => (previousMinutes start stop).map some

end Clickstream.TimeRangeSpec
