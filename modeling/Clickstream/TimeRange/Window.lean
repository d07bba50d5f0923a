import Clickstream.Query.Fragment
import Clickstream.TimeRange.Resolved

/-!
# Time windows

A time range becomes a condition on the timestamps of events, which are in UTC and carry no offset.
A range of days runs from the first midnight of its first day to that after its last day; if the
last day is today, it ends at the clock of the store instead. A range of past minutes counts back
from the instant of the request, and its bounds are whole seconds.

All ranges of one request are compiled against the same instant (`now`).
-/

namespace Clickstream

/-- A moment that knows its offset; one without is taken as UTC. -/
def Moment.located (m : Moment) : Moment :=
  ⟨m.timestamp, some (m.offset.getD 0)⟩

namespace TimeRange

/-- A timestamp as a value. -/
def timestampValue (t : Timestamp) : Value :=
  .moment ⟨t, none⟩

/-- The lower bound of a window. -/
def startParam (t : Timestamp) : Expr :=
  .param ⟨.windowStart, timestampValue t, some "time_start"⟩

/-- The upper bound of a window. -/
def endParam (t : Timestamp) : Expr :=
  .param ⟨.windowEnd, timestampValue t, some "time_end"⟩

/-- The timestamp lies between two bounds. -/
def between (lower : Comparison) (start : Expr) (upper : Comparison) (stop : Expr) : Expr :=
  .all [.compare (.column .timestamp) lower start, .compare (.column .timestamp) upper stop]

/-! ## Days -/

/-- The day of an instant in a zone. -/
def today (now : Moment) (zone : Zone) : Outcome Date :=
  match now.toUtc?.bind zone.toLocal? with
  | some t => .ok t.date
  | none => raise .calendarRange

/-- The instant at which a range that ends with a day ends. -/
def dayEnd? (zone : Zone) (last : Date) : Option Timestamp :=
  (last.addDays? 1).bind zone.startOfDay?

/-- The end of a range of days. -/
def daysEnd (now : Moment) (last : Date) (zone : Zone) : Outcome Expr := do
  let day ← today now zone
  if last = day then .ok .now
  else
    match dayEnd? zone last with
    | some t => .ok (endParam t)
    | none => reject (.outsideCalendar "end_date" (.text last.toText))

/-- The condition for a range of days. -/
def daysCondition (now : Moment) (first last : Date) (zone : Zone) : Outcome Expr :=
  match zone.startOfDay? first with
  | none => reject (.outsideCalendar "start_date" (.text first.toText))
  | some t => do
    let stop ← daysEnd now last zone
    .ok (between .ge (startParam t) .lt stop)

/-! ## Past minutes -/

def ticksPerMinute : Nat := 60000000

/-- The ticks of a fraction of minutes: the product is a double, and its own fraction is rounded to
the even neighbour. -/
def fractionTicks (whole : Int) (d : Dyadic) : Int :=
  let fraction := d.add ⟨-whole, 0⟩
  let product := (Binary64.ofDyadic false fraction).mul (.ofRatio false ticksPerMinute 1)
  match product.toDyadic? with
  | some p => roundRatioInt p.toRatio.1 p.toRatio.2
  | none => 0

/-- The ticks of a number of minutes. -/
def minutesTicks (d : Dyadic) : Int :=
  let whole := d.truncate
  whole * ticksPerMinute + fractionTicks whole d

/-- The instant some minutes before another one, in UTC and in whole seconds. -/
def minutesBefore? (now : Moment) (minutes : Value) : Option Timestamp := do
  let d ← minutes.toDyadic?
  let there ← now.timestamp.add? (-minutesTicks d)
  let utc ← Moment.toUtc? ⟨there, now.offset⟩
  return utc.floorSecond

/-- The condition for a range of past minutes. -/
def minutesCondition (now : Moment) (start stop : Value) : Outcome Expr :=
  match minutesBefore? now start, minutesBefore? now stop with
  | some lower, some upper => .ok (between .gt (startParam lower) .le (endParam upper))
  | _, _ => reject (.outsideCalendar "past_minutes_start" start)

/-! ## All ranges -/

/-- The condition for a checked time range. -/
def condition (now : Moment) : TimeRange → Outcome (Option Expr)
  | .unrestricted => .ok none
  | .days first last zone => (daysCondition now first last zone).map some
  | .minutes start stop => (minutesCondition now start stop).map some

end TimeRange

namespace TimeRangeSpec

/-- Compiles a requested time range to a fragment. -/
def compile [ZoneDatabase] (spec : TimeRangeSpec) (now : Moment) : Outcome Fragment := do
  let range ← spec.resolve
  let condition ← range.condition now.located
  match condition with
  | none => .ok .empty
  | some e => Fragment.ofConditions "t" [some e]

end TimeRangeSpec

end Clickstream
