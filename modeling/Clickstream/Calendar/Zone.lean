import Clickstream.Calendar.Timestamp

/-!
# Time zones

A zone says how far it is from UTC, at each instant and at each local time.  A local time that is
skipped takes the offset before the gap, and one that occurs twice is the first occurrence.

Which zones there are, and under which names, is not for the program to say: zones are looked up in
a database (`ZoneDatabase`), and everything that reads a request is over one.
-/

namespace Clickstream

/-- A time zone: its distance from UTC in seconds, which is less than a day. -/
structure Zone where
  name : String
  /-- The distance at an instant. -/
  offsetAt : Timestamp → Int
  /-- The distance at a local time. -/
  offsetAtLocal : Timestamp → Int
  offsetAt_lt : ∀ t, (offsetAt t).natAbs < secondsPerDay
  offsetAtLocal_lt : ∀ t, (offsetAtLocal t).natAbs < secondsPerDay

namespace Zone

/-- The local time of an instant, unless it lies outside the calendar. -/
def toLocal? (z : Zone) (t : Timestamp) : Option Timestamp :=
  t.add? (z.offsetAt t * ticksPerSecond)

/-- The instant of a local time, unless it lies outside the calendar. -/
def toUtc? (z : Zone) (t : Timestamp) : Option Timestamp :=
  t.add? (-(z.offsetAtLocal t) * ticksPerSecond)

/-- The instant of local midnight at the start of a date. -/
def startOfDay? (z : Zone) (d : Date) : Option Timestamp :=
  z.toUtc? (.startOf d)

end Zone

/-- The zones that are known by name. -/
class ZoneDatabase where
  find? : String → Option Zone

end Clickstream
