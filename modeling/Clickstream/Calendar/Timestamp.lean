import Clickstream.Calendar.Date

/-!
# Timestamps and moments

A timestamp is a date and a time of day without a place, kept as the number of microseconds since
the start of year 1. A moment is a timestamp that may carry its distance from UTC; two moments with
an offset are compared as instants, and a moment without one is never equal to a moment with one.
-/

namespace Clickstream

def ticksPerSecond : Nat := 1000000

def secondsPerDay : Nat := 86400

def ticksPerDay : Nat := secondsPerDay * ticksPerSecond

/-- The number of timestamps. -/
def timestampLimit : Nat := lastDay * ticksPerDay

/-- A date and a time of day. -/
structure Timestamp where
  ticks : Nat
  lt_limit : ticks < timestampLimit
  deriving DecidableEq, Repr

namespace Timestamp

/-- The timestamp with a number of ticks, if it lies in the calendar. -/
def ofTicks? (n : Int) : Option Timestamp :=
  if h : 0 ≤ n ∧ n < timestampLimit then some ⟨n.toNat, by omega⟩ else none

/-- The timestamp some ticks later, or earlier for a negative number. -/
def add? (t : Timestamp) (ticks : Int) : Option Timestamp :=
  ofTicks? (t.ticks + ticks)

/-- Midnight at the start of a date. -/
def startOf (d : Date) : Timestamp :=
  ⟨(d.number - 1) * ticksPerDay, by
    have := d.one_le
    have := d.le_last
    simp only [timestampLimit, ticksPerDay, secondsPerDay, ticksPerSecond] at *
    omega⟩

/-- The date of a timestamp. -/
def date (t : Timestamp) : Date :=
  ⟨t.ticks / ticksPerDay + 1, Nat.le_add_left 1 _, by
    have := t.lt_limit
    simp only [timestampLimit, ticksPerDay, secondsPerDay, ticksPerSecond, lastDay] at *
    omega⟩

/-- Whole seconds since the start of year 1. -/
def seconds (t : Timestamp) : Nat :=
  t.ticks / ticksPerSecond

/-- The microseconds within the second. -/
def micros (t : Timestamp) : Nat :=
  t.ticks % ticksPerSecond

/-- Drops the fraction of the second. -/
def floorSecond (t : Timestamp) : Timestamp :=
  ⟨t.seconds * ticksPerSecond, by
    have := t.lt_limit
    have := Nat.div_mul_le_self t.ticks ticksPerSecond
    simp only [seconds]
    omega⟩

def hour (t : Timestamp) : Nat := t.seconds % secondsPerDay / 3600

def minute (t : Timestamp) : Nat := t.seconds % 3600 / 60

def second (t : Timestamp) : Nat := t.seconds % 60

/-- The form `YYYY-MM-DD HH:MM:SS`, with another separator if wanted, and with six digits of
microseconds if they are not zero. -/
def toText (separator : String) (t : Timestamp) : String :=
  t.date.toText ++ separator ++ padded 2 t.hour ++ ":" ++ padded 2 t.minute ++ ":" ++
    padded 2 t.second ++ (if t.micros = 0 then "" else "." ++ padded 6 t.micros)

end Timestamp

/-- A timestamp with its distance from UTC in ticks, if known. -/
structure Moment where
  timestamp : Timestamp
  offset : Option Int
  deriving DecidableEq, Repr

namespace Moment

/-- The distance from UTC as `+HH:MM`, with seconds if there is more, and with six digits of
microseconds if they are not zero. -/
def offsetText (offset : Int) : String :=
  let seconds := offset.natAbs / ticksPerSecond
  let micros := offset.natAbs % ticksPerSecond
  (if offset < 0 then "-" else "+") ++ padded 2 (seconds / 3600) ++ ":" ++
    padded 2 (seconds % 3600 / 60) ++
    (if seconds % 60 = 0 && micros = 0 then "" else ":" ++ padded 2 (seconds % 60)) ++
    (if micros = 0 then "" else "." ++ padded 6 micros)

/-- The timestamp followed by the distance from UTC. -/
def toText (separator : String) (m : Moment) : String :=
  m.timestamp.toText separator ++ (m.offset.map offsetText).getD ""

/-- The ticks of the moment in UTC; a moment without an offset is taken as UTC. They may lie
outside the calendar. -/
def utcTicks (m : Moment) : Int :=
  m.timestamp.ticks - m.offset.getD 0

/-- The moment as a timestamp in UTC. -/
def toUtc? (m : Moment) : Option Timestamp :=
  Timestamp.ofTicks? m.utcTicks

/-- Equality of moments: as instants if both know their offset, as timestamps if neither does. -/
def same (a b : Moment) : Bool :=
  a.offset.isSome == b.offset.isSome && a.utcTicks == b.utcTicks

/-! ## Reading -/

/-- Reads `HH:MM` or `HH:MM:SS` as seconds. -/
def readClock? : List Char → Option Nat
  | [h₁, h₂, ':', m₁, m₂] => do
    return (← asciiNumber? [h₁, h₂]) * 3600 + (← asciiNumber? [m₁, m₂]) * 60
  | [h₁, h₂, ':', m₁, m₂, ':', s₁, s₂] => do
    return (← asciiNumber? [h₁, h₂]) * 3600 + (← asciiNumber? [m₁, m₂]) * 60 +
      (← asciiNumber? [s₁, s₂])
  | _ => none

/-- Reads a fraction of a second with up to six digits as microseconds. -/
def readMicros? (digits : List Char) : Option Nat := do
  let n ← asciiNumber? digits
  if digits.length ≤ 6 then some (n * Nat.pow 10 (6 - digits.length)) else none

/-- Reads a clock, with a fraction of a second if there is a point, as microseconds. -/
def readTicks? (cs : List Char) : Option Nat :=
  match cs.span (· != '.') with
  | (clock, []) => (readClock? clock).map (· * ticksPerSecond)
  | (clock, _ :: digits) => do return (← readClock? clock) * ticksPerSecond + (← readMicros? digits)

/-- Reads the distance from UTC: nothing, or a sign and a clock. -/
def readOffset? : List Char → Option (Option Int)
  | [] => some none
  | '+' :: cs => (readTicks? cs).map fun n => some (n : Int)
  | '-' :: cs => (readTicks? cs).map fun n => some (-(n : Int))
  | _ => none

/-- Reads a fraction of a second, and the offset behind it. -/
def readTail? : List Char → Option (Nat × Option Int)
  | '.' :: cs => do
    let digits := cs.takeWhile fun c => c.isDigit
    return (← readMicros? digits, ← readOffset? (cs.drop digits.length))
  | cs => (readOffset? cs).map fun offset => (0, offset)

/-- Reads `YYYY-MM-DDTHH:MM:SS` with an optional fraction and an optional offset. -/
def read? (s : String) : Option Moment := do
  let cs := s.toList
  let date ← Date.read? (cs.take 10)
  let clock ← readClock? ((cs.drop 11).take 8)
  let (micros, offset) ← readTail? (cs.drop 19)
  let timestamp ← (Timestamp.startOf date).add? (clock * ticksPerSecond + micros)
  return ⟨timestamp, offset⟩

end Moment

end Clickstream
