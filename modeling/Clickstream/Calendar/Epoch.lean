import Clickstream.Calendar.Timestamp
import Clickstream.Number.Binary64
import Clickstream.Number.Word

/-!
# Seconds since 1970

Clocks count seconds from the start of 1970 in UTC, as a double. The fraction is rounded to whole
microseconds, a half to the even neighbour. Not every count names a moment: it may be no number, it
may not fit a signed 64-bit word, or its year may lie outside the calendar.
-/

namespace Clickstream

/-- Why a count of seconds names no moment. -/
inductive EpochFault
  | notANumber
  /-- The count does not fit 64 bits. -/
  | count
  /-- The year does not fit 32 bits. -/
  | wideYear
  /-- The year lies outside the calendar. -/
  | year (year : Int)
  deriving DecidableEq, Repr

/-- The ticks from the start of year 1 to the start of 1970. -/
def epochTicks : Nat := daysBeforeYear 1970 * ticksPerDay

/-- The year of a day number of the calendar extended without limits. -/
def extendedYear (day : Int) : Int :=
  let period : Int := 146097
  let cycle := (day - 1).fdiv period
  400 * cycle + (Date.splitYear ((day - 1).fmod period + 1).toNat).1

/-- The whole seconds of a count and its microseconds, which may be a million of them or negative. -/
def splitSeconds (x : Binary64) : Except EpochFault (Int × Int) :=
  match x.toDyadic? with
  | none => .error (if x = .nan then .notANumber else .count)
  | some d =>
    let seconds := d.truncate
    let fraction := Binary64.ofDyadic x.isNegative (d.add ⟨-seconds, 0⟩)
    let micros := fraction.mul (.ofRatio false ticksPerSecond 1)
    match micros.toDyadic? with
    | none => .error .count
    | some m =>
      let (num, den) := m.toRatio
      .ok (seconds, roundRatioInt num den)

/-- The moment in UTC a number of seconds after the start of 1970. -/
def Moment.ofEpoch (x : Binary64) : Except EpochFault Moment := do
  let (seconds, micros) ← splitSeconds x
  let ticks := seconds * ticksPerSecond + micros
  let seconds := ticks.fdiv ticksPerSecond
  if !fitsWord64 seconds then throw .count
  match Timestamp.ofTicks? (epochTicks + ticks) with
  | some t => return ⟨t, some 0⟩
  | none =>
    let year := extendedYear (((epochTicks : Int) + ticks).fdiv ticksPerDay + 1)
    if fitsWord32 (year - 1900) then throw (.year year) else throw .wideYear

end Clickstream
