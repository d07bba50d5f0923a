import Clickstream.Calendar.Zone

/-!
# Zones by rules

The time zone database writes a zone as a first offset, a list of transitions, and a rule for the
time after the last transition, which is either one offset or a yearly change between standard and
daylight time.

A local time that is skipped by a transition takes the offset before it, and one that occurs twice
is the first occurrence. Both follow from one convention: in local time a transition happens at its
UTC instant plus the greater one of the two offsets (`ZoneRules.localSteps`).
-/

namespace Clickstream

/-- A transition: from an instant on (in seconds of the calendar, UTC) the offset applies. -/
structure Transition where
  instant : Int
  offset : Int
  deriving DecidableEq, Repr

/-- The yearly day of a change: the `week`-th given weekday of the month (Sunday is zero, week five
is the last one), and seconds after the local midnight. -/
structure ChangeDay where
  month : Nat
  week : Nat
  weekday : Nat
  time : Int
  deriving DecidableEq, Repr

/-- What holds after the last transition. -/
inductive ZoneTail
  | fixed (offset : Int)
  | yearly (standard daylight : Int) (start stop : ChangeDay)
  deriving DecidableEq, Repr

namespace ChangeDay

/-- The change of a year in local seconds. -/
def seconds (c : ChangeDay) (year : Nat) : Int :=
  let firstDay : Int := dayNumber year c.month 1
  let day := ((c.weekday : Int) - firstDay) % 7 + 1 + ((c.week : Int) - 1) * 7
  let day := if daysInMonth year c.month < day then day - 7 else day
  (firstDay + day - 2) * secondsPerDay + c.time

end ChangeDay

namespace ZoneTail

/-- The instant lies in the season that begins at `start` and ends at `stop`, which may be in the
next year. -/
def inSeason (start stop at_ : Int) : Bool :=
  if start < stop then start ≤ at_ && at_ < stop else !(stop ≤ at_ && at_ < start)

/-- The offset at an instant in UTC seconds; the year is that of the instant in UTC. -/
def offsetAt (year : Nat) (seconds : Int) : ZoneTail → Int
  | .fixed offset => offset
  | .yearly standard daylight start stop =>
    if inSeason (start.seconds year - standard) (stop.seconds year - daylight) seconds
    then daylight else standard

/-- The offset at a local time. -/
def offsetAtLocal (year : Nat) (seconds : Int) : ZoneTail → Int
  | .fixed offset => offset
  | .yearly standard daylight start stop =>
    let shift := daylight - standard
    if inSeason (start.seconds year + max shift 0) (stop.seconds year - min shift 0) seconds
    then daylight else standard

/-- The offsets after the last transition. -/
def offsets : ZoneTail → List Int
  | .fixed offset => [offset]
  | .yearly standard daylight _ _ => [standard, daylight]

theorem ite_mem_pair {c : Prop} [Decidable c] (standard daylight : Int) :
    (if c then daylight else standard) ∈ [standard, daylight] := by
  split
  · exact .tail _ (.head _)
  · exact .head _

theorem offsetAt_mem (tail : ZoneTail) (year : Nat) (seconds : Int) :
    tail.offsetAt year seconds ∈ tail.offsets := by
  cases tail with
  | fixed offset => exact List.mem_singleton_self _
  | yearly standard daylight start stop => exact ite_mem_pair standard daylight

theorem offsetAtLocal_mem (tail : ZoneTail) (year : Nat) (seconds : Int) :
    tail.offsetAtLocal year seconds ∈ tail.offsets := by
  cases tail with
  | fixed offset => exact List.mem_singleton_self _
  | yearly standard daylight start stop => exact ite_mem_pair standard daylight

end ZoneTail

/-- A time zone by its rules. No offset is a whole day. -/
structure ZoneRules where
  name : String
  first : Int
  transitions : List Transition
  tail : ZoneTail
  natAbs_lt : ∀ offset ∈ first :: transitions.map (·.offset) ++ tail.offsets,
    offset.natAbs < secondsPerDay

namespace ZoneRules

/-- Each transition with its instant in local time: the UTC instant plus the greater one of the
offsets before and after. -/
def localSteps : Int → List Transition → List Transition
  | _, [] => []
  | before, t :: ts => ⟨t.instant + max before t.offset, t.offset⟩ :: localSteps t.offset ts

/-- The offset after the last step that is not later than the time, or nothing if the time lies
behind all steps. -/
def stepOffset? (seconds : Int) : Int → List Transition → Option Int
  | _, [] => none
  | before, t :: ts => if seconds < t.instant then some before else stepOffset? seconds t.offset ts

/-- The distance from UTC at an instant. -/
def offsetAt (z : ZoneRules) (t : Timestamp) : Int :=
  (stepOffset? t.seconds z.first z.transitions).getD (z.tail.offsetAt t.date.year t.seconds)

/-- The distance from UTC at a local time. -/
def offsetAtLocal (z : ZoneRules) (t : Timestamp) : Int :=
  (stepOffset? t.seconds z.first (localSteps z.first z.transitions)).getD
    (z.tail.offsetAtLocal t.date.year t.seconds)

/-! ## Offsets -/

theorem map_offset_localSteps (before : Int) (steps : List Transition) :
    (localSteps before steps).map (·.offset) = steps.map (·.offset) := by
  induction steps generalizing before with
  | nil => rfl
  | cons t ts ih => rw [localSteps, List.map_cons, List.map_cons, ih]

theorem mem_of_stepOffset? {seconds before offset : Int} {steps : List Transition}
    (h : stepOffset? seconds before steps = some offset) :
    offset ∈ before :: steps.map (·.offset) := by
  induction steps generalizing before with
  | nil => cases h
  | cons t ts ih =>
    rw [stepOffset?] at h
    split at h
    · cases h
      exact .head _
    · exact .tail _ (ih h)

/-- The offset of a step, or one after the last step, is less than a day. -/
theorem natAbs_getD_lt (z : ZoneRules) {steps : List Transition}
    (hsteps : steps.map (·.offset) = z.transitions.map (·.offset)) (seconds : Int) {later : Int}
    (hlater : later ∈ z.tail.offsets) :
    ((stepOffset? seconds z.first steps).getD later).natAbs < secondsPerDay := by
  refine z.natAbs_lt _ ?_
  cases h : stepOffset? seconds z.first steps with
  | none => exact List.mem_append_right _ hlater
  | some offset =>
    rw [← hsteps]
    exact List.mem_append_left _ (mem_of_stepOffset? h)

/-- The zone that has the rules. -/
def toZone (z : ZoneRules) : Zone where
  name := z.name
  offsetAt := z.offsetAt
  offsetAtLocal := z.offsetAtLocal
  offsetAt_lt _ := z.natAbs_getD_lt rfl _ (z.tail.offsetAt_mem _ _)
  offsetAtLocal_lt _ :=
    z.natAbs_getD_lt (map_offset_localSteps _ _) _ (z.tail.offsetAtLocal_mem _ _)

/-! ## Compact rules -/

/-- The offset with an index is one of the list, or the first one of the zone. -/
theorem getD_mem (first : Int) (offsets : List Int) (n : Nat) :
    offsets.getD n first ∈ first :: offsets := by
  rw [List.getD_eq_getElem?_getD]
  cases h : offsets[n]? with
  | none => exact .head _
  | some offset => exact .tail _ (List.mem_of_getElem? h)

/-- Rules from the distinct offsets of a zone and its transitions, each an instant with the index of
the offset that begins there. -/
def ofSteps (name : String) (first : Int) (offsets : List Int) (steps : List (Nat × Nat))
    (tail : ZoneTail)
    (h : ∀ offset ∈ first :: offsets ++ tail.offsets, offset.natAbs < secondsPerDay) :
    ZoneRules where
  name := name
  first := first
  transitions := steps.map fun s => ⟨s.1, offsets.getD s.2 first⟩
  tail := tail
  natAbs_lt := by
    intro offset hoffset
    refine h offset (List.mem_append.mpr ((List.mem_append.mp hoffset).imp_left fun hstep => ?_))
    rcases List.mem_cons.mp hstep with rfl | hstep
    · exact .head _
    · rw [List.map_map] at hstep
      obtain ⟨s, -, rfl⟩ := List.mem_map.mp hstep
      exact getD_mem first offsets s.2

end ZoneRules

end Clickstream
