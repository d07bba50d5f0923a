import Clickstream.Proofs.Calendar.Zone
import Clickstream.Proofs.Event.Meaning
import Clickstream.Proofs.TimeRange.Previous
import Clickstream.Proofs.TimeRange.Window

/-!
# Adjacent windows

The window of a range begins at the instant at which the window of the period before it ends, and of
the two comparisons with this instant exactly one is true (`Comparison.Splits`).  So the windows of
the two periods have no timestamp in common and leave none out between them (`Adjoin`), and they are
equally long (`previous_adjoins`).
-/

namespace Clickstream

/-! ## Comparisons with a timestamp -/

/-- A bound reaches the store as the timestamp that it is. -/
theorem Cell.ofValue_timestampValue (t : Timestamp) :
    Cell.ofValue (TimeRange.timestampValue t) = .time t := by
  have hutc : Moment.toUtc? ⟨t, none⟩ = some t := by
    rw [Moment.toUtc?, Timestamp.ofTicks?_eq_some]
    simp [Moment.utcTicks]
  rw [TimeRange.timestampValue, Cell.ofValue, hutc]

namespace Comparison

/-- Of a lower and an upper bound at one place exactly one is met. -/
inductive Splits : Comparison → Comparison → Prop
  | closed : Splits .ge .lt
  | opened : Splits .gt .le

variable {lower upper : Comparison}

theorem Splits.holds_lower (h : Splits lower upper) (a b : Cell) :
    lower.holds a b = (upper.holds a b).negate := by
  cases h with
  | closed => simp [holds, Truth.negate, Option.map_map, Function.comp_def, bne]
  | opened => simp [holds, Truth.negate, Option.map_map, Function.comp_def, bne]

/-- Only timestamps are compared with timestamps. -/
theorem Splits.isSome_holds (h : Splits lower upper) {c : Cell} {s : Timestamp}
    (hc : lower.holds c (.time s) = some true) (t : Timestamp) :
    (upper.holds c (.time t)).isSome := by
  cases c with
  | time u => cases h <;> rfl
  | _ => cases h <;> cases hc

end Comparison

namespace TimeRange

/-! ## Windows side by side -/

/-- The timestamp of a row meets a bound. -/
theorem passes_bound (db : Database) (row : Row) (comparison : Comparison) (bound : Expr) :
    passes db row (some (.compare (.column .timestamp) comparison bound)) =
      (comparison.holds (row .timestamp) (bound.cell db row) == some true) := rfl

theorem passes_between (db : Database) (row : Row) (lower upper : Comparison) (start stop : Expr) :
    passes db row (some (between lower start upper stop)) =
      (passes db row (some (.compare (.column .timestamp) lower start)) &&
        passes db row (some (.compare (.column .timestamp) upper stop))) := by
  simp [between, passes_all]

theorem cell_startParam (db : Database) (row : Row) (t : Timestamp) :
    (startParam t).cell db row = .time t :=
  Cell.ofValue_timestampValue t

theorem cell_endParam (db : Database) (row : Row) (t : Timestamp) :
    (endParam t).cell db row = .time t :=
  Cell.ofValue_timestampValue t

/-- Two rendered windows of which the second begins where the first ends.  No row is in both, and a
row that meets the lower bound of the first and the upper bound of the second is in one of them. -/
structure Adjoin (lower upper : Comparison) (start seam : Timestamp) (stop : Expr)
    (before current : Fragment) : Prop where
  before_eq : before.condition = some (between lower (startParam start) upper (endParam seam))
  current_eq : current.condition = some (between lower (startParam seam) upper stop)
  before_end : before.params.get? "time_end" = some (timestampValue seam)
  current_start : current.params.get? "time_start" = some (timestampValue seam)
  disjoint : ∀ db row, ¬ (passes db row before.condition = true ∧
    passes db row current.condition = true)
  cover : ∀ db row,
    passes db row (some (.compare (.column .timestamp) lower (startParam start))) = true →
    passes db row (some (.compare (.column .timestamp) upper stop)) = true →
    passes db row before.condition = true ∨ passes db row current.condition = true

/-- Windows with the same comparisons that meet at an instant adjoin. -/
theorem adjoin_of_conditions {lower upper : Comparison} (h : lower.Splits upper)
    {start seam : Timestamp} {stop : Expr} {before current : Fragment}
    (hbefore : before.condition = some (between lower (startParam start) upper (endParam seam)))
    (hcurrent : current.condition = some (between lower (startParam seam) upper stop))
    (hend : before.params.get? "time_end" = some (timestampValue seam))
    (hstart : current.params.get? "time_start" = some (timestampValue seam)) :
    Adjoin lower upper start seam stop before current := by
  refine ⟨hbefore, hcurrent, hend, hstart, ?_, ?_⟩
  · intro db row ⟨hfirst, hsecond⟩
    rw [hbefore, passes_between, Bool.and_eq_true] at hfirst
    rw [hcurrent, passes_between, Bool.and_eq_true] at hsecond
    have hmet := hfirst.2
    have hmet' := hsecond.1
    rw [passes_bound, cell_endParam, beq_iff_eq] at hmet
    rw [passes_bound, cell_startParam, h.holds_lower, hmet] at hmet'
    cases hmet'
  · intro db row hlower hupper
    rw [hbefore, hcurrent, passes_between, passes_between, hlower, hupper, Bool.true_and,
      Bool.and_true, passes_bound, passes_bound, cell_endParam, cell_startParam, h.holds_lower]
    rw [passes_bound, cell_startParam, beq_iff_eq] at hlower
    obtain ⟨met, hmet⟩ := Option.isSome_iff_exists.mp (h.isSome_holds hlower seam)
    rw [hmet]
    cases met with
    | false => exact .inr rfl
    | true => exact .inl rfl

end TimeRange

namespace TimeRangeSpec

/-! ## Conditions of compiled ranges -/

variable {spec : TimeRangeSpec} {now : Moment} {time : Fragment} {range : TimeRange}

theorem condition_of_compile [ZoneDatabase] (hrange : spec.resolve = .ok range)
    (h : spec.compile now = .ok time) :
    range.condition now.located = .ok time.condition := by
  rw [TimeRange.compile_of_resolve hrange] at h
  exact (TimeRange.renders_compile h).1

end TimeRangeSpec

namespace TimeRange

/-- The upper bound of a window with two bounds is bound under its name, and the lower bound of every
window. -/
theorem params_of_compile [ZoneDatabase] {spec : TimeRangeSpec} {now : Moment} {time : Fragment}
    (h : spec.compile now = .ok time) {lower upper : Comparison} {start : Timestamp} {stop : Expr}
    (hcondition : time.condition = some (between lower (startParam start) upper stop)) :
    time.params.get? "time_start" = some (timestampValue start) ∧
      ∀ t, stop = endParam t → time.params.get? "time_end" = some (timestampValue t) := by
  obtain ⟨hwindow, r, hr⟩ := renders_window h
  rw [hcondition] at hwindow hr
  refine ⟨hwindow.get?_of_mem hr (p := ⟨.windowStart, _, some "time_start"⟩) ?_ rfl, ?_⟩
  · exact List.mem_cons_self
  · rintro t rfl
    refine hwindow.get?_of_mem hr (p := ⟨.windowEnd, _, some "time_end"⟩) ?_ rfl
    exact List.mem_cons_of_mem _ List.mem_cons_self

/-! ## Days -/

/-- The condition of a range of days. -/
theorem days_eq_ok {now : Moment} {first last : Date} {zone : Zone} {c : Option Expr}
    (h : (TimeRange.days first last zone).condition now = .ok c) :
    ∃ start stop, zone.startOfDay? first = some start ∧ daysEnd now last zone = .ok stop ∧
      c = some (between .ge (startParam start) .lt stop) := by
  obtain ⟨e, he, rfl⟩ := Outcome.map_eq_ok.mp h
  unfold daysCondition at he
  split at he
  · cases he
  · next start hstart =>
    obtain ⟨stop, hstop, he⟩ := Outcome.bind_eq_ok.mp he
    cases he
    exact ⟨start, stop, hstart, hstop, rfl⟩

/-- A range that ends before today ends with the day after its last one. -/
theorem daysEnd_of_ne_today {now : Moment} {last : Date} {zone : Zone} {stop : Expr}
    (h : daysEnd now last zone = .ok stop) (htoday : today now zone ≠ .ok last) :
    ∃ t, dayEnd? zone last = some t ∧ stop = endParam t := by
  obtain ⟨day, hday, h⟩ := Outcome.bind_eq_ok.mp h
  have hne : last ≠ day := by
    rintro rfl
    exact htoday hday
  rw [if_neg hne] at h
  split at h
  · next t ht =>
    cases h
    exact ⟨t, ht, rfl⟩
  · cases h

/-- The day after the last one is the first one of what follows. -/
theorem dayEnd?_eq {zone : Zone} {last next : Date} (h : last.number + 1 = next.number) :
    dayEnd? zone last = zone.startOfDay? next := by
  have hnext : last.addDays? 1 = some next := Date.ofNumber?_eq_some.mpr (by omega)
  rw [dayEnd?, hnext]
  rfl

/-! ## Minutes -/

theorem fractionTicks_whole (m : Int) : fractionTicks m ⟨m, 0⟩ = 0 := by
  have hfraction : Dyadic.add ⟨m, 0⟩ ⟨-m, 0⟩ = ⟨0, 0⟩ := by
    simp [Dyadic.add, Dyadic.scaled]
  have hzero : (Binary64.ofDyadic false ⟨0, 0⟩).mul (.ofRatio false ticksPerMinute 1) =
      .zero false := by decide +kernel
  rw [fractionTicks, hfraction]
  simp only [hzero]
  decide +kernel

theorem minutesTicks_whole (m : Int) : minutesTicks ⟨m, 0⟩ = m * ticksPerMinute := by
  have htruncate : Dyadic.truncate ⟨m, 0⟩ = m := by simp [Dyadic.truncate]
  rw [minutesTicks, htruncate, fractionTicks_whole, Int.add_zero]

/-- Some minutes before an instant, in whole seconds. -/
theorem ticks_of_minutesBefore? {now : Moment} {v : Value} {d : Dyadic} (hv : v.toDyadic? = some d)
    {t : Timestamp} (h : minutesBefore? now v = some t) :
    (t.ticks : Int) = (now.utcTicks - minutesTicks d) / ticksPerSecond * ticksPerSecond := by
  rw [minutesBefore?, hv] at h
  obtain ⟨_, ⟨⟩, h⟩ := Option.bind_eq_some_iff.mp h
  obtain ⟨there, hthere, h⟩ := Option.bind_eq_some_iff.mp h
  obtain ⟨utc, hutc, ⟨⟩⟩ := Option.bind_eq_some_iff.mp h
  rw [Timestamp.add?, Timestamp.ofTicks?_eq_some] at hthere
  rw [Moment.toUtc?, Timestamp.ofTicks?_eq_some, Moment.utcTicks, hthere] at hutc
  have hticks : (utc.ticks : Int) = now.utcTicks - minutesTicks d := by
    rw [hutc, Moment.utcTicks]
    ring
  show ((utc.ticks / ticksPerSecond * ticksPerSecond : Nat) : Int) = _
  rw [← hticks]
  rfl

/-- A whole number of minutes before an instant. -/
theorem ticks_of_wholeMinutesBefore? {now : Moment} {v : Value} {m : Int}
    (hv : v.toWhole? = some m) {t : Timestamp} (h : minutesBefore? now v = some t) :
    (t.ticks : Int) = (now.utcTicks - m * ticksPerMinute) / ticksPerSecond * ticksPerSecond := by
  rw [ticks_of_minutesBefore? (Value.toDyadic?_of_toWhole? hv) h, minutesTicks_whole]

/-- Windows of equally many minutes are equally long. -/
theorem ticks_sub_eq {now : Moment} {m n : Int} {u v w : Value} (hu : u.toWhole? = some (m + (m - n)))
    (hv : v.toWhole? = some m) (hw : w.toWhole? = some n) {lower seam upper : Timestamp}
    (hlower : minutesBefore? now u = some lower) (hseam : minutesBefore? now v = some seam)
    (hupper : minutesBefore? now w = some upper) :
    (seam.ticks : Int) - lower.ticks = upper.ticks - seam.ticks := by
  rw [ticks_of_wholeMinutesBefore? hu hlower, ticks_of_wholeMinutesBefore? hv hseam,
    ticks_of_wholeMinutesBefore? hw hupper]
  simp only [ticksPerMinute, ticksPerSecond]
  omega

/-- The condition of a window of minutes. -/
theorem minutes_eq_ok {now : Moment} {start stop : Value} {c : Option Expr}
    (h : (TimeRange.minutes start stop).condition now = .ok c) :
    ∃ lower upper, minutesBefore? now start = some lower ∧ minutesBefore? now stop = some upper ∧
      c = some (between .gt (startParam lower) .le (endParam upper)) := by
  obtain ⟨e, he, rfl⟩ := Outcome.map_eq_ok.mp h
  unfold minutesCondition at he
  split at he
  · next lower upper hlower hupper =>
    cases he
    exact ⟨lower, upper, hlower, hupper, rfl⟩
  · cases he

end TimeRange

namespace TimeRangeSpec

/-- The period before tiles the time line with the range.  If both compile at one instant, the period
before a range of days has as many days in the same zone, and their windows adjoin unless the period
before ends today.  The period before a window of whole minutes has a window that adjoins, too, and
the two are equally long. -/
theorem previous_adjoins [ZoneDatabase] {spec prev : TimeRangeSpec} {now : Moment}
    {current before : Fragment}
    (hprev : spec.previous = .ok (some prev)) (hcurrent : spec.compile now = .ok current)
    (hbefore : prev.compile now = .ok before) :
    (∀ first last zone, spec.resolve = .ok (.days first last zone) →
      ∃ first' last', prev.resolve = .ok (.days first' last' zone) ∧
        (last'.number : Int) - first'.number = last.number - first.number ∧
        (TimeRange.today now.located zone ≠ .ok last' → ∃ start seam stop,
          TimeRange.Adjoin .ge .lt start seam stop before current)) ∧
    ∀ start stop m n, spec.resolve = .ok (.minutes start stop) → start.toWhole? = some m →
      stop.toWhole? = some n → ∃ lower seam upper : Timestamp,
        TimeRange.Adjoin .gt .le lower seam (TimeRange.endParam upper) before current ∧
        (seam.ticks : Int) - lower.ticks = upper.ticks - seam.ticks := by
  refine ⟨?_, ?_⟩
  · intro first last zone hrange
    obtain ⟨first', last', hrange', hlast, hlength⟩ := previous_days hrange hprev
    refine ⟨first', last', hrange', hlength, fun htoday => ?_⟩
    obtain ⟨seam, stop, hseam, -, hcondition⟩ :=
      TimeRange.days_eq_ok (condition_of_compile hrange hcurrent)
    obtain ⟨start, stop', -, hstop', hcondition'⟩ :=
      TimeRange.days_eq_ok (condition_of_compile hrange' hbefore)
    obtain ⟨t, ht, rfl⟩ := TimeRange.daysEnd_of_ne_today hstop' htoday
    obtain rfl : seam = t := by
      rw [TimeRange.dayEnd?_eq hlast, hseam] at ht
      exact Option.some.inj ht
    refine ⟨start, seam, stop, TimeRange.adjoin_of_conditions .closed hcondition' hcondition ?_ ?_⟩
    · exact (TimeRange.params_of_compile hbefore hcondition').2 seam rfl
    · exact (TimeRange.params_of_compile hcurrent hcondition).1
  · intro start stop m n hrange hm hn
    have hrange' := previous_minutes hrange hm hn hprev
    obtain ⟨seam, upper, hseam, hupper, hcondition⟩ :=
      TimeRange.minutes_eq_ok (condition_of_compile hrange hcurrent)
    obtain ⟨lower, seam', hlower, hseam', hcondition'⟩ :=
      TimeRange.minutes_eq_ok (condition_of_compile hrange' hbefore)
    obtain rfl : seam = seam' := Option.some.inj (hseam.symm.trans hseam')
    refine ⟨lower, seam, upper, ?_, TimeRange.ticks_sub_eq rfl hm hn hlower hseam hupper⟩
    refine TimeRange.adjoin_of_conditions .opened hcondition' hcondition ?_ ?_
    · exact (TimeRange.params_of_compile hbefore hcondition').2 seam rfl
    · exact (TimeRange.params_of_compile hcurrent hcondition).1

/-! ## Weeks and hours -/

/-- A range of days that ended before today compiles to a window between two instants. -/
theorem compile_days [ZoneDatabase] {spec : TimeRangeSpec} {now : Moment} {first last day : Date}
    {zone : Zone}
    {start stop : Timestamp} (hrange : spec.resolve = .ok (.days first last zone))
    (hstart : zone.startOfDay? first = some start)
    (htoday : TimeRange.today now.located zone = .ok day) (hne : last ≠ day)
    (hstop : TimeRange.dayEnd? zone last = some stop) :
    spec.compile now = Fragment.ofConditions "t" [some (TimeRange.between .ge
      (TimeRange.startParam start) .lt (TimeRange.endParam stop))] := by
  have hend : TimeRange.daysEnd now.located last zone = .ok (TimeRange.endParam stop) := by
    rw [TimeRange.daysEnd, htoday, Outcome.ok_bind, if_neg hne, hstop]
  have hcondition : (TimeRange.days first last zone).condition now.located =
      .ok (some (TimeRange.between .ge (TimeRange.startParam start) .lt
        (TimeRange.endParam stop))) := by
    rw [TimeRange.condition, TimeRange.daysCondition, hstart]
    simp only [hend, Outcome.ok_bind]
    rfl
  rw [compile, hrange, Outcome.ok_bind, hcondition, Outcome.ok_bind]

/-- The week from the first of April 2024. -/
def aprilWeek : TimeRangeSpec :=
  ofDays ⟨738977, by decide, by decide⟩ ⟨738983, by decide, by decide⟩ (some "Europe/Berlin")

/-- The week before, whose last day is one hour shorter. -/
def marchWeek : TimeRangeSpec :=
  ofDays ⟨738970, by decide, by decide⟩ ⟨738976, by decide, by decide⟩ (some "Europe/Berlin")

def lastHour : TimeRangeSpec :=
  ofMinutes (.int 60) (.int 0)

def hourBefore : TimeRangeSpec :=
  ofMinutes (.int 120) (.int 60)

/-- Three days after both weeks. -/
def afterBoth : Moment :=
  ⟨⟨63848347200000000, by decide⟩, some 0⟩

theorem resolve_week {first last : Date} (h : first ≤ last) :
    (ofDays first last (some "Europe/Berlin")).resolve =
      .ok (.days first last ZoneTable.europeBerlin.toZone) := by
  have hname : supplied? (some "Europe/Berlin") = some "Europe/Berlin" := rfl
  have hzone : readZone "Europe/Berlin" = .ok ZoneTable.europeBerlin.toZone := rfl
  exact resolve_ofDays h hname hzone

theorem today_afterBoth : TimeRange.today afterBoth.located ZoneTable.europeBerlin.toZone =
    .ok ⟨738986, by decide, by decide⟩ := by
  have hlocal : afterBoth.located.toUtc?.bind ZoneTable.europeBerlin.toZone.toLocal? =
      some ⟨63848354400000000, by decide⟩ := by decide +kernel
  rw [TimeRange.today, hlocal]
  rfl

/-- The windows of the two weeks adjoin at the midnight after the change to daylight time, those of
the two hours at the instant one hour ago. -/
theorem previous_adjoins_weeksAndHours :
    (∃ before current start seam stop, aprilWeek.previous = .ok (some marchWeek) ∧
      marchWeek.compile afterBoth = .ok before ∧ aprilWeek.compile afterBoth = .ok current ∧
      TimeRange.Adjoin .ge .lt start seam stop before current) ∧
    ∃ before current, ∃ lower seam upper : Timestamp, lastHour.previous = .ok (some hourBefore) ∧
      hourBefore.compile afterBoth = .ok before ∧ lastHour.compile afterBoth = .ok current ∧
      TimeRange.Adjoin .gt .le lower seam (TimeRange.endParam upper) before current ∧
      (seam.ticks : Int) - lower.ticks = upper.ticks - seam.ticks := by
  constructor
  · have hapril := @resolve_week ⟨738977, by decide, by decide⟩ ⟨738983, by decide, by decide⟩
      (by decide)
    have hmarch := @resolve_week ⟨738970, by decide, by decide⟩ ⟨738976, by decide, by decide⟩
      (by decide)
    have hprev : aprilWeek.previous = .ok (some marchWeek) := by
      rw [previous, aprilWeek, hapril]
      rfl
    have hbefore := @compile_days _ marchWeek afterBoth _ _ _ _ ⟨63846918000000000, by decide⟩
      ⟨63847519200000000, by decide⟩ hmarch (by decide +kernel) today_afterBoth (by decide)
      (by decide +kernel)
    have hcurrent := @compile_days _ aprilWeek afterBoth _ _ _ _ ⟨63847519200000000, by decide⟩
      ⟨63848124000000000, by decide⟩ hapril (by decide +kernel) today_afterBoth (by decide)
      (by decide +kernel)
    obtain ⟨first', last', hrange, -, hadjoin⟩ :=
      (previous_adjoins hprev hcurrent hbefore).1 _ _ _ hapril
    have hlast : TimeRange.today afterBoth.located ZoneTable.europeBerlin.toZone ≠ .ok last' := by
      rw [today_afterBoth]
      have hdays := hmarch.symm.trans hrange
      intro htoday
      cases hdays
      exact absurd (Except.ok.inj htoday) (by decide)
    obtain ⟨start, seam, stop, h⟩ := hadjoin hlast
    exact ⟨_, _, start, seam, stop, hprev, hbefore, hcurrent, h⟩
  · have hbefore := @compile_minutes hourBefore _ afterBoth _ _ ⟨63848340000000000, by decide⟩
      ⟨63848343600000000, by decide⟩ rfl (by decide +kernel) (by decide +kernel)
    have hcurrent := @compile_minutes lastHour _ afterBoth _ _ ⟨63848343600000000, by decide⟩
      ⟨63848347200000000, by decide⟩ rfl (by decide +kernel) (by decide +kernel)
    obtain ⟨lower, seam, upper, h⟩ :=
      (previous_adjoins rfl hcurrent hbefore).2 (.int 60) (.int 0) 60 0 rfl rfl rfl
    exact ⟨_, _, lower, seam, upper, rfl, hbefore, hcurrent, h⟩

end TimeRangeSpec

end Clickstream
