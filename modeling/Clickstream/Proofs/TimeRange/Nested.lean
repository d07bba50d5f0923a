import Clickstream.Proofs.TimeRange.Refusal

/-!
# Nested ranges of days

A range of days is bound to two midnights, that of its first day and that after its last one
(`midnights_of_days`).  Where midnights are in the order of their dates, the window of a range is not
inverted, and the window of a wider range begins no later and ends no earlier (`bounds_ordered`), so
every row in the one window is in the other.
-/

namespace Clickstream.TimeRange

/-! ## Rows in a window -/

/-- A row is in a window that is closed below and open above if its timestamp is. -/
theorem passes_window_iff (db : Database) (row : Row) (start stop : Timestamp) :
    passes db row (some (between .ge (startParam start) .lt (endParam stop))) = true ↔
      ∃ t, row .timestamp = .time t ∧ start.ticks ≤ t.ticks ∧ t.ticks < stop.ticks := by
  rw [passes_between, passes_bound, passes_bound, cell_startParam, cell_endParam]
  cases hrow : row .timestamp with
  | time t =>
    simp [Comparison.holds, Cell.order?, Nat.compare_eq_lt]
  | _ => simp [Comparison.holds, Cell.order?]

/-! ## Bounds of days -/

variable {zone : Zone} {first last : Date} {now : Moment} {time : Fragment}
  {start stop : Timestamp}

/-- The instants that a range of days is bound to are midnights. -/
theorem midnights_of_days (h : (TimeRange.days first last zone).compile now = .ok time)
    (hbounds : HasBounds time start stop) :
    (start.ticks : Int) = zone.midnightTicks first ∧ ∃ next : Date, next.number = last.number + 1 ∧
      (stop.ticks : Int) = zone.midnightTicks next ∧
      time.condition = some (between .ge (startParam start) .lt (endParam stop)) := by
  obtain ⟨lower, upper, hcondition⟩ := (hasBounds_iff h).mp hbounds
  obtain ⟨start', stop', hstart, hstop, hdays⟩ := days_eq_ok (renders_compile h).1
  rw [hcondition] at hdays
  cases hdays
  rcases daysEnd_eq_ok hstop with hnow | ⟨t, ht, hend⟩
  · cases hnow
  · cases hend
    obtain ⟨next, hnext, hmidnight⟩ := Option.bind_eq_some_iff.mp ht
    rw [Date.addDays?, Date.ofNumber?_eq_some] at hnext
    exact ⟨Zone.startOfDay?_eq_some.mp hstart, next, by omega,
      Zone.startOfDay?_eq_some.mp hmidnight, hcondition⟩

/-- The window of a range of days is not inverted. -/
theorem start_le_stop (hzone : zone.HasCloseMidnights) (hle : first ≤ last)
    (h : (TimeRange.days first last zone).compile now = .ok time)
    (hbounds : HasBounds time start stop) : start.ticks ≤ stop.ticks := by
  obtain ⟨hstart, next, hnext, hstop, -⟩ := midnights_of_days h hbounds
  have hdays : first.number ≤ last.number := hle
  have hto : first ≤ next := by
    show first.number ≤ next.number
    omega
  have hmidnights := hzone.midnightTicks_le hto
  omega

/-- The window of a wider range of days contains that of a narrower one. -/
theorem bounds_of_wider (hzone : zone.HasCloseMidnights) {first' last' : Date} {now' : Moment}
    {time' : Fragment} {start' stop' : Timestamp} (hfirst : first' ≤ first) (hlast : last ≤ last')
    (h : (TimeRange.days first last zone).compile now = .ok time)
    (hbounds : HasBounds time start stop)
    (h' : (TimeRange.days first' last' zone).compile now' = .ok time')
    (hbounds' : HasBounds time' start' stop') :
    start'.ticks ≤ start.ticks ∧ stop.ticks ≤ stop'.ticks ∧
      ∀ db row, passes db row time.condition = true → passes db row time'.condition = true := by
  obtain ⟨hstart, next, hnext, hstop, hcondition⟩ := midnights_of_days h hbounds
  obtain ⟨hstart', next', hnext', hstop', hcondition'⟩ := midnights_of_days h' hbounds'
  have hdays : last.number ≤ last'.number := hlast
  have hto : next ≤ next' := by
    show next.number ≤ next'.number
    omega
  have hlow := hzone.midnightTicks_le hfirst
  have hhigh := hzone.midnightTicks_le hto
  have hwider : start'.ticks ≤ start.ticks ∧ stop.ticks ≤ stop'.ticks := by omega
  refine ⟨hwider.1, hwider.2, fun db row hrow => ?_⟩
  rw [hcondition, passes_window_iff] at hrow
  obtain ⟨t, ht, hfrom, huntil⟩ := hrow
  rw [hcondition', passes_window_iff]
  exact ⟨t, ht, hwider.1.trans hfrom, huntil.trans_le hwider.2⟩

/-- Windows of days are never inverted, and widening a range loses no event, whatever the instants
are at which the ranges are compiled.  This holds in every zone with close midnights; every accepted
request for days is in one if those of the database are, as the zones of the table are. -/
theorem bounds_ordered [zones : ZoneDatabase] :
    (∀ zone : Zone, zone.HasCloseMidnights →
      (∀ first last now time start stop, first ≤ last →
        (TimeRange.days first last zone).compile now = .ok time → HasBounds time start stop →
        start.ticks ≤ stop.ticks) ∧
      ∀ first last first' last' now now' time time' start stop start' stop',
        first' ≤ first → last ≤ last' →
        (TimeRange.days first last zone).compile now = .ok time → HasBounds time start stop →
        (TimeRange.days first' last' zone).compile now' = .ok time' →
        HasBounds time' start' stop' →
        start'.ticks ≤ start.ticks ∧ stop.ticks ≤ stop'.ticks ∧
          ∀ db row, passes db row time.condition = true → passes db row time'.condition = true) ∧
    (∀ (spec : TimeRangeSpec) first last zone, spec.resolve = .ok (.days first last zone) →
      first ≤ last ∧ (zones.HasCloseMidnights → zone.HasCloseMidnights) ∧
        ∀ now, spec.compile now = (TimeRange.days first last zone).compile now) ∧
    ZoneTable.database.HasCloseMidnights := by
  refine ⟨fun zone hzone => ⟨?_, ?_⟩, ?_, ZoneTable.hasCloseMidnights⟩
  · intro first last now time start stop hle h hbounds
    exact start_le_stop hzone hle h hbounds
  · intro first last first' last' now now' time time' start stop start' stop' hfirst hlast
      h hbounds h' hbounds'
    exact bounds_of_wider hzone hfirst hlast h hbounds h' hbounds'
  · intro spec first last zone hrange
    obtain ⟨hle, name, -, hzone⟩ := TimeRangeSpec.of_resolve_days hrange
    exact ⟨hle, fun hclose => hclose name zone (TimeRangeSpec.readZone_eq_ok.mp hzone),
      compile_of_resolve hrange⟩

/-! ## A date that was skipped -/

/-- A range of days that ended before today compiles, and is bound to two midnights. -/
theorem exists_compile_days [ZoneDatabase] {spec : TimeRangeSpec} {day : Date}
    (hrange : spec.resolve = .ok (.days first last zone))
    (hstart : zone.startOfDay? first = some start) (htoday : today now.located zone = .ok day)
    (hne : last ≠ day) (hstop : dayEnd? zone last = some stop) :
    ∃ time, spec.compile now = .ok time ∧ HasBounds time start stop := by
  rw [TimeRangeSpec.compile_days hrange hstart htoday hne hstop]
  exact ⟨_, rfl, rfl⟩

/-- The thirtieth of December 2011, which Apia skipped. -/
def skippedDay : TimeRangeSpec :=
  .ofDays ⟨734501, by decide, by decide⟩ ⟨734501, by decide, by decide⟩ (some "Pacific/Apia")

/-- The same with a day before and a day after it. -/
def aroundSkippedDay : TimeRangeSpec :=
  .ofDays ⟨734500, by decide, by decide⟩ ⟨734502, by decide, by decide⟩ (some "Pacific/Apia")

theorem resolve_apia (hle : first ≤ last) :
    (TimeRangeSpec.ofDays first last (some "Pacific/Apia")).resolve =
      .ok (.days first last ZoneTable.pacificApia.toZone) := by
  have hname : TimeRangeSpec.supplied? (some "Pacific/Apia") = some "Pacific/Apia" := rfl
  have hzone : TimeRangeSpec.readZone "Pacific/Apia" = .ok ZoneTable.pacificApia.toZone := rfl
  exact TimeRangeSpec.resolve_ofDays hle hname hzone

theorem today_apia : today TimeRangeSpec.afterBoth.located ZoneTable.pacificApia.toZone =
    .ok ⟨738987, by decide, by decide⟩ := by
  have hlocal : TimeRangeSpec.afterBoth.located.toUtc?.bind ZoneTable.pacificApia.toZone.toLocal? =
      some ⟨63848394000000000, by decide⟩ := by decide +kernel
  rw [today, hlocal]
  rfl

/-- The window of the skipped day is empty, and lies in that of the three days around it. -/
theorem bounds_ordered_skippedDay :
    ∃ time time' start stop start' stop',
      skippedDay.compile TimeRangeSpec.afterBoth = .ok time ∧ HasBounds time start stop ∧
      aroundSkippedDay.compile TimeRangeSpec.afterBoth = .ok time' ∧
      HasBounds time' start' stop' ∧ start.ticks = stop.ticks ∧ start.ticks ≤ stop.ticks ∧
      start'.ticks ≤ start.ticks ∧ stop.ticks ≤ stop'.ticks := by
  have hskipped := @resolve_apia ⟨734501, by decide, by decide⟩ ⟨734501, by decide, by decide⟩
    (by decide)
  have haround := @resolve_apia ⟨734500, by decide, by decide⟩ ⟨734502, by decide, by decide⟩
    (by decide)
  obtain ⟨time, htime, hbounds⟩ := @exists_compile_days _ _ _ TimeRangeSpec.afterBoth
    ⟨63460836000000000, by decide⟩ ⟨63460836000000000, by decide⟩ _ _ _ hskipped (by decide +kernel)
    today_apia (by decide) (by decide +kernel)
  obtain ⟨time', htime', hbounds'⟩ := @exists_compile_days _ _ _ TimeRangeSpec.afterBoth
    ⟨63460749600000000, by decide⟩ ⟨63460922400000000, by decide⟩ _ _ _ haround (by decide +kernel)
    today_apia (by decide) (by decide +kernel)
  obtain ⟨hzones, hrequests, hclose⟩ := bounds_ordered
  obtain ⟨hle, hzone, hcompile⟩ := hrequests skippedDay _ _ _ hskipped
  obtain ⟨-, -, hcompile'⟩ := hrequests aroundSkippedDay _ _ _ haround
  obtain ⟨hordered, hwider⟩ := hzones _ (hzone hclose)
  have hdays := (hcompile _).symm.trans htime
  have hdays' := (hcompile' _).symm.trans htime'
  obtain ⟨hlow, hhigh, -⟩ := hwider _ _ _ _ _ _ _ _ _ _ _ _ (by decide) (by decide) hdays hbounds
    hdays' hbounds'
  exact ⟨time, time', _, _, _, _, htime, hbounds, htime', hbounds', rfl,
    hordered _ _ _ _ _ _ hle hdays hbounds, hlow, hhigh⟩

end Clickstream.TimeRange
