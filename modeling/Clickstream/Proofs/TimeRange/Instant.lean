import Clickstream.Proofs.TimeRange.Adjacent

/-!
# Instants and their writings

An instant is written with one of many offsets, or with none if it is in UTC.  Ranges are compiled
against the instant and not against its writing: which day is today depends on the instant alone
(`today_congr`), and so do the minutes before it, although these are taken off in local time
(`minutesBefore?_congr`).  Only whether minutes can be taken off depends on the writing, at the ends
of the calendar.
-/

namespace Clickstream

/-- The last whole second that is not later than an instant, given in ticks. -/
structure Timestamp.IsSecondOf (t : Timestamp) (instant : Int) : Prop where
  whole : t.micros = 0
  le : t.ticks ≤ instant
  lt : instant < t.ticks + ticksPerSecond

theorem Timestamp.isSecondOf_of_ticks {t : Timestamp} {instant : Int}
    (h : (t.ticks : Int) = instant / ticksPerSecond * ticksPerSecond) : t.IsSecondOf instant := by
  simp only [ticksPerSecond] at h
  constructor
  · rw [micros, ticksPerSecond]
    omega
  · omega
  · rw [ticksPerSecond]
    omega

namespace TimeRange

variable {now now' : Moment}

/-! ## Days -/

theorem today_congr (h : now.utcTicks = now'.utcTicks) (zone : Zone) :
    today now zone = today now' zone := by
  rw [today, today, Moment.toUtc?, Moment.toUtc?, h]

theorem daysCondition_congr (h : now.utcTicks = now'.utcTicks) (first last : Date) (zone : Zone) :
    daysCondition now first last zone = daysCondition now' first last zone := by
  simp only [daysCondition, daysEnd, today_congr h]

/-! ## Minutes -/

theorem minutesBefore?_congr (h : now.utcTicks = now'.utcTicks) {v : Value} {t t' : Timestamp}
    (ht : minutesBefore? now v = some t) (ht' : minutesBefore? now' v = some t') : t = t' := by
  obtain ⟨d, hd, -⟩ := Option.bind_eq_some_iff.mp ht
  have hticks := ticks_of_minutesBefore? hd ht
  rw [h, ← ticks_of_minutesBefore? hd ht'] at hticks
  rw [Timestamp.mk.injEq]
  exact Int.ofNat_inj.mp hticks

/-- The bounds of whole minutes are whole seconds. -/
theorem isSecondOf_minutesBefore? {v : Value} {m : Int} (hv : v.toWhole? = some m) {t : Timestamp}
    (h : minutesBefore? now v = some t) : t.IsSecondOf (now.utcTicks - m * ticksPerMinute) :=
  Timestamp.isSecondOf_of_ticks (ticks_of_wholeMinutesBefore? hv h)

/-! ## All ranges -/

/-- Writings of one instant make one condition. -/
theorem condition_congr (h : now.utcTicks = now'.utcTicks) {range : TimeRange}
    {c c' : Option Expr} (hc : range.condition now = .ok c)
    (hc' : range.condition now' = .ok c') : c = c' := by
  cases range with
  | unrestricted =>
    cases hc
    cases hc'
    rfl
  | days first last zone =>
    -- Whether the range ends today is judged in its own zone, from the instant in UTC.
    rw [condition, daysCondition_congr h] at hc
    exact Except.ok.inj (hc.symm.trans hc')
  | minutes start stop =>
    obtain ⟨lower, upper, hlower, hupper, rfl⟩ := minutes_eq_ok hc
    obtain ⟨lower', upper', hlower', hupper', rfl⟩ := minutes_eq_ok hc'
    rw [minutesBefore?_congr h hlower hlower', minutesBefore?_congr h hupper hupper']

end TimeRange

namespace TimeRangeSpec

/-- Compiling depends on the instant only.  Two writings of one instant give the same text, the same
parameters and the same condition whenever both compile, and for a range of days they have the same
outcome in any case.  The bounds of a window of whole minutes are the whole seconds of the instants
that many minutes before. -/
theorem compile_sameInstant [ZoneDatabase] {now now' : Moment} (h : now.utcTicks = now'.utcTicks)
    (spec : TimeRangeSpec) :
    (∀ time time', spec.compile now = .ok time → spec.compile now' = .ok time' → time = time') ∧
    (∀ first last zone, spec.resolve = .ok (.days first last zone) →
      spec.compile now = spec.compile now') ∧
    ∀ start stop m n, spec.resolve = .ok (.minutes start stop) → start.toWhole? = some m →
      stop.toWhole? = some n → ∀ time, spec.compile now = .ok time →
        ∃ lower upper : Timestamp, TimeRange.HasBounds time lower upper ∧
          lower.IsSecondOf (now.utcTicks - m * TimeRange.ticksPerMinute) ∧
          upper.IsSecondOf (now.utcTicks - n * TimeRange.ticksPerMinute) := by
  have hlocated : now.located.utcTicks = now'.located.utcTicks := h
  refine ⟨?_, ?_, ?_⟩
  · intro time time' htime htime'
    obtain ⟨range, hrange, htime⟩ := Outcome.bind_eq_ok.mp htime
    obtain ⟨c, hc, htime⟩ := Outcome.bind_eq_ok.mp htime
    obtain ⟨range', hrange', htime'⟩ := Outcome.bind_eq_ok.mp htime'
    obtain ⟨c', hc', htime'⟩ := Outcome.bind_eq_ok.mp htime'
    obtain rfl : range = range' := Except.ok.inj (hrange.symm.trans hrange')
    obtain rfl : c = c' := TimeRange.condition_congr hlocated hc hc'
    exact Except.ok.inj (htime.symm.trans htime')
  · intro first last zone hrange
    have hcondition : (TimeRange.days first last zone).condition now.located =
        (TimeRange.days first last zone).condition now'.located := by
      rw [TimeRange.condition, TimeRange.daysCondition_congr hlocated]
      rfl
    simp only [compile, hrange, Outcome.ok_bind, hcondition]
  · intro start stop m n hrange hm hn time htime
    obtain ⟨lower, upper, hlower, hupper, hcondition⟩ :=
      TimeRange.minutes_eq_ok (condition_of_compile hrange htime)
    have hbounds : TimeRange.HasBounds time lower upper := by
      rw [TimeRange.compile_of_resolve hrange] at htime
      exact (TimeRange.hasBounds_iff htime).mpr ⟨.gt, .le, hcondition⟩
    exact ⟨lower, upper, hbounds, TimeRange.isSecondOf_minutesBefore? hm hlower,
      TimeRange.isSecondOf_minutesBefore? hn hupper⟩

/-- Half past midnight and a second on the sixteenth, by a clock that is nine hours and three
quarters of a second ahead of UTC. -/
def night : Moment :=
  ⟨⟨63854094601000000, by decide⟩, some 32400750000⟩

/-- The same instant in UTC, on the fifteenth, a quarter of a second past a whole one. -/
def utcAfternoon : Moment :=
  ⟨⟨63854062200250000, by decide⟩, none⟩

/-- The week that ends on the fifteenth, which is today in Berlin at that instant. -/
def juneWeek : TimeRangeSpec :=
  ofDays ⟨739046, by decide, by decide⟩ ⟨739052, by decide, by decide⟩ (some "Europe/Berlin")

/-- The last hour and a half is one window for both writings, and so is the week that ends today. -/
theorem compile_sameInstant_fractionalOffset :
    night.utcTicks = utcAfternoon.utcTicks ∧
    (∃ time lower upper, (ofMinutes (.int 90) (.int 0)).compile night = .ok time ∧
      (ofMinutes (.int 90) (.int 0)).compile utcAfternoon = .ok time ∧
      TimeRange.HasBounds time lower upper ∧ lower.IsSecondOf 63854056800250000 ∧
      upper.IsSecondOf 63854062200250000) ∧
    juneWeek.compile night = juneWeek.compile utcAfternoon := by
  have hinstant : night.utcTicks = utcAfternoon.utcTicks := by decide
  have hminutes := compile_sameInstant hinstant (ofMinutes (.int 90) (.int 0))
  obtain ⟨time, htime⟩ : ∃ time, (ofMinutes (.int 90) (.int 0)).compile night = .ok time :=
    ⟨_, @compile_minutes _ _ _ _ _ ⟨63854056800000000, by decide⟩ ⟨63854062200000000, by decide⟩ rfl
      (by decide +kernel) (by decide +kernel)⟩
  obtain ⟨time', htime'⟩ : ∃ time, (ofMinutes (.int 90) (.int 0)).compile utcAfternoon = .ok time :=
    ⟨_, @compile_minutes _ _ _ _ _ ⟨63854056800000000, by decide⟩ ⟨63854062200000000, by decide⟩ rfl
      (by decide +kernel) (by decide +kernel)⟩
  obtain rfl := hminutes.1 time time' htime htime'
  obtain ⟨lower, upper, hbounds, hlower, hupper⟩ :=
    hminutes.2.2 (.int 90) (.int 0) 90 0 rfl rfl rfl time htime
  have hstart : night.utcTicks - 90 * TimeRange.ticksPerMinute = 63854056800250000 := by decide
  have hstop : night.utcTicks - 0 * TimeRange.ticksPerMinute = 63854062200250000 := by decide
  rw [hstart] at hlower
  rw [hstop] at hupper
  refine ⟨hinstant, ⟨time, lower, upper, htime, htime', hbounds, hlower, hupper⟩, ?_⟩
  · exact (compile_sameInstant hinstant juneWeek).2.1 _ _ _ (resolve_week (by decide))

end TimeRangeSpec

end Clickstream
