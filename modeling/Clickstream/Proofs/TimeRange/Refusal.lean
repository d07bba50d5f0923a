import Clickstream.Proofs.Number.Rounding
import Clickstream.Proofs.TimeRange.Adjacent
import Clickstream.Proofs.TimeRange.Reading

/-!
# Refused time ranges

The minutes of a request that was read are finite numbers, and doubles even where they are written
as integers (`Value.IsNumber`).  So checking the request and moving it to the period before fail
only because the request is refused (`resolve_refuses`, `previous_refuses`).  Compiling fails in one
more way: a range of days asks which day it is in its zone, and at the ends of the calendar the
instant of the request may have no day there (`TimeRange.LacksToday`).  No zone is a whole day away
from UTC, so this concerns the first and the last day of the calendar only (`not_lacksToday`).
-/

namespace Clickstream

open Outcome

/-! ## Instants away from the ends of the calendar -/

/-- The instant is at least a day away from both ends of the calendar. -/
def Moment.IsInner (m : Moment) : Prop :=
  (ticksPerDay : Int) ≤ m.utcTicks ∧ m.utcTicks + ticksPerDay ≤ timestampLimit

theorem Timestamp.exists_ofTicks? {n : Int} (hle : 0 ≤ n) (hlt : n < timestampLimit) :
    ∃ t, ofTicks? n = some t :=
  ⟨_, dif_pos ⟨hle, hlt⟩⟩

/-- An instant away from the ends of the calendar has a local time in every zone. -/
theorem Moment.IsInner.exists_local {m : Moment} (h : m.IsInner) (z : Zone) :
    ∃ t, m.located.toUtc?.bind z.toLocal? = some t := by
  obtain ⟨hlow, hhigh⟩ := h
  obtain ⟨utc, hutc⟩ := @Timestamp.exists_ofTicks? m.utcTicks (by omega)
    (by unfold ticksPerDay secondsPerDay ticksPerSecond at hhigh; omega)
  have hticks := Timestamp.ofTicks?_eq_some.mp hutc
  have hoffset := z.offsetAt_lt utc
  have hlocated : m.located.toUtc? = some utc := hutc
  rw [hlocated, Option.bind_some, Zone.toLocal?, Timestamp.add?]
  refine Timestamp.exists_ofTicks? ?_ ?_
  · simp only [ticksPerDay, secondsPerDay, ticksPerSecond] at *
    omega
  · simp only [ticksPerDay, secondsPerDay, ticksPerSecond] at *
    omega

/-! ## Numbers of minutes -/

/-- A finite number that is a double or can be rounded to one. -/
structure Value.IsNumber (v : Value) : Prop where
  exact : ∃ d, v.toDyadic? = some d
  double : ∃ x, v.toBinary64 = .ok x

namespace Value

variable {a b : Value}

theorem toBinary64_int {n : Int} {x : Binary64} (h : Binary64.ofInt? n = some x) :
    (Value.int n).toBinary64 = .ok x := by
  unfold Value.toBinary64
  simp only [Value.toWhole?, Option.bind_some, h]

theorem toBinary64_real (x : Binary64) : (Value.real x).toBinary64 = .ok x := rfl

/-- Two numbers combine as whole numbers or as doubles. -/
theorem combine_cases (ha : ∃ x, a.toBinary64 = .ok x) (hb : ∃ y, b.toBinary64 = .ok y)
    (onWhole : Int → Int → Int) (onReal : Binary64 → Binary64 → Binary64) :
    (∃ m n, a.toWhole? = some m ∧ b.toWhole? = some n) ∨
      ∃ x, combine onWhole onReal a b = .ok (.real x) := by
  obtain ⟨x, hx⟩ := ha
  obtain ⟨y, hy⟩ := hb
  unfold combine
  split
  · next m n hm hn => exact .inl ⟨m, n, hm, hn⟩
  · rw [hx, hy]
    exact .inr ⟨_, rfl⟩

end Value

theorem wellFormed_of_readBinary64? {cs : List Char} {x : Binary64}
    (h : readBinary64? cs = some x) : x.WellFormed := by
  unfold readBinary64? at h
  split at h
  · cases h
  · split at h
    · cases h
      exact Binary64.wellFormed_ofDecimal _ _ _
    · unfold readNamedBinary64? at h
      dsimp only at h
      split at h
      · cases h
        trivial
      · cases h
        trivial
      · cases h
        trivial
      · cases h

namespace TimeRangeSpec

variable {spec : TimeRangeSpec} {fields : Fields} {field : String} {v w : Value}

theorem wellFormed_of_readDouble {x : Binary64} (hv : ∀ y, v = .real y → y.WellFormed)
    (h : readDouble field v = .ok x) : x.WellFormed := by
  unfold readDouble at h
  split at h
  · split at h
    · next hx =>
      cases h
      exact Binary64.wellFormed_of_ofInt? hx
    · cases h
  · cases h
    exact hv _ rfl
  · split at h
    · next hx =>
      cases h
      exact wellFormed_of_readBinary64? hx
    · cases h
  · split at h
    · next hx =>
      cases h
      exact wellFormed_of_readBinary64? hx
    · cases h
  · cases h

/-- Minutes that were read are numbers: an integer among them comes from a double. -/
theorem isNumber_of_readMinutes (hv : ∀ y, v = .real y → y.WellFormed)
    (h : readMinutes field v = .ok (some w)) : w.IsNumber := by
  unfold readMinutes at h
  split at h
  · cases h
  · cases h
  · obtain ⟨x, hx, h⟩ := bind_eq_ok.mp h
    split at h
    · next d hd =>
      cases h
      split_ifs with hinteger
      · obtain ⟨y, hy⟩ :=
          Binary64.exists_ofInt?_truncate (wellFormed_of_readDouble hv hx) hd hinteger
        exact ⟨⟨_, rfl⟩, y, Value.toBinary64_int hy⟩
      · exact ⟨⟨d, hd⟩, x, Value.toBinary64_real x⟩
    · cases h

/-- The minutes of a request are numbers. -/
structure HasNumbers (spec : TimeRangeSpec) : Prop where
  start : ∀ v, spec.minutesStart = some v → v.IsNumber
  stop : ∀ v, spec.minutesEnd = some v → v.IsNumber

theorem hasNumbers_of_ofFields (hfields : ∀ name x, fields.get name = .real x → x.WellFormed)
    (h : ofFields fields = .ok spec) : spec.HasNumbers := by
  obtain ⟨-, -, -, hstart, hstop⟩ := ofFields_eq_ok.mp h
  constructor
  · intro v hv
    rw [hv] at hstart
    exact isNumber_of_readMinutes (hfields _) hstart
  · intro v hv
    rw [hv] at hstop
    exact isNumber_of_readMinutes (hfields _) hstop

/-! ## Refusals -/

theorem minutesValue_refuses (h : v.IsNumber) : Refuses (minutesValue v) := by
  obtain ⟨d, hd⟩ := h.exact
  rw [minutesValue, hd]
  dsimp only
  split
  · exact .reject _
  · exact .ok _

theorem resolve_refuses [ZoneDatabase] (h : spec.HasNumbers) : Refuses spec.resolve :=
  resolve_failsOnly (fun r => ⟨r, rfl⟩) (resolveMinutes_failsOnly (fun r => ⟨r, rfl⟩)
    (fun v hv => minutesValue_refuses (h.start v hv))
    fun v hv => minutesValue_refuses (h.stop v hv))

theorem previousDays_refuses (spec : TimeRangeSpec) (first last : Date) :
    Refuses (spec.previousDays first last) := by
  unfold previousDays
  dsimp only
  split
  · exact .ok _
  · exact .reject _

/-- Between numbers there is always a window before. -/
theorem exists_previousMinutes {start stop : Value} (hstart : start.IsNumber)
    (hstop : stop.IsNumber) : ∃ prev, previousMinutes start stop = .ok prev := by
  unfold previousMinutes
  rcases Value.combine_cases hstart.double hstop.double (· - ·) .sub with
    ⟨m, n, hm, hn⟩ | ⟨x, hwidth⟩
  · have hwidth : start.sub stop = .ok (.int (m - n)) := Value.combine_of_toWhole? hm hn _ _
    have hsum : start.add (.int (m - n)) = .ok (.int (m + (m - n))) :=
      Value.combine_of_toWhole? hm rfl _ _
    rw [hwidth, ok_bind, hsum]
    exact ⟨_, rfl⟩
  · rw [Value.sub, hwidth, ok_bind]
    rcases Value.combine_cases hstart.double ⟨x, Value.toBinary64_real x⟩ (· + ·) .add with
      ⟨m, n, -, hn⟩ | ⟨y, hsum⟩
    · cases hn
    · rw [Value.add, hsum]
      exact ⟨_, rfl⟩

theorem previous_refuses [ZoneDatabase] (h : spec.HasNumbers) : Refuses spec.previous := by
  refine .bind (resolve_refuses h) fun range hrange => ?_
  cases range with
  | unrestricted => exact .ok _
  | days first last zone => exact .map (previousDays_refuses spec first last) _
  | minutes start stop =>
    refine .map ?_ _
    obtain ⟨hstart, hstop⟩ := minutes_of_resolve hrange
    obtain ⟨prev, hprev⟩ := exists_previousMinutes (h.start _ hstart) (h.stop _ hstop)
    rw [hprev]
    exact .ok _

/-- Away from the ends of the calendar every zone has a today. -/
theorem not_lacksToday {now : Moment} (hnow : now.IsInner) (range : TimeRange) :
    ¬ range.LacksToday now.located := by
  cases range with
  | unrestricted => exact id
  | days first last zone =>
    intro ⟨_, htoday⟩
    obtain ⟨t, ht⟩ := hnow.exists_local zone
    rw [ht] at htoday
    cases htoday
  | minutes start stop => exact id

variable {now : Moment}

theorem compile_of_lacksToday [ZoneDatabase] {range : TimeRange} (hrange : spec.resolve = .ok range)
    (h : range.LacksToday now.located) :
    spec.compile now = .error (.fault .calendarRange) := by
  rw [compile, hrange, ok_bind, TimeRange.condition_of_lacksToday h]
  rfl

theorem compile_refuses [ZoneDatabase] (hspec : spec.HasNumbers)
    (h : ∀ range, spec.resolve = .ok range → ¬ range.LacksToday now.located) :
    Refuses (spec.compile now) :=
  compile_failsOnly (resolve_refuses hspec) fun range hrange =>
    TimeRange.condition_refuses (h range hrange)

/-- Moving a request to the period before fails only because the request is refused.  Compiling it
fails in one more way: the instant of the request has no day in the zone of the range, which cannot
happen a day away from the ends of the calendar.  Which zones there are makes no difference. -/
theorem refuses_unless_lacksToday [ZoneDatabase]
    (hfields : ∀ name x, fields.get name = .real x → x.WellFormed)
    (h : ofFields fields = .ok spec) :
    Refuses spec.previous ∧ ∀ now : Moment,
      FailsOnly (fun e => (∃ r, e = .rejected r) ∨ e = .fault .calendarRange)
        (spec.compile now) ∧
      (spec.compile now = .error (.fault .calendarRange) ↔
        ∃ range, spec.resolve = .ok range ∧ range.LacksToday now.located) ∧
      (now.IsInner → Refuses (spec.compile now)) := by
  have hspec := hasNumbers_of_ofFields hfields h
  refine ⟨previous_refuses hspec, fun now => ?_⟩
  have hinner (hnow : now.IsInner) : Refuses (spec.compile now) :=
    compile_refuses hspec fun range _ => not_lacksToday hnow range
  by_cases hlacks : ∃ range, spec.resolve = .ok range ∧ range.LacksToday now.located
  · obtain ⟨range, hrange, htoday⟩ := hlacks
    have hfault := compile_of_lacksToday hrange htoday
    refine ⟨?_, ⟨fun _ => ⟨range, hrange, htoday⟩, fun _ => hfault⟩, hinner⟩
    rw [hfault]
    exact .error (.inr rfl)
  · have hrefuses : Refuses (spec.compile now) :=
      compile_refuses hspec fun range hrange htoday => hlacks ⟨range, hrange, htoday⟩
    refine ⟨FailsOnly.mono hrefuses fun _ => .inl, ⟨fun hfault => ?_, fun h => absurd h hlacks⟩,
      hinner⟩
    obtain ⟨r, hr⟩ := hrefuses _ hfault
    cases hr

/-- From ninety and a half minutes ago to thirty minutes ago. -/
def windowFields : Fields :=
  [("past_minutes_start", .real (.finite false (181 * 2 ^ 45) (-46))),
    ("past_minutes_end", .text "30")]

def window : TimeRangeSpec :=
  ofMinutes (.real (.finite false (181 * 2 ^ 45) (-46))) (.int 30)

theorem ofFields_window : ofFields windowFields = .ok window := by
  have hread : readBinary64? "30".toList = some (.finite false (15 * 2 ^ 49) (-48)) := by
    decide +kernel
  have hdouble : readDouble "past_minutes_end" (.text "30") =
      .ok (.finite false (15 * 2 ^ 49) (-48)) := by
    unfold readDouble
    simp only [hread]
  have hstart : readMinutes "past_minutes_start" (windowFields.get "past_minutes_start") =
      .ok (some (.real (.finite false (181 * 2 ^ 45) (-46)))) := rfl
  have hstop : readMinutes "past_minutes_end" (windowFields.get "past_minutes_end") =
      .ok (some (.int 30)) := by
    show (readDouble "past_minutes_end" (.text "30") >>= _) = _
    rw [hdouble]
    rfl
  exact ofFields_eq_ok.mpr ⟨rfl, rfl, rfl, hstart, hstop⟩

/-- A window of minutes does not ask for a day, so at any instant it compiles or is refused. -/
theorem refuses_unless_lacksToday_window :
    (∀ name x, windowFields.get name = .real x → x.WellFormed) ∧
    ofFields windowFields = .ok window ∧ Refuses window.previous ∧
    ∀ now, Refuses (window.compile now) := by
  have hfields : ∀ name x, windowFields.get name = .real x → x.WellFormed := by
    intro name x h
    unfold Fields.get at h
    cases hget : Bindings.get? windowFields name with
    | none =>
      rw [hget] at h
      cases h
    | some v =>
      rw [hget] at h
      have hmem := Bindings.mem_of_get? hget
      cases h
      rcases List.mem_pair.mp hmem with heq | heq
      · cases heq
        exact ⟨by decide, by decide, by decide, .inl (by decide)⟩
      · cases heq
  obtain ⟨hprevious, hcompile⟩ := refuses_unless_lacksToday hfields ofFields_window
  refine ⟨hfields, ofFields_window, hprevious, fun now e he => ?_⟩
  obtain ⟨honly, hfault, -⟩ := hcompile now
  rcases honly e he with hrejected | rfl
  · exact hrejected
  · obtain ⟨range, hrange, htoday⟩ := hfault.mp he
    have hwindow : window.resolve =
        .ok (.minutes (.real (.finite false (181 * 2 ^ 45) (-46))) (.int 30)) := rfl
    rw [hwindow] at hrange
    cases hrange
    cases htoday

/-- The last date of the calendar. -/
def lastDate : Date :=
  ⟨lastDay, by decide, by decide⟩

def lastDateFields : Fields :=
  [("start_date", .text "9999-12-31"), ("end_date", .text "9999-12-31"),
    ("time_zone", .text "Asia/Tokyo")]

/-- An hour before the end of the calendar; in Tokyo the calendar is over. -/
def lastHourOfCalendar : Moment :=
  ⟨⟨timestampLimit - 3600 * ticksPerSecond, by decide⟩, some 0⟩

/-- The last date of the calendar begins in Tokyo, but an hour before the calendar ends in UTC no
date is left there to be today: compiling fails, and not because the request is refused. -/
theorem lastDate_not_refused :
    ∃ spec, ofFields lastDateFields = .ok spec ∧
      spec.compile lastHourOfCalendar = .error (.fault .calendarRange) ∧
      ¬ Refuses (spec.compile lastHourOfCalendar) := by
  have htext : lastDate.toText = "9999-12-31" := by decide +kernel
  have hname : supplied? (some "Asia/Tokyo") = some "Asia/Tokyo" := rfl
  have hresolve := @resolve_ofDays lastDate lastDate _ _ (Nat.le_refl _) _ _ hname
    (rfl : readZone "Asia/Tokyo" = .ok ZoneTable.asiaTokyo.toZone)
  have hlacks : (TimeRange.days lastDate lastDate ZoneTable.asiaTokyo.toZone).LacksToday
      lastHourOfCalendar.located :=
    ⟨⟨⟨timestampLimit - 33 * 3600 * ticksPerSecond, by decide⟩, by decide +kernel⟩,
      by decide +kernel⟩
  have hfault := compile_of_lacksToday hresolve hlacks
  refine ⟨ofDays lastDate lastDate (some "Asia/Tokyo"), ?_, hfault, fun hrefuses => ?_⟩
  · rw [ofDays, htext]
    rfl
  · obtain ⟨r, hr⟩ := hrefuses _ hfault
    cases hr

end TimeRangeSpec

end Clickstream
