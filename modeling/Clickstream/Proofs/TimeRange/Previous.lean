import Clickstream.Proofs.Calendar.DateText
import Clickstream.Proofs.Outcome
import Clickstream.TimeRange.Previous

/-!
# The period before a range

The period before a range of days is requested by the texts of its own days, which are read back
(`previous_days`): it is as long as the range, in the same zone, and ends on the day before.  The
window before a window of whole minutes ends where the window begins (`previous_minutes`).
-/

namespace Clickstream

/-! ## Whole numbers -/

namespace Value

theorem toDyadic?_of_toWhole? {v : Value} {n : Int} (h : v.toWhole? = some n) :
    v.toDyadic? = some ⟨n, 0⟩ := by
  cases v with
  | bool b =>
    cases h
    rfl
  | int n =>
    cases h
    rfl
  | _ => cases h

/-- Sums and differences of whole numbers are whole. -/
theorem combine_of_toWhole? {a b : Value} {m n : Int} (ha : a.toWhole? = some m)
    (hb : b.toWhole? = some n) (onWhole : Int → Int → Int)
    (onReal : Binary64 → Binary64 → Binary64) :
    combine onWhole onReal a b = .ok (.int (onWhole m n)) := by
  rw [combine, ha, hb]

end Value

theorem Dyadic.lt_whole (m n : Int) : Dyadic.lt ⟨m, 0⟩ ⟨n, 0⟩ = decide (m < n) := by
  simp [Dyadic.lt, Dyadic.scaled]

namespace TimeRangeSpec

variable {spec prev : TimeRangeSpec}

/-! ## Ranges of days -/

section

variable {first last : Date} {zone : Zone}

theorem minutes_of_resolveMinutes {range : TimeRange} (h : spec.resolveMinutes = .ok range) :
    ∃ start stop a b, range = .minutes start stop ∧ spec.minutesStart = some start ∧
      spec.minutesEnd = some stop ∧ minutesValue start = .ok a ∧ minutesValue stop = .ok b ∧
      b.lt a = true := by
  unfold resolveMinutes at h
  split at h
  · next start stop hs he =>
    split at h
    · cases h
    · obtain ⟨a, ha, h⟩ := Outcome.bind_eq_ok.mp h
      obtain ⟨b, hb, h⟩ := Outcome.bind_eq_ok.mp h
      split at h
      · next hlt =>
        cases h
        exact ⟨start, stop, a, b, rfl, hs, he, ha, hb, hlt⟩
      · cases h
  · cases h

theorem supplied?_eq_some {field : Option String} {s : String} (h : supplied? field = some s) :
    field = some s := by
  unfold supplied? at h
  split at h
  · cases h
  · cases h
  · exact congrArg some (Option.some.inj h)

theorem days_of_resolveDays [ZoneDatabase] {range : TimeRange} (h : spec.resolveDays = .ok range) :
    ∃ first last zone name, range = .days first last zone ∧ first ≤ last ∧
      supplied? spec.timeZone = some name ∧ readZone name = .ok zone ∧
      spec.startDate = some first.toText ∧ spec.endDate = some last.toText := by
  unfold resolveDays at h
  split at h
  · next start stop name hstart hstop hname =>
    obtain ⟨first, hfirst, h⟩ := Outcome.bind_eq_ok.mp h
    obtain ⟨last, hlast, h⟩ := Outcome.bind_eq_ok.mp h
    split at h
    · cases h
    · next hle =>
      obtain ⟨zone, hzone, h⟩ := Outcome.bind_eq_ok.mp h
      cases h
      rw [readDay_eq_ok] at hfirst hlast
      rw [hfirst] at hstart
      rw [hlast] at hstop
      exact ⟨first, last, zone, name, rfl, Nat.le_of_not_lt hle, hname, hzone,
        supplied?_eq_some hstart, supplied?_eq_some hstop⟩
  · cases h

/-- A range of days comes from a request for days alone. -/
theorem resolveDays_of_resolve [ZoneDatabase] (h : spec.resolve = .ok (.days first last zone)) :
    spec.resolveDays = .ok (.days first last zone) ∧ spec.minutesStart = none ∧
      spec.minutesEnd = none := by
  unfold resolve at h
  split_ifs at h with hmixed hdates hminutes
  · cases h
  · rw [hdates, Bool.true_and, hasMinutes, Bool.or_eq_true, not_or] at hmixed
    simp only [Bool.not_eq_true, Option.isSome_eq_false_iff, Option.isNone_iff_eq_none] at hmixed
    exact ⟨h, hmixed⟩
  · obtain ⟨_, _, _, _, ⟨⟩, -⟩ := minutes_of_resolveMinutes h
  · cases h

/-- A window comes from a request for minutes. -/
theorem resolveMinutes_of_resolve [ZoneDatabase] {start stop : Value}
    (h : spec.resolve = .ok (.minutes start stop)) :
    spec.resolveMinutes = .ok (.minutes start stop) := by
  unfold resolve at h
  split_ifs at h
  · cases h
  · obtain ⟨_, _, _, _, ⟨⟩, -⟩ := days_of_resolveDays h
  · exact h
  · cases h

/-- What a range of days is checked for. -/
theorem of_resolve_days [ZoneDatabase] (h : spec.resolve = .ok (.days first last zone)) :
    first ≤ last ∧ ∃ name, supplied? spec.timeZone = some name ∧ readZone name = .ok zone := by
  obtain ⟨_, _, _, name, ⟨⟩, hle, hname, hzone, -⟩ :=
    days_of_resolveDays (resolveDays_of_resolve h).1
  exact ⟨hle, name, hname, hzone⟩

/-- A range of days is requested by the texts of its days, and by nothing else. -/
theorem eq_ofDays_of_resolve [ZoneDatabase] (h : spec.resolve = .ok (.days first last zone)) :
    spec = ofDays first last spec.timeZone := by
  obtain ⟨hdays, hminutesStart, hminutesEnd⟩ := resolveDays_of_resolve h
  obtain ⟨_, _, _, _, ⟨⟩, -, -, -, hstart, hstop⟩ := days_of_resolveDays hdays
  obtain ⟨startDate, endDate, timeZone, minutesStart, minutesEnd⟩ := spec
  obtain rfl := hstart
  obtain rfl := hstop
  obtain rfl := hminutesStart
  obtain rfl := hminutesEnd
  rfl

/-- A window is made of the minutes of its request. -/
theorem minutes_of_resolve [ZoneDatabase] {start stop : Value}
    (h : spec.resolve = .ok (.minutes start stop)) :
    spec.minutesStart = some start ∧ spec.minutesEnd = some stop := by
  obtain ⟨_, _, _, _, ⟨⟩, hs, he, -⟩ := minutes_of_resolveMinutes (resolveMinutes_of_resolve h)
  exact ⟨hs, he⟩

theorem supplied?_toText (d : Date) : supplied? (some d.toText) = some d.toText := by
  unfold supplied?
  split
  · next heq => exact absurd (Option.some.inj heq) d.toText_ne_empty
  · next heq => cases heq
  · next heq => rw [heq]

/-- A range that is requested by the texts of its days is a range of these days. -/
theorem resolve_ofDays [ZoneDatabase] (hle : first ≤ last) {timeZone : Option String}
    {name : String} (hname : supplied? timeZone = some name) (hzone : readZone name = .ok zone) :
    (ofDays first last timeZone).resolve = .ok (.days first last zone) := by
  have hnot : ¬ last < first := Nat.not_lt_of_le hle
  have hresolve : (ofDays first last timeZone).resolve =
      (ofDays first last timeZone).resolveDays := by
    simp only [resolve, hasDates, hasMinutes, ofDays, Option.isSome_some, Option.isSome_none,
      Bool.or_self, Bool.and_false, Bool.false_eq_true, if_false, if_true]
  rw [hresolve, resolveDays, ofDays]
  simp only [supplied?_toText, hname, readDay_toText, Outcome.ok_bind, if_neg hnot, hzone]

/-- The period before a range of days has as many days in the same zone, and the last one is the day
before the range. -/
theorem previous_days [ZoneDatabase] (h : spec.resolve = .ok (.days first last zone))
    (hprev : spec.previous = .ok (some prev)) :
    ∃ first' last', prev.resolve = .ok (.days first' last' zone) ∧
      last'.number + 1 = first.number ∧
      (last'.number : Int) - first'.number = last.number - first.number := by
  obtain ⟨hle, name, hname, hzone⟩ := of_resolve_days h
  rw [previous, h, Outcome.ok_bind] at hprev
  obtain ⟨prev, hdays, ⟨⟩⟩ := Outcome.map_eq_ok.mp hprev
  simp only [previousDays] at hdays
  split at hdays
  · next first' last' hfirst hlast =>
    cases hdays
    have hfirst' := Date.ofNumber?_eq_some.mp hfirst
    have hlast' := Date.ofNumber?_eq_some.mp hlast
    have hlength : first.number ≤ last.number := hle
    have hle' : first'.number ≤ last'.number := by omega
    exact ⟨first', last', resolve_ofDays hle' hname hzone, by omega, by omega⟩
  · cases hdays

end

/-! ## Windows of minutes -/

section

variable {start stop : Value} {m n : Int}

theorem minutesValue_eq_ok (hm : start.toWhole? = some m) {d : Dyadic} :
    minutesValue start = .ok d ↔ 0 ≤ m ∧ d = ⟨m, 0⟩ := by
  rw [minutesValue, Value.toDyadic?_of_toWhole? hm]
  dsimp only
  split
  · next hneg =>
    constructor
    · intro h
      cases h
    · rintro ⟨hpos, -⟩
      omega
  · next hneg =>
    constructor
    · intro h
      cases h
      exact ⟨by omega, rfl⟩
    · rintro ⟨-, rfl⟩
      rfl

/-- What a window of whole minutes is checked for. -/
theorem of_resolve_minutes [ZoneDatabase] (h : spec.resolve = .ok (.minutes start stop))
    (hm : start.toWhole? = some m) (hn : stop.toWhole? = some n) : 0 ≤ n ∧ n < m := by
  obtain ⟨_, _, a, b, ⟨⟩, -, -, ha, hb, hlt⟩ :=
    minutes_of_resolveMinutes (resolveMinutes_of_resolve h)
  obtain ⟨-, rfl⟩ := (minutesValue_eq_ok hm).mp ha
  obtain ⟨hpos, rfl⟩ := (minutesValue_eq_ok hn).mp hb
  rw [Dyadic.lt_whole, decide_eq_true_eq] at hlt
  exact ⟨hpos, hlt⟩

theorem isEndless_of_toWhole? (hm : start.toWhole? = some m) : isEndless start = false := by
  cases start with
  | real x => cases hm
  | _ => rfl

/-- A window that is requested by whole minutes is a window of these minutes. -/
theorem resolve_ofMinutes [ZoneDatabase] (hm : start.toWhole? = some m)
    (hn : stop.toWhole? = some n) (hpos : 0 ≤ n) (hlt : n < m) :
    (ofMinutes start stop).resolve = .ok (.minutes start stop) := by
  have hstart : minutesValue start = .ok ⟨m, 0⟩ := (minutesValue_eq_ok hm).mpr ⟨by omega, rfl⟩
  have hstop : minutesValue stop = .ok ⟨n, 0⟩ := (minutesValue_eq_ok hn).mpr ⟨hpos, rfl⟩
  have hresolve : (ofMinutes start stop).resolve = (ofMinutes start stop).resolveMinutes := by
    simp only [resolve, hasDates, hasMinutes, ofMinutes, Option.isSome_some, Option.isSome_none,
      Bool.or_self, Bool.false_and, Bool.false_eq_true, if_false, if_true]
  rw [hresolve, resolveMinutes, ofMinutes]
  simp only [isEndless_of_toWhole? hm, isEndless_of_toWhole? hn, hstart, hstop, Outcome.ok_bind,
    Bool.or_self, Bool.false_eq_true, if_false, Dyadic.lt_whole, hlt, decide_true, if_true]

/-- The window before a window of whole minutes ends where it begins, and is as wide. -/
theorem previous_minutes [ZoneDatabase] (h : spec.resolve = .ok (.minutes start stop))
    (hm : start.toWhole? = some m) (hn : stop.toWhole? = some n)
    (hprev : spec.previous = .ok (some prev)) :
    prev.resolve = .ok (.minutes (.int (m + (m - n))) start) := by
  obtain ⟨hpos, hlt⟩ := of_resolve_minutes h hm hn
  have hwidth : start.sub stop = .ok (.int (m - n)) := Value.combine_of_toWhole? hm hn _ _
  have hearlier : start.add (.int (m - n)) = .ok (.int (m + (m - n))) :=
    Value.combine_of_toWhole? hm rfl _ _
  rw [previous, h, Outcome.ok_bind] at hprev
  obtain ⟨prev, hminutes, ⟨⟩⟩ := Outcome.map_eq_ok.mp hprev
  rw [previousMinutes, hwidth, Outcome.ok_bind, hearlier, Outcome.ok_bind] at hminutes
  cases hminutes
  exact resolve_ofMinutes rfl hm (by omega) (by omega)

end

end TimeRangeSpec

end Clickstream
