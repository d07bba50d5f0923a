import Mathlib.Data.Nat.Find
import Mathlib.Tactic.Ring
import Clickstream.Calendar.ZoneTable
import Clickstream.Proofs.TimeRange.Previous

/-!
# Earlier and earlier periods

Going back one period is a step that may fail: a range of days is moved by its length and is read
back from the texts of its days, a window of minutes is moved by its width (`previous_ofDays`,
`previous_minutes`).  A step keeps the length, so after `k` steps the range has moved by `k` lengths
(`previousTimes_days`, `previousTimes_minutes`).  Days can be moved until the calendar begins, and
the first step that would leave it is refused (`previousTimes_refused`).
-/

namespace Clickstream

/-- The date some periods of a length earlier, if there is one. -/
def Date.periodsBefore? (d : Date) (length : Int) (k : Nat) : Option Date :=
  d.addDays? (-(k * length))

/-- The number of days from the first one to the last one, both counted. -/
def dayCount (first last : Date) : Int :=
  last.number - first.number + 1

namespace Date

theorem periodsBefore?_eq_some {d d' : Date} {length : Int} {k : Nat} :
    d.periodsBefore? length k = some d' ↔ (d'.number : Int) = d.number - k * length := by
  rw [periodsBefore?, addDays?, ofNumber?_eq_some, Int.sub_eq_add_neg]

theorem periodsBefore?_zero (d : Date) (length : Int) : d.periodsBefore? length 0 = some d := by
  rw [periodsBefore?_eq_some]
  simp

/-- One period before the date some periods earlier is one period more. -/
theorem periodsBefore?_one {d d' : Date} {length : Int} {k : Nat}
    (h : d.periodsBefore? length k = some d') :
    d'.periodsBefore? length 1 = d.periodsBefore? length (k + 1) := by
  rw [periodsBefore?_eq_some] at h
  rw [periodsBefore?, periodsBefore?, addDays?, addDays?, h]
  congr 1
  push_cast
  ring

/-- There is a date unless the periods go back beyond the beginning of the calendar. -/
theorem exists_periodsBefore? {d : Date} {length : Int} (hlength : 0 ≤ length) {k : Nat}
    (h : 1 ≤ d.number - k * length) : ∃ d', d.periodsBefore? length k = some d' := by
  have hback : 0 ≤ k * length := Int.mul_nonneg (Int.natCast_nonneg k) hlength
  have hlast := d.le_last
  exact ⟨_, dif_pos (by omega)⟩

end Date

namespace TimeRangeSpec

/-- The period some periods before a request, none if nothing is restricted. -/
def previousTimes [ZoneDatabase] (spec : TimeRangeSpec) : Nat → Outcome (Option TimeRangeSpec)
  | 0 => .ok (some spec)
  | k + 1 => do
    match ← spec.previousTimes k with
    | none => .ok none
    | some earlier => earlier.previous

variable {spec : TimeRangeSpec}

/-! ## Steps -/

theorem previousTimes_succ [ZoneDatabase] {earlier : TimeRangeSpec} {k : Nat}
    (h : spec.previousTimes k = .ok (some earlier)) :
    spec.previousTimes (k + 1) = earlier.previous := by
  rw [previousTimes, h, Outcome.ok_bind]

/-- After a step that fails there are no others. -/
theorem previousTimes_error [ZoneDatabase] {e : Failure} {j k : Nat}
    (h : spec.previousTimes j = .error e) (hle : j ≤ k) : spec.previousTimes k = .error e := by
  induction k, hle using Nat.le_induction with
  | base => exact h
  | succ k _ ih =>
    rw [previousTimes, ih]
    rfl

/-! ## Ranges of days -/

section

variable {first last : Date} {zone : Zone}

theorem one_le_dayCount [ZoneDatabase] (h : spec.resolve = .ok (.days first last zone)) :
    1 ≤ dayCount first last := by
  obtain ⟨hle, -⟩ := of_resolve_days h
  have hnumbers : first.number ≤ last.number := hle
  rw [dayCount]
  omega

/-- A step back moves both days by the length of the range. -/
theorem previous_ofDays [ZoneDatabase] {first' last' : Date}
    (h : spec.resolve = .ok (.days first last zone))
    (hfirst : first.periodsBefore? (dayCount first last) 1 = some first')
    (hlast : last.periodsBefore? (dayCount first last) 1 = some last') :
    spec.previous = .ok (some (ofDays first' last' spec.timeZone)) := by
  rw [Date.periodsBefore?, Nat.cast_one, Int.one_mul] at hfirst hlast
  rw [previous, h, Outcome.ok_bind]
  show (spec.previousDays first last).map some = _
  rw [previousDays]
  simp only [← dayCount.eq_def, hfirst, hlast]
  rfl

/-- A step back is refused if the calendar does not reach back to the first day. -/
theorem previous_refused [ZoneDatabase] (h : spec.resolve = .ok (.days first last zone))
    (hfirst : first.periodsBefore? (dayCount first last) 1 = none) :
    spec.previous = reject (.outsideCalendar "start_date" (.text first.toText)) := by
  rw [Date.periodsBefore?, Nat.cast_one, Int.one_mul] at hfirst
  have hstart : spec.startDate = some first.toText := by rw [eq_ofDays_of_resolve h, ofDays]
  rw [previous, h, Outcome.ok_bind]
  show (spec.previousDays first last).map some = _
  rw [previousDays, hstart]
  simp only [← dayCount.eq_def, hfirst]
  rfl

/-- Some steps back, a range of days is as long as before and is accepted in the same zone. -/
theorem previousTimes_days [ZoneDatabase] (h : spec.resolve = .ok (.days first last zone)) {k : Nat}
    {s : Date} (hs : first.periodsBefore? (dayCount first last) k = some s) :
    ∃ e, last.periodsBefore? (dayCount first last) k = some e ∧
      dayCount s e = dayCount first last ∧
      spec.previousTimes k = .ok (some (ofDays s e spec.timeZone)) ∧
      (ofDays s e spec.timeZone).resolve = .ok (.days s e zone) := by
  obtain ⟨hle, name, hname, hzone⟩ := of_resolve_days h
  have hnumbers : first.number ≤ last.number := hle
  have hlength := one_le_dayCount h
  induction k generalizing s with
  | zero =>
    obtain rfl : s = first := by
      rw [Date.periodsBefore?_zero] at hs
      exact (Option.some.inj hs).symm
    refine ⟨last, Date.periodsBefore?_zero _ _, rfl, ?_, resolve_ofDays hle hname hzone⟩
    rw [← eq_ofDays_of_resolve h]
    rfl
  | succ k ih =>
    -- The days are read back from their texts after every step, so the invariant is that the
    -- request is one for the moved days, and that it still has the old length.
    have hs' := Date.periodsBefore?_eq_some.mp hs
    have hone := s.one_le
    have hnext : ((k + 1 : Nat) : Int) * dayCount first last =
        k * dayCount first last + dayCount first last := by push_cast; ring
    rw [hnext] at hs'
    obtain ⟨s₁, hs₁⟩ := @Date.exists_periodsBefore? first _ (Int.le_of_lt hlength) k (by omega)
    obtain ⟨e₁, he₁, hcount, htimes, hresolve⟩ := ih hs₁
    have hs₁' := Date.periodsBefore?_eq_some.mp hs₁
    have he₁' := Date.periodsBefore?_eq_some.mp he₁
    obtain ⟨e, he⟩ := @Date.exists_periodsBefore? last _ (Int.le_of_lt hlength) (k + 1) (by
      rw [hnext]
      omega)
    have he' := Date.periodsBefore?_eq_some.mp he
    rw [hnext] at he'
    have hsteps : (s.number : Int) = s₁.number - dayCount first last ∧
        (e.number : Int) = e₁.number - dayCount first last := by omega
    have hle' : s ≤ e := by
      show s.number ≤ e.number
      omega
    refine ⟨e, he, ?_, ?_, resolve_ofDays hle' hname hzone⟩
    · rw [← hcount, dayCount, dayCount]
      omega
    · rw [previousTimes_succ htimes, previous_ofDays hresolve]
      · rfl
      · rw [hcount, Date.periodsBefore?_eq_some, hsteps.1]
        simp
      · rw [hcount, Date.periodsBefore?_eq_some, hsteps.2]
        simp

/-- If the calendar does not reach back far enough, a step is refused: the first one for which it
does not. -/
theorem previousTimes_refused [ZoneDatabase] (h : spec.resolve = .ok (.days first last zone))
    {k : Nat} (hk : first.periodsBefore? (dayCount first last) k = none) :
    ∃ j < k, ∃ s, (∀ i ≤ j, (first.periodsBefore? (dayCount first last) i).isSome) ∧
      first.periodsBefore? (dayCount first last) (j + 1) = none ∧
      first.periodsBefore? (dayCount first last) j = some s ∧
      ∀ i > j, spec.previousTimes i =
        reject (.outsideCalendar "start_date" (.text s.toText)) := by
  have hlacks : ∃ i, first.periodsBefore? (dayCount first last) i = none := ⟨k, hk⟩
  obtain ⟨j, hj⟩ : ∃ j, Nat.find hlacks = j + 1 := by
    refine Nat.exists_eq_succ_of_ne_zero fun hzero => ?_
    have hfound := Nat.find_spec hlacks
    rw [hzero, Date.periodsBefore?_zero] at hfound
    cases hfound
  have hbefore : ∀ i ≤ j, (first.periodsBefore? (dayCount first last) i).isSome := by
    intro i hi
    exact Option.isSome_iff_ne_none.mpr (Nat.find_min hlacks (by omega))
  have hnone : first.periodsBefore? (dayCount first last) (j + 1) = none := by
    rw [← hj]
    exact Nat.find_spec hlacks
  obtain ⟨s, hs⟩ := Option.isSome_iff_exists.mp (hbefore j le_rfl)
  obtain ⟨e, -, hcount, htimes, hresolve⟩ := previousTimes_days h hs
  have hlt : j < k := by
    have := Nat.find_le (h := hlacks) hk
    omega
  refine ⟨j, hlt, s, hbefore, hnone, hs, fun i hi => previousTimes_error ?_ hi⟩
  rw [previousTimes_succ htimes, previous_refused hresolve]
  · rfl
  · rw [hcount, Date.periodsBefore?_one hs, hnone]

end

/-! ## Windows of minutes -/

section

variable {start stop : Value} {m n : Int}

/-- There is a window before every window of whole minutes. -/
theorem exists_previous_minutes [ZoneDatabase] (h : spec.resolve = .ok (.minutes start stop))
    (hm : start.toWhole? = some m) (hn : stop.toWhole? = some n) :
    ∃ prev, spec.previous = .ok (some prev) := by
  have hwidth : start.sub stop = .ok (.int (m - n)) := Value.combine_of_toWhole? hm hn _ _
  have hearlier : start.add (.int (m - n)) = .ok (.int (m + (m - n))) :=
    Value.combine_of_toWhole? hm rfl _ _
  refine ⟨ofMinutes (.int (m + (m - n))) start, ?_⟩
  rw [previous, h, Outcome.ok_bind]
  simp only [previousMinutes, hwidth, hearlier, Outcome.ok_bind]
  rfl

/-- Some steps back, a window of whole minutes has moved by that many widths.  Integers stay
integers. -/
theorem previousTimes_minutes [ZoneDatabase] (h : spec.resolve = .ok (.minutes start stop))
    (hm : start.toWhole? = some m) (hn : stop.toWhole? = some n) (k : Nat) :
    ∃ earlier u v, spec.previousTimes k = .ok (some earlier) ∧
      earlier.resolve = .ok (.minutes u v) ∧ u.toWhole? = some (m + k * (m - n)) ∧
      v.toWhole? = some (n + k * (m - n)) ∧
      (start = .int m → stop = .int n →
        u = .int (m + k * (m - n)) ∧ v = .int (n + k * (m - n))) := by
  induction k with
  | zero =>
    rw [Nat.cast_zero, Int.zero_mul, Int.add_zero, Int.add_zero]
    exact ⟨spec, start, stop, rfl, h, hm, hn, fun hstart hstop => ⟨hstart, hstop⟩⟩
  | succ k ih =>
    obtain ⟨earlier, u, v, htimes, hresolve, hu, hv, hints⟩ := ih
    obtain ⟨prev, hprev⟩ := exists_previous_minutes hresolve hu hv
    have hwidth : m + k * (m - n) + (m + k * (m - n) - (n + k * (m - n))) =
        m + ((k + 1 : Nat) : Int) * (m - n) := by push_cast; ring
    have hseam : m + k * (m - n) = n + ((k + 1 : Nat) : Int) * (m - n) := by push_cast; ring
    have hresolve' := previous_minutes hresolve hu hv hprev
    rw [hwidth] at hresolve'
    rw [hseam] at hu hints
    refine ⟨prev, _, u, (previousTimes_succ htimes).trans hprev, hresolve', rfl, hu, ?_⟩
    intro hstart hstop
    exact ⟨rfl, (hints hstart hstop).1⟩

end

/-! ## All steps -/

/-- Going back some periods has a closed form.  A range of days is moved by as many of its lengths,
keeps its length and its zone and is accepted again; if the calendar does not reach back to its first
day, the first step that leaves the calendar is refused, and with it every later one.  A window of
whole minutes is moved by as many of its widths. -/
theorem previousTimes_closed [ZoneDatabase] (spec : TimeRangeSpec) (k : Nat) :
    (∀ first last zone, spec.resolve = .ok (.days first last zone) →
      (∀ s, first.periodsBefore? (dayCount first last) k = some s →
        ∃ e, last.periodsBefore? (dayCount first last) k = some e ∧
          dayCount s e = dayCount first last ∧
          spec.previousTimes k = .ok (some (ofDays s e spec.timeZone)) ∧
          (ofDays s e spec.timeZone).resolve = .ok (.days s e zone)) ∧
      (first.periodsBefore? (dayCount first last) k = none →
        ∃ j < k, ∃ s, (∀ i ≤ j, (first.periodsBefore? (dayCount first last) i).isSome) ∧
          first.periodsBefore? (dayCount first last) (j + 1) = none ∧
          first.periodsBefore? (dayCount first last) j = some s ∧
          ∀ i > j, spec.previousTimes i =
            reject (.outsideCalendar "start_date" (.text s.toText)))) ∧
    ∀ start stop m n, spec.resolve = .ok (.minutes start stop) → start.toWhole? = some m →
      stop.toWhole? = some n → ∃ earlier u v, spec.previousTimes k = .ok (some earlier) ∧
        earlier.resolve = .ok (.minutes u v) ∧ u.toWhole? = some (m + k * (m - n)) ∧
        v.toWhole? = some (n + k * (m - n)) ∧
        (start = .int m → stop = .int n →
          u = .int (m + k * (m - n)) ∧ v = .int (n + k * (m - n))) := by
  refine ⟨?_, ?_⟩
  · intro first last zone h
    exact ⟨fun s => previousTimes_days h, previousTimes_refused h⟩
  · intro start stop m n h hm hn
    exact previousTimes_minutes h hm hn k

/-- Four days of which the first one is the fifth of the calendar. -/
def fifthToEighth : TimeRangeSpec :=
  ofDays ⟨5, by decide, by decide⟩ ⟨8, by decide, by decide⟩ (some "Europe/Berlin")

/-- One step leads from the fifth to the first day of the calendar, and the second one is refused.
Five steps of an hour lead to the hour that ended five hours ago. -/
theorem previousTimes_closed_beginning :
    fifthToEighth.previousTimes 1 = .ok (some (ofDays ⟨1, by decide, by decide⟩
      ⟨4, by decide, by decide⟩ (some "Europe/Berlin"))) ∧
    (∀ i > 1, fifthToEighth.previousTimes i =
      reject (.outsideCalendar "start_date" (.text "0001-01-01"))) ∧
    ∃ earlier, (ofMinutes (.int 60) (.int 0)).previousTimes 5 = .ok (some earlier) ∧
      earlier.resolve = .ok (.minutes (.int 360) (.int 300)) := by
  have hname : supplied? (some "Europe/Berlin") = some "Europe/Berlin" := rfl
  have hzone : readZone "Europe/Berlin" = .ok ZoneTable.europeBerlin.toZone := rfl
  have hresolve : fifthToEighth.resolve = .ok (.days ⟨5, by decide, by decide⟩
      ⟨8, by decide, by decide⟩ ZoneTable.europeBerlin.toZone) :=
    resolve_ofDays (by decide) hname hzone
  have hdays := fun k => (previousTimes_closed fifthToEighth k).1 _ _ _ hresolve
  refine ⟨?_, ?_, ?_⟩
  · obtain ⟨e, he, -, htimes, -⟩ := (hdays 1).1 ⟨1, by decide, by decide⟩ rfl
    cases he
    exact htimes
  · obtain ⟨j, hj, s, hbefore, hnone, hs, hrefused⟩ := (hdays 2).2 rfl
    obtain rfl : j = 1 := by
      match j, hj with
      | 0, _ => cases hnone
      | 1, _ => rfl
    cases hs
    exact hrefused
  · obtain ⟨earlier, u, v, htimes, hresolve, -, -, hints⟩ :=
      (previousTimes_closed (ofMinutes (.int 60) (.int 0)) 5).2 (.int 60) (.int 0) 60 0 rfl rfl rfl
    obtain ⟨rfl, rfl⟩ := hints rfl rfl
    exact ⟨earlier, htimes, hresolve⟩

end TimeRangeSpec

end Clickstream
