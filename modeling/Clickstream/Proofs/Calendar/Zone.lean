import Mathlib.Data.Nat.Init
import Clickstream.Calendar.ZoneTable

/-!
# Zones and their midnights

Local midnights are instants in the order of their dates if the offsets of each two in a row differ
by a day at most (`Zone.HasCloseMidnights`, `midnightTicks_le`): an offset that grows brings the
midnight after it forward, but not beyond the one before.  The zones of the table are of this kind,
those included that skipped a date (`ZoneTable.hasCloseMidnights`), since their steps are at least a
day apart in local time and none is greater than a day (`ZoneRules.GentleSteps`).
-/

namespace Clickstream

theorem Timestamp.ofTicks?_eq_some {n : Int} {t : Timestamp} :
    ofTicks? n = some t ↔ (t.ticks : Int) = n := by
  constructor
  · intro h
    unfold ofTicks? at h
    split at h
    · next hbounds =>
      cases h
      exact Int.toNat_of_nonneg (by omega)
    · cases h
  · rintro rfl
    have hlimit := t.lt_limit
    have hbounds : 0 ≤ (t.ticks : Int) ∧ (t.ticks : Int) < timestampLimit := by omega
    rw [ofTicks?, dif_pos hbounds]
    rfl

theorem Timestamp.seconds_startOf (d : Date) :
    (startOf d).seconds = (d.number - 1) * secondsPerDay := by
  have hpos : 0 < ticksPerSecond := by decide
  have hticks : (startOf d).ticks = (d.number - 1) * secondsPerDay * ticksPerSecond := by
    rw [Nat.mul_assoc]
    rfl
  rw [seconds, hticks, Nat.mul_div_cancel _ hpos]

namespace Zone

/-! ## Midnights -/

variable {z : Zone} {d d' : Date}

/-- The offset at the local midnight that a date begins with. -/
def midnightOffset (z : Zone) (d : Date) : Int :=
  z.offsetAtLocal (.startOf d)

/-- The instant of the midnight that a date begins with, in ticks. -/
def midnightTicks (z : Zone) (d : Date) : Int :=
  ((d.number : Int) - 1) * ticksPerDay - z.midnightOffset d * ticksPerSecond

/-- The offsets at two midnights in a row differ by a day at most. -/
def HasCloseMidnights (z : Zone) : Prop :=
  ∀ d d' : Date, d'.number = d.number + 1 →
    (z.midnightOffset d' - z.midnightOffset d).natAbs ≤ secondsPerDay

theorem startOfDay?_eq_some {t : Timestamp} :
    z.startOfDay? d = some t ↔ (t.ticks : Int) = z.midnightTicks d := by
  have hone := d.one_le
  have hticks : ((Timestamp.startOf d).ticks : Int) = (d.number - 1) * ticksPerDay := by
    show (((d.number - 1) * ticksPerDay : Nat) : Int) = _
    rw [Int.natCast_mul, Int.natCast_sub hone, Int.natCast_one]
  rw [startOfDay?, toUtc?, Timestamp.add?, Timestamp.ofTicks?_eq_some, hticks, midnightTicks,
    Int.neg_mul, Int.sub_eq_add_neg]
  rfl

/-- One midnight is not later than the next one. -/
theorem HasCloseMidnights.midnightTicks_succ (h : z.HasCloseMidnights)
    (hnext : d'.number = d.number + 1) : z.midnightTicks d ≤ z.midnightTicks d' := by
  -- The day between the midnights makes up for the change of the offset.
  have hclose := h d d' hnext
  simp only [midnightTicks, hnext, ticksPerDay, secondsPerDay, ticksPerSecond] at *
  omega

/-- Midnights are in the order of their dates. -/
theorem HasCloseMidnights.midnightTicks_le (h : z.HasCloseMidnights) (hle : d ≤ d') :
    z.midnightTicks d ≤ z.midnightTicks d' := by
  suffices hto : ∀ n, d.number ≤ n → ∀ hone hlast,
      z.midnightTicks d ≤ z.midnightTicks ⟨n, hone, hlast⟩ from hto _ hle _ _
  intro n hn
  induction n, hn using Nat.le_induction with
  | base =>
    intro hone hlast
    exact Int.le_refl _
  | succ n hn ih =>
    intro hone hlast
    have hone' := d.one_le
    exact Int.le_trans (ih (by omega) (by omega)) (h.midnightTicks_succ rfl)

end Zone

/-- The zones of a database have close midnights. -/
def ZoneDatabase.HasCloseMidnights (zones : ZoneDatabase) : Prop :=
  ∀ name zone, zones.find? name = some zone → zone.HasCloseMidnights

namespace ZoneRules

/-! ## Gentle steps -/

/-- Steps from an offset on that are a day apart or more and change the offset by a day at most; the
last one leads to some other offsets. -/
def GentleSteps (later : List Int) : Int → List Transition → Prop
  | _, [] => True
  | before, [_] => ∀ offset ∈ later, (offset - before).natAbs ≤ secondsPerDay
  | before, t :: t' :: ts =>
    (t.offset - before).natAbs ≤ secondsPerDay ∧ t.instant + secondsPerDay ≤ t'.instant ∧
      GentleSteps later t.offset (t' :: ts)

instance decidableGentleSteps (later : List Int) :
    ∀ (before : Int) (steps : List Transition), Decidable (GentleSteps later before steps)
  | _, [] => inferInstanceAs (Decidable True)
  | before, [_] =>
    inferInstanceAs (Decidable (∀ offset ∈ later, (offset - before).natAbs ≤ secondsPerDay))
  | before, t :: t' :: ts =>
    have := decidableGentleSteps later t.offset (t' :: ts)
    inferInstanceAs (Decidable ((t.offset - before).natAbs ≤ secondsPerDay ∧
      t.instant + secondsPerDay ≤ t'.instant ∧ GentleSteps later t.offset (t' :: ts)))

section

variable {later : List Int} {before : Int} {t : Transition} {steps : List Transition}

theorem GentleSteps.tail (h : GentleSteps later before (t :: steps)) :
    GentleSteps later t.offset steps := by
  cases steps with
  | nil => trivial
  | cons t' ts => exact h.2.2

/-- A day contains one step at most. -/
theorem GentleSteps.stepOffset?_close (h : GentleSteps later before steps)
    (hlater : ∀ a ∈ later, ∀ b ∈ later, (b - a).natAbs ≤ secondsPerDay) {seconds a b : Int}
    (ha : a ∈ later) (hb : b ∈ later) :
    ((stepOffset? (seconds + secondsPerDay) before steps).getD b -
      (stepOffset? seconds before steps).getD a).natAbs ≤ secondsPerDay := by
  induction steps generalizing before with
  | nil => exact hlater a ha b hb
  | cons t ts ih =>
    rw [stepOffset?, stepOffset?]
    by_cases hbehind : t.instant ≤ seconds
    · have hday : t.instant ≤ seconds + secondsPerDay := by omega
      rw [if_neg (Int.not_lt_of_ge hbehind), if_neg (Int.not_lt_of_ge hday)]
      exact ih h.tail
    · by_cases hahead : seconds + secondsPerDay < t.instant
      · rw [if_pos (Int.lt_of_not_ge hbehind), if_pos hahead]
        simp
      · -- The first step lies within the day, and the second one is at least a day behind it.
        rw [if_pos (Int.lt_of_not_ge hbehind), if_neg hahead, Option.getD_some]
        cases ts with
        | nil => exact h b hb
        | cons t' ts =>
          obtain ⟨hclose, hapart, -⟩ := h
          rw [stepOffset?, if_pos (by omega)]
          exact hclose

end

/-- The midnights of a zone with gentle steps are close. -/
theorem hasCloseMidnights_of_gentle {z : ZoneRules}
    (htail : ∀ a ∈ z.tail.offsets, ∀ b ∈ z.tail.offsets, (b - a).natAbs ≤ secondsPerDay)
    (hsteps : GentleSteps z.tail.offsets z.first (localSteps z.first z.transitions)) :
    z.toZone.HasCloseMidnights := by
  intro d d' hnext
  have hseconds : ((Timestamp.startOf d').seconds : Int) =
      (Timestamp.startOf d).seconds + secondsPerDay := by
    have hone := d.one_le
    rw [Timestamp.seconds_startOf, Timestamp.seconds_startOf, hnext, secondsPerDay]
    omega
  show (z.offsetAtLocal (.startOf d') - z.offsetAtLocal (.startOf d)).natAbs ≤ secondsPerDay
  rw [offsetAtLocal, offsetAtLocal, hseconds]
  exact hsteps.stepOffset?_close htail (z.tail.offsetAtLocal_mem _ _) (z.tail.offsetAtLocal_mem _ _)

end ZoneRules

/-! ## The table -/

/-- All zones of the table have close midnights. -/
theorem ZoneTable.hasCloseMidnights : ZoneTable.database.HasCloseMidnights := by
  have hgentle : ∀ z ∈ ZoneTable.all, (∀ a ∈ z.tail.offsets, ∀ b ∈ z.tail.offsets,
      (b - a).natAbs ≤ secondsPerDay) ∧
      ZoneRules.GentleSteps z.tail.offsets z.first
        (ZoneRules.localSteps z.first z.transitions) := by
    decide +kernel
  intro name zone hzone
  obtain ⟨rules, hrules, rfl⟩ := Option.map_eq_some_iff.mp hzone
  obtain ⟨htail, hsteps⟩ := hgentle rules (List.mem_of_find?_eq_some hrules)
  exact ZoneRules.hasCloseMidnights_of_gentle htail hsteps

end Clickstream
