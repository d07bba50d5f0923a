import Mathlib.Data.Nat.Cast.Order.Field
import Clickstream.Number.Shortest
import Clickstream.Proofs.Number.Rounding

/-!
# Shortest digits

The shortest digits of a positive double are a number of the interval that rounds to it
(`shortestDigits_spec`).  A point of a decimal grid is taken only if it is in the interval.  The
grid of seventeen digits is finer than the interval is wide, so the search finds a point at the
latest there (`exists_searchGrids`).
-/

namespace Clickstream.Binary64

/-! ## Grids -/

variable {m : Nat} {e exponent : Int}

/-- The ends of the interval and its double, over the common denominator. -/
theorem exists_interval (hm : 0 < m) (e : Int) :
    ∃ low value high den : Nat, interval m e = (low, value, high, den) ∧ 0 < den ∧
      (low : ℚ) = lowerEnd m e * den ∧ (value : ℚ) = m * 2 ^ e * den ∧
      (high : ℚ) = upperEnd m e * den := by
  refine ⟨_, _, _, _, rfl, ?_, ?_⟩
  · split_ifs
    · exact Nat.one_pos
    · exact Nat.pow_pos two_pos
  -- The members are given in quarters of `2^e`.
  · have hquarters : ∀ k : Nat,
        ((if 2 ≤ e then k * Nat.pow 2 (e - 2).toNat else k : Nat) : ℚ) =
          k / 4 * 2 ^ e * ((if 2 ≤ e then 1 else Nat.pow 2 (2 - e).toNat : Nat) : ℚ) := by
      intro k
      split_ifs with he
      · rw [Nat.cast_mul, cast_pow_toNat 2 (by omega)]
        push_cast
        rw [zpow_sub₀ two_ne_zero]
        ring
      · rw [cast_pow_toNat 2 (by omega)]
        push_cast
        rw [zpow_sub₀ two_ne_zero]
        field_simp
        norm_num
    have hbelow : (((if m = Nat.pow 2 52 && e != -1074 then 1 else 2 : Nat)) : ℚ) =
        4 * gapBelow m e := by
      unfold gapBelow
      by_cases hpower : m = 2 ^ 52 ∧ e ≠ -1074
      · simp [hpower]
      · rw [if_neg hpower, if_neg (by simpa using hpower)]
        norm_num
    have hle : (if m = Nat.pow 2 52 && e != -1074 then 1 else 2) ≤ 4 * m := by
      split_ifs <;> omega
    refine ⟨?_, ?_, ?_⟩
    · rw [hquarters, Nat.cast_sub hle, hbelow, lowerEnd]
      push_cast
      ring
    · rw [hquarters]
      push_cast
      ring
    · rw [hquarters, upperEnd]
      push_cast
      ring

/-- A point of a grid is in the interval. -/
def gridInside (m : Nat) (e exponent : Int) (n : Nat) : Bool :=
  let (low, _, high, den) := interval m e
  let up : Nat := if 0 ≤ exponent then 1 else Nat.pow 10 (-exponent).toNat
  let step : Nat := if 0 ≤ exponent then den * Nat.pow 10 exponent.toNat else den
  if m % 2 = 0 then low * up ≤ n * step && n * step ≤ high * up
  else low * up < n * step && n * step < high * up

/-- The last point of a grid that is not above the double. -/
def gridBelow (m : Nat) (e exponent : Int) : Nat :=
  let (_, value, _, den) := interval m e
  let up : Nat := if 0 ≤ exponent then 1 else Nat.pow 10 (-exponent).toNat
  let step : Nat := if 0 ≤ exponent then den * Nat.pow 10 exponent.toNat else den
  value * up / step

/-- One of the two points next to the double is taken, if it is in the interval. -/
theorem gridPoint?_eq (m : Nat) (e exponent : Int) : ∃ preferUp : Bool,
    gridPoint? m e exponent =
      let n := gridBelow m e exponent
      if gridInside m e exponent n && !(preferUp && gridInside m e exponent (n + 1)) then
        some ⟨n, exponent⟩
      else if gridInside m e exponent (n + 1) then some ⟨n + 1, exponent⟩
      else none :=
  ⟨_, rfl⟩

/-- A grid and the interval over a common denominator `c`. -/
structure Scales (m : Nat) (e exponent : Int) (low value high step : Nat) (c : ℚ) : Prop where
  pos : 0 < c
  low_eq : (low : ℚ) = lowerEnd m e * c
  value_eq : (value : ℚ) = m * 2 ^ e * c
  high_eq : (high : ℚ) = upperEnd m e * c
  point_eq : ∀ n : Nat, ((n * step : Nat) : ℚ) = n * 10 ^ exponent * c
  inside_eq : ∀ n : Nat, gridInside m e exponent n =
    if m % 2 = 0 then decide (low ≤ n * step) && decide (n * step ≤ high)
    else decide (low < n * step) && decide (n * step < high)
  below_eq : gridBelow m e exponent = value / step

theorem exists_scales (hm : 0 < m) (e exponent : Int) :
    ∃ low value high step c, Scales m e exponent low value high step c := by
  obtain ⟨low, value, high, den, hinterval, hden, hlow, hvalue, hhigh⟩ := exists_interval hm e
  have hdenq : (0 : ℚ) < den := by exact_mod_cast hden
  obtain ⟨up, hup⟩ : ∃ up : Nat, up = if 0 ≤ exponent then 1 else Nat.pow 10 (-exponent).toNat :=
    ⟨_, rfl⟩
  obtain ⟨step, hstep⟩ : ∃ step : Nat, step =
    if 0 ≤ exponent then den * Nat.pow 10 exponent.toNat else den := ⟨_, rfl⟩
  have hinside : ∀ n, gridInside m e exponent n =
      if m % 2 = 0 then decide (low * up ≤ n * step) && decide (n * step ≤ high * up)
      else decide (low * up < n * step) && decide (n * step < high * up) := by
    intro n
    rw [gridInside, hinterval, hup, hstep]
  have hbelow : gridBelow m e exponent = value * up / step := by
    rw [gridBelow, hinterval, hup, hstep]
  have hpos : 0 < up := by
    rw [hup]
    split_ifs
    · exact Nat.one_pos
    · exact Nat.pow_pos (by decide)
  have hcast : (step : ℚ) = den * 10 ^ exponent * up := by
    rw [hstep, hup]
    split_ifs with h
    · rw [Nat.cast_mul, cast_pow_toNat 10 h]
      simp
    · rw [cast_pow_toNat 10 (by omega), zpow_neg]
      push_cast
      field_simp
  refine ⟨low * up, value * up, high * up, step, den * up, ?_, ?_, ?_, ?_, ?_, hinside, hbelow⟩
  · positivity
  · rw [Nat.cast_mul, hlow, mul_assoc]
  · rw [Nat.cast_mul, hvalue, mul_assoc]
  · rw [Nat.cast_mul, hhigh, mul_assoc]
  · intro n
    rw [Nat.cast_mul, hcast]
    ring

/-- Numbers over a common denominator are compared by their numerators. -/
theorem compare_over {a b : Nat} {x y c : ℚ} (hc : 0 < c) (ha : (a : ℚ) = x * c)
    (hb : (b : ℚ) = y * c) : (a ≤ b ↔ x ≤ y) ∧ (a < b ↔ x < y) := by
  constructor
  · rw [← Nat.cast_le (α := ℚ), ha, hb, mul_le_mul_iff_left₀ hc]
  · rw [← Nat.cast_lt (α := ℚ), ha, hb, mul_lt_mul_iff_left₀ hc]

theorem gridInside_iff (hm : 0 < m) {n : Nat} :
    gridInside m e exponent n = true ↔ InInterval m e (n * (10 : ℚ) ^ exponent) := by
  obtain ⟨low, value, high, step, c, h⟩ := exists_scales hm e exponent
  have hlow := compare_over h.pos h.low_eq (h.point_eq n)
  have hhigh := compare_over h.pos (h.point_eq n) h.high_eq
  rw [h.inside_eq, InInterval]
  split_ifs
  · simp [hlow.1, hhigh.1]
  · simp [hlow.2, hhigh.2]

/-- The double lies between two neighbouring points. -/
theorem gridBelow_bounds (hm : 0 < m) (e exponent : Int) :
    (gridBelow m e exponent : ℚ) * 10 ^ exponent ≤ m * 2 ^ e ∧
      (m : ℚ) * 2 ^ e < ((gridBelow m e exponent + 1 : Nat) : ℚ) * 10 ^ exponent := by
  obtain ⟨low, value, high, step, c, h⟩ := exists_scales hm e exponent
  have hstep : 0 < step := by
    have hone := h.point_eq 1
    have hten : (0 : ℚ) < 10 ^ exponent := zpow_pos (by norm_num) exponent
    have hpos : (0 : ℚ) < (1 : Nat) * 10 ^ exponent * c := by have := h.pos; positivity
    rw [← hone, Nat.one_mul] at hpos
    exact_mod_cast hpos
  rw [h.below_eq]
  exact ⟨(compare_over h.pos (h.point_eq _) h.value_eq).1.mp (Nat.div_mul_le_self _ _),
    (compare_over h.pos h.value_eq (h.point_eq _)).2.mp
      (Nat.lt_mul_of_div_lt (Nat.lt_succ_self _) hstep)⟩

theorem inInterval_of_gridPoint? (hm : 0 < m) {d : Digits}
    (h : gridPoint? m e exponent = some d) : InInterval m e (d.digits * (10 : ℚ) ^ d.exponent) := by
  obtain ⟨preferUp, heq⟩ := gridPoint?_eq m e exponent
  rw [heq] at h
  dsimp only at h
  split_ifs at h with hbelow habove
  · cases h
    exact (gridInside_iff hm).mp (Bool.and_eq_true_iff.mp hbelow).1
  · cases h
    exact (gridInside_iff hm).mp habove

/-- If the interval is wider than a step of the grid, one of the two points is in it. -/
theorem exists_gridPoint? (hm : 0 < m)
    (hwidth : (10 : ℚ) ^ exponent < upperEnd m e - lowerEnd m e) :
    ∃ d, gridPoint? m e exponent = some d := by
  obtain ⟨preferUp, heq⟩ := gridPoint?_eq m e exponent
  obtain ⟨hbelow, habove⟩ := gridBelow_bounds hm e exponent
  rw [heq]
  dsimp only
  generalize gridBelow m e exponent = n at *
  have hnext : ((n + 1 : Nat) : ℚ) * 10 ^ exponent = n * 10 ^ exponent + 10 ^ exponent := by
    push_cast
    ring
  have hu := two_zpow_pos e
  have hlower : lowerEnd m e < m * 2 ^ e := by
    have := gapBelow_pos m e
    exact mul_lt_mul_of_pos_right (by linarith) hu
  have hupper : (m : ℚ) * 2 ^ e < upperEnd m e :=
    mul_lt_mul_of_pos_right (by linarith) hu
  have hinside : gridInside m e exponent n = true ∨ gridInside m e exponent (n + 1) = true := by
    rw [gridInside_iff hm, gridInside_iff hm, InInterval, InInterval]
    by_cases hpoint : lowerEnd m e < n * 10 ^ exponent
    · left
      split_ifs
      · exact ⟨hpoint.le, by linarith⟩
      · exact ⟨hpoint, by linarith⟩
    · right
      split_ifs
      · exact ⟨by linarith, by linarith⟩
      · exact ⟨by linarith, by linarith⟩
  split_ifs with htaken hnextTaken
  · exact ⟨_, rfl⟩
  · exact ⟨_, rfl⟩
  · rcases hinside with h | h
    · simp [h, hnextTaken] at htaken
    · exact absurd h hnextTaken

/-! ## Leading digits -/

theorem lt_natCast_div {num den : Nat} (hden : 0 < den) :
    (num : ℚ) / den < (num / den : Nat) + 1 := by
  have hdenq : (0 : ℚ) < den := by exact_mod_cast hden
  rw [div_lt_iff₀ hdenq]
  exact_mod_cast Nat.lt_mul_of_div_lt (Nat.lt_succ_self (num / den)) hden

theorem leadingExponent_bounds {num den : Nat} (hnum : 0 < num) (hden : 0 < den) :
    (10 : ℚ) ^ leadingExponent num den ≤ (num : ℚ) / den ∧
      (num : ℚ) / den < 10 ^ (leadingExponent num den + 1) := by
  have hnumq : (0 : ℚ) < num := by exact_mod_cast hnum
  have hdenq : (0 : ℚ) < den := by exact_mod_cast hden
  unfold leadingExponent
  split_ifs with hle
  · -- The whole part of the ratio has as many digits.
    have hpos : 0 < num / den := Nat.div_pos hle hden
    obtain ⟨hlow, hhigh⟩ := magnitude_bounds hpos
    refine ⟨hlow.trans Nat.cast_div_le, (lt_natCast_div hden).trans_le ?_⟩
    rw [sub_add_cancel]
    exact_mod_cast hhigh
  · -- The whole part of the inverse has as many digits, or one more if it is a power of ten.
    have hpos : 0 < den / num := Nat.div_pos (Nat.le_of_not_le hle) hnum
    obtain ⟨hlow, hhigh⟩ := length_toDigits_bounds hpos
    rw [Nat.le_div_iff_mul_le hnum] at hlow
    rw [Nat.div_lt_iff_lt_mul hnum] at hhigh
    obtain ⟨k, hk⟩ : ∃ k, (Nat.toDigits 10 (den / num)).length = k + 1 :=
      Nat.exists_eq_succ_of_ne_zero Nat.length_toDigits_pos.ne'
    simp only [hk, Nat.add_sub_cancel] at hlow hhigh ⊢
    have hlow : (10 : ℚ) ^ k * num ≤ den := by exact_mod_cast hlow
    have hhigh : (den : ℚ) < 10 ^ k * 10 * num := by exact_mod_cast hhigh
    have hten : (0 : ℚ) < 10 ^ k := by positivity
    have hpow : (10 : ℚ) ^ (1 - ((k + 1 : Nat) : Int)) = 1 / 10 ^ k := by
      rw [one_div, ← zpow_natCast, ← zpow_neg]
      congr 1
      push_cast
      ring
    have hpow' : (10 : ℚ) ^ (-((k + 1 : Nat) : Int)) = 1 / (10 ^ k * 10) := by
      rw [one_div, zpow_neg, zpow_natCast, pow_succ]
    split_ifs with hexact
    · have hexact : (den : ℚ) ≤ num * 10 ^ k := by exact_mod_cast hexact
      rw [zpow_add_one₀ (by norm_num), hpow, div_mul_eq_mul_div, div_le_div_iff₀ hten hdenq,
        div_lt_div_iff₀ hdenq hten]
      constructor
      · linarith
      · linarith
    · have hexact : (num : ℚ) * 10 ^ k < den := by exact_mod_cast Nat.lt_of_not_le hexact
      have hnext : (10 : ℚ) ^ (-((k + 1 : Nat) : Int) + 1) = 1 / 10 ^ k := by
        rw [← hpow, neg_add_eq_sub]
      rw [hnext, hpow', div_le_div_iff₀ (by positivity) hdenq, div_lt_div_iff₀ hdenq hten]
      constructor
      · linarith
      · linarith

/-! ## The search -/

/-- The interval is wider than a step of the grid of seventeen digits. -/
theorem seventeen_lt_width (hm : IsStandard m e) {lead : Int}
    (hlead : (10 : ℚ) ^ lead ≤ m * 2 ^ e) :
    (10 : ℚ) ^ (lead - 17 + 1) < upperEnd m e - lowerEnd m e := by
  have hu := two_zpow_pos e
  have hm53 : (m : ℚ) + 1 ≤ 2 ^ 53 := by exact_mod_cast hm.lt
  have hstep : (10 : ℚ) ^ (lead - 17 + 1) * 10 ^ 16 ≤ m * 2 ^ e := by
    refine le_of_eq_of_le ?_ hlead
    rw [← zpow_natCast, ← zpow_add₀ (by norm_num)]
    congr 1
    push_cast
    ring
  have hwidth : upperEnd m e - lowerEnd m e = (1 / 2 + gapBelow m e) * 2 ^ e := by
    rw [upperEnd, lowerEnd]
    ring
  rw [hwidth]
  generalize (10 : ℚ) ^ (lead - 17 + 1) = step at *
  generalize (2 : ℚ) ^ e = u at *
  unfold gapBelow
  split_ifs with hpower
  · rw [hpower.1] at hstep
    norm_num at hstep ⊢
    linarith
  · norm_num at hm53 hstep ⊢
    nlinarith

theorem exists_searchGrids (m : Nat) (e lead : Int)
    (hlast : ∃ d, gridPoint? m e (lead - 17 + 1) = some d) {fuel k : Nat} (hfuel : k + fuel = 17) :
    ∃ exponent, gridPoint? m e exponent = some (searchGrids m e lead (fuel + 1) k) := by
  induction fuel generalizing k with
  | zero =>
    obtain rfl : k = 17 := hfuel
    obtain ⟨d, hd⟩ := hlast
    have hcast : lead - ((17 : Nat) : Int) + 1 = lead - 17 + 1 := rfl
    exact ⟨_, by rw [searchGrids, hcast, hd]⟩
  | succ fuel ih =>
    rw [searchGrids]
    cases hpoint : gridPoint? m e (lead - k + 1) with
    | some d => exact ⟨_, hpoint⟩
    | none => exact ih (by omega)

/-- The shortest digits of a positive double are a number that rounds to it. -/
theorem shortestDigits_spec (hm : IsStandard m e) (hpos : 0 < m) :
    InInterval m e ((shortestDigits m e).digits * (10 : ℚ) ^ (shortestDigits m e).exponent) := by
  obtain ⟨low, value, high, den, hinterval, hden, -, hvalue, -⟩ := exists_interval hpos e
  have hdenq : (0 : ℚ) < den := by exact_mod_cast hden
  have hvalueq : (0 : ℚ) < value := by
    have := two_zpow_pos e
    rw [hvalue]
    positivity
  have hratio : (value : ℚ) / den = m * 2 ^ e := by
    rw [hvalue, mul_div_cancel_right₀ _ hdenq.ne']
  obtain ⟨hlead, -⟩ := leadingExponent_bounds (by exact_mod_cast hvalueq) hden
  rw [hratio] at hlead
  have hlast := exists_gridPoint? hpos (seventeen_lt_width hm hlead)
  obtain ⟨exponent, hpoint⟩ := exists_searchGrids m e _ hlast (show 1 + 16 = 17 from rfl)
  have hdigits : shortestDigits m e = searchGrids m e (leadingExponent value den) 17 1 := by
    rw [shortestDigits, hinterval]
  rw [hdigits]
  exact inInterval_of_gridPoint? hpos hpoint

end Clickstream.Binary64
