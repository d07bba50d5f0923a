import Mathlib.Algebra.Order.Field.Power
import Mathlib.Data.Int.Log
import Mathlib.Data.Rat.Floor
import Mathlib.Tactic.FieldSimp
import Mathlib.Tactic.Linarith
import Mathlib.Tactic.NormNum
import Mathlib.Tactic.Positivity
import Mathlib.Tactic.Ring
import Clickstream.Number.Binary64
import Clickstream.Proofs.Number.Digits

/-!
# Rounding to doubles

A positive double `m · 2^e` is the nearest one for the numbers of an interval around it, whose ends
lie half-way to its neighbours and belong to it if the significand is even (`InInterval`).  The
double of a ratio in this interval is `m · 2^e` (`ofRatio_of_inInterval`): the exponent is that of
the ratio, or one less if the ratio lies below a power of two and is rounded up to it.  The double
of a decimal is that of its value, as no number of the interval is out of range
(`ofDecimal_of_inInterval`).  All this is said of doubles in standard form, as are those of the
interchange format (`wellFormed_ofBits`) and rounded ratios (`wellFormed_ofRatio`).
-/

namespace Clickstream

/-! ## Whole numbers -/

/-- A whole number is the nearest one to a number, and even if another one is as near. -/
def IsNearest (n : Nat) (x : ℚ) : Prop :=
  |x - n| < 1 / 2 ∨ |x - n| = 1 / 2 ∧ n % 2 = 0

theorem roundRatio_of_isNearest {num den n : Nat} (hden : 0 < den)
    (h : IsNearest n ((num : ℚ) / den)) : roundRatio num den = n := by
  have hdenq : (0 : ℚ) < den := by exact_mod_cast hden
  have hscaled : 2 * |(num : ℤ) - n * den| < den ∨
      2 * |(num : ℤ) - n * den| = den ∧ n % 2 = 0 := by
    have hdistance : |(num : ℚ) / den - n| = (|(num : ℤ) - n * den| : ℤ) / den := by
      rw [div_sub' hdenq.ne', abs_div, abs_of_pos hdenq]
      push_cast
      ring_nf
    rw [IsNearest, hdistance, div_lt_div_iff₀ hdenq two_pos, div_eq_div_iff hdenq.ne' two_ne_zero]
      at h
    refine h.imp (fun h => ?_) (And.imp_left fun h => ?_)
    · have : |(num : ℤ) - n * den| * 2 < 1 * den := by exact_mod_cast h
      omega
    · have : |(num : ℤ) - n * den| * 2 = 1 * den := by exact_mod_cast h
      omega
  have habs := abs_cases ((num : ℤ) - n * den)
  have hdiv := Nat.div_add_mod num den
  have hmod := Nat.mod_lt num hden
  unfold roundRatio
  generalize num / den = q at hdiv
  generalize num % den = r at hdiv hmod
  have hsplit : (num : ℤ) - n * den = (q - n) * den + r := by
    rw [← hdiv]
    push_cast
    ring
  rw [hsplit] at hscaled habs
  -- The distance to the quotient is below one, so the nearest number is the quotient or the next.
  obtain rfl | rfl : n = q ∨ n = q + 1 := by
    by_contra hne
    rcases (show n + 1 ≤ q ∨ q + 2 ≤ n by omega) with hlt | hgt
    · have : (den : ℤ) ≤ (q - n) * den := by nlinarith
      omega
    · have : ((q : ℤ) - n) * den ≤ -2 * den := by nlinarith
      omega
  · simp only [sub_self, zero_mul, zero_add] at hscaled habs
    have : ¬ (den < 2 * r ∨ 2 * r = den ∧ n % 2 = 1) := by omega
    simp [this]
  · have hnext : ((q : ℤ) - ((q + 1 : ℕ) : ℤ)) * den = -den := by push_cast; ring
    rw [hnext] at hscaled habs
    have : den < 2 * r ∨ 2 * r = den ∧ q % 2 = 1 := by omega
    simp [this]

namespace Binary64

/-! ## Intervals -/

/-- The significand and the exponent of a finite double in its standard form. -/
structure IsStandard (m : Nat) (e : Int) : Prop where
  lt : m < 2 ^ 53
  least : -1074 ≤ e
  greatest : e ≤ 971
  normal : 2 ^ 52 ≤ m ∨ e = -1074

/-- A double in its standard form. -/
def WellFormed : Binary64 → Prop
  | .finite _ m e => IsStandard m e
  | _ => True

/-- The doubles of the interchange format are in standard form. -/
theorem wellFormed_ofBits (bits : Nat) : (ofBits bits).WellFormed := by
  have hfield : bits / 2 ^ 52 % 2 ^ 11 < 2 ^ 11 := Nat.mod_lt _ (by decide)
  have hfraction : bits % 2 ^ 52 < 2 ^ 52 := Nat.mod_lt _ (by decide)
  rw [ofBits]
  dsimp only [Nat.pow_eq]
  split
  · split <;> trivial
  · split
    · exact ⟨by omega, by decide, by decide, .inr rfl⟩
    · exact ⟨by omega, by omega, by omega, .inl (by omega)⟩

/-- Half of the way from `m · 2^e` to the double below, in units of `2^e`. -/
def gapBelow (m : Nat) (e : Int) : ℚ :=
  if m = 2 ^ 52 ∧ e ≠ -1074 then 1 / 4 else 1 / 2

/-- The least number that may round to `m · 2^e`. -/
def lowerEnd (m : Nat) (e : Int) : ℚ :=
  (m - gapBelow m e) * 2 ^ e

/-- The greatest number that may round to `m · 2^e`. -/
def upperEnd (m : Nat) (e : Int) : ℚ :=
  (m + 1 / 2) * 2 ^ e

/-- The numbers that round to `m · 2^e`. -/
def InInterval (m : Nat) (e : Int) (x : ℚ) : Prop :=
  if m % 2 = 0 then lowerEnd m e ≤ x ∧ x ≤ upperEnd m e
  else lowerEnd m e < x ∧ x < upperEnd m e

theorem two_zpow_pos (e : Int) : (0 : ℚ) < 2 ^ e :=
  zpow_pos two_pos e

theorem gapBelow_le (m : Nat) (e : Int) : gapBelow m e ≤ 1 / 2 := by
  unfold gapBelow
  split_ifs <;> norm_num

theorem gapBelow_pos (m : Nat) (e : Int) : 0 < gapBelow m e := by
  unfold gapBelow
  split_ifs <;> norm_num

namespace InInterval

variable {m : Nat} {e : Int} {x : ℚ}

theorem lower_le (h : InInterval m e x) : lowerEnd m e ≤ x := by
  unfold InInterval at h
  split_ifs at h
  · exact h.1
  · exact h.1.le

theorem le_upper (h : InInterval m e x) : x ≤ upperEnd m e := by
  unfold InInterval at h
  split_ifs at h
  · exact h.2
  · exact h.2.le

theorem pos (h : InInterval m e x) (hm : 0 < m) : 0 < x := by
  have hone : (1 : ℚ) ≤ m := by exact_mod_cast hm
  have hgap := gapBelow_le m e
  have hlower : 0 < lowerEnd m e := mul_pos (by linarith) (two_zpow_pos e)
  exact hlower.trans_le h.lower_le

theorem coefficient_pos {n : Nat} {y : ℚ} (h : InInterval m e (n * y)) (hm : 0 < m) : 0 < n := by
  refine Nat.pos_of_ne_zero fun hzero => (h.pos hm).ne' ?_
  rw [hzero, Nat.cast_zero, zero_mul]

/-- In units of `2^e`, the distance to the significand is at most a half. -/
theorem isNearest (h : InInterval m e x) : IsNearest m (x / 2 ^ e) := by
  have hu := two_zpow_pos e
  have hgap := gapBelow_le m e
  have hlower := (le_div_iff₀ hu).mpr h.lower_le
  have hupper := (div_le_iff₀ hu).mpr h.le_upper
  unfold InInterval at h
  split_ifs at h with heven
  · rcases (abs_le.mpr ⟨by linarith, by linarith⟩ : |x / 2 ^ e - m| ≤ 1 / 2).lt_or_eq with hlt | heq
    · exact .inl hlt
    · exact .inr ⟨heq, heven⟩
  · have hlower := (lt_div_iff₀ hu).mpr h.1
    have hupper := (div_lt_iff₀ hu).mpr h.2
    exact .inl (abs_lt.mpr ⟨by linarith, by linarith⟩)

end InInterval

/-! ## Ratios -/

/-- A ratio in units of `2^e`. -/
def scaledRatio (num den : Nat) (e : Int) : Nat × Nat :=
  if 0 ≤ e then (num, den * Nat.pow 2 e.toNat) else (num * Nat.pow 2 (-e).toNat, den)

/-- The exponent of a ratio, before it is rounded. -/
def ratioExponent (num den : Nat) : Int :=
  let guess : Int := (num.log2 : Int) - den.log2 - 52
  let short := (scaledRatio num den guess).1 / (scaledRatio num den guess).2 < Nat.pow 2 52
  max (if short then guess - 1 else guess) (-1074)

theorem ofRatio_eq (negative : Bool) {num : Nat} (hnum : num ≠ 0) (den : Nat) :
    ofRatio negative num den =
      let e := ratioExponent num den
      let q := roundRatio (scaledRatio num den e).1 (scaledRatio num den e).2
      let (q, e) := if q = Nat.pow 2 53 then (Nat.pow 2 52, e + 1) else (q, e)
      if 971 < e then .infinite negative else .finite negative q e := by
  rw [ofRatio, if_neg hnum]
  rfl

theorem cast_pow_toNat (base : Nat) {e : Int} (h : 0 ≤ e) :
    ((Nat.pow base e.toNat : Nat) : ℚ) = (base : ℚ) ^ e := by
  show ((base ^ e.toNat : Nat) : ℚ) = _
  rw [Nat.cast_pow, ← zpow_natCast, Int.toNat_of_nonneg h]

variable {num den : Nat}

theorem scaledRatio_pos (num : Nat) (hden : 0 < den) (e : Int) : 0 < (scaledRatio num den e).2 := by
  unfold scaledRatio
  split_ifs
  · exact Nat.mul_pos hden (Nat.two_pow_pos _)
  · exact hden

theorem scaledRatio_eq (num den : Nat) (e : Int) :
    ((scaledRatio num den e).1 : ℚ) / (scaledRatio num den e).2 = (num : ℚ) / den / 2 ^ e := by
  unfold scaledRatio
  split_ifs with he
  · rw [Nat.cast_mul, cast_pow_toNat 2 he, div_div]
    rfl
  · rw [Nat.cast_mul, cast_pow_toNat 2 (by omega), zpow_neg]
    push_cast
    ring

theorem div_lt_iff_ratio {n : Nat} (hden : 0 < den) :
    num / den < n ↔ (num : ℚ) / den < n := by
  have hdenq : (0 : ℚ) < den := by exact_mod_cast hden
  rw [Nat.div_lt_iff_lt_mul hden, div_lt_iff₀ hdenq]
  exact_mod_cast Iff.rfl

theorem le_log_iff {x : ℚ} (hx : 0 < x) {n : Int} : (2 : ℚ) ^ n ≤ x ↔ n ≤ Int.log 2 x := by
  exact_mod_cast Int.zpow_le_iff_le_log Nat.one_lt_two hx

theorem log_lt_iff {x : ℚ} (hx : 0 < x) {n : Int} : x < (2 : ℚ) ^ n ↔ Int.log 2 x < n := by
  exact_mod_cast Int.lt_zpow_iff_log_lt Nat.one_lt_two hx

theorem log2_bounds {n : Nat} (hn : 0 < n) :
    (2 : ℚ) ^ (n.log2 : Int) ≤ n ∧ (n : ℚ) < 2 ^ ((n.log2 : Int) + 1) := by
  constructor
  · exact_mod_cast Nat.log2_self_le hn.ne'
  · exact_mod_cast Nat.lt_log2_self

theorem cast_pow_fiftyTwo : ((Nat.pow 2 52 : Nat) : ℚ) = 2 ^ (52 : Int) := by
  norm_num

/-- The leading bits of numerator and denominator give the exponent of the ratio up to one, and
whether the scaled ratio has 53 bits decides it. -/
theorem ratioExponent_eq (hnum : 0 < num) (hden : 0 < den) :
    ratioExponent num den = max (Int.log 2 ((num : ℚ) / den) - 52) (-1074) := by
  have hx : (0 : ℚ) < (num : ℚ) / den := by positivity
  have hdenq : (0 : ℚ) < den := by exact_mod_cast hden
  obtain ⟨hnumLow, hnumHigh⟩ := log2_bounds hnum
  obtain ⟨hdenLow, hdenHigh⟩ := log2_bounds hden
  have hlow : (num.log2 : Int) - den.log2 - 1 ≤ Int.log 2 ((num : ℚ) / den) := by
    rw [← le_log_iff hx, le_div_iff₀ hdenq]
    calc (2 : ℚ) ^ ((num.log2 : Int) - den.log2 - 1) * den
        ≤ 2 ^ ((num.log2 : Int) - den.log2 - 1) * 2 ^ ((den.log2 : Int) + 1) := by gcongr
      _ = 2 ^ (num.log2 : Int) := by rw [← zpow_add₀ two_ne_zero]; congr 1; ring
      _ ≤ num := hnumLow
  have hhigh : Int.log 2 ((num : ℚ) / den) < (num.log2 : Int) - den.log2 + 1 := by
    rw [← log_lt_iff hx, div_lt_iff₀ hdenq]
    calc (num : ℚ) < 2 ^ ((num.log2 : Int) + 1) := hnumHigh
      _ = 2 ^ ((num.log2 : Int) - den.log2 + 1) * 2 ^ (den.log2 : Int) := by
        rw [← zpow_add₀ two_ne_zero]; congr 1; ring
      _ ≤ 2 ^ ((num.log2 : Int) - den.log2 + 1) * den := by gcongr
  have hshort : ∀ guess : Int, (scaledRatio num den guess).1 / (scaledRatio num den guess).2 <
      Nat.pow 2 52 ↔ Int.log 2 ((num : ℚ) / den) < guess + 52 := by
    intro guess
    rw [div_lt_iff_ratio (scaledRatio_pos num hden guess), scaledRatio_eq,
      div_lt_iff₀ (two_zpow_pos guess), ← log_lt_iff hx, cast_pow_fiftyTwo, ← zpow_add₀ two_ne_zero,
      add_comm]
  unfold ratioExponent
  simp only [hshort]
  split_ifs <;> omega

/-- A ratio is scaled to the significand and the exponent, or to the next power of two with the
exponent below. -/
theorem ofRatio_of_isNearest {m : Nat} {e : Int} (hm : IsStandard m e) (hnum : 0 < num)
    (hden : 0 < den) (negative : Bool)
    (h : ratioExponent num den = e ∧ IsNearest m ((num : ℚ) / den / 2 ^ e) ∨
      m = 2 ^ 52 ∧ ratioExponent num den = e - 1 ∧
        IsNearest (2 ^ 53) ((num : ℚ) / den / 2 ^ (e - 1))) :
    ofRatio negative num den = .finite negative m e := by
  have hrange : ¬ 971 < e := by
    have := hm.greatest
    omega
  rw [ofRatio_eq negative hnum.ne']
  dsimp only
  rcases h with ⟨hexponent, hnearest⟩ | ⟨rfl, hexponent, hnearest⟩
  · have hround := roundRatio_of_isNearest (scaledRatio_pos num hden e)
      ((scaledRatio_eq num den e).symm ▸ hnearest)
    have hne : m ≠ Nat.pow 2 53 := hm.lt.ne
    rw [hexponent, hround, if_neg hne]
    exact if_neg hrange
  · have hround : roundRatio _ _ = Nat.pow 2 53 :=
      roundRatio_of_isNearest (scaledRatio_pos num hden (e - 1))
        ((scaledRatio_eq num den (e - 1)).symm ▸ hnearest)
    rw [hexponent, hround, if_pos rfl]
    dsimp only
    rw [sub_add_cancel, if_neg hrange]
    rfl

/-- Below a power of two, the exponent is one less, and the power of two is the nearest number. -/
theorem below_two_pow {m : Nat} {e : Int} {x : ℚ} (hm : IsStandard m e) (he : e ≠ -1074)
    (h : InInterval m e x) (hbelow : x < 2 ^ (52 + e)) :
    m = 2 ^ 52 ∧ Int.log 2 x = 51 + e ∧ IsNearest (2 ^ 53) (x / 2 ^ (e - 1)) := by
  have hu := two_zpow_pos e
  have hlower := h.lower_le
  have hnormal : (2 : ℚ) ^ 52 ≤ m := by exact_mod_cast hm.normal.resolve_right he
  have hx := h.pos (by exact_mod_cast (show (0 : ℚ) < m by linarith))
  have hy : x / 2 ^ e < 2 ^ 52 := by
    rw [div_lt_iff₀ hu]
    rwa [zpow_add₀ two_ne_zero] at hbelow
  rw [lowerEnd, ← le_div_iff₀ hu] at hlower
  have hm52 : m = 2 ^ 52 := by
    by_contra hne
    have : (2 : ℚ) ^ 52 + 1 ≤ m := by
      exact_mod_cast (hm.normal.resolve_right he).lt_of_ne (Ne.symm hne)
    have := gapBelow_le m e
    linarith
  have hgap : gapBelow m e = 1 / 4 := if_pos ⟨hm52, he⟩
  rw [hgap, hm52] at hlower
  push_cast at hlower
  refine ⟨hm52, ?_, ?_⟩
  · have hhigh := (log_lt_iff hx).mp hbelow
    have hlow : 51 + e ≤ Int.log 2 x := by
      rw [← le_log_iff hx, zpow_add₀ two_ne_zero, ← le_div_iff₀ hu]
      norm_num at hlower ⊢
      linarith
    omega
  · have hdouble : x / 2 ^ (e - 1) = 2 * (x / 2 ^ e) := by
      rw [zpow_sub_one₀ two_ne_zero]
      field_simp
    rw [hdouble]
    push_cast
    norm_num at hlower hy
    rcases (abs_le.mpr ⟨by norm_num; linarith, by norm_num; linarith⟩ :
      |2 * (x / 2 ^ e) - 2 ^ 53| ≤ 1 / 2).lt_or_eq with hlt | heq
    · exact .inl (by exact_mod_cast hlt)
    · exact .inr ⟨by exact_mod_cast heq, by decide⟩

/-- The double of a ratio in the interval of `m · 2^e` is `m · 2^e`. -/
theorem ofRatio_of_inInterval {m : Nat} {e : Int} (hm : IsStandard m e) (hpos : 0 < m)
    (hden : 0 < den) (h : InInterval m e ((num : ℚ) / den)) (negative : Bool) :
    ofRatio negative num den = .finite negative m e := by
  have hx := h.pos hpos
  have hnum : 0 < num := (div_eq_mul_inv (num : ℚ) den ▸ h).coefficient_pos hpos
  refine ofRatio_of_isNearest hm hnum hden negative ?_
  rw [ratioExponent_eq hnum hden]
  generalize (num : ℚ) / den = x at h hx
  have hm53 : (m : ℚ) + 1 ≤ 2 ^ 53 := by exact_mod_cast hm.lt
  have hleast := hm.least
  have hlog : Int.log 2 x < 53 + e := by
    rw [← log_lt_iff hx, zpow_add₀ two_ne_zero]
    refine h.le_upper.trans_lt (mul_lt_mul_of_pos_right ?_ (two_zpow_pos e))
    norm_num at hm53 ⊢
    linarith
  by_cases he : e = -1074
  · exact .inl ⟨by omega, h.isNearest⟩
  · by_cases hbelow : x < 2 ^ (52 + e)
    · obtain ⟨hm52, hlog, hnearest⟩ := below_two_pow hm he h hbelow
      exact .inr ⟨hm52, by omega, hnearest⟩
    · have hlow := (le_log_iff hx).mp (not_lt.mp hbelow)
      exact .inl ⟨by omega, h.isNearest⟩

theorem roundRatio_le {n : Nat} (h : num / den < n) : roundRatio num den ≤ n := by
  unfold roundRatio
  dsimp only
  split <;> omega

theorem le_roundRatio {n : Nat} (h : n ≤ num / den) : n ≤ roundRatio num den := by
  unfold roundRatio
  dsimp only
  split <;> omega

/-- In units of its exponent, a ratio has at most 53 bits before it is rounded, and all 53 of them
unless the exponent is the least one. -/
theorem scaledRatio_bounds (hnum : 0 < num) (hden : 0 < den) :
    let s := scaledRatio num den (ratioExponent num den)
    s.1 / s.2 < 2 ^ 53 ∧ (2 ^ 52 ≤ s.1 / s.2 ∨ ratioExponent num den = -1074) := by
  have hx : (0 : ℚ) < (num : ℚ) / den := by positivity
  have hexponent := ratioExponent_eq hnum hden
  generalize ratioExponent num den = e at hexponent
  have hu := two_zpow_pos e
  have hpos := scaledRatio_pos num hden e
  have hhigh : (num : ℚ) / den < 2 ^ ((53 : Int) + e) := (log_lt_iff hx).mpr (by omega)
  rw [zpow_add₀ two_ne_zero] at hhigh
  refine ⟨?_, ?_⟩
  · rw [div_lt_iff_ratio hpos, scaledRatio_eq, div_lt_iff₀ hu]
    exact_mod_cast hhigh
  · by_cases he : e = -1074
    · exact .inr he
    · have hlow : (2 : ℚ) ^ ((52 : Int) + e) ≤ (num : ℚ) / den := (le_log_iff hx).mpr (by omega)
      rw [zpow_add₀ two_ne_zero] at hlow
      refine .inl (not_lt.mp ?_)
      rw [div_lt_iff_ratio hpos, scaledRatio_eq, not_lt, le_div_iff₀ hu]
      exact_mod_cast hlow

theorem isStandard_zero : IsStandard 0 (-1074) :=
  ⟨by decide, by decide, by decide, .inr rfl⟩

/-- A rounded ratio is in standard form. -/
theorem wellFormed_ofRatio (negative : Bool) (num : Nat) (hden : 0 < den) :
    (ofRatio negative num den).WellFormed := by
  rcases Nat.eq_zero_or_pos num with rfl | hnum
  · exact isStandard_zero
  · obtain ⟨hhigh, hlow⟩ := scaledRatio_bounds hnum hden
    have hleast : -1074 ≤ ratioExponent num den := le_max_right _ _
    rw [ofRatio_eq negative hnum.ne']
    generalize ratioExponent num den = e at hhigh hlow hleast
    have hround := roundRatio_le hhigh
    have hnormal := hlow.imp_left le_roundRatio
    dsimp only
    generalize roundRatio _ _ = q at hround hnormal
    rw [Nat.pow_eq, Nat.pow_eq]
    split_ifs with hq hrange hrange
    · trivial
    · exact ⟨(by decide : 2 ^ 52 < 2 ^ 53), by omega, by omega, .inl le_rfl⟩
    · trivial
    · exact ⟨by omega, hleast, by omega, hnormal⟩

/-- A double in standard form lies in its interval. -/
theorem inInterval_self (m : Nat) (e : Int) : InInterval m e (m * 2 ^ e) := by
  have hu := two_zpow_pos e
  have hgap := gapBelow_pos m e
  have hlower : lowerEnd m e < m * 2 ^ e := mul_lt_mul_of_pos_right (by linarith) hu
  have hupper : (m : ℚ) * 2 ^ e < upperEnd m e := mul_lt_mul_of_pos_right (by linarith) hu
  unfold InInterval
  split_ifs
  · exact ⟨hlower.le, hupper.le⟩
  · exact ⟨hlower, hupper⟩

/-! ## Decimals -/

theorem ten_zpow_lt_iff {m n : Int} : (10 : ℚ) ^ m < 10 ^ n ↔ m < n :=
  zpow_lt_zpow_iff_right₀ (by norm_num)

theorem ten_zpow_lt_least : (10 : ℚ) ^ (-325 : Int) < 1 / 2 * 2 ^ (-1074 : Int) := by
  have hpow : 2 ^ 1075 < 10 ^ 325 := by decide +kernel
  have hcast : (2 : ℚ) ^ 1075 < 10 ^ 325 := by exact_mod_cast hpow
  have hhalf : (1 : ℚ) / 2 * 2 ^ (-1074 : Int) = (2 ^ 1075)⁻¹ := by
    rw [zpow_neg, one_div, ← mul_inv, ← zpow_one_add₀ two_ne_zero]
    rfl
  rw [hhalf, zpow_neg]
  exact inv_strictAnti₀ (by positivity) hcast

theorem greatest_lt_ten_zpow : (2 : ℚ) ^ 53 * 2 ^ (971 : Int) < 10 ^ (309 : Int) := by
  have hpow : 2 ^ 53 * 2 ^ 971 < 10 ^ 309 := by decide +kernel
  exact_mod_cast hpow

/-- The numbers that round to a positive double are neither very large nor very small. -/
theorem InInterval.bounds {m : Nat} {e : Int} {x : ℚ} (hm : IsStandard m e) (hpos : 0 < m)
    (h : InInterval m e x) : (10 : ℚ) ^ (-325 : Int) < x ∧ x < 10 ^ (309 : Int) := by
  have hone : (1 : ℚ) ≤ m := by exact_mod_cast hpos
  have hm53 : (m : ℚ) + 1 ≤ 2 ^ 53 := by exact_mod_cast hm.lt
  constructor
  · have hhalf : (1 : ℚ) / 2 ≤ m - gapBelow m e := by
      have := gapBelow_le m e
      linarith
    calc (10 : ℚ) ^ (-325 : Int) < 1 / 2 * 2 ^ (-1074 : Int) := ten_zpow_lt_least
      _ ≤ (m - gapBelow m e) * 2 ^ e := by
        gcongr
        · norm_num
        · exact hm.least
      _ ≤ x := h.lower_le
  · calc x ≤ (m + 1 / 2) * 2 ^ e := h.le_upper
      _ ≤ 2 ^ 53 * 2 ^ (971 : Int) := by
        gcongr
        · norm_num at hm53 ⊢
          linarith
        · norm_num
        · exact hm.greatest
      _ < 10 ^ (309 : Int) := greatest_lt_ten_zpow

/-- The double of a decimal in the interval of `m · 2^e` is `m · 2^e`, however the decimal is
split into a coefficient and a power of ten. -/
theorem ofDecimal_of_inInterval {m : Nat} {e : Int} (hm : IsStandard m e) (hpos : 0 < m)
    {coefficient : Nat} {exponent : Int}
    (h : InInterval m e (coefficient * (10 : ℚ) ^ exponent)) (negative : Bool) :
    ofDecimal negative coefficient exponent = .finite negative m e := by
  have hten : (0 : ℚ) < 10 ^ exponent := zpow_pos (by norm_num) exponent
  have hcoefficient := h.coefficient_pos hpos
  obtain ⟨hleast, hgreatest⟩ := h.bounds hm hpos
  obtain ⟨hlow, hhigh⟩ := magnitude_bounds hcoefficient
  have hsmall : ((Nat.toDigits 10 coefficient).length : Int) - 1 + exponent < 309 := by
    rw [← ten_zpow_lt_iff, zpow_add₀ (by norm_num)]
    exact (mul_le_mul_of_nonneg_right hlow hten.le).trans_lt hgreatest
  have hlarge : -325 < ((Nat.toDigits 10 coefficient).length : Int) + exponent := by
    rw [← ten_zpow_lt_iff, zpow_add₀ (by norm_num)]
    exact hleast.trans (mul_lt_mul_of_pos_right hhigh hten)
  unfold ofDecimal
  dsimp only
  rw [if_neg hcoefficient.ne', if_neg (by omega), if_neg (by omega)]
  split_ifs with hexponent
  · refine ofRatio_of_inInterval hm hpos Nat.one_pos ?_ negative
    rwa [Nat.cast_mul, cast_pow_toNat 10 hexponent, Nat.cast_one, div_one]
  · have hden : 0 < Nat.pow 10 (-exponent).toNat := Nat.pow_pos (by decide)
    refine ofRatio_of_inInterval hm hpos hden ?_ negative
    rwa [cast_pow_toNat 10 (by omega), zpow_neg, div_inv_eq_mul]

theorem wellFormed_ofDecimal (negative : Bool) (coefficient : Nat) (exponent : Int) :
    (ofDecimal negative coefficient exponent).WellFormed := by
  unfold ofDecimal
  dsimp only
  split_ifs
  · exact isStandard_zero
  · trivial
  · exact isStandard_zero
  · exact wellFormed_ofRatio _ _ Nat.one_pos
  · exact wellFormed_ofRatio _ _ (Nat.pow_pos (by decide))

end Binary64

/-! ## Whole doubles -/

/-- The integer part of a whole number is the number. -/
theorem Dyadic.truncate_eq {d : Dyadic} (h : d.isInteger = true) :
    (d.truncate : ℚ) = d.significand * 2 ^ d.exponent := by
  rw [isInteger, Bool.or_eq_true, decide_eq_true_eq, beq_iff_eq] at h
  unfold truncate
  split_ifs with hexponent
  · rw [Int.cast_mul, Int.cast_natCast, Binary64.cast_pow_toNat 2 hexponent, Nat.cast_two]
  · have hdvd := Int.dvd_of_emod_eq_zero (h.resolve_left hexponent)
    have hcast : ((Nat.pow 2 (-d.exponent).toNat : Nat) : ℚ) = 2 ^ (-d.exponent) := by
      rw [Binary64.cast_pow_toNat 2 (by omega), Nat.cast_two]
    have hden : ((Nat.pow 2 (-d.exponent).toNat : Nat) : ℚ) ≠ 0 := by
      rw [hcast]
      exact (Binary64.two_zpow_pos _).ne'
    rw [Int.tdiv_eq_ediv_of_dvd hdvd, Int.cast_div hdvd (by exact_mod_cast hden),
      Int.cast_natCast, hcast, zpow_neg, div_inv_eq_mul]

namespace Binary64

theorem wellFormed_of_ofInt? {n : Int} {x : Binary64} (h : ofInt? n = some x) :
    x.WellFormed := by
  unfold ofInt? at h
  split at h
  · cases h
  · cases h
    exact wellFormed_ofRatio _ _ Nat.one_pos

/-- The integer that a whole double stands for is a double. -/
theorem exists_ofInt?_truncate {x : Binary64} (hx : x.WellFormed) {d : Dyadic}
    (hd : x.toDyadic? = some d) (h : d.isInteger = true) : ∃ y, ofInt? d.truncate = some y := by
  cases x with
  | finite negative m e =>
    have htruncate := Dyadic.truncate_eq h
    cases hd
    dsimp only at htruncate
    generalize Dyadic.truncate _ = n at htruncate
    have habs : (n.natAbs : ℚ) = m * 2 ^ e := by
      rw [Nat.cast_natAbs, Int.cast_abs, htruncate, abs_mul, abs_of_pos (two_zpow_pos e)]
      cases negative <;> simp
    unfold ofInt?
    rcases Nat.eq_zero_or_pos m with rfl | hm
    · have hzero : n.natAbs = 0 := by simpa using habs
      rw [hzero]
      exact ⟨_, rfl⟩
    · have hinterval : InInterval m e ((n.natAbs : ℚ) / (1 : Nat)) := by
        rw [Nat.cast_one, div_one, habs]
        exact inInterval_self m e
      rw [ofRatio_of_inInterval hx hm Nat.one_pos hinterval]
      exact ⟨_, rfl⟩
  | infinite negative => cases hd
  | nan => cases hd

end Binary64

end Clickstream
