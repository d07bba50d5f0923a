import Clickstream.Proofs.Number.DecimalContext
import Clickstream.Proofs.Number.Positional

/-!
# Overflow

A double is infinite if and only if the number that is rounded to it reaches half a unit above the
greatest double (`isFinite_ofRatio_iff`).  A decimal is not always rounded: where its digits alone
show that it is too large, the double is infinite at once.  The bound is the same
(`isFinite_ofDecimal_iff`), also for the double of a numeral (`Numeral.isFinite_toBinary64`).
-/

namespace Clickstream.Binary64

/-- Half a unit of the last digit above the greatest double. -/
def overflowBound : ℚ :=
  (2 ^ 53 - 1 / 2) * 2 ^ (971 : Int)

theorem overflowBound_pos : 0 < overflowBound :=
  mul_pos (by norm_num) (two_zpow_pos _)

/-! ## Ratios -/

variable {num den : Nat}

theorem overflowBound_le_two_pow : overflowBound ≤ 2 ^ (1024 : Int) := by
  have hsplit : (2 : ℚ) ^ (1024 : Int) = 2 ^ 53 * 2 ^ (971 : Int) := by
    rw [← zpow_natCast, ← zpow_add₀ two_ne_zero]
    rfl
  rw [hsplit]
  exact mul_le_mul_of_nonneg_right (by norm_num) (two_zpow_pos _).le

theorem two_pow_le_overflowBound : (2 : ℚ) ^ (1023 : Int) ≤ overflowBound := by
  have hsplit : (2 : ℚ) ^ (1023 : Int) = 2 ^ 52 * 2 ^ (971 : Int) := by
    rw [← zpow_natCast, ← zpow_add₀ two_ne_zero]
    rfl
  rw [hsplit]
  exact mul_le_mul_of_nonneg_right (by norm_num) (two_zpow_pos _).le

/-- A ratio is rounded to a finite double unless its exponent is too large, or it is the greatest
one and the ratio is rounded up to the next power of two. -/
theorem isFinite_ofRatio (negative : Bool) (hnum : 0 < num) :
    (ofRatio negative num den).isFinite = true ↔
      let e := ratioExponent num den
      let q := roundRatio (scaledRatio num den e).1 (scaledRatio num den e).2
      e ≤ 971 ∧ ¬ (e = 971 ∧ q = 2 ^ 53) := by
  rw [ofRatio_eq negative hnum.ne']
  dsimp only
  generalize ratioExponent num den = e
  generalize roundRatio _ _ = q
  rw [Nat.pow_eq, Nat.pow_eq]
  by_cases hq : q = 2 ^ 53
  · rw [if_pos hq]
    dsimp only
    split_ifs with hlarge
    · exact iff_of_false Bool.false_ne_true fun h => h.2 ⟨by omega, hq⟩
    · exact iff_of_true rfl ⟨by omega, fun h => by omega⟩
  · rw [if_neg hq]
    dsimp only
    split_ifs with hlarge
    · exact iff_of_false Bool.false_ne_true fun h => by omega
    · exact iff_of_true rfl ⟨by omega, fun h => hq h.2⟩

/-- In units of the greatest exponent, a ratio with that exponent is rounded up to `2^53` from the
bound on. -/
theorem roundRatio_eq_iff (hden : 0 < den) (hlt : (num : ℚ) / den < 2 ^ (1024 : Int)) :
    roundRatio (scaledRatio num den 971).1 (scaledRatio num den 971).2 = 2 ^ 53 ↔
      overflowBound ≤ (num : ℚ) / den := by
  have hu := two_zpow_pos 971
  have hpos := scaledRatio_pos num hden 971
  have hnearest := isNearest_roundRatio (scaledRatio num den 971).1 hpos
  have hfits : (scaledRatio num den 971).1 / (scaledRatio num den 971).2 < 2 ^ 53 := by
    rw [div_lt_iff_ratio hpos, scaledRatio_eq, div_lt_iff₀ hu]
    refine hlt.trans_eq ?_
    rw [Nat.cast_pow, ← zpow_natCast, Nat.cast_ofNat, ← zpow_add₀ two_ne_zero]
    rfl
  have hround := roundRatio_le hfits
  rw [scaledRatio_eq] at hnearest
  rw [overflowBound, ← le_div_iff₀ hu]
  generalize roundRatio _ _ = q at hnearest hround
  generalize (num : ℚ) / den / 2 ^ (971 : Int) = y at hnearest
  constructor
  · rintro rfl
    have := (abs_le.mp hnearest.abs_sub_le).1
    push_cast at this
    linarith
  · intro hbound
    refine le_antisymm hround (hnearest.le_of_even (by norm_num) ?_)
    push_cast
    exact hbound

/-- The double of a ratio is finite if and only if the ratio is below the bound. -/
theorem isFinite_ofRatio_iff (negative : Bool) (num : Nat) (hden : 0 < den) :
    (ofRatio negative num den).isFinite = true ↔ (num : ℚ) / den < overflowBound := by
  rcases Nat.eq_zero_or_pos num with rfl | hnum
  · rw [Nat.cast_zero, zero_div]
    exact iff_of_true rfl overflowBound_pos
  · have hx : (0 : ℚ) < (num : ℚ) / den := by positivity
    have hexponent := ratioExponent_eq hnum hden
    rw [isFinite_ofRatio negative hnum]
    dsimp only
    by_cases hlarge : (2 : ℚ) ^ (1024 : Int) ≤ (num : ℚ) / den
    · have hlog := (le_log_iff hx).mp hlarge
      exact iff_of_false (fun h => by omega) (not_lt.mpr (overflowBound_le_two_pow.trans hlarge))
    · have hlog := (log_lt_iff hx).mp (not_le.mp hlarge)
      by_cases hgreatest : ratioExponent num den = 971
      · rw [hgreatest, roundRatio_eq_iff hden (not_le.mp hlarge), ← not_le]
        exact ⟨fun h hbound => h.2 ⟨rfl, hbound⟩, fun h => ⟨le_rfl, fun hround => h hround.2⟩⟩
      · have hsmall : (num : ℚ) / den < 2 ^ (1023 : Int) := (log_lt_iff hx).mpr (by omega)
        exact iff_of_true ⟨by omega, fun h => hgreatest h.1⟩
          (hsmall.trans_le two_pow_le_overflowBound)

/-! ## Decimals -/

theorem overflowBound_lt_ten_zpow : overflowBound < (10 : ℚ) ^ (309 : Int) := by
  refine lt_of_le_of_lt ?_ greatest_lt_ten_zpow
  exact mul_le_mul_of_nonneg_right (by norm_num) (two_zpow_pos _).le

theorem one_le_overflowBound : 1 ≤ overflowBound := by
  refine le_trans ?_ two_pow_le_overflowBound
  exact one_le_zpow₀ one_le_two (by norm_num)

/-- The double of a decimal is finite if and only if its magnitude is below the bound. -/
theorem isFinite_ofDecimal_iff (negative : Bool) (coefficient : Nat) (exponent : Int) :
    (ofDecimal negative coefficient exponent).isFinite = true ↔
      (coefficient : ℚ) * 10 ^ exponent < overflowBound := by
  rcases Nat.eq_zero_or_pos coefficient with rfl | hpos
  · rw [Nat.cast_zero, zero_mul]
    exact iff_of_true rfl overflowBound_pos
  have hten : (0 : ℚ) < 10 ^ exponent := zpow_pos (by norm_num) exponent
  obtain ⟨hlow, hhigh⟩ := magnitude_bounds hpos
  unfold ofDecimal
  dsimp only
  rw [if_neg hpos.ne']
  generalize hmagnitude : ((Nat.toDigits 10 coefficient).length : Int) = digits at hlow hhigh
  split_ifs with hlarge hsmall hexponent
  · -- The digits alone put the decimal above the bound.
    refine iff_of_false Bool.false_ne_true (not_lt.mpr ?_)
    calc overflowBound ≤ 10 ^ (309 : Int) := overflowBound_lt_ten_zpow.le
      _ ≤ 10 ^ (digits - 1 + exponent) := zpow_le_zpow_right₀ (by norm_num) (by omega)
      _ = 10 ^ (digits - 1) * 10 ^ exponent := zpow_add₀ (by norm_num) _ _
      _ ≤ coefficient * 10 ^ exponent := mul_le_mul_of_nonneg_right hlow hten.le
  · refine iff_of_true rfl ?_
    calc (coefficient : ℚ) * 10 ^ exponent
        < 10 ^ digits * 10 ^ exponent := mul_lt_mul_of_pos_right hhigh hten
      _ = 10 ^ (digits + exponent) := (zpow_add₀ (by norm_num) _ _).symm
      _ ≤ 1 := zpow_le_one_of_nonpos₀ (by norm_num) (by omega)
      _ ≤ overflowBound := one_le_overflowBound
  · rw [isFinite_ofRatio_iff negative _ Nat.one_pos, Nat.cast_mul, cast_pow_toNat 10 hexponent,
      Nat.cast_one, div_one, Nat.cast_ofNat]
  · have hden : 0 < Nat.pow 10 (-exponent).toNat := Nat.pow_pos (by decide)
    rw [isFinite_ofRatio_iff negative _ hden, cast_pow_toNat 10 (by omega), zpow_neg,
      div_inv_eq_mul, Nat.cast_ofNat]

/-! ## Infinite results -/

theorem ofRatio_of_not_isFinite {negative : Bool} {num den : Nat}
    (h : (ofRatio negative num den).isFinite = false) :
    ofRatio negative num den = .infinite negative := by
  rcases Nat.eq_zero_or_pos num with rfl | hnum
  · cases h
  · rw [ofRatio_eq negative hnum.ne'] at h ⊢
    dsimp only at h ⊢
    split_ifs at h ⊢
    all_goals first | rfl | cases h

/-- A decimal that is too large becomes the infinity of its sign. -/
theorem ofDecimal_of_not_isFinite {negative : Bool} {coefficient : Nat} {exponent : Int}
    (h : (ofDecimal negative coefficient exponent).isFinite = false) :
    ofDecimal negative coefficient exponent = .infinite negative := by
  unfold ofDecimal at h ⊢
  dsimp only at h ⊢
  split_ifs at h ⊢
  · cases h
  · rfl
  · cases h
  · exact ofRatio_of_not_isFinite h
  · exact ofRatio_of_not_isFinite h

end Clickstream.Binary64

/-! ## Numerals -/

namespace Clickstream.Numeral

theorem abs_value (n : Numeral) : |n.value| = n.coefficient * 10 ^ n.scale := by
  have hpos : (0 : ℚ) ≤ n.coefficient * 10 ^ n.scale := by positivity
  rw [value, Decimal.withSign]
  split_ifs
  · rw [abs_neg, abs_of_nonneg hpos]
  · exact abs_of_nonneg hpos

/-- The double of a numeral is finite if and only if its magnitude is below the bound. -/
theorem isFinite_toBinary64 (n : Numeral) :
    n.toBinary64.isFinite = true ↔ |n.value| < Binary64.overflowBound := by
  rw [abs_value]
  exact Binary64.isFinite_ofDecimal_iff _ _ _

theorem toBinary64_of_not_isFinite {n : Numeral} (h : n.toBinary64.isFinite = false) :
    n.toBinary64 = .infinite n.negative :=
  Binary64.ofDecimal_of_not_isFinite h

theorem toBinary64_ne_nan (n : Numeral) : n.toBinary64 ≠ .nan := by
  intro h
  have hinfinite := toBinary64_of_not_isFinite (show n.toBinary64.isFinite = false by rw [h]; rfl)
  rw [h] at hinfinite
  cases hinfinite

end Clickstream.Numeral
