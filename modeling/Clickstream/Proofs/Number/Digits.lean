import Mathlib.Algebra.Order.Field.Power
import Mathlib.Data.Rat.Cast.Order
import Mathlib.Tactic.NormNum
import Mathlib.Tactic.Positivity
import Mathlib.Tactic.Ring

/-!
# Numbers of digits

A positive number has as many decimal digits as its magnitude says.
-/

namespace Clickstream

theorem length_toDigits_bounds {n : Nat} (hn : 0 < n) :
    10 ^ ((Nat.toDigits 10 n).length - 1) ≤ n ∧ n < 10 ^ (Nat.toDigits 10 n).length := by
  have hpos : 0 < (Nat.toDigits 10 n).length := Nat.length_toDigits_pos
  constructor
  · by_contra hlt
    by_cases hone : (Nat.toDigits 10 n).length = 1
    · rw [hone] at hlt
      omega
    · have := (Nat.length_toDigits_le_iff (by decide) (by omega)).mpr (Nat.lt_of_not_le hlt)
      omega
  · exact (Nat.length_toDigits_le_iff (by decide) hpos).mp (Nat.le_refl _)

theorem magnitude_bounds {n : Nat} (hn : 0 < n) :
    (10 : ℚ) ^ (((Nat.toDigits 10 n).length : Int) - 1) ≤ n ∧
      (n : ℚ) < 10 ^ ((Nat.toDigits 10 n).length : Int) := by
  have hpos : 0 < (Nat.toDigits 10 n).length := Nat.length_toDigits_pos
  obtain ⟨hlow, hhigh⟩ := length_toDigits_bounds hn
  have hpred : ((Nat.toDigits 10 n).length : Int) - 1 = ((Nat.toDigits 10 n).length - 1 : Nat) := by
    omega
  rw [hpred]
  exact ⟨by exact_mod_cast hlow, by exact_mod_cast hhigh⟩

end Clickstream
