import Mathlib.Tactic.Ring
import Clickstream.Calendar.Date
import Clickstream.Text.Quoted

/-!
# Padded digits

Numbers are written with a fixed number of digits: codes of characters in base sixteen (`hex`),
years, months and days in base ten (`padded`).  Both are the digits of the number with zeros before
them, and a number that fits into the width is written digit by digit from the last one
(`digits_succ`).
-/

namespace Clickstream

namespace Text

/-- The digits of a number, padded with zeros to a width. -/
def digits (base width n : Nat) : List Char :=
  List.replicate (width - (Nat.toDigits base n).length) '0' ++ Nat.toDigits base n

theorem toList_padded (width n : Nat) : (padded width n).toList = digits 10 width n := by
  simp [padded, digits, Nat.toString_eq_repr, Nat.repr_eq_ofList_toDigits]

variable {base n : Nat}

theorem digits_one (h : n < base) : digits base 1 n = [n.digitChar] := by
  simp [digits, Nat.toDigits_of_lt_base h]

/-- The last digit is the rest of the division by the base. -/
theorem digits_succ (hbase : 1 < base) (width n : Nat) :
    digits base (width + 2) n = digits base (width + 1) (n / base) ++ [(n % base).digitChar] := by
  by_cases h : n < base
  · -- The quotient is zero, which is written as one digit and not as none.
    have hzero : 0 < base := by omega
    simp [digits, Nat.toDigits_of_lt_base h, Nat.div_eq_of_lt h, Nat.mod_eq_of_lt h,
      Nat.toDigits_of_lt_base hzero, List.replicate_succ']
  · simp [digits, Nat.toDigits_of_base_le hbase (Nat.le_of_not_lt h)]

theorem digits_two (hbase : 1 < base) (h : n < base ^ 2) :
    digits base 2 n = [(n / base).digitChar, (n % base).digitChar] := by
  rw [digits_succ hbase 0 n, digits_one (Nat.div_lt_of_lt_mul (by rwa [← Nat.pow_two]))]
  rfl

theorem digits_four (hbase : 1 < base) (h : n < base ^ 4) :
    digits base 4 n = [(n / base ^ 3).digitChar, (n / base ^ 2 % base).digitChar,
      (n / base % base).digitChar, (n % base).digitChar] := by
  have hhigh : n / base / base / base < base := by
    rw [Nat.div_div_eq_div_mul, Nat.div_div_eq_div_mul]
    exact Nat.div_lt_of_lt_mul (by convert h using 1; ring)
  rw [digits_succ hbase 2 n, digits_succ hbase 1, digits_succ hbase 0, digits_one hhigh]
  simp [Nat.div_div_eq_div_mul, Nat.pow_succ]

theorem hex_four (h : n < 0x10000) : hex 4 n = [(n / 16 ^ 3).digitChar,
    (n / 16 ^ 2 % 16).digitChar, (n / 16 % 16).digitChar, (n % 16).digitChar] :=
  digits_four (by decide) h

end Text

end Clickstream
