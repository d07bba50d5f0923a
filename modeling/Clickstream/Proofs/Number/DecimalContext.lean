import Clickstream.Number.Decimal
import Clickstream.Proofs.Number.Rounding

/-!
# Numbers of a decimal context

Which numbers the decimals of a context can write (`Writes`), and what rounding to them does.  A
number is rounded in units of a last digit that the context allows (`IsRounding`).  So it has no
rounded form if and only if it reaches a limit, half a unit above the greatest decimal
(`IsRounding.limit_le_iff`), and it is left as it is if the context can write it
(`IsRounding.eq_of_writes`).  Near a long whole number of units there are gaps in which there is
neither the limit nor a number that the context can write (`Raised`).
-/

namespace Clickstream

/-! ## Nearest whole numbers -/

theorem roundRatio_one (n : Nat) : roundRatio n 1 = n := by
  rw [roundRatio, Nat.div_one, Nat.mod_one]
  rfl

theorem isNearest_roundRatio (num : Nat) {den : Nat} (hden : 0 < den) :
    IsNearest (roundRatio num den) ((num : ℚ) / den) := by
  have hdenq : (0 : ℚ) < den := by exact_mod_cast hden
  have hmod := Nat.mod_lt num hden
  have hvalue : (num : ℚ) / den = (num / den : Nat) + (num % den : Nat) / den := by
    rw [div_eq_iff hdenq.ne', add_mul, div_mul_cancel₀ _ hdenq.ne']
    exact_mod_cast (Nat.div_add_mod' num den).symm
  rw [hvalue]
  unfold roundRatio
  generalize num / den = q
  generalize num % den = r at hmod
  have hbelow : |(q : ℚ) + r / den - q| = r / den := by
    rw [add_sub_cancel_left, abs_of_nonneg (by positivity)]
  have habove : |(q : ℚ) + r / den - (q + 1 : Nat)| = (den - r : Nat) / den := by
    rw [Nat.cast_add_one, add_sub_add_left_eq_sub, abs_sub_comm,
      abs_of_nonneg (sub_nonneg.mpr ((div_le_one hdenq).mpr (by exact_mod_cast hmod.le))),
      Nat.cast_sub hmod.le, sub_div, div_self hdenq.ne']
  dsimp only
  split_ifs with h
  · rw [Bool.or_eq_true, decide_eq_true_eq, Bool.and_eq_true, beq_iff_eq, beq_iff_eq] at h
    rw [IsNearest, habove, div_lt_div_iff₀ hdenq two_pos, div_eq_div_iff hdenq.ne' two_ne_zero]
    refine h.imp (fun h => ?_) (fun h => ⟨?_, by omega⟩)
    · exact_mod_cast (show (den - r) * 2 < 1 * den by omega)
    · exact_mod_cast (show (den - r) * 2 = 1 * den by omega)
  · rw [Bool.or_eq_true, decide_eq_true_eq, Bool.and_eq_true, beq_iff_eq, beq_iff_eq] at h
    rw [IsNearest, hbelow, div_lt_div_iff₀ hdenq two_pos, div_eq_div_iff hdenq.ne' two_ne_zero]
    rcases (show r * 2 < 1 * den ∨ r * 2 = 1 * den ∧ q % 2 = 0 by omega) with hlt | ⟨heq, heven⟩
    · exact .inl (by exact_mod_cast hlt)
    · exact .inr ⟨by exact_mod_cast heq, heven⟩

namespace IsNearest

variable {n m : Nat} {x : ℚ}

theorem abs_sub_le (h : IsNearest n x) : |x - n| ≤ 1 / 2 :=
  h.elim le_of_lt fun h => h.1.le

theorem eq_of_natCast (h : IsNearest n m) : n = m := by
  have hm : IsNearest n ((m : ℚ) / (1 : Nat)) := by rwa [Nat.cast_one, div_one]
  rw [← roundRatio_of_isNearest Nat.one_pos hm, roundRatio_one]

theorem le_of_le (h : IsNearest n x) (hm : (m : ℚ) ≤ x) : m ≤ n := by
  by_contra hlt
  have : (n : ℚ) + 1 ≤ m := by exact_mod_cast not_le.mp hlt
  have := (abs_le.mp h.abs_sub_le).2
  linarith

/-- Half-way to an even number, the number is the nearest one. -/
theorem le_of_even (h : IsNearest n x) (heven : m % 2 = 0) (hm : (m : ℚ) - 1 / 2 ≤ x) :
    m ≤ n := by
  by_contra hlt
  have hn : (n : ℚ) + 1 ≤ m := by exact_mod_cast not_le.mp hlt
  have hhalf := h.abs_sub_le
  rw [abs_of_nonneg (by linarith)] at hhalf
  -- The distance to both neighbours is a half, so the lower one is even, too.
  have heq : x - n = 1 / 2 := by linarith
  have hnext : m = n + 1 := by exact_mod_cast (show (m : ℚ) = n + 1 by linarith)
  rcases h with h | ⟨-, h⟩
  · rw [heq, abs_of_pos one_half_pos] at h
    exact lt_irrefl _ h
  · omega

end IsNearest

/-! ## Contexts -/

namespace DecimalContext

/-- There is a digit, and the exponents are a range. -/
structure IsProper (ctx : DecimalContext) : Prop where
  precision : 0 < ctx.precision
  range : ctx.minExponent ≤ ctx.maxExponent

theorem isProper_standard : standard.IsProper :=
  ⟨by decide, by decide⟩

/-- The exponent of the last digit of the greatest decimals. -/
def topExponent (ctx : DecimalContext) : Int :=
  ctx.maxExponent - ctx.precision + 1

/-- Half a unit of the last digit above the greatest decimal. -/
def limit (ctx : DecimalContext) : ℚ :=
  (10 ^ ctx.precision - 1 / 2) * 10 ^ ctx.topExponent

/-- The number has a coefficient with no more digits than the precision, and its exponent is not
too small. -/
def Writes (ctx : DecimalContext) (x : ℚ) : Prop :=
  ∃ m k : Int, |m| < 10 ^ ctx.precision ∧ ctx.tinyExponent ≤ k ∧ x = m * 10 ^ k

/-- The number has a coefficient with no more digits than the precision. -/
def Fits (ctx : DecimalContext) (x : ℚ) : Prop :=
  ∃ m k : Int, |m| < 10 ^ ctx.precision ∧ x = m * 10 ^ k

/-- A number in units of `10^l` is rounded to a whole number.  The unit is one of the context and
leaves no more digits than the precision, and no fewer unless nothing is rounded or the unit is the
least one. -/
structure IsRounding (ctx : DecimalContext) (x : ℚ) (q : Nat) (l : Int) : Prop where
  nearest : IsNearest q (x / 10 ^ l)
  least : ctx.tinyExponent ≤ l
  short : x < 10 ^ (ctx.precision + l)
  full : x = q * 10 ^ l ∨ (10 : ℚ) ^ ((ctx.precision - 1 : Nat) + l) ≤ x ∨ l = ctx.tinyExponent

theorem ten_zpow_pos (e : Int) : (0 : ℚ) < 10 ^ e :=
  zpow_pos (by norm_num) e

theorem ten_zpow_add (m n : Int) : (10 : ℚ) ^ (m + n) = 10 ^ m * 10 ^ n :=
  zpow_add₀ (by norm_num) m n

theorem ten_zpow_natCast_add (n : Nat) (e : Int) :
    (10 : ℚ) ^ ((n : Int) + e) = 10 ^ n * 10 ^ e := by
  rw [ten_zpow_add, zpow_natCast]

theorem ten_zpow_le {m n : Int} (h : m ≤ n) : (10 : ℚ) ^ m ≤ 10 ^ n :=
  zpow_le_zpow_right₀ (by norm_num) h

/-- A power of ten in smaller units. -/
theorem ten_zpow_eq_units {m n : Int} (h : m ≤ n) : (10 : ℚ) ^ n = 10 ^ (n - m).toNat * 10 ^ m := by
  rw [← ten_zpow_natCast_add, Int.toNat_of_nonneg (by omega), sub_add_cancel]

variable {ctx : DecimalContext} {x : ℚ} {q : Nat} {l : Int}

theorem ten_zpow_maxExponent (ctx : DecimalContext) :
    (10 : ℚ) ^ (ctx.maxExponent + 1) = 10 ^ ctx.precision * 10 ^ ctx.topExponent := by
  rw [← ten_zpow_natCast_add, topExponent]
  congr 1
  ring

theorem half_le (ctx : DecimalContext) : (1 : ℚ) / 2 ≤ 10 ^ ctx.precision - 1 / 2 := by
  have : (1 : ℚ) ≤ 10 ^ ctx.precision := one_le_pow₀ (by norm_num)
  linarith

theorem limit_pos (ctx : DecimalContext) : 0 < ctx.limit :=
  mul_pos (one_half_pos.trans_le ctx.half_le) (ten_zpow_pos _)

theorem limit_le (ctx : DecimalContext) : ctx.limit ≤ 10 ^ (ctx.maxExponent + 1) := by
  rw [ten_zpow_maxExponent]
  exact mul_le_mul_of_nonneg_right (sub_le_self _ one_half_pos.le) (ten_zpow_pos _).le

theorem IsProper.even (h : ctx.IsProper) : 10 ^ ctx.precision % 2 = 0 := by
  rw [← Nat.sub_add_cancel h.precision, Nat.pow_succ]
  omega

theorem IsProper.tinyExponent_le (h : ctx.IsProper) : ctx.tinyExponent ≤ ctx.topExponent := by
  have := h.range
  unfold tinyExponent topExponent
  omega

theorem IsProper.tinyExponent_le_max (h : ctx.IsProper) : ctx.tinyExponent ≤ ctx.maxExponent := by
  have := h.range
  have := h.precision
  unfold tinyExponent
  omega

/-- In a unit of the greatest decimals or a greater one, nothing is rounded or the number is too
large. -/
theorem IsRounding.exact_or_large (hctx : ctx.IsProper) (h : ctx.IsRounding x q l)
    (hl : ctx.topExponent < l) : x = q * 10 ^ l ∨
      (10 : ℚ) ^ (ctx.maxExponent + 1) ≤ x ∧ (10 : ℚ) ^ (ctx.maxExponent + 1) ≤ q * 10 ^ l := by
  have hu := ten_zpow_pos l
  rcases h.full with hexact | hfull | hleast
  · exact .inl hexact
  · refine .inr ?_
    have hunit := ten_zpow_le (show ctx.maxExponent + 1 ≤ (ctx.precision - 1 : Nat) + l by
      unfold topExponent at hl
      omega)
    refine ⟨hunit.trans hfull, hunit.trans ?_⟩
    rw [ten_zpow_natCast_add] at hfull ⊢
    have hq : 10 ^ (ctx.precision - 1) ≤ q :=
      h.nearest.le_of_le (by exact_mod_cast (le_div_iff₀ hu).mpr hfull)
    exact mul_le_mul_of_nonneg_right (by exact_mod_cast hq) hu.le
  · have := hctx.tinyExponent_le
    omega

theorem IsRounding.limit_le (hctx : ctx.IsProper) (h : ctx.IsRounding x q l)
    (hmax : (10 : ℚ) ^ (ctx.maxExponent + 1) ≤ q * 10 ^ l) : ctx.limit ≤ x := by
  rcases le_or_gt l ctx.topExponent with hl | hl
  · -- In a unit that is not greater, the exact number is less by half a unit at most.
    have hhalf := mul_le_mul_of_nonneg_right (abs_le.mp h.nearest.abs_sub_le).1 (ten_zpow_pos l).le
    rw [sub_mul, div_mul_cancel₀ _ (ten_zpow_pos l).ne'] at hhalf
    have hunit := ten_zpow_le hl
    rw [ten_zpow_maxExponent] at hmax
    rw [limit]
    linarith
  · rcases h.exact_or_large hctx hl with hexact | ⟨hlarge, -⟩
    · rw [hexact]
      exact ctx.limit_le.trans hmax
    · exact ctx.limit_le.trans hlarge

theorem IsRounding.topExponent_le (h : ctx.IsRounding x q l) (hlimit : ctx.limit ≤ x) :
    ctx.topExponent ≤ l := by
  by_contra hlt
  have hunit := ten_zpow_le (show l + 1 ≤ ctx.topExponent by omega)
  rw [zpow_add_one₀ (by norm_num)] at hunit
  have hshort := h.short
  rw [ten_zpow_natCast_add] at hshort
  have hhalf := ctx.half_le
  have hu := ten_zpow_pos l
  rw [limit] at hlimit
  nlinarith

/-- A whole number of units that reaches the limit reaches the power of ten above it. -/
theorem le_of_limit_le (hl : ctx.topExponent ≤ l) (hlimit : ctx.limit ≤ q * 10 ^ l) :
    (10 : ℚ) ^ (ctx.maxExponent + 1) ≤ q * 10 ^ l := by
  have htop := ten_zpow_pos ctx.topExponent
  rw [limit, ten_zpow_eq_units hl, ← mul_assoc, mul_le_mul_iff_left₀ htop] at hlimit
  rw [ten_zpow_maxExponent, ten_zpow_eq_units hl, ← mul_assoc, mul_le_mul_iff_left₀ htop]
  have hlt : (10 : ℚ) ^ ctx.precision < q * 10 ^ (l - ctx.topExponent).toNat + 1 := by linarith
  have hlt : 10 ^ ctx.precision < q * 10 ^ (l - ctx.topExponent).toNat + 1 := by
    exact_mod_cast hlt
  exact_mod_cast Nat.lt_add_one_iff.mp hlt

/-- The rounded number is beyond the greatest decimal if and only if the exact one reaches the
limit. -/
theorem IsRounding.limit_le_iff (hctx : ctx.IsProper) (h : ctx.IsRounding x q l) :
    (10 : ℚ) ^ (ctx.maxExponent + 1) ≤ q * 10 ^ l ↔ ctx.limit ≤ x := by
  refine ⟨h.limit_le hctx, fun hlimit => ?_⟩
  rcases (h.topExponent_le hlimit).eq_or_lt with hl | hl
  · -- The limit is half-way to an even number of units.
    have hnear : ((10 ^ ctx.precision : Nat) : ℚ) - 1 / 2 ≤ x / 10 ^ l := by
      rw [limit] at hlimit
      rw [le_div_iff₀ (ten_zpow_pos l), ← hl]
      exact_mod_cast hlimit
    have hq := h.nearest.le_of_even hctx.even hnear
    rw [ten_zpow_maxExponent, hl]
    exact mul_le_mul_of_nonneg_right (by exact_mod_cast hq) (ten_zpow_pos l).le
  · rcases h.exact_or_large hctx hl with hexact | ⟨-, hlarge⟩
    · rw [hexact] at hlimit
      exact le_of_limit_le hl.le hlimit
    · exact hlarge

/-- The last digit of a short coefficient is not below a unit in which the number is long. -/
theorem le_of_short {m k l : Int} (hm : |m| < 10 ^ ctx.precision)
    (hfull : (10 : ℚ) ^ ((ctx.precision - 1 : Nat) + l) ≤ m * 10 ^ k) : l ≤ k := by
  have hshort : (m : ℚ) < 10 ^ ctx.precision := by exact_mod_cast (abs_lt.mp hm).2
  have hlt := mul_lt_mul_of_pos_right hshort (ten_zpow_pos k)
  rw [← ten_zpow_natCast_add] at hlt
  have := Binary64.ten_zpow_lt_iff.mp (hfull.trans_lt hlt)
  omega

/-- A number that the context can write is not changed. -/
theorem IsRounding.eq_of_writes (h : ctx.IsRounding x q l) (hx : 0 ≤ x) (hwrites : ctx.Writes x) :
    x = q * 10 ^ l := by
  obtain ⟨m, k, hm, hk, rfl⟩ := hwrites
  have hu := (ten_zpow_pos l).ne'
  have hlift : ∀ hl : l ≤ k, (m : ℚ) * 10 ^ k = q * 10 ^ l := by
    intro hl
    have hm0 : 0 ≤ m := by exact_mod_cast nonneg_of_mul_nonneg_left hx (ten_zpow_pos k)
    lift m to ℕ using hm0
    have hwhole : ((m : Int) : ℚ) * 10 ^ k / 10 ^ l = (m * 10 ^ (k - l).toNat : Nat) := by
      rw [div_eq_iff hu, ten_zpow_eq_units hl]
      push_cast
      ring
    have hnearest := h.nearest
    rw [hwhole] at hnearest
    rw [hnearest.eq_of_natCast, ← hwhole, div_mul_cancel₀ _ hu]
  rcases h.full with hexact | hfull | rfl
  · exact hexact
  · exact hlift (le_of_short hm hfull)
  · exact hlift hk

theorem writes_abs {x : ℚ} (h : ctx.Writes x) : ctx.Writes |x| := by
  obtain ⟨m, k, hm, hk, rfl⟩ := h
  refine ⟨|m|, k, by rwa [abs_abs], hk, ?_⟩
  rw [abs_mul, abs_of_pos (ten_zpow_pos k), Int.cast_abs]

/-- Of two numbers that are a few large units apart, neither has a digit below the least exponent if
their coefficients are short. -/
theorem writes_of_fits {x y : ℚ} {d l : Int} (hd : 2 ≤ |d|)
    (hl : 2 * ctx.precision + ctx.tinyExponent ≤ l) (hxy : y - x = d * 10 ^ l) (hx : ctx.Fits x)
    (hy : ctx.Fits y) : ctx.Writes x := by
  obtain ⟨m, k, hm, rfl⟩ := hx
  obtain ⟨m', k', hm', rfl⟩ := hy
  rcases le_or_gt ctx.tinyExponent k with hk | hk
  · exact ⟨m, k, hm, hk, rfl⟩
  have hbound : ∀ i j : Int, |i| < 10 ^ ctx.precision →
      |(i : ℚ) * 10 ^ j| < 10 ^ (ctx.precision + j) := by
    intro i j hi
    rw [abs_mul, abs_of_pos (ten_zpow_pos j), ten_zpow_natCast_add]
    exact mul_lt_mul_of_pos_right (by exact_mod_cast hi) (ten_zpow_pos j)
  have hsmall := (hbound m k hm).trans_le (ten_zpow_le (show ctx.precision + k ≤ l by omega))
  -- The first number is small, so the second one is not, and has a large last digit.
  have hlarge : (10 : ℚ) ^ l ≤ |(m' : ℚ) * 10 ^ k'| := by
    have hdq : (2 : ℚ) ≤ |(d : ℚ)| := by exact_mod_cast hd
    have hunits := mul_le_mul_of_nonneg_right hdq (ten_zpow_pos l).le
    have habs := abs_sub ((m' : ℚ) * 10 ^ k') (m * 10 ^ k)
    rw [hxy, abs_mul, abs_of_pos (ten_zpow_pos l)] at habs
    linarith
  have hk' := Binary64.ten_zpow_lt_iff.mp (hlarge.trans_lt (hbound m' k' hm'))
  have hwhole : (m : ℚ) * 10 ^ k = (m' * 10 ^ (k' - ctx.tinyExponent).toNat -
      d * 10 ^ (l - ctx.tinyExponent).toNat : Int) * 10 ^ ctx.tinyExponent := by
    have hx : (m : ℚ) * 10 ^ k = m' * 10 ^ k' - d * 10 ^ l := by linarith
    have htiny : ctx.tinyExponent ≤ k' := by omega
    have htiny' : ctx.tinyExponent ≤ l := by omega
    rw [hx, ten_zpow_eq_units htiny, ten_zpow_eq_units htiny']
    push_cast
    ring
  refine ⟨_, ctx.tinyExponent, ?_, le_rfl, hwhole⟩
  have hlt := (hbound m k hm).trans_le
    (ten_zpow_le (show ctx.precision + k ≤ ctx.precision + ctx.tinyExponent by omega))
  rw [hwhole, abs_mul, abs_of_pos (ten_zpow_pos _), ten_zpow_natCast_add] at hlt
  exact_mod_cast lt_of_mul_lt_mul_right hlt (ten_zpow_pos _).le

/-- A positive number is rounded to zero in the least unit only. -/
theorem IsRounding.eq_tinyExponent (h : ctx.IsRounding x 0 l) (hx : 0 < x) :
    l = ctx.tinyExponent := by
  have hu := ten_zpow_pos l
  rcases h.full with hexact | hfull | hleast
  · rw [Nat.cast_zero, zero_mul] at hexact
    exact absurd hexact hx.ne'
  · rw [ten_zpow_natCast_add, ← le_div_iff₀ hu] at hfull
    have hone : 1 ≤ (10 : ℚ) ^ (ctx.precision - 1) := one_le_pow₀ (by norm_num)
    have := h.nearest.le_of_le (m := 1) (by exact_mod_cast hone.trans hfull)
    omega
  · exact hleast

/-! ### Raised numbers -/

/-- A number `x` next to a whole number of units, and `y` the end of the gap that it lies in.  The
whole number ends in zero and has more digits than the precision. -/
def Raised (ctx : DecimalContext) (x y : ℚ) : Prop :=
  ∃ (n : Nat) (l : Int), 10 ∣ n ∧ 10 ^ (ctx.precision + 1) ≤ n ∧
    (n * 10 ^ l < x ∧ x < (n + 1) * 10 ^ l ∧ y = (n + 1) * 10 ^ l ∨
      (n - 1) * 10 ^ l < x ∧ x < n * 10 ^ l ∧ y = (n - 1) * 10 ^ l)

/-- In small units, the limit is a whole number that ends in a five or a zero. -/
theorem exists_limit_eq (ctx : DecimalContext) {l : Int} (hl : l < ctx.topExponent) :
    ∃ t : Nat, 5 ∣ t ∧ ctx.limit = t * 10 ^ l := by
  have hone : 1 ≤ 2 * 10 ^ ctx.precision := Nat.mul_pos two_pos (Nat.pow_pos (by decide))
  refine ⟨5 * ((2 * 10 ^ ctx.precision - 1) * 10 ^ (ctx.topExponent - 1 - l).toNat),
    dvd_mul_right _ _, ?_⟩
  have hsplit : (10 : ℚ) ^ ctx.topExponent =
      10 * (10 ^ (ctx.topExponent - 1 - l).toNat * 10 ^ l) := by
    rw [← ten_zpow_natCast_add, ← zpow_one_add₀ (by norm_num)]
    congr 1
    omega
  rw [limit, hsplit]
  push_cast [Nat.cast_sub hone]
  ring

namespace Raised

variable {x y : ℚ}

/-- The limit is not between the two. -/
theorem limit_le_iff (h : ctx.Raised x y) : ctx.limit ≤ x ↔ ctx.limit ≤ y := by
  obtain ⟨n, l, hn, hlong, hgap⟩ := h
  have hu := ten_zpow_pos l
  have hnq : (10 : ℚ) ^ (ctx.precision + 1) ≤ n := by exact_mod_cast hlong
  rcases lt_or_ge l ctx.topExponent with hl | hl
  · obtain ⟨t, ht, hlimit⟩ := ctx.exists_limit_eq hl
    rw [hlimit]
    rcases hgap with ⟨hlow, hhigh, rfl⟩ | ⟨hlow, hhigh, rfl⟩
    · constructor
      · exact fun h => h.trans hhigh.le
      · intro h
        rw [mul_le_mul_iff_left₀ hu] at h
        have hle : t ≤ n + 1 := by exact_mod_cast h
        have hle : t ≤ n := by omega
        have hle : (t : ℚ) ≤ n := by exact_mod_cast hle
        exact (mul_le_mul_of_nonneg_right hle hu.le).trans hlow.le
    · constructor
      · intro h
        have hlt := lt_of_mul_lt_mul_right (h.trans_lt hhigh) hu.le
        have hle : t + 1 ≤ n := by exact_mod_cast hlt
        have hle : (t : ℚ) + 1 ≤ n := by exact_mod_cast hle
        exact mul_le_mul_of_nonneg_right (by linarith) hu.le
      · exact fun h => h.trans hlow.le
  · -- In large units, both numbers have too many digits.
    have hbelow : ctx.limit ≤ (n - 1) * 10 ^ l := by
      have hpow : (1 : ℚ) ≤ 10 ^ ctx.precision := one_le_pow₀ (by norm_num)
      rw [pow_succ] at hnq
      refine mul_le_mul (by linarith) (ten_zpow_le hl) (ten_zpow_pos _).le (by linarith)
    rcases hgap with ⟨hlow, hhigh, rfl⟩ | ⟨hlow, hhigh, rfl⟩
    · exact iff_of_true (by linarith) (by linarith)
    · exact iff_of_true (by linarith) hbelow

/-- The context cannot write a number inside the gap. -/
theorem not_writes (h : ctx.Raised x y) : ¬ ctx.Writes x := by
  obtain ⟨n, l, -, hlong, hgap⟩ := h
  rintro ⟨m, k, hm, -, rfl⟩
  have hu := ten_zpow_pos l
  have hnq : (10 : ℚ) ^ (ctx.precision + 1) ≤ n := by exact_mod_cast hlong
  have hlow : ((n : ℚ) - 1) * 10 ^ l < m * 10 ^ k := by
    rcases hgap with ⟨hlow, -, -⟩ | ⟨hlow, -, -⟩
    · linarith
    · exact hlow
  -- The coefficient is too short for the unit, so the number is a whole number of units.
  have hk : l ≤ k := by
    refine le_of_short hm (le_trans ?_ hlow.le)
    rw [ten_zpow_natCast_add]
    refine mul_le_mul_of_nonneg_right ?_ hu.le
    have hpow : (10 : ℚ) ^ (ctx.precision - 1) ≤ 10 ^ ctx.precision :=
      pow_le_pow_right₀ (by norm_num) (by omega)
    have hone : (1 : ℚ) ≤ 10 ^ ctx.precision := one_le_pow₀ (by norm_num)
    rw [pow_succ] at hnq
    linarith
  have hwhole : (m : ℚ) * 10 ^ k = (m * 10 ^ (k - l).toNat : Int) * 10 ^ l := by
    rw [ten_zpow_eq_units hk]
    push_cast
    ring
  rw [hwhole] at hgap
  generalize m * 10 ^ (k - l).toNat = i at hgap
  rcases hgap with ⟨hlow, hhigh, -⟩ | ⟨hlow, hhigh, -⟩
  · have hlow := lt_of_mul_lt_mul_right hlow hu.le
    have hhigh := lt_of_mul_lt_mul_right hhigh hu.le
    have hlow : (n : Int) < i := by exact_mod_cast hlow
    have hhigh : i < (n : Int) + 1 := by exact_mod_cast hhigh
    omega
  · have hlow := lt_of_mul_lt_mul_right hlow hu.le
    have hhigh := lt_of_mul_lt_mul_right hhigh hu.le
    have hlow : (n : Int) - 1 < i := by exact_mod_cast hlow
    have hhigh : i < (n : Int) := by exact_mod_cast hhigh
    omega

end Raised

end DecimalContext

end Clickstream
