import Clickstream.Proofs.Number.DecimalContext

/-!
# Decimal arithmetic

What the arithmetic of decimals does, told of the numbers that they stand for (`Decimal.toRat?`).
An operation has no result if and only if the exact number reaches the limit of the context
(`round_eq_error_iff`, `add_eq_error_iff`), and the result is exact if the context can write it
(`toRat?_of_round`, `toRat?_of_add`).  A sum is not always rounded from its exact value: an operand
far below the last digit of the other one is replaced (`raise`).  This moves the sum within one of
the gaps of the context (`raised_add`).
-/

namespace Clickstream

namespace Decimal

open DecimalContext

/-! ## Numbers of decimals -/

/-- A magnitude with a sign. -/
def withSign (negative : Bool) (x : ℚ) : ℚ :=
  if negative then -x else x

/-- The number that a finite decimal stands for. -/
def toRat? : Decimal → Option ℚ
  | .finite negative c e => some (withSign negative (c * 10 ^ e))
  | _ => none

theorem withSign_mul (negative : Bool) (x y : ℚ) :
    withSign negative (x * y) = withSign negative x * y := by
  unfold withSign
  split_ifs
  · exact neg_mul_eq_neg_mul x y
  · rfl

theorem cast_signed (negative : Bool) (c : Nat) : ((signed negative c : Int) : ℚ) =
    withSign negative c := by
  unfold signed withSign
  split_ifs
  · rw [Int.cast_neg, Int.cast_natCast]
  · rw [Int.cast_natCast]

theorem isSome_toRat? {d : Decimal} : d.toRat?.isSome = d.isFinite := by
  cases d <;> rfl

theorem toRat?_negate {d : Decimal} {x : ℚ} (h : d.toRat? = some x) :
    d.negate.toRat? = some (-x) := by
  cases d with
  | finite negative c e =>
    cases h
    refine congrArg some ?_
    cases negative
    · rfl
    · exact (neg_neg _).symm
  | infinite _ => cases h
  | nan _ _ _ => cases h

/-! ## Rounding -/

section

variable {ctx : DecimalContext} {c : Nat} {e : Int} {negative : Bool}

/-- The exponent of a coefficient once it is rounded. -/
def lastExponent (ctx : DecimalContext) (c : Nat) (e : Int) : Int :=
  max e (max ctx.tinyExponent (e + digitCount c - ctx.precision))

/-- The coefficient once it is rounded. -/
def lastCoefficient (ctx : DecimalContext) (c : Nat) (e : Int) : Nat :=
  roundOff c (lastExponent ctx c e - e).toNat

theorem round_eq (hc : c ≠ 0) : round ctx negative c e =
    let q := lastCoefficient ctx c e
    let l := lastExponent ctx c e
    let (q, l) := if q = Nat.pow 10 ctx.precision then (Nat.pow 10 (ctx.precision - 1), l + 1)
      else (q, l)
    if ctx.maxExponent < l + digitCount q - 1 then .error .overflow
    else .ok (.finite negative q l) := by
  have hl : e + ((max ctx.tinyExponent (e + digitCount c - ctx.precision) - e).toNat : Int) =
      lastExponent ctx c e := by
    unfold lastExponent
    omega
  have hdrop : (max ctx.tinyExponent (e + digitCount c - ctx.precision) - e).toNat =
      (lastExponent ctx c e - e).toNat := by
    unfold lastExponent
    omega
  rw [round, if_neg hc]
  dsimp only
  rw [hl, hdrop]
  rfl

theorem isRounding_last (hctx : ctx.IsProper) (hc : c ≠ 0) :
    ctx.IsRounding (c * 10 ^ e) (lastCoefficient ctx c e) (lastExponent ctx c e) := by
  have hl : e ≤ lastExponent ctx c e := le_max_left _ _
  obtain ⟨hlow, hhigh⟩ := magnitude_bounds (Nat.pos_of_ne_zero hc)
  have he := ten_zpow_pos e
  have hden : 0 < Nat.pow 10 (lastExponent ctx c e - e).toNat := Nat.pow_pos (by decide)
  have hscaled : (c : ℚ) / (Nat.pow 10 (lastExponent ctx c e - e).toNat : Nat) =
      c * 10 ^ e / 10 ^ lastExponent ctx c e := by
    rw [Binary64.cast_pow_toNat 10 (by omega), Nat.cast_ofNat, div_eq_div_iff
      (ten_zpow_pos _).ne' (ten_zpow_pos _).ne', mul_assoc, ← ten_zpow_add]
    congr 2
    ring
  refine ⟨?_, ?_, ?_, ?_⟩
  · rw [← hscaled]
    exact isNearest_roundRatio c hden
  · exact (le_max_left _ _).trans (le_max_right _ _)
  · have hdigits : (digitCount c : Int) + e ≤ ctx.precision + lastExponent ctx c e := by
      unfold lastExponent
      omega
    refine lt_of_lt_of_le ?_ (ten_zpow_le hdigits)
    rw [ten_zpow_add]
    exact mul_lt_mul_of_pos_right hhigh he
  · have hprecision := hctx.precision
    rcases (show lastExponent ctx c e = e ∨ lastExponent ctx c e = ctx.tinyExponent ∨
      lastExponent ctx c e = e + digitCount c - ctx.precision by unfold lastExponent; omega)
      with hexact | hleast | hfull
    · refine .inl ?_
      rw [lastCoefficient, hexact, sub_self, Int.toNat_zero]
      show (c : ℚ) * 10 ^ e = (roundRatio c 1 : Nat) * 10 ^ e
      rw [roundRatio_one]
    · exact .inr (.inr hleast)
    · refine .inr (.inl ?_)
      rw [hfull, show ((ctx.precision - 1 : Nat) : Int) + (e + digitCount c - ctx.precision) =
        (digitCount c : Int) - 1 + e by omega, ten_zpow_add]
      exact mul_le_mul_of_nonneg_right hlow he.le

/-- A coefficient that is rounded up to a power of ten loses its last zero. -/
theorem exists_carry (hctx : ctx.IsProper) (q : Nat) (l : Int) :
    ∃ q' l', (if q = Nat.pow 10 ctx.precision then (Nat.pow 10 (ctx.precision - 1), l + 1)
        else (q, l)) = (q', l') ∧
      (q' : ℚ) * 10 ^ l' = q * 10 ^ l ∧ (q' = 0 → q = 0 ∧ l' = l) := by
  split_ifs with hq
  · refine ⟨_, _, rfl, ?_, fun h => absurd h (Nat.pow_pos (by decide)).ne'⟩
    have hpow : Nat.pow 10 ctx.precision = Nat.pow 10 (ctx.precision - 1) * 10 := by
      rw [Nat.pow_eq, Nat.pow_eq, ← Nat.pow_succ, Nat.succ_eq_add_one,
        Nat.sub_add_cancel hctx.precision]
    rw [hq, hpow, zpow_add_one₀ (by norm_num), Nat.cast_mul, Nat.cast_ofNat]
    ring
  · exact ⟨q, l, rfl, rfl, fun h => ⟨h, rfl⟩⟩

/-- A coefficient has too many digits for its exponent if and only if the number is too large. -/
theorem maxExponent_lt_iff {q : Nat} (hq : q ≠ 0) (l : Int) :
    ctx.maxExponent < l + digitCount q - 1 ↔ (10 : ℚ) ^ (ctx.maxExponent + 1) ≤ q * 10 ^ l := by
  obtain ⟨hlow, hhigh⟩ := magnitude_bounds (Nat.pos_of_ne_zero hq)
  have hl := ten_zpow_pos l
  constructor
  · intro h
    calc (10 : ℚ) ^ (ctx.maxExponent + 1) ≤ 10 ^ ((digitCount q : Int) - 1 + l) :=
          ten_zpow_le (by omega)
      _ = 10 ^ ((digitCount q : Int) - 1) * 10 ^ l := ten_zpow_add _ _
      _ ≤ q * 10 ^ l := mul_le_mul_of_nonneg_right hlow hl.le
  · intro h
    have hlt : (10 : ℚ) ^ (ctx.maxExponent + 1) < 10 ^ ((digitCount q : Int) + l) := by
      rw [ten_zpow_add (digitCount q) l]
      exact h.trans_lt (mul_lt_mul_of_pos_right hhigh hl)
    rw [Binary64.ten_zpow_lt_iff] at hlt
    omega

/-- A number is rounded unless it reaches the limit. -/
theorem round_cases (hctx : ctx.IsProper) (negative : Bool) (c : Nat) (e : Int) :
    ctx.limit ≤ c * 10 ^ e ∧ round ctx negative c e = .error .overflow ∨
      c * 10 ^ e < ctx.limit ∧ ∃ d y, round ctx negative c e = .ok d ∧
        d.toRat? = some (withSign negative y) ∧ (ctx.Writes (c * 10 ^ e) → y = c * 10 ^ e) := by
  by_cases hc : c = 0
  · subst hc
    refine .inr ⟨?_, _, _, if_pos rfl, rfl, fun _ => ?_⟩
    · rw [Nat.cast_zero, zero_mul]
      exact ctx.limit_pos
    · rw [Nat.cast_zero, zero_mul, zero_mul]
  have hrounding := isRounding_last hctx hc (e := e)
  have hx : (0 : ℚ) < c * 10 ^ e :=
    mul_pos (by exact_mod_cast Nat.pos_of_ne_zero hc) (ten_zpow_pos e)
  rw [round_eq hc, ← hrounding.limit_le_iff hctx, ← not_le, ← hrounding.limit_le_iff hctx]
  generalize lastCoefficient ctx c e = q at hrounding
  generalize lastExponent ctx c e = l at hrounding
  obtain ⟨q', l', hpair, hvalue, hzero⟩ := exists_carry hctx q l
  dsimp only
  rw [hpair, ← hvalue]
  dsimp only
  by_cases hq' : q' = 0
  · subst hq'
    obtain ⟨rfl, rfl⟩ := hzero rfl
    have hl := hrounding.eq_tinyExponent hx
    have hmax := hctx.tinyExponent_le_max
    have hno : ¬ ctx.maxExponent < l' + digitCount 0 - 1 := by
      rw [show digitCount 0 = 1 from rfl]
      omega
    refine .inr ⟨?_, _, _, if_neg hno, rfl, fun hwrites => ?_⟩
    · rw [Nat.cast_zero, zero_mul]
      exact not_le.mpr (ten_zpow_pos _)
    · exact (hrounding.eq_of_writes hx.le hwrites).symm
  · by_cases hmax : ctx.maxExponent < l' + digitCount q' - 1
    · exact .inl ⟨(maxExponent_lt_iff hq' l').mp hmax, if_pos hmax⟩
    · refine .inr ⟨fun h => hmax ((maxExponent_lt_iff hq' l').mpr h), _, _, if_neg hmax, rfl, ?_⟩
      intro hwrites
      rw [hvalue]
      exact (hrounding.eq_of_writes hx.le hwrites).symm

/-- There is no rounded number if and only if the exact one reaches the limit. -/
theorem round_eq_error_iff (hctx : ctx.IsProper) {signal : DecimalSignal} :
    round ctx negative c e = .error signal ↔ signal = .overflow ∧ ctx.limit ≤ c * 10 ^ e := by
  rcases round_cases hctx negative c e with ⟨hlimit, h⟩ | ⟨hlimit, d, y, h, -, -⟩
  · rw [h, Except.error.injEq, and_iff_left hlimit, eq_comm]
  · rw [h]
    exact iff_of_false nofun fun hno => not_le.mpr hlimit hno.2

theorem toRat?_of_round (hctx : ctx.IsProper) {d : Decimal}
    (h : round ctx negative c e = .ok d) (hwrites : ctx.Writes (c * 10 ^ e)) :
    d.toRat? = some (withSign negative (c * 10 ^ e)) := by
  rcases round_cases hctx negative c e with ⟨-, hround⟩ | ⟨-, d', y, hround, hd, hexact⟩
  · rw [hround] at h
    cases h
  · rw [hround] at h
    cases h
    rw [hd, hexact hwrites]

end

/-! ## Sums -/

section

variable {ctx : DecimalContext} {b c : Nat} {k e : Int}

/-- An operand is left as it is, or it is replaced by a unit that the other operand has many of. -/
theorem raise_cases (hctx : ctx.IsProper) (he : e ≤ k) :
    ∃ c' e', raise ctx b k c e = (c', e') ∧ e' ≤ k ∧
      ((c' : ℚ) * 10 ^ e' = c * 10 ^ e ∨
        c' = 1 ∧ (0 : ℚ) < c * 10 ^ e ∧ (c : ℚ) * 10 ^ e < 10 ^ e' ∧
          ∃ n : Nat, (b : ℚ) * 10 ^ k = n * 10 ^ e' ∧ 10 ∣ n ∧ 10 ^ (ctx.precision + 1) ≤ n) := by
  have hprecision := hctx.precision
  unfold raise
  dsimp only
  generalize hfloor : k - 1 + (if ctx.precision < digitCount b then 0
    else (digitCount b : Int) - ctx.precision - 1) = floor
  have hbelow : floor < k := by
    rw [← hfloor]
    split_ifs
    · omega
    · omega
  split_ifs with hfar hc
  · exact ⟨_, _, rfl, hbelow.le, .inl (by rw [hc, Nat.cast_zero, zero_mul, zero_mul])⟩
  · obtain ⟨hb, hfar⟩ := hfar
    obtain ⟨-, hhigh⟩ := magnitude_bounds (Nat.pos_of_ne_zero hc)
    have hpos : (0 : ℚ) < c * 10 ^ e :=
      mul_pos (by exact_mod_cast Nat.pos_of_ne_zero hc) (ten_zpow_pos e)
    refine ⟨_, _, rfl, hbelow.le, .inr ⟨rfl, hpos, ?_,
      b * 10 ^ (k - floor).toNat, ?_, ?_, ?_⟩⟩
    · calc (c : ℚ) * 10 ^ e < 10 ^ (digitCount c : Int) * 10 ^ e :=
            mul_lt_mul_of_pos_right hhigh (ten_zpow_pos e)
        _ = 10 ^ ((digitCount c : Int) + e) := (ten_zpow_add _ _).symm
        _ ≤ 10 ^ floor := ten_zpow_le (by omega)
    · rw [Nat.cast_mul, Nat.cast_pow, Nat.cast_ofNat, mul_assoc, ← ten_zpow_eq_units hbelow.le]
    · exact (dvd_pow_self 10 (by omega)).mul_left b
    · obtain ⟨hlow, -⟩ := length_toDigits_bounds (Nat.pos_of_ne_zero hb)
      calc 10 ^ (ctx.precision + 1) ≤ 10 ^ (digitCount b - 1 + (k - floor).toNat) := by
            refine Nat.pow_le_pow_right (by decide) ?_
            have hdigits : 0 < digitCount b := Nat.length_toDigits_pos
            rw [← hfloor]
            split_ifs
            · omega
            · omega
        _ = 10 ^ (digitCount b - 1) * 10 ^ (k - floor).toNat := pow_add _ _ _
        _ ≤ b * 10 ^ (k - floor).toNat := Nat.mul_le_mul_right _ hlow
  · exact ⟨c, e, rfl, he, .inl rfl⟩

theorem abs_add_withSign {x t : ℚ} (ht : 0 ≤ t) (hle : t ≤ x) (negative negative' : Bool) :
    |withSign negative x + withSign negative' t| =
      if negative = negative' then x + t else x - t := by
  have hsum : 0 ≤ x + t := by linarith
  have hdifference : 0 ≤ x - t := by linarith
  cases negative with
  | false =>
    cases negative' with
    | false => exact abs_of_nonneg hsum
    | true =>
      show |x + -t| = x - t
      rw [← sub_eq_add_neg]
      exact abs_of_nonneg hdifference
  | true =>
    cases negative' with
    | false =>
      show |-x + t| = x - t
      rw [neg_add_eq_sub, abs_sub_comm]
      exact abs_of_nonneg hdifference
    | true =>
      show |-x + -t| = x + t
      rw [← neg_add, abs_neg]
      exact abs_of_nonneg hsum

/-- A whole number is its magnitude with its sign; a zero may have either. -/
theorem withSign_natAbs {n : Int} {negative : Bool} (h : n ≠ 0 → negative = decide (n < 0)) :
    withSign negative n.natAbs = n := by
  rw [← cast_signed]
  congr 1
  by_cases hn : n = 0
  · rw [hn]
    cases negative <;> rfl
  · rw [h hn, signed]
    split_ifs with hneg
    · rw [decide_eq_true_eq] at hneg
      omega
    · rw [decide_eq_true_eq] at hneg
      omega

/-- A sum with a replaced operand is the end of a gap in which the exact sum lies. -/
theorem raised_add {n : Nat} {l : Int} {t : ℚ} (hn : 10 ∣ n) (hlong : 10 ^ (ctx.precision + 1) ≤ n)
    (htpos : 0 < t) (htlt : t < 10 ^ l) (negative negative' : Bool) :
    ctx.Raised |withSign negative (n * 10 ^ l) + withSign negative' t|
      |withSign negative (n * 10 ^ l) + withSign negative' (10 ^ l)| := by
  have hu := ten_zpow_pos l
  have hone : (1 : ℚ) ≤ n := by
    exact_mod_cast (Nat.one_le_pow _ _ (by decide)).trans hlong
  have hleast : 1 * 10 ^ l ≤ (n : ℚ) * 10 ^ l := mul_le_mul_of_nonneg_right hone hu.le
  rw [one_mul] at hleast
  refine ⟨n, l, hn, hlong, ?_⟩
  rw [abs_add_withSign htpos.le (htlt.le.trans hleast), abs_add_withSign hu.le hleast, add_mul,
    sub_mul, one_mul]
  split_ifs
  · exact .inl ⟨by linarith, by linarith, rfl⟩
  · exact .inr ⟨by linarith, by linarith, rfl⟩

/-- An aligned sum is rounded from its exact value, or from the end of a gap in which that lies. -/
theorem exists_addAligned_eq (hctx : ctx.IsProper) (he : e ≤ k) (negative negative' : Bool) :
    ∃ sign coefficient l, addAligned ctx negative b k negative' c e = round ctx sign coefficient l ∧
      (withSign sign (coefficient * 10 ^ l) =
          withSign negative (b * 10 ^ k) + withSign negative' (c * 10 ^ e) ∨
        ctx.Raised |withSign negative (b * 10 ^ k) + withSign negative' (c * 10 ^ e)|
          (coefficient * 10 ^ l)) := by
  obtain ⟨c', e', hraise, he', hvalue⟩ := raise_cases (b := b) (c := c) hctx he
  unfold addAligned
  rw [hraise]
  dsimp only
  have hshift : ((b * (if b = 0 then 0 else Nat.pow 10 (k - e').toNat) : Nat) : ℚ) * 10 ^ e' =
      b * 10 ^ k := by
    split_ifs with hb
    · rw [hb, Nat.zero_mul, Nat.cast_zero, zero_mul, zero_mul]
    · rw [Nat.cast_mul, Binary64.cast_pow_toNat 10 (by omega), Nat.cast_ofNat, mul_assoc,
        ← ten_zpow_add, sub_add_cancel]
  generalize b * (if b = 0 then 0 else Nat.pow 10 (k - e').toNat) = b' at hshift
  have hsum : ((signed negative b' + signed negative' c' : Int) : ℚ) * 10 ^ e' =
      withSign negative (b * 10 ^ k) + withSign negative' (c' * 10 ^ e') := by
    rw [Int.cast_add, cast_signed, cast_signed, add_mul, ← withSign_mul, ← withSign_mul, hshift]
  generalize signed negative b' + signed negative' c' = sum at hsum
  refine ⟨_, _, _, rfl, ?_⟩
  rcases hvalue with hvalue | ⟨rfl, hpos, hlt, n, hn, hten, hlong⟩
  · left
    rw [← hvalue, ← hsum, withSign_mul, withSign_natAbs fun hne => if_neg hne]
  · right
    rw [Nat.cast_one, one_mul] at hsum
    have habs : (sum.natAbs : ℚ) * 10 ^ e' = |(sum : ℚ) * 10 ^ e'| := by
      rw [abs_mul, abs_of_pos (ten_zpow_pos e'), Nat.cast_natAbs, Int.cast_abs]
    rw [habs, hsum, hn]
    exact raised_add hten hlong hpos hlt _ _

theorem addAligned_cases (hctx : ctx.IsProper) (he : e ≤ k) (negative negative' : Bool) {x y : ℚ}
    (hx : withSign negative (b * 10 ^ k) = x) (hy : withSign negative' (c * 10 ^ e) = y) :
    (∀ signal, addAligned ctx negative b k negative' c e = .error signal ↔
      signal = .overflow ∧ ctx.limit ≤ |x + y|) ∧
    ∀ d, addAligned ctx negative b k negative' c e = .ok d → ctx.Writes (x + y) →
      d.toRat? = some (x + y) := by
  obtain ⟨sign, coefficient, l, hadd, hvalue⟩ :=
    exists_addAligned_eq (b := b) (c := c) hctx he negative negative'
  rw [hx, hy] at hvalue
  have hpos : (0 : ℚ) ≤ coefficient * 10 ^ l :=
    mul_nonneg (Nat.cast_nonneg _) (ten_zpow_pos l).le
  rw [hadd]
  rcases hvalue with hvalue | hraised
  · have habs : |x + y| = coefficient * 10 ^ l := by
      rw [← hvalue, withSign]
      split_ifs
      · rw [abs_neg, abs_of_nonneg hpos]
      · exact abs_of_nonneg hpos
    refine ⟨fun signal => ?_, fun d hd hwrites => ?_⟩
    · rw [round_eq_error_iff hctx, habs]
    · rw [← hvalue]
      exact toRat?_of_round hctx hd (habs ▸ writes_abs hwrites)
  · refine ⟨fun signal => ?_, fun d _ hwrites => absurd (writes_abs hwrites) hraised.not_writes⟩
    rw [round_eq_error_iff hctx, hraised.limit_le_iff]

end

/-! ## Finite operands -/

section

variable {ctx : DecimalContext} {d d' : Decimal} {x y : ℚ}

theorem add_cases (hctx : ctx.IsProper) (hd : d.toRat? = some x) (hd' : d'.toRat? = some y) :
    (∀ signal, add ctx d d' = .error signal ↔ signal = .overflow ∧ ctx.limit ≤ |x + y|) ∧
    ∀ sum, add ctx d d' = .ok sum → ctx.Writes (x + y) → sum.toRat? = some (x + y) := by
  cases d with
  | infinite _ => cases hd
  | nan _ _ _ => cases hd
  | finite s c e =>
    cases d' with
    | infinite _ => cases hd'
    | nan _ _ _ => cases hd'
    | finite s' c' e' =>
      have hadd : add ctx (.finite s c e) (.finite s' c' e') =
        if e < e' then addAligned ctx s' c' e' s c e else addAligned ctx s c e s' c' e' := rfl
      rw [hadd]
      split_ifs with he
      · rw [add_comm]
        exact addAligned_cases hctx he.le _ _ (Option.some.inj hd') (Option.some.inj hd)
      · exact addAligned_cases hctx (not_lt.mp he) _ _ (Option.some.inj hd) (Option.some.inj hd')

/-- There is no sum if and only if its exact value reaches the limit. -/
theorem add_eq_error_iff (hctx : ctx.IsProper) (hd : d.toRat? = some x) (hd' : d'.toRat? = some y)
    {signal : DecimalSignal} :
    add ctx d d' = .error signal ↔ signal = .overflow ∧ ctx.limit ≤ |x + y| :=
  (add_cases hctx hd hd').1 signal

/-- A sum that the context can write is exact. -/
theorem toRat?_of_add (hctx : ctx.IsProper) (hd : d.toRat? = some x) (hd' : d'.toRat? = some y)
    {sum : Decimal} (h : add ctx d d' = .ok sum) (hwrites : ctx.Writes (x + y)) :
    sum.toRat? = some (x + y) :=
  (add_cases hctx hd hd').2 sum h hwrites

theorem sub_eq_error_iff (hctx : ctx.IsProper) (hd : d.toRat? = some x) (hd' : d'.toRat? = some y)
    {signal : DecimalSignal} :
    sub ctx d d' = .error signal ↔ signal = .overflow ∧ ctx.limit ≤ |x - y| := by
  rw [sub_eq_add_neg]
  exact add_eq_error_iff hctx hd (toRat?_negate hd')

theorem toRat?_of_sub (hctx : ctx.IsProper) (hd : d.toRat? = some x) (hd' : d'.toRat? = some y)
    {difference : Decimal} (h : sub ctx d d' = .ok difference) (hwrites : ctx.Writes (x - y)) :
    difference.toRat? = some (x - y) := by
  rw [sub_eq_add_neg] at hwrites ⊢
  exact toRat?_of_add hctx hd (toRat?_negate hd') h hwrites

end

end Decimal

end Clickstream
