import Mathlib.Algebra.Order.Field.Power
import Mathlib.Tactic.Linarith
import Mathlib.Tactic.NormNum
import Mathlib.Tactic.Positivity
import Mathlib.Tactic.Ring
import WorkflowRuns.Binary64

/-!
The rounding of quotients.  A rounded quotient is a number of the format, and no number of the
format that is below a quotient is above its rounding.
-/

namespace WorkflowRuns.Binary64

theorem two_pow_pos (e : Int) : (0 : ℚ) < 2 ^ e := by positivity

theorem pow_pos {base : Nat} (positive : 0 < base) (exponent : Nat) : 0 < Nat.pow base exponent :=
  Nat.pow_pos positive

theorem rescale_pos {numerator denominator : Nat} (positive : 0 < denominator) (e : Int) :
    0 < (rescale numerator denominator e).2 := by
  cases e with
  | ofNat up => exact Nat.mul_pos positive (pow_pos two_pos up)
  | negSucc down => exact positive

theorem rescale_ratio (numerator denominator : Nat) (e : Int) :
    ((rescale numerator denominator e).1 : ℚ) / (rescale numerator denominator e).2 =
      numerator / denominator / 2 ^ e := by
  cases e with
  | ofNat up =>
      have power : (2 : ℚ) ^ (Int.ofNat up) = ((2 ^ up : Nat) : ℚ) := by simp
      simp only [rescale, Nat.pow_eq, power, Nat.cast_mul, div_div]
  | negSucc down =>
      have power : (2 : ℚ) ^ (Int.negSucc down) = ((2 ^ (down + 1) : Nat) : ℚ)⁻¹ := by simp
      simp only [rescale, Nat.pow_eq, power, Nat.cast_mul, div_inv_eq_mul]
      ring

theorem rescale_lt_iff (numerator : Nat) {denominator : Nat} (positive : 0 < denominator)
    (e : Int) :
    (rescale numerator denominator e).1 < (rescale numerator denominator e).2 ↔
      (numerator : ℚ) / denominator < 2 ^ e := by
  have below : (0 : ℚ) < (rescale numerator denominator e).2 := by
    exact_mod_cast rescale_pos positive e
  rw [← div_lt_one (two_pow_pos e), ← rescale_ratio, div_lt_one below, Nat.cast_lt]

theorem binade_spec {numerator denominator : Nat} (nonzero : 0 < numerator)
    (positive : 0 < denominator) :
    (2 : ℚ) ^ binade numerator denominator ≤ numerator / denominator ∧
      (numerator : ℚ) / denominator < 2 ^ (binade numerator denominator + 1) := by
  have below : (0 : ℚ) < denominator := by exact_mod_cast positive
  have lowNumerator : ((2 : ℚ) ^ (numerator.log2 : Int)) ≤ numerator := by
    exact_mod_cast Nat.log2_self_le (Nat.ne_of_gt nonzero)
  have highNumerator : (numerator : ℚ) < 2 ^ ((numerator.log2 : Int) + 1) := by
    exact_mod_cast Nat.lt_log2_self
  have lowDenominator : ((2 : ℚ) ^ (denominator.log2 : Int)) ≤ denominator := by
    exact_mod_cast Nat.log2_self_le (Nat.ne_of_gt positive)
  have highDenominator : (denominator : ℚ) < 2 ^ ((denominator.log2 : Int) + 1) := by
    exact_mod_cast Nat.lt_log2_self
  have low : (2 : ℚ) ^ ((numerator.log2 : Int) - denominator.log2 - 1) ≤ numerator / denominator := by
    rw [le_div_iff₀ below]
    calc (2 : ℚ) ^ ((numerator.log2 : Int) - denominator.log2 - 1) * denominator
        ≤ 2 ^ ((numerator.log2 : Int) - denominator.log2 - 1) *
            2 ^ ((denominator.log2 : Int) + 1) := by
          exact mul_le_mul_of_nonneg_left highDenominator.le (two_pow_pos _).le
      _ = 2 ^ (numerator.log2 : Int) := by
          rw [← zpow_add₀ two_ne_zero]
          congr 1
          ring
      _ ≤ numerator := lowNumerator
  have high : (numerator : ℚ) / denominator < 2 ^ ((numerator.log2 : Int) - denominator.log2 + 1) := by
    rw [div_lt_iff₀ below]
    calc (numerator : ℚ) < 2 ^ ((numerator.log2 : Int) + 1) := highNumerator
      _ = 2 ^ ((numerator.log2 : Int) - denominator.log2 + 1) * 2 ^ (denominator.log2 : Int) := by
          rw [← zpow_add₀ two_ne_zero]
          congr 1
          ring
      _ ≤ 2 ^ ((numerator.log2 : Int) - denominator.log2 + 1) * denominator := by
          exact mul_le_mul_of_nonneg_left lowDenominator (two_pow_pos _).le
  have estimated := rescale_lt_iff numerator positive
    ((numerator.log2 : Int) - denominator.log2)
  simp only [binade]
  split
  next smaller =>
    refine ⟨low, ?_⟩
    rw [sub_add_cancel]
    exact estimated.mp smaller
  next larger => exact ⟨not_lt.mp (mt estimated.mpr larger), high⟩

theorem le_roundQuotient {numerator denominator k : Nat} (positive : 0 < denominator)
    (below : k * denominator ≤ numerator) : k ≤ roundQuotient numerator denominator := by
  have floor : k ≤ numerator / denominator := (Nat.le_div_iff_mul_le positive).mpr below
  simp only [roundQuotient]
  split
  · exact floor
  · split <;> omega

theorem roundQuotient_le {numerator denominator k : Nat} (positive : 0 < denominator)
    (above : numerator ≤ k * denominator) : roundQuotient numerator denominator ≤ k := by
  have split := Nat.div_add_mod numerator denominator
  have floor : numerator / denominator ≤ k := by
    rw [Nat.div_le_iff_le_mul positive]
    omega
  rcases Nat.lt_or_eq_of_le floor with smaller | equal
  · simp only [roundQuotient]
    split
    · exact floor
    · split <;> omega
  · have whole : numerator % denominator = 0 := by
      rw [equal, Nat.mul_comm] at split
      omega
    simp only [roundQuotient, whole]
    rw [if_pos (by omega)]
    exact floor

/-- The numbers of the format: 53 binary digits above the least exponent. -/
def IsDouble : Binary64 → Prop
  | .finite _ significand exponent =>
      significand < 2 ^ precision ∧ leastExponent ≤ exponent ∧ exponent ≤ greatestExponent
  | _ => True

def pack (negative : Bool) (significand : Nat) (exponent : Int) : Binary64 :=
  let (significand, exponent) :=
    if significand = Nat.pow 2 precision then (Nat.pow 2 (precision - 1), exponent + 1)
    else (significand, exponent)
  if greatestExponent < exponent then .infinite negative else .finite negative significand exponent

/-- The exponent that leaves 53 digits of a quotient, as far as the format goes. -/
def quotientExponent (numerator denominator : Nat) : Int :=
  max leastExponent (binade numerator denominator - (precision - 1))

def quotientSignificand (numerator denominator : Nat) : Nat :=
  roundQuotient (rescale numerator denominator (quotientExponent numerator denominator)).1
    (rescale numerator denominator (quotientExponent numerator denominator)).2

theorem roundNat_eq (negative : Bool) {numerator : Nat} (nonzero : 0 < numerator)
    (denominator : Nat) : roundNat negative numerator denominator =
      pack negative (quotientSignificand numerator denominator)
        (quotientExponent numerator denominator) := by
  unfold roundNat
  rw [if_neg (Nat.ne_of_gt nonzero)]
  rfl

theorem quotientSignificand_le {numerator denominator : Nat} (nonzero : 0 < numerator)
    (positive : 0 < denominator) :
    quotientSignificand numerator denominator ≤ 2 ^ precision := by
  have below : (0 : ℚ) < (rescale numerator denominator
      (quotientExponent numerator denominator)).2 := by
    exact_mod_cast rescale_pos positive _
  apply roundQuotient_le (rescale_pos positive _)
  have bound : ((rescale numerator denominator (quotientExponent numerator denominator)).1 : ℚ) /
      (rescale numerator denominator (quotientExponent numerator denominator)).2 ≤
        ((2 ^ precision : Nat) : ℚ) := by
    rw [rescale_ratio, div_le_iff₀ (two_pow_pos _)]
    calc (numerator : ℚ) / denominator
        ≤ 2 ^ (binade numerator denominator + 1) := (binade_spec nonzero positive).2.le
      _ ≤ 2 ^ ((precision : Int) + quotientExponent numerator denominator) := by
          apply zpow_le_zpow_right₀ (by norm_num)
          simp only [quotientExponent, precision]
          omega
      _ = ((2 ^ precision : Nat) : ℚ) * 2 ^ quotientExponent numerator denominator := by
          rw [zpow_add₀ two_ne_zero, zpow_natCast]
          push_cast
          rfl
  rw [div_le_iff₀ below] at bound
  exact_mod_cast bound

theorem pack_isDouble (negative : Bool) {significand : Nat} {exponent : Int}
    (digits : significand ≤ 2 ^ precision) (least : leastExponent ≤ exponent) :
    (pack negative significand exponent).IsDouble := by
  simp only [pack]
  by_cases carried : significand = Nat.pow 2 precision
  · rw [if_pos carried]
    simp only
    split
    · trivial
    · refine ⟨by decide, by omega, by omega⟩
  · rw [if_neg carried]
    simp only
    split
    · trivial
    · refine ⟨?_, least, by omega⟩
      exact Nat.lt_of_le_of_ne digits carried

theorem roundNat_isDouble (negative : Bool) (numerator : Nat) {denominator : Nat}
    (positive : 0 < denominator) : (roundNat negative numerator denominator).IsDouble := by
  rcases Nat.eq_zero_or_pos numerator with zero | nonzero
  · rw [zero]
    exact ⟨by decide, by decide, by decide⟩
  · rw [roundNat_eq negative nonzero]
    exact pack_isDouble negative (quotientSignificand_le nonzero positive) (le_max_left _ _)

theorem le_quotientSignificand {numerator denominator k : Nat} (positive : 0 < denominator)
    (below : (k : ℚ) * 2 ^ quotientExponent numerator denominator ≤ numerator / denominator) :
    k ≤ quotientSignificand numerator denominator := by
  have scale : (0 : ℚ) < (rescale numerator denominator
      (quotientExponent numerator denominator)).2 := by
    exact_mod_cast rescale_pos positive _
  apply le_roundQuotient (rescale_pos positive _)
  rw [← le_div_iff₀ (two_pow_pos _), ← rescale_ratio, le_div_iff₀ scale] at below
  exact_mod_cast below

theorem le_rounded {numerator denominator significand : Nat} {exponent : Int}
    (nonzero : 0 < numerator) (positive : 0 < denominator)
    (digits : significand < 2 ^ precision) (least : leastExponent ≤ exponent)
    (below : (significand : ℚ) * 2 ^ exponent ≤ numerator / denominator) :
    (significand : ℚ) * 2 ^ exponent ≤
      quotientSignificand numerator denominator * 2 ^ quotientExponent numerator denominator := by
  by_cases coarse : quotientExponent numerator denominator ≤ exponent
  · obtain ⟨shift, rfl⟩ := Int.le.dest coarse
    have whole : (significand : ℚ) * 2 ^ (quotientExponent numerator denominator + shift) =
        ((significand * 2 ^ shift : Nat) : ℚ) * 2 ^ quotientExponent numerator denominator := by
      rw [zpow_add₀ two_ne_zero, zpow_natCast]
      push_cast
      ring
    rw [whole] at below ⊢
    have bound := le_quotientSignificand positive below
    exact mul_le_mul_of_nonneg_right (by exact_mod_cast bound) (two_pow_pos _).le
  -- The exponent of the quotient leaves 53 digits, so that its significand has 53.
  · have full : quotientExponent numerator denominator = binade numerator denominator - 52 := by
      simp only [quotientExponent, precision] at coarse ⊢
      omega
    have normal : 2 ^ 52 ≤ quotientSignificand numerator denominator := by
      apply le_quotientSignificand positive
      calc ((2 ^ 52 : Nat) : ℚ) * 2 ^ quotientExponent numerator denominator
          = 2 ^ binade numerator denominator := by
            rw [full, Nat.cast_pow, Nat.cast_ofNat, ← zpow_natCast, ← zpow_add₀ two_ne_zero]
            congr 1
            push_cast
            ring
        _ ≤ numerator / denominator := (binade_spec nonzero positive).1
    calc (significand : ℚ) * 2 ^ exponent
        ≤ (2 ^ 53 : Nat) * 2 ^ exponent := by
          have bound : (significand : ℚ) ≤ (2 ^ 53 : Nat) := by exact_mod_cast digits.le
          exact mul_le_mul_of_nonneg_right bound (two_pow_pos _).le
      _ = (2 ^ 52 : Nat) * 2 ^ (exponent + 1) := by
          rw [zpow_add_one₀ two_ne_zero]
          push_cast
          ring
      _ ≤ (2 ^ 52 : Nat) * 2 ^ quotientExponent numerator denominator := by
          have finer : (2 : ℚ) ^ (exponent + 1) ≤ 2 ^ quotientExponent numerator denominator :=
            zpow_le_zpow_right₀ (by norm_num) (by omega)
          exact mul_le_mul_of_nonneg_left finer (Nat.cast_nonneg _)
      _ ≤ quotientSignificand numerator denominator * 2 ^ quotientExponent numerator denominator := by
          exact mul_le_mul_of_nonneg_right (by exact_mod_cast normal) (two_pow_pos _).le

end WorkflowRuns.Binary64
