import WorkflowRuns.Binary64.Shortest
import WorkflowRuns.Proofs.Binary64.Decimal

/-!
The shortest digits of a number.  The search ends with digits that are read as the number, since seventeen
digits always are.
-/

namespace WorkflowRuns.Binary64

def tenths (numerator denominator : Nat) : Int → Nat × Nat
  | .ofNat up => (numerator, denominator * Nat.pow 10 up)
  | .negSucc down => (numerator * Nat.pow 10 (down + 1), denominator)

theorem tenths_pos {numerator denominator : Nat} (positive : 0 < denominator) (e : Int) :
    0 < (tenths numerator denominator e).2 := by
  cases e with
  | ofNat up => exact Nat.mul_pos positive (pow_pos (by decide) up)
  | negSucc down => exact positive

theorem tenths_ratio (numerator denominator : Nat) (e : Int) :
    ((tenths numerator denominator e).1 : ℚ) / (tenths numerator denominator e).2 =
      numerator / denominator / 10 ^ e := by
  cases e with
  | ofNat up =>
      have power : (10 : ℚ) ^ (Int.ofNat up) = ((10 ^ up : Nat) : ℚ) := by simp
      simp only [tenths, Nat.pow_eq, power, Nat.cast_mul, div_div]
  | negSucc down =>
      have power : (10 : ℚ) ^ (Int.negSucc down) = ((10 ^ (down + 1) : Nat) : ℚ)⁻¹ := by simp
      simp only [tenths, Nat.pow_eq, power, Nat.cast_mul, div_inv_eq_mul]
      ring

theorem gridBelow_eq (numerator denominator : Nat) (e : Int) :
    gridBelow numerator denominator e =
      (tenths numerator denominator e).1 / (tenths numerator denominator e).2 := by
  cases e <;> rfl

theorem upperHalf_eq (numerator denominator : Nat) (e : Int) :
    upperHalf numerator denominator e =
      let (n, d) := tenths numerator denominator e
      decide (d < 2 * (n % d)) || (decide (d = 2 * (n % d)) && decide (n / d % 2 = 1)) := by
  cases e <;> rfl

def nearest (numerator denominator : Nat) (e : Int) : Nat :=
  if upperHalf numerator denominator e then gridBelow numerator denominator e + 1
  else gridBelow numerator denominator e

def farther (numerator denominator : Nat) (e : Int) : Nat :=
  if upperHalf numerator denominator e then gridBelow numerator denominator e
  else gridBelow numerator denominator e + 1

theorem half_away {n d : Nat} (positive : 0 < d) (upper : Bool) (low : upper = false → 2 * (n % d) ≤ d)
    (high : upper = true → d ≤ 2 * (n % d)) :
    |((if upper then n / d + 1 else n / d : Nat) : ℚ) - n / d| ≤ 1 / 2 := by
  have scale : (0 : ℚ) < d := by exact_mod_cast positive
  have split : (d : ℚ) * (n / d : Nat) + (n % d : Nat) = n := by exact_mod_cast Nat.div_add_mod n d
  have quotient : (n : ℚ) / d = (n / d : Nat) + ((n % d : Nat) : ℚ) / d := by
    rw [div_eq_iff (ne_of_gt scale), add_mul, div_mul_cancel₀ _ (ne_of_gt scale), mul_comm]
    exact split.symm
  have nonneg : (0 : ℚ) ≤ ((n % d : Nat) : ℚ) / d := by positivity
  have proper : ((n % d : Nat) : ℚ) / d ≤ 1 := by
    rw [div_le_one scale]
    exact_mod_cast (Nat.mod_lt n positive).le
  rw [quotient, abs_le]
  cases upper with
  | false =>
      have bound : ((n % d : Nat) : ℚ) / d ≤ 1 / 2 := by
        have cast : 2 * ((n % d : Nat) : ℚ) ≤ d := by exact_mod_cast low rfl
        rw [div_le_iff₀ scale]
        linarith
      simp only [Bool.false_eq_true, if_false]
      constructor <;> linarith
  | true =>
      have bound : 1 / 2 ≤ ((n % d : Nat) : ℚ) / d := by
        have cast : (d : ℚ) ≤ 2 * ((n % d : Nat) : ℚ) := by exact_mod_cast high rfl
        rw [le_div_iff₀ scale]
        linarith
      simp only [if_true]
      push_cast
      constructor <;> linarith

theorem nearest_spec {numerator denominator : Nat} (positive : 0 < denominator) (e : Int) :
    |(nearest numerator denominator e : ℚ) * 10 ^ e - numerator / denominator| ≤ 10 ^ e / 2 := by
  have power : (0 : ℚ) < 10 ^ e := by positivity
  have ratio := tenths_ratio numerator denominator e
  rw [eq_div_iff (ne_of_gt power)] at ratio
  have near : |(nearest numerator denominator e : ℚ) -
      (tenths numerator denominator e).1 / (tenths numerator denominator e).2| ≤ 1 / 2 := by
    unfold nearest
    rw [gridBelow_eq]
    apply half_away (tenths_pos positive e) <;>
    · rw [upperHalf_eq]
      intro half
      simp only [Bool.or_eq_false_iff, Bool.and_eq_false_iff, Bool.or_eq_true, Bool.and_eq_true,
        decide_eq_false_iff_not, decide_eq_true_eq] at half
      omega
  rw [← ratio, ← sub_mul, abs_mul, abs_of_pos power]
  linarith [mul_le_mul_of_nonneg_right near power.le]

theorem le_gridBelow {numerator denominator : Nat} (positive : 0 < denominator) {e : Int} {k : Nat}
    (above : k ≤ gridBelow numerator denominator e) : (k : ℚ) * 10 ^ e ≤ numerator / denominator := by
  have power : (0 : ℚ) < 10 ^ e := by positivity
  have scale : (0 : ℚ) < (tenths numerator denominator e).2 := by exact_mod_cast tenths_pos positive e
  rw [gridBelow_eq, Nat.le_div_iff_mul_le (tenths_pos positive e)] at above
  rw [← le_div_iff₀ power, ← tenths_ratio, le_div_iff₀ scale]
  exact_mod_cast above

theorem leadingExponent_le {numerator denominator : Nat} (nonzero : 0 < numerator) (positive : 0 < denominator) :
    (10 : ℚ) ^ leadingExponent numerator denominator ≤ numerator / denominator := by
  have below : (0 : ℚ) < denominator := by exact_mod_cast positive
  simp only [leadingExponent]
  split
  next whole =>
    have size := (decimalSize_spec whole 0).1
    rw [decimalSize, zpow_zero, mul_one, add_zero] at size
    refine size.trans ?_
    rw [le_div_iff₀ below]
    exact_mod_cast Nat.div_mul_le_self numerator denominator
  next fractional =>
    generalize length : (Nat.toDigits 10 (denominator / numerator)).length = count
    have estimate : (10 : ℚ) ^ (-(count : Int)) ≤ numerator / denominator := by
      have some := Nat.length_toDigits_pos (b := 10) (n := denominator / numerator)
      have inverse := (Nat.length_toDigits_le_iff (b := 10) (by decide) some).mp le_rfl
      rw [length, Nat.div_lt_iff_lt_mul nonzero] at inverse
      rw [zpow_neg, zpow_natCast, le_div_iff₀ below, inv_mul_le_iff₀ (by positivity)]
      exact_mod_cast inverse.le
    split
    · refine le_trans ?_ estimate
      exact zpow_le_zpow_right₀ (by norm_num) (by omega)
    · split
      next high =>
        have bound := le_gridBelow positive high
        rw [zpow_add_one₀ (by norm_num), mul_comm]
        exact_mod_cast bound
      next => exact estimate

section Search

variable {significand numerator denominator : Nat} {exponent leading : Int}

theorem searchDigits_succ (fuel count : Nat) :
    searchDigits significand exponent numerator denominator leading (fuel + 1) count =
      let grid := leading - count
      if ofDecimal false (nearest numerator denominator grid) grid = .finite false significand exponent then
        (nearest numerator denominator grid, grid)
      else if ofDecimal false (farther numerator denominator grid) grid = .finite false significand exponent then
        (farther numerator denominator grid, grid)
      else searchDigits significand exponent numerator denominator leading fuel (count + 1) := by
  rw [searchDigits]
  simp only [beq_iff_eq]
  rfl

theorem searchDigits_reads (fuel count : Nat)
    (last : ofDecimal false (nearest numerator denominator (leading - (count + fuel : Nat)))
      (leading - (count + fuel : Nat)) = .finite false significand exponent) :
    ofDecimal false (searchDigits significand exponent numerator denominator leading (fuel + 1) count).1
        (searchDigits significand exponent numerator denominator leading (fuel + 1) count).2 =
      .finite false significand exponent := by
  induction fuel generalizing count with
  | zero =>
      rw [Nat.add_zero] at last
      rw [searchDigits_succ]
      simp only [if_pos last]
      exact last
  | succ fuel ih =>
      rw [searchDigits_succ]
      simp only
      split
      next reads => exact reads
      next =>
        split
        next reads => exact reads
        next =>
          apply ih (count + 1)
          have same : count + 1 + fuel = count + (fuel + 1) := by omega
          rw [same]
          exact last

end Search

theorem nearest_seventeen {numerator denominator : Nat} (nonzero : 0 < numerator) (positive : 0 < denominator) :
    |(nearest numerator denominator (leadingExponent numerator denominator - 16) : ℚ) *
        10 ^ (leadingExponent numerator denominator - 16) - numerator / denominator| <
      numerator / denominator / 2 ^ 54 := by
  have leads := leadingExponent_le nonzero positive
  have some : (0 : ℚ) < 10 ^ leadingExponent numerator denominator := by positivity
  have grid : (10 : ℚ) ^ (leadingExponent numerator denominator - 16) =
      10 ^ leadingExponent numerator denominator / 10 ^ 16 := by
    rw [zpow_sub₀ (by norm_num)]
    norm_num
  calc _ ≤ (10 : ℚ) ^ (leadingExponent numerator denominator - 16) / 2 := nearest_spec positive _
    _ = 10 ^ leadingExponent numerator denominator / (2 * 10 ^ 16) := by
        rw [grid]
        ring
    _ < 10 ^ leadingExponent numerator denominator / 2 ^ 54 := by
        apply div_lt_div_of_pos_left some (by norm_num)
        norm_num
    _ ≤ numerator / denominator / 2 ^ 54 := by gcongr

theorem num_div_den {q : ℚ} (positive : 0 < q) : (q.num.natAbs : ℚ) / q.den = q := by
  have sign : ((q.num.natAbs : Int) : ℚ) = q.num := by
    rw [Int.natAbs_of_nonneg (Rat.num_nonneg.mpr positive.le)]
  rw [← Int.cast_natCast, sign, Rat.num_div_den]

theorem shortestDigits_reads {significand : Nat} {exponent : Int} (nonzero : 0 < significand)
    (canonical : (Binary64.finite false significand exponent).Canonical) :
    ofDecimal false (shortestDigits significand exponent).1 (shortestDigits significand exponent).2 =
      .finite false significand exponent := by
  have value := magnitude_eq significand exponent
  have positive : 0 < magnitude significand exponent := by
    rw [value]
    have unit := two_pow_pos exponent
    positivity
  unfold shortestDigits
  simp only
  generalize magnitude significand exponent = q at value positive
  have numerator : 0 < q.num.natAbs := Int.natAbs_pos.mpr (Rat.num_pos.mpr positive).ne'
  have ratio := (num_div_den positive).trans value
  have close := nearest_seventeen numerator q.den_pos
  rw [ratio] at close
  have some : 0 < nearest q.num.natAbs q.den (leadingExponent q.num.natAbs q.den - 16) := by
    rw [← value] at close
    rcases Nat.eq_zero_or_pos (nearest q.num.natAbs q.den (leadingExponent q.num.natAbs q.den - 16)) with none | some
    · rw [none, Nat.cast_zero, zero_mul, zero_sub, abs_neg, abs_of_pos positive] at close
      have part : q / 2 ^ 54 < q := div_lt_self positive (by norm_num)
      exact absurd close part.le.not_gt
    · exact some
  exact searchDigits_reads 16 0 (ofDecimal_near false some nonzero canonical close)

theorem stripZeros_value (negative : Bool) (fuel digits : Nat) (exponent : Int) :
    ofDecimal negative (stripZeros fuel digits exponent).1 (stripZeros fuel digits exponent).2 =
      ofDecimal negative digits exponent := by
  induction fuel generalizing digits exponent with
  | zero => rfl
  | succ fuel ih =>
      rw [stripZeros]
      split
      next zero =>
        have whole : digits = 10 * (digits / 10) := by omega
        rw [ih, ← ofDecimal_ten_mul, ← whole]
      next => rfl

theorem stripZeros_pos {digits : Nat} (positive : 0 < digits) (fuel : Nat) (exponent : Int) :
    0 < (stripZeros fuel digits exponent).1 := by
  induction fuel generalizing digits exponent with
  | zero => exact positive
  | succ fuel ih =>
      rw [stripZeros]
      split
      next zero => exact ih (by omega) _
      next => exact positive

/-- The digits that are written for a number are read as the number. -/
theorem writtenDigits_read {negative : Bool} {significand : Nat} {exponent : Int} (nonzero : 0 < significand)
    (canonical : (Binary64.finite negative significand exponent).Canonical) :
    let digits := stripZeros 20 (shortestDigits significand exponent).1 (shortestDigits significand exponent).2
    0 < digits.1 ∧ ofDecimal negative digits.1 digits.2 = .finite negative significand exponent := by
  have unsigned : (Binary64.finite false significand exponent).Canonical := canonical
  have reads := shortestDigits_reads nonzero unsigned
  have positive : 0 < (shortestDigits significand exponent).1 := by
    rcases Nat.eq_zero_or_pos (shortestDigits significand exponent).1 with zero | positive
    · rw [zero] at reads
      injection reads with _ same
      omega
    · exact positive
  refine ⟨stripZeros_pos positive 20 _, ?_⟩
  rw [stripZeros_value, ofDecimal_signed, reads]
  rfl

end WorkflowRuns.Binary64
