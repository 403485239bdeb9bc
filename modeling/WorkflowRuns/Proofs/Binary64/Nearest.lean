import WorkflowRuns.Proofs.Binary64.Canonical

/-!
Quotients and the numbers nearest to them.  Rounding depends on the quotient alone, and a quotient that is
close enough to a number of the format is rounded to it.
-/

namespace WorkflowRuns.Binary64

theorem binade_unique {numerator denominator : Nat} (nonzero : 0 < numerator) (positive : 0 < denominator)
    {b : Int} (low : (2 : ℚ) ^ b ≤ numerator / denominator) (high : (numerator : ℚ) / denominator < 2 ^ (b + 1)) :
    binade numerator denominator = b := by
  obtain ⟨low', high'⟩ := binade_spec nonzero positive
  have below := (zpow_lt_zpow_iff_right₀ (one_lt_two (α := ℚ))).mp (low.trans_lt high')
  have above := (zpow_lt_zpow_iff_right₀ (one_lt_two (α := ℚ))).mp (low'.trans_lt high)
  omega

theorem roundQuotient_scale {factor : Nat} (nonzero : 0 < factor) (numerator denominator : Nat) :
    roundQuotient (factor * numerator) (factor * denominator) = roundQuotient numerator denominator := by
  have less : ∀ a b : Nat, 2 * (factor * a) < factor * b ↔ 2 * a < b := by
    intro a b
    rw [Nat.mul_left_comm, Nat.mul_lt_mul_left nonzero]
  have greater : ∀ a b : Nat, factor * b < 2 * (factor * a) ↔ b < 2 * a := by
    intro a b
    rw [Nat.mul_left_comm, Nat.mul_lt_mul_left nonzero]
  simp only [roundQuotient, Nat.mul_div_mul_left _ _ nonzero, Nat.mul_mod_mul_left, less, greater]

theorem rescale_scale (factor numerator denominator : Nat) (e : Int) :
    rescale (factor * numerator) (factor * denominator) e =
      (factor * (rescale numerator denominator e).1, factor * (rescale numerator denominator e).2) := by
  cases e <;> simp [rescale, Nat.mul_assoc]

theorem roundNat_scale (negative : Bool) {factor numerator denominator : Nat} (nonzero : 0 < factor)
    (positive : 0 < denominator) :
    roundNat negative (factor * numerator) (factor * denominator) = roundNat negative numerator denominator := by
  rcases Nat.eq_zero_or_pos numerator with rfl | above
  · simp [roundNat]
  · have ratio : ((factor * numerator : Nat) : ℚ) / (factor * denominator : Nat) = numerator / denominator := by
      push_cast
      exact mul_div_mul_left _ _ (by exact_mod_cast Nat.ne_of_gt nonzero)
    have spec := binade_spec above positive
    rw [← ratio] at spec
    have binades := binade_unique (Nat.mul_pos nonzero above) (Nat.mul_pos nonzero positive) spec.1 spec.2
    have exponents : quotientExponent (factor * numerator) (factor * denominator) =
        quotientExponent numerator denominator := by
      rw [quotientExponent, binades, quotientExponent]
    have significands : quotientSignificand (factor * numerator) (factor * denominator) =
        quotientSignificand numerator denominator := by
      rw [quotientSignificand, exponents, rescale_scale, roundQuotient_scale nonzero, quotientSignificand]
    rw [roundNat_eq negative (Nat.mul_pos nonzero above), roundNat_eq negative above, exponents, significands]

theorem roundQuotient_near {numerator denominator k : Nat}
    (below : denominator * (2 * k) < 2 * numerator + denominator)
    (above : 2 * numerator < denominator * (2 * k + 1)) : roundQuotient numerator denominator = k := by
  have positive : 0 < denominator := by
    rcases Nat.eq_zero_or_pos denominator with rfl | positive
    · simp at above
    · exact positive
  have split := Nat.div_add_mod numerator denominator
  have small := Nat.mod_lt numerator positive
  unfold roundQuotient
  generalize numerator / denominator = q at split ⊢
  generalize numerator % denominator = r at split small ⊢
  -- Both bounds are bounds of `2 * q` and `2 * k` once the factor is cancelled.
  have low : denominator * (2 * k) < denominator * (2 * q + 1) + 2 * r := by
    calc denominator * (2 * k) < 2 * numerator + denominator := below
      _ = denominator * (2 * q + 1) + 2 * r := by
          rw [← split]
          ring
  have high : denominator * (2 * q) + 2 * r < denominator * (2 * k + 1) := by
    calc denominator * (2 * q) + 2 * r = 2 * numerator := by
          rw [← split]
          ring
      _ < denominator * (2 * k + 1) := above
  have cancel : ∀ {a b : Nat}, denominator * a < denominator * b → a < b := Nat.lt_of_mul_lt_mul_left
  have lowStep : 2 * k < 2 * q + 3 := cancel (by linarith)
  have highStep : 2 * q < 2 * k + 1 := cancel (by linarith)
  simp only
  split_ifs with down up
  · have lower : 2 * k < 2 * q + 2 := cancel (by linarith)
    omega
  · have upper : 2 * q + 1 < 2 * k + 1 := cancel (by linarith)
    omega
  · have lower : 2 * k < 2 * q + 2 := cancel (by linarith)
    have upper : 2 * q + 1 < 2 * k + 1 := cancel (by linarith)
    omega

theorem quotientSignificand_near {numerator denominator k : Nat} (positive : 0 < denominator)
    (below : ((k : ℚ) - 1 / 2) * 2 ^ quotientExponent numerator denominator < numerator / denominator)
    (above : (numerator : ℚ) / denominator < (k + 1 / 2) * 2 ^ quotientExponent numerator denominator) :
    quotientSignificand numerator denominator = k := by
  have scale : (0 : ℚ) < (rescale numerator denominator (quotientExponent numerator denominator)).2 := by
    exact_mod_cast rescale_pos positive _
  rw [← lt_div_iff₀ (two_pow_pos _), ← rescale_ratio, lt_div_iff₀ scale] at below
  rw [← div_lt_iff₀ (two_pow_pos _), ← rescale_ratio, div_lt_iff₀ scale] at above
  unfold quotientSignificand
  generalize rescale numerator denominator (quotientExponent numerator denominator) = scaled at below above ⊢
  apply roundQuotient_near
  · have cleared : (scaled.2 : ℚ) * (2 * k) < 2 * scaled.1 + scaled.2 := by linarith
    exact_mod_cast cleared
  · have cleared : 2 * (scaled.1 : ℚ) < scaled.2 * (2 * k + 1) := by linarith
    exact_mod_cast cleared

theorem pack_short (negative : Bool) {significand : Nat} {exponent : Int} (short : significand < 2 ^ precision)
    (greatest : exponent ≤ greatestExponent) :
    pack negative significand exponent = .finite negative significand exponent := by
  have uncarried : significand ≠ Nat.pow 2 precision := Nat.ne_of_lt short
  simp only [pack, if_neg uncarried, if_neg (not_lt.mpr greatest)]

theorem pack_carried (negative : Bool) {exponent : Int} (greatest : exponent + 1 ≤ greatestExponent) :
    pack negative (2 ^ precision) exponent = .finite negative (2 ^ (precision - 1)) (exponent + 1) := by
  have carried : 2 ^ precision = Nat.pow 2 precision := rfl
  simp only [pack, if_pos carried, if_neg (not_lt.mpr greatest)]
  rfl

theorem two_pow_add_52 (e : Int) : (2 : ℚ) ^ (e + 52) = 2 ^ 52 * 2 ^ e := by
  rw [zpow_add₀ two_ne_zero]
  norm_num
  ring

section Exponents

variable {numerator denominator : Nat} (above : 0 < numerator) (positive : 0 < denominator)

include above positive

theorem quotientExponent_normal {e : Int} (least : leastExponent ≤ e)
    (low : 2 ^ 52 * 2 ^ e ≤ (numerator : ℚ) / denominator) (high : (numerator : ℚ) / denominator < 2 ^ 53 * 2 ^ e) :
    quotientExponent numerator denominator = e := by
  have next : (2 : ℚ) ^ (e + 52 + 1) = 2 ^ 53 * 2 ^ e := by
    rw [zpow_add_one₀ two_ne_zero, two_pow_add_52]
    ring
  rw [← two_pow_add_52] at low
  rw [← next] at high
  rw [quotientExponent, binade_unique above positive low high, precision]
  omega

theorem quotientExponent_subnormal (high : (numerator : ℚ) / denominator < 2 ^ 52 * 2 ^ leastExponent) :
    quotientExponent numerator denominator = leastExponent := by
  have below : binade numerator denominator < leastExponent + 52 := by
    apply (zpow_lt_zpow_iff_right₀ (one_lt_two (α := ℚ))).mp
    rw [two_pow_add_52]
    exact (binade_spec above positive).1.trans_lt high
  rw [quotientExponent, precision]
  omega

theorem roundNat_carried (negative : Bool) {exponent : Int} (least : leastExponent < exponent)
    (greatest : exponent ≤ greatestExponent)
    (low : (2 ^ 53 - 1 / 2) * 2 ^ (exponent - 1) < (numerator : ℚ) / denominator)
    (high : (numerator : ℚ) / denominator < 2 ^ 53 * 2 ^ (exponent - 1)) :
    roundNat negative numerator denominator = .finite negative (2 ^ 52) exponent := by
  have unit := two_pow_pos (exponent - 1)
  have exponents : quotientExponent numerator denominator = exponent - 1 :=
    quotientExponent_normal above positive (by omega) (by linarith) high
  have carried : quotientSignificand numerator denominator = 2 ^ precision := by
    apply quotientSignificand_near positive
    · rw [exponents, precision]
      push_cast
      exact low
    · rw [exponents, precision]
      push_cast
      linarith
  rw [roundNat_eq negative above, carried, exponents, pack_carried negative (by omega)]
  norm_num [precision]

end Exponents

/-- A quotient that differs from a number by less than one part in `2 ^ 54` is rounded to that number. -/
theorem roundNat_near (negative : Bool) {numerator denominator significand : Nat} {exponent : Int}
    (positive : 0 < denominator) (nonzero : 0 < significand)
    (canonical : (Binary64.finite negative significand exponent).Canonical)
    (near : |(numerator : ℚ) / denominator - significand * 2 ^ exponent| < significand * 2 ^ exponent / 2 ^ 54) :
    roundNat negative numerator denominator = .finite negative significand exponent := by
  obtain ⟨short, least, greatest, full⟩ := canonical
  obtain ⟨low, high⟩ := abs_lt.mp near
  have unit := two_pow_pos exponent
  have large : (1 : ℚ) ≤ significand := by exact_mod_cast nonzero
  have digits : (significand : ℚ) + 1 ≤ 2 ^ 53 := by exact_mod_cast short
  have closeHigh : (numerator : ℚ) / denominator < (significand + 1 / 2) * 2 ^ exponent := by nlinarith
  have closeLow : ((significand : ℚ) - 1 / 2) * 2 ^ exponent < numerator / denominator := by nlinarith
  have above : 0 < numerator := by
    rcases Nat.eq_zero_or_pos numerator with rfl | above
    · simp only [Nat.cast_zero, zero_div] at closeLow
      nlinarith
    · exact above
  have settled (same : quotientExponent numerator denominator = exponent) :
      roundNat negative numerator denominator = .finite negative significand exponent := by
    rw [← same] at closeLow closeHigh
    rw [roundNat_eq negative above, quotientSignificand_near positive closeLow closeHigh, same,
      pack_short negative short greatest]
  by_cases inside : 2 ^ 52 * 2 ^ exponent ≤ (numerator : ℚ) / denominator
  · exact settled (quotientExponent_normal above positive least inside (by nlinarith))
  · rw [not_le] at inside
    by_cases subnormal : exponent = leastExponent
    · rw [subnormal] at inside
      exact settled ((quotientExponent_subnormal above positive inside).trans subnormal.symm)
    · have normal : 2 ^ 52 ≤ significand := full.resolve_right subnormal
      have power : significand = 2 ^ 52 := by
        have bound : (significand : ℚ) < 2 ^ 52 + 1 := by nlinarith
        have bounded : significand < 2 ^ 52 + 1 := by exact_mod_cast bound
        omega
      have halved : (2 : ℚ) ^ exponent = 2 * 2 ^ (exponent - 1) := by
        rw [zpow_sub_one₀ two_ne_zero]
        ring
      have cast : (significand : ℚ) = 2 ^ 52 := by exact_mod_cast power
      rw [cast, halved] at low
      rw [halved] at inside
      rw [power]
      exact roundNat_carried above positive negative (lt_of_le_of_ne least (Ne.symm subnormal)) greatest
        (by linarith) (by linarith)

end WorkflowRuns.Binary64
