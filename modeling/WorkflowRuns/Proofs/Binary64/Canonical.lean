import WorkflowRuns.Proofs.Binary64.Bounds

/-!
Rounding in one form.  A rounded quotient has all digits of its significand unless its exponent is the
least one, and depends on the quotient alone.
-/

namespace WorkflowRuns.Binary64

/-- The numbers of the format in their one form: the significand has all its digits, or the exponent is
the least one. -/
def Canonical : Binary64 → Prop
  | .finite _ significand exponent =>
      significand < 2 ^ precision ∧ leastExponent ≤ exponent ∧ exponent ≤ greatestExponent ∧
        (2 ^ (precision - 1) ≤ significand ∨ exponent = leastExponent)
  | _ => True

theorem pack_canonical (negative : Bool) {significand : Nat} {exponent : Int}
    (digits : significand ≤ 2 ^ precision) (least : leastExponent ≤ exponent)
    (full : 2 ^ (precision - 1) ≤ significand ∨ exponent = leastExponent) :
    (pack negative significand exponent).Canonical := by
  simp only [pack]
  by_cases carried : significand = Nat.pow 2 precision
  · rw [if_pos carried]
    simp only
    split
    · trivial
    · exact ⟨by decide, by omega, by omega, Or.inl le_rfl⟩
  · rw [if_neg carried]
    simp only
    split
    · trivial
    · exact ⟨Nat.lt_of_le_of_ne digits carried, least, by omega, full⟩

theorem quotientSignificand_full {numerator denominator : Nat} (nonzero : 0 < numerator)
    (positive : 0 < denominator) (above : quotientExponent numerator denominator ≠ leastExponent) :
    2 ^ (precision - 1) ≤ quotientSignificand numerator denominator := by
  have full : quotientExponent numerator denominator = binade numerator denominator - 52 := by
    simp only [quotientExponent, precision] at above ⊢
    omega
  apply le_quotientSignificand positive
  calc ((2 ^ (precision - 1) : Nat) : ℚ) * 2 ^ quotientExponent numerator denominator
      = 2 ^ binade numerator denominator := by
        rw [full, precision, Nat.cast_pow, Nat.cast_ofNat, ← zpow_natCast, ← zpow_add₀ two_ne_zero]
        congr 1
        push_cast
        ring
    _ ≤ numerator / denominator := (binade_spec nonzero positive).1

theorem roundNat_canonical (negative : Bool) (numerator : Nat) {denominator : Nat} (positive : 0 < denominator) :
    (roundNat negative numerator denominator).Canonical := by
  rcases Nat.eq_zero_or_pos numerator with rfl | nonzero
  · exact ⟨by decide, by decide, by decide, Or.inr rfl⟩
  · rw [roundNat_eq negative nonzero]
    apply pack_canonical negative (quotientSignificand_le nonzero positive) (le_max_left _ _)
    by_cases least : quotientExponent numerator denominator = leastExponent
    · exact Or.inr least
    · exact Or.inl (quotientSignificand_full nonzero positive least)

theorem ofDecimal_canonical (negative : Bool) (digits : Nat) (exponent : Int) :
    (ofDecimal negative digits exponent).Canonical := by
  have zero : (Binary64.finite negative 0 leastExponent).Canonical := ⟨by decide, by decide, by decide, Or.inr rfl⟩
  simp only [ofDecimal]
  split
  · exact zero
  · split
    · trivial
    · split
      · exact zero
      · cases exponent with
        | ofNat up => exact roundNat_canonical negative _ one_pos
        | negSucc down => exact roundNat_canonical negative _ (pow_pos (by decide) _)

end WorkflowRuns.Binary64
