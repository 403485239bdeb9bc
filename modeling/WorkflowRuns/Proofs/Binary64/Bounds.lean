import WorkflowRuns.Proofs.Binary64.Rounding

/-!
Lower bounds of numbers, and how products and powers keep them.
-/

namespace WorkflowRuns.Binary64

theorem magnitude_eq (significand : Nat) (exponent : Int) :
    magnitude significand exponent = (significand : ℚ) * 2 ^ exponent := by
  cases exponent with
  | ofNat up => simp [magnitude]
  | negSucc down => simp [magnitude, Rat.mkRat_eq_div, div_eq_mul_inv]

theorem magnitude_nonneg (significand : Nat) (exponent : Int) :
    0 ≤ magnitude significand exponent := by
  rw [magnitude_eq]
  exact mul_nonneg (Nat.cast_nonneg _) (two_pow_pos exponent).le

/-- A number, possibly infinite, that is not below a rational. -/
def AtLeast (q : ℚ) (x : Binary64) : Prop := x = .infinite false ∨ ∃ v, x.value? = some v ∧ q ≤ v

theorem AtLeast.weaken {q r : ℚ} {x : Binary64} (bound : AtLeast q x) (below : r ≤ q) :
    AtLeast r x := by
  rcases bound with infinite | ⟨v, value, above⟩
  · exact Or.inl infinite
  · exact Or.inr ⟨v, value, below.trans above⟩

theorem AtLeast.shape {q : ℚ} {x : Binary64} (positive : 0 < q) (bound : AtLeast q x) :
    x = .infinite false ∨ ∃ significand exponent, x = .finite false significand exponent ∧
      q ≤ (significand : ℚ) * 2 ^ exponent := by
  rcases bound with infinite | ⟨v, value, above⟩
  · exact Or.inl infinite
  · right
    cases x with
    | infinite negative => cases value
    | nan => cases value
    | finite negative significand exponent =>
        simp only [value?, Option.some.injEq] at value
        subst value
        have nonneg := magnitude_nonneg significand exponent
        cases negative with
        | true =>
            simp only [if_true] at above
            linarith
        | false =>
            refine ⟨significand, exponent, rfl, ?_⟩
            rw [← magnitude_eq]
            simpa using above

theorem atLeast_finite {q : ℚ} {significand : Nat} {exponent : Int}
    (below : q ≤ (significand : ℚ) * 2 ^ exponent) : AtLeast q (.finite false significand exponent) := by
  refine Or.inr ⟨magnitude significand exponent, rfl, ?_⟩
  rw [magnitude_eq]
  exact below

theorem atLeast_pack {q : ℚ} {significand : Nat} {exponent : Int}
    (below : q ≤ (significand : ℚ) * 2 ^ exponent) : AtLeast q (pack false significand exponent) := by
  simp only [pack]
  by_cases carried : significand = Nat.pow 2 precision
  · rw [if_pos carried]
    simp only
    split
    · exact Or.inl rfl
    · apply atLeast_finite
      rw [carried] at below
      calc q ≤ ((Nat.pow 2 precision : Nat) : ℚ) * 2 ^ exponent := below
        _ = ((Nat.pow 2 (precision - 1) : Nat) : ℚ) * 2 ^ (exponent + 1) := by
            rw [zpow_add_one₀ two_ne_zero]
            norm_num [precision]
            ring
  · rw [if_neg carried]
    simp only
    split
    · exact Or.inl rfl
    · exact atLeast_finite below

theorem atLeast_roundNat {numerator denominator significand : Nat} {exponent : Int}
    (nonzero : 0 < numerator) (positive : 0 < denominator)
    (digits : significand < 2 ^ precision) (least : leastExponent ≤ exponent)
    (below : (significand : ℚ) * 2 ^ exponent ≤ numerator / denominator) :
    AtLeast ((significand : ℚ) * 2 ^ exponent) (roundNat false numerator denominator) := by
  rw [roundNat_eq false nonzero]
  exact atLeast_pack (le_rounded nonzero positive digits least below)

theorem one_eq : ofInt 1 = .finite false 4503599627370496 (-52) := by decide +kernel

theorem magnitude_one : magnitude 4503599627370496 (-52) = 1 := by
  rw [magnitude_eq]
  norm_num

theorem magnitude_zero : magnitude 0 leastExponent = 0 := by
  rw [magnitude_eq]
  simp

theorem atLeast_one_of_le {x : Binary64} (above : (ofInt 1).le x = true) : AtLeast 1 x := by
  rw [one_eq] at above
  cases x with
  | nan => cases above
  | infinite negative =>
      cases negative
      · exact Or.inl rfl
      · cases above
  | finite negative significand exponent =>
      refine Or.inr ⟨_, rfl, ?_⟩
      simpa [le, lt, value?, magnitude_one] using above

theorem atLeast_of_zero_lt {x : Binary64} (above : (ofInt 0).lt x = true) :
    ∃ q, 0 < q ∧ AtLeast q x := by
  have zero_eq : ofInt 0 = .finite false 0 leastExponent := rfl
  rw [zero_eq] at above
  cases x with
  | nan => cases above
  | infinite negative =>
      cases negative
      · exact ⟨1, by norm_num, Or.inl rfl⟩
      · cases above
  | finite negative significand exponent =>
      refine ⟨_, ?_, Or.inr ⟨_, rfl, le_rfl⟩⟩
      simpa [lt, value?, magnitude_zero] using above

theorem AtLeast.not_le_zero {q : ℚ} {x : Binary64} (positive : 0 < q) (bound : AtLeast q x) :
    x.le .zero = false := by
  rcases bound.shape positive with rfl | ⟨significand, exponent, rfl, above⟩
  · rfl
  · have larger : 0 < magnitude significand exponent := by
      rw [magnitude_eq]
      linarith
    simpa [le, lt, zero, value?, magnitude_zero] using larger

def roundDyadic (negative : Bool) (significand : Nat) : Int → Binary64
  | .ofNat up => roundNat negative (significand * Nat.pow 2 up) 1
  | .negSucc down => roundNat negative significand (Nat.pow 2 (down + 1))

theorem atLeast_roundDyadic {digits significand : Nat} {least exponent : Int}
    (nonzero : 0 < significand) (short : digits < 2 ^ precision) (within : leastExponent ≤ least)
    (below : (digits : ℚ) * 2 ^ least ≤ (significand : ℚ) * 2 ^ exponent) :
    AtLeast ((digits : ℚ) * 2 ^ least) (roundDyadic false significand exponent) := by
  rw [← magnitude_eq significand exponent] at below
  cases exponent with
  | ofNat up =>
      apply atLeast_roundNat (Nat.mul_pos nonzero (pow_pos two_pos up)) one_pos short within
      simpa [magnitude] using below
  | negSucc down =>
      apply atLeast_roundNat nonzero (pow_pos two_pos (down + 1)) short within
      simpa [magnitude, Rat.mkRat_eq_div] using below

theorem mul_finite (s t : Bool) (m n : Nat) (d e : Int) :
    (Binary64.finite s m d).mul (.finite t n e) = roundDyadic (s != t) (m * n) (d + e) := by
  cases exponent : d + e <;> simp only [Binary64.mul, roundDyadic, exponent]

theorem pos_of_dyadic {q : ℚ} {significand : Nat} {exponent : Int} (positive : 0 < q)
    (below : q ≤ (significand : ℚ) * 2 ^ exponent) : 0 < significand := by
  rcases Nat.eq_zero_or_pos significand with rfl | nonzero
  · simp only [Nat.cast_zero, zero_mul] at below
    linarith
  · exact nonzero

theorem AtLeast.mul {q : ℚ} {x y : Binary64} (positive : 0 < q) (bound : AtLeast q x)
    (double : x.IsDouble) (factor : AtLeast 1 y) : AtLeast q (x.mul y) := by
  rcases bound.shape positive with rfl | ⟨m, d, rfl, above⟩
  · rcases factor.shape one_pos with rfl | ⟨n, e, rfl, larger⟩
    · exact Or.inl rfl
    · have nonzero := Nat.ne_of_gt (pos_of_dyadic one_pos larger)
      exact Or.inl (by simp [Binary64.mul, isZero, isNegative, nonzero])
  · have nonzero := pos_of_dyadic positive above
    rcases factor.shape one_pos with rfl | ⟨n, e, rfl, larger⟩
    · exact Or.inl (by simp [Binary64.mul, isZero, isNegative, Nat.ne_of_gt nonzero])
    · obtain ⟨short, within, _⟩ := double
      rw [mul_finite]
      apply AtLeast.weaken _ above
      apply atLeast_roundDyadic (Nat.mul_pos nonzero (pos_of_dyadic one_pos larger)) short within
      calc (m : ℚ) * 2 ^ d = m * 2 ^ d * 1 := (mul_one _).symm
        _ ≤ m * 2 ^ d * (n * 2 ^ e) := by
            exact mul_le_mul_of_nonneg_left larger (positive.le.trans above)
        _ = ((m * n : Nat) : ℚ) * 2 ^ (d + e) := by
            rw [zpow_add₀ two_ne_zero]
            push_cast
            ring

theorem reduceTwos_value (fuel significand : Nat) (exponent : Int) :
    ((reduceTwos fuel significand exponent).1 : ℚ) * 2 ^ (reduceTwos fuel significand exponent).2 =
      (significand : ℚ) * 2 ^ exponent := by
  induction fuel generalizing significand exponent with
  | zero => rfl
  | succ fuel ih =>
      rw [reduceTwos]
      split
      next even =>
        have halves : (significand : ℚ) = ((significand / 2 : Nat) : ℚ) * 2 := by
          have whole : significand / 2 * 2 = significand := by omega
          exact_mod_cast whole.symm
        rw [ih, zpow_add_one₀ two_ne_zero, halves]
        ring
      next => rfl

theorem AtLeast.pow {x : Binary64} (bound : AtLeast 1 x) (n : Nat) : AtLeast 1 (x.pow n) := by
  rcases bound.shape one_pos with rfl | ⟨significand, exponent, rfl, above⟩
  · exact Or.inl rfl
  · rw [← reduceTwos_value precision] at above
    have one : (((1 : Nat) : ℚ) * 2 ^ (0 : Int)) = 1 := by norm_num
    simp only [Binary64.pow]
    split
    · apply atLeast_finite
      norm_num [precision]
    · split
      · exact Or.inl rfl
      · have rounded : AtLeast 1 (roundDyadic false
            ((reduceTwos precision significand exponent).1 ^ n)
            ((reduceTwos precision significand exponent).2 * n)) := by
          rw [← one]
          apply atLeast_roundDyadic (Nat.pow_pos (pos_of_dyadic one_pos above)) (by decide) (by decide)
          rw [one, Nat.cast_pow, zpow_mul, zpow_natCast, ← mul_pow]
          exact one_le_pow₀ above
        generalize (reduceTwos precision significand exponent).2 * (n : Int) = power at rounded ⊢
        cases power <;> simpa [roundDyadic] using rounded

end WorkflowRuns.Binary64
