import Mathlib.Algebra.Order.Ring.Pow
import Mathlib.Algebra.Order.Ring.Rat
import WorkflowRuns.Proofs.Binary64.Nearest

/-!
Rounding keeps the order of quotients, and so products and powers keep the order of numbers.  A quotient is
rounded to an infinite number exactly from the midpoint between the largest finite number and the next
power of two on.
-/

namespace WorkflowRuns.Binary64

theorem roundQuotient_within (numerator : Nat) {denominator : Nat} (positive : 0 < denominator) :
    denominator * (2 * roundQuotient numerator denominator) ≤ 2 * numerator + denominator ∧
      2 * numerator ≤ denominator * (2 * roundQuotient numerator denominator + 1) := by
  have whole := Nat.div_add_mod numerator denominator
  have small := Nat.mod_lt numerator positive
  unfold roundQuotient
  generalize numerator / denominator = q at whole ⊢
  generalize numerator % denominator = r at whole small ⊢
  have twice : 2 * numerator = denominator * (2 * q) + 2 * r := by
    rw [← whole]
    ring
  have up : denominator * (2 * (q + 1)) = denominator * (2 * q) + 2 * denominator := by ring
  have next : ∀ k, denominator * (2 * k + 1) = denominator * (2 * k) + denominator := fun k => by ring
  simp only
  split_ifs with down above
  · rw [next]
    omega
  · rw [next, up]
    omega
  · rcases Nat.mod_two_eq_zero_or_one q with even | odd
    · rw [even, Nat.add_zero, next]
      omega
    · rw [odd, next, up]
      omega

theorem roundQuotient_mono {numerator denominator numerator' denominator' : Nat} (positive : 0 < denominator)
    (positive' : 0 < denominator') (order : numerator * denominator' ≤ numerator' * denominator) :
    roundQuotient numerator denominator ≤ roundQuotient numerator' denominator' := by
  by_contra falls
  have above := (roundQuotient_within numerator positive).1
  have below := (roundQuotient_within numerator' positive').2
  generalize less : roundQuotient numerator' denominator' = k at falls below
  -- Both quotients are the midpoint below, so that they are the same.
  have low : denominator * (2 * k + 1) ≤ 2 * numerator := by
    have step : denominator * (2 * (k + 1)) ≤ denominator * (2 * roundQuotient numerator denominator) :=
      Nat.mul_le_mul_left _ (by omega)
    have next : denominator * (2 * (k + 1)) = denominator * (2 * k + 1) + denominator := by ring
    omega
  have high : 2 * (numerator' * denominator) ≤ 2 * (numerator * denominator') := by
    calc 2 * (numerator' * denominator) = 2 * numerator' * denominator := by ring
      _ ≤ denominator' * (2 * k + 1) * denominator := Nat.mul_le_mul_right _ below
      _ = denominator * (2 * k + 1) * denominator' := by ring
      _ ≤ 2 * numerator * denominator' := Nat.mul_le_mul_right _ low
      _ = 2 * (numerator * denominator') := by ring
  have same : denominator' * numerator = denominator * numerator' := by
    rw [Nat.mul_comm denominator', Nat.mul_comm denominator]
    omega
  apply falls
  rw [← less, ← roundQuotient_scale positive' numerator denominator, same, Nat.mul_comm denominator',
    roundQuotient_scale positive]

theorem succ_le_roundQuotient {numerator denominator k : Nat} (odd : k % 2 = 1)
    (half : denominator * (2 * k + 1) ≤ 2 * numerator) (positive : 0 < denominator) :
    k + 1 ≤ roundQuotient numerator denominator := by
  have whole := Nat.div_add_mod numerator denominator
  have small := Nat.mod_lt numerator positive
  unfold roundQuotient
  generalize numerator / denominator = q at whole ⊢
  generalize numerator % denominator = r at whole small ⊢
  have floor : k ≤ q := by
    have below : denominator * (2 * k + 1) < denominator * (2 * q + 2) := by
      calc denominator * (2 * k + 1) ≤ 2 * (denominator * q + r) := by rwa [whole]
        _ < 2 * (denominator * q + denominator) := by omega
        _ = denominator * (2 * q + 2) := by ring
    have cancelled := Nat.lt_of_mul_lt_mul_left below
    omega
  rcases floor.lt_or_eq with above | rfl
  · simp only
    split_ifs <;> omega
  · have left : denominator ≤ 2 * r := by
      have next : denominator * (2 * k + 1) = 2 * (denominator * k) + denominator := by ring
      omega
    simp only
    rw [if_neg (not_lt.mpr left)]
    split_ifs <;> omega

def rounded (numerator denominator : Nat) : ℚ :=
  quotientSignificand numerator denominator * 2 ^ quotientExponent numerator denominator

section

variable {numerator denominator numerator' denominator' : Nat} (nonzero : 0 < numerator) (positive : 0 < denominator)
  (nonzero' : 0 < numerator') (positive' : 0 < denominator')

include nonzero positive in
theorem rounded_lt : rounded numerator denominator ≤ 2 ^ (quotientExponent numerator denominator + precision) := by
  have digits : (quotientSignificand numerator denominator : ℚ) ≤ 2 ^ precision := by
    exact_mod_cast quotientSignificand_le nonzero positive
  calc rounded numerator denominator
      ≤ 2 ^ precision * 2 ^ quotientExponent numerator denominator :=
        mul_le_mul_of_nonneg_right digits (two_pow_pos _).le
    _ = 2 ^ (quotientExponent numerator denominator + precision) := by
        rw [zpow_add₀ two_ne_zero, zpow_natCast, mul_comm]

include nonzero positive in
theorem le_rounded_full (above : leastExponent < quotientExponent numerator denominator) :
    2 ^ (quotientExponent numerator denominator + (precision - 1)) ≤ rounded numerator denominator := by
  have digits : ((2 ^ (precision - 1) : Nat) : ℚ) ≤ quotientSignificand numerator denominator := by
    exact_mod_cast quotientSignificand_full nonzero positive (ne_of_gt above)
  calc (2 : ℚ) ^ (quotientExponent numerator denominator + (precision - 1))
      = ((2 ^ (precision - 1) : Nat) : ℚ) * 2 ^ quotientExponent numerator denominator := by
        rw [zpow_add₀ two_ne_zero, mul_comm]
        norm_num [precision]
    _ ≤ rounded numerator denominator := mul_le_mul_of_nonneg_right digits (two_pow_pos _).le

include nonzero positive nonzero' positive' in
theorem quotientExponent_mono (order : (numerator : ℚ) / denominator ≤ numerator' / denominator') :
    quotientExponent numerator denominator ≤ quotientExponent numerator' denominator' := by
  have low := (binade_spec nonzero positive).1
  have high := (binade_spec nonzero' positive').2
  have binades := (zpow_lt_zpow_iff_right₀ (one_lt_two (α := ℚ))).mp ((low.trans order).trans_lt high)
  unfold quotientExponent
  omega

include nonzero positive nonzero' positive' in
theorem rounded_mono (order : (numerator : ℚ) / denominator ≤ numerator' / denominator') :
    rounded numerator denominator ≤ rounded numerator' denominator' := by
  rcases (quotientExponent_mono nonzero positive nonzero' positive' order).lt_or_eq with finer | same
  · have full := le_rounded_full nonzero' positive' ((le_max_left _ _).trans_lt finer)
    apply (rounded_lt nonzero positive).trans (le_trans _ full)
    apply zpow_le_zpow_right₀ one_le_two
    omega
  · unfold rounded quotientSignificand
    rw [← same]
    apply mul_le_mul_of_nonneg_right _ (two_pow_pos _).le
    generalize quotientExponent numerator denominator = e
    have scale : (0 : ℚ) < (rescale numerator denominator e).2 := by exact_mod_cast rescale_pos positive e
    have scale' : (0 : ℚ) < (rescale numerator' denominator' e).2 := by exact_mod_cast rescale_pos positive' e
    have scaled := div_le_div_of_nonneg_right order (two_pow_pos e).le
    rw [← rescale_ratio, ← rescale_ratio, div_le_div_iff₀ scale scale'] at scaled
    exact_mod_cast roundQuotient_mono (rescale_pos positive e) (rescale_pos positive' e) (by exact_mod_cast scaled)

def firstPower : ℚ := 2 ^ (greatestExponent + precision)

include nonzero positive in
theorem roundNat_rounded :
    (roundNat false numerator denominator = .infinite false ∧ firstPower ≤ rounded numerator denominator) ∨
      ∃ significand exponent, roundNat false numerator denominator = .finite false significand exponent ∧
        (significand : ℚ) * 2 ^ exponent = rounded numerator denominator ∧
        rounded numerator denominator < firstPower := by
  have bounded := quotientSignificand_le nonzero positive
  have full : leastExponent < quotientExponent numerator denominator → _ := le_rounded_full nonzero positive
  rw [roundNat_eq false nonzero]
  unfold firstPower rounded at *
  generalize quotientSignificand numerator denominator = digits at *
  generalize quotientExponent numerator denominator = exponent at *
  rcases bounded.lt_or_eq with short | rfl
  · by_cases greatest : exponent ≤ greatestExponent
    · refine Or.inr ⟨digits, exponent, pack_short false short greatest, rfl, ?_⟩
      calc (digits : ℚ) * 2 ^ exponent < 2 ^ precision * 2 ^ exponent :=
            mul_lt_mul_of_pos_right (by exact_mod_cast short) (two_pow_pos _)
        _ = 2 ^ (exponent + precision) := by
            rw [zpow_add₀ two_ne_zero, zpow_natCast, mul_comm]
        _ ≤ 2 ^ (greatestExponent + precision) := zpow_le_zpow_right₀ one_le_two (by omega)
    · have uncarried : digits ≠ Nat.pow 2 precision := Nat.ne_of_lt short
      refine Or.inl ⟨by simp only [pack, if_neg uncarried, if_pos (not_le.mp greatest)], ?_⟩
      apply le_trans (zpow_le_zpow_right₀ one_le_two _) (full (lt_of_lt_of_le (by decide) (not_le.mp greatest).le))
      omega
  · have carried : ((2 ^ precision : Nat) : ℚ) * 2 ^ exponent = 2 ^ (exponent + precision) := by
      rw [zpow_add₀ two_ne_zero, zpow_natCast, mul_comm]
      norm_num
    by_cases greatest : exponent + 1 ≤ greatestExponent
    · refine Or.inr ⟨_, _, pack_carried false greatest, ?_, ?_⟩
      · rw [zpow_add_one₀ two_ne_zero]
        norm_num [precision]
        ring
      · rw [carried]
        exact zpow_lt_zpow_right₀ one_lt_two (by omega)
    · have power : 2 ^ precision = Nat.pow 2 precision := rfl
      refine Or.inl ⟨by simp only [pack, if_pos power, if_pos (not_le.mp greatest)], ?_⟩
      rw [carried]
      exact zpow_le_zpow_right₀ one_le_two (by omega)

include nonzero positive in
theorem atLeast_roundNat_iff (q : ℚ) : AtLeast q (roundNat false numerator denominator) ↔
    firstPower ≤ rounded numerator denominator ∨ q ≤ rounded numerator denominator := by
  rcases roundNat_rounded nonzero positive with ⟨infinite, above⟩ | ⟨significand, exponent, finite, value, below⟩
  · rw [infinite]
    exact iff_of_true (Or.inl rfl) (Or.inl above)
  · rw [finite, ← value] at *
    simp [AtLeast, value?, magnitude_eq, not_le.mpr below]

/-- The midpoint between the largest finite number and the next power of two. -/
def overflowBound : ℚ := (2 ^ (precision + 1) - 1) * 2 ^ (greatestExponent - 1)

theorem le_overflowBound : 2 ^ (greatestExponent - 1 + precision) ≤ overflowBound := by
  have digits : (2 : ℚ) ^ precision ≤ 2 ^ (precision + 1) - 1 := by norm_num [precision]
  calc (2 : ℚ) ^ (greatestExponent - 1 + precision) = 2 ^ precision * 2 ^ (greatestExponent - 1) := by
        rw [zpow_add₀ two_ne_zero, zpow_natCast, mul_comm]
    _ ≤ overflowBound := mul_le_mul_of_nonneg_right digits (two_pow_pos _).le

theorem overflowBound_le : overflowBound ≤ firstPower := by
  have digits : (2 : ℚ) ^ (precision + 1) - 1 ≤ 2 ^ (precision + 1) := by linarith
  calc overflowBound ≤ 2 ^ (precision + 1) * 2 ^ (greatestExponent - 1) :=
        mul_le_mul_of_nonneg_right digits (two_pow_pos _).le
    _ = firstPower := by
        rw [firstPower, ← zpow_natCast, ← zpow_add₀ two_ne_zero]
        congr 1

include positive in
theorem firstPower_le_rounded_of_greatest (greatest : quotientExponent numerator denominator = greatestExponent) :
    firstPower ≤ rounded numerator denominator ↔ overflowBound ≤ numerator / denominator := by
  have scale : (0 : ℚ) < (rescale numerator denominator greatestExponent).2 := by
    exact_mod_cast rescale_pos positive greatestExponent
  have above : firstPower ≤ rounded numerator denominator ↔ 2 ^ precision ≤ quotientSignificand numerator denominator := by
    have power : firstPower = ((2 ^ precision : Nat) : ℚ) * 2 ^ greatestExponent := by
      rw [firstPower, zpow_add₀ two_ne_zero, zpow_natCast, mul_comm]
      norm_num
    rw [rounded, greatest, power, mul_le_mul_iff_of_pos_right (two_pow_pos _), Nat.cast_le]
  have midpoint : overflowBound ≤ numerator / denominator ↔
      (rescale numerator denominator greatestExponent).2 * (2 * (2 ^ precision - 1) + 1) ≤
        2 * (rescale numerator denominator greatestExponent).1 := by
    have halved : overflowBound = (2 ^ (precision + 1) - 1) / 2 * 2 ^ greatestExponent := by
      rw [overflowBound, zpow_sub_one₀ two_ne_zero]
      ring
    rw [halved, ← le_div_iff₀ (two_pow_pos _), ← rescale_ratio, le_div_iff₀ scale, ← Nat.cast_le (α := ℚ)]
    generalize rescale numerator denominator greatestExponent = scaled
    push_cast
    norm_num [precision]
    constructor <;> intro half <;> linarith
  rw [above, midpoint, quotientSignificand, greatest]
  generalize rescale numerator denominator greatestExponent = scaled at scale ⊢
  have positive' : 0 < scaled.2 := by exact_mod_cast scale
  constructor
  · intro digits
    have within := (roundQuotient_within scaled.1 positive').1
    have step : scaled.2 * (2 * 2 ^ precision) ≤ scaled.2 * (2 * roundQuotient scaled.1 scaled.2) :=
      Nat.mul_le_mul_left _ (Nat.mul_le_mul_left _ digits)
    have next : scaled.2 * (2 * 2 ^ precision) = scaled.2 * (2 * (2 ^ precision - 1) + 1) + scaled.2 := by
      norm_num [precision]
      ring
    omega
  · exact fun half => succ_le_roundQuotient (by decide) half positive'

include nonzero positive in
theorem firstPower_le_rounded_iff :
    firstPower ≤ rounded numerator denominator ↔ overflowBound ≤ numerator / denominator := by
  have spec := binade_spec nonzero positive
  have exponents : binade numerator denominator ≤ quotientExponent numerator denominator + 52 ∧
      (leastExponent < quotientExponent numerator denominator →
        binade numerator denominator = quotientExponent numerator denominator + 52) := by
    simp only [quotientExponent, precision]
    omega
  rcases lt_trichotomy (quotientExponent numerator denominator) greatestExponent with small | greatest | large
  · apply iff_of_false
    · apply not_le.mpr
      apply (rounded_lt nonzero positive).trans_lt
      exact zpow_lt_zpow_right₀ one_lt_two (by omega)
    · apply not_le.mpr
      apply lt_of_lt_of_le (spec.2.trans_le _) le_overflowBound
      apply zpow_le_zpow_right₀ one_le_two
      simp only [precision]
      omega
  · exact firstPower_le_rounded_of_greatest positive greatest
  · have least : leastExponent < quotientExponent numerator denominator := lt_trans (by decide) large
    apply iff_of_true
    · apply le_trans _ (le_rounded_full nonzero positive least)
      apply zpow_le_zpow_right₀ one_le_two
      simp only [precision]
      omega
    · apply overflowBound_le.trans (le_trans _ spec.1)
      rw [exponents.2 least]
      apply zpow_le_zpow_right₀ one_le_two
      simp only [precision]
      omega

include nonzero positive in
theorem roundNat_infinite_iff :
    roundNat false numerator denominator = .infinite false ↔ overflowBound ≤ numerator / denominator := by
  rw [← firstPower_le_rounded_iff nonzero positive]
  rcases roundNat_rounded nonzero positive with ⟨infinite, above⟩ | ⟨significand, exponent, finite, _, below⟩
  · exact iff_of_true infinite above
  · rw [finite]
    exact iff_of_false nofun (not_le.mpr below)

end

section

variable {x y : Binary64} {p q v w : ℚ}

theorem atLeast_value (value : x.value? = some v) (q : ℚ) : AtLeast q x ↔ q ≤ v := by
  constructor
  · rintro (rfl | ⟨u, other, above⟩)
    · cases value
    · rw [value, Option.some.injEq] at other
      rwa [other]
  · exact fun above => Or.inr ⟨v, value, above⟩

theorem lt_value (left : x.value? = some v) (right : y.value? = some w) : x.lt y = decide (v < w) := by
  cases x with
  | infinite negative => cases left
  | nan => cases left
  | finite negative significand exponent =>
      cases y with
      | infinite negative => cases right
      | nan => cases right
      | finite negative' significand' exponent' => simp only [lt, left, right]

theorem value_lt_infinite (value : x.value? = some v) : x.lt (.infinite false) = true := by
  cases x with
  | infinite negative => cases value
  | nan => cases value
  | finite negative significand exponent => rfl

theorem infinite_lt (y : Binary64) : lt (.infinite false) y = false := by
  cases y <;> rfl

theorem AtLeast.le_eq (left : AtLeast p x) (right : AtLeast q y) : x.le y = !y.lt x := by
  cases x with
  | nan => exact absurd left (by simp [AtLeast, value?])
  | _ =>
      cases y with
      | nan => exact absurd right (by simp [AtLeast, value?])
      | _ => rfl

/-- Whatever is a lower bound of the one is one of the other. -/
def Below (x y : Binary64) : Prop := ∀ q, AtLeast q x → AtLeast q y

theorem Below.refl (x : Binary64) : Below x x := fun _ bound => bound

theorem Below.trans {z : Binary64} (first : Below x y) (second : Below y z) : Below x z :=
  fun q bound => second q (first q bound)

theorem below_infinite (x : Binary64) : Below x (.infinite false) := fun _ _ => Or.inl rfl

theorem Below.infinite (below : Below (.infinite false) y) : y = .infinite false := by
  rcases below 0 (Or.inl rfl) with infinite | ⟨v, value, _⟩
  · exact infinite
  · have above := (atLeast_value value (v + 1)).mp (below _ (Or.inl rfl))
    linarith

theorem AtLeast.below_iff (left : AtLeast p x) (right : AtLeast q y) : Below y x ↔ x.lt y = false := by
  rcases left with rfl | ⟨v, value, _⟩
  · exact iff_of_true (below_infinite y) (infinite_lt y)
  · rcases right with rfl | ⟨w, value', _⟩
    · rw [value_lt_infinite value]
      refine iff_of_false (fun below => ?_) nofun
      rw [below.infinite] at value
      cases value
    · rw [lt_value value value', decide_eq_false_iff_not, not_lt]
      constructor
      · exact fun below => (atLeast_value value w).mp (below w ((atLeast_value value' w).mpr le_rfl))
      · intro order r bound
        rw [atLeast_value value' r] at bound
        exact (atLeast_value value r).mpr (bound.trans order)

theorem AtLeast.le_iff (left : AtLeast p x) (right : AtLeast q y) : x.le y = true ↔ Below x y := by
  rw [left.le_eq right, right.below_iff left, Bool.not_eq_true']

theorem AtLeast.total (left : AtLeast p x) (right : AtLeast q y) : Below x y ∨ Below y x := by
  rw [left.below_iff right, right.below_iff left]
  rcases left with rfl | ⟨v, value, _⟩
  · exact Or.inr (infinite_lt y)
  · rcases right with rfl | ⟨w, value', _⟩
    · exact Or.inl (infinite_lt x)
    · simp only [lt_value value value', lt_value value' value, decide_eq_false_iff_not, not_lt]
      exact le_total v w

theorem AtLeast.min_iff (left : AtLeast p x) (right : AtLeast q y) (r : ℚ) :
    AtLeast r (if x.lt y then x else y) ↔ AtLeast r x ∧ AtLeast r y := by
  have order := left.total right
  cases less : x.lt y with
  | false =>
      have below := (left.below_iff right).mpr less
      exact ⟨fun bound => ⟨below r bound, bound⟩, And.right⟩
  | true =>
      have below : Below x y := order.resolve_right fun other => by
        rw [left.below_iff right, less] at other
        cases other
      exact ⟨fun bound => ⟨bound, below r bound⟩, And.left⟩

end

theorem roundNat_below {numerator denominator numerator' denominator' : Nat} (nonzero : 0 < numerator)
    (positive : 0 < denominator) (nonzero' : 0 < numerator') (positive' : 0 < denominator')
    (order : (numerator : ℚ) / denominator ≤ numerator' / denominator') :
    Below (roundNat false numerator denominator) (roundNat false numerator' denominator') := by
  intro q bound
  have rises := rounded_mono nonzero positive nonzero' positive' order
  rw [atLeast_roundNat_iff nonzero positive] at bound
  rw [atLeast_roundNat_iff nonzero' positive']
  exact bound.imp (fun above => above.trans rises) fun above => above.trans rises

theorem roundDyadic_eq (negative : Bool) {significand : Nat} (nonzero : 0 < significand) (exponent : Int) :
    ∃ numerator denominator : Nat, 0 < numerator ∧ 0 < denominator ∧
      (numerator : ℚ) / denominator = (significand : ℚ) * 2 ^ exponent ∧
      roundDyadic negative significand exponent = roundNat negative numerator denominator := by
  rw [← magnitude_eq]
  cases exponent with
  | ofNat up =>
      refine ⟨_, 1, Nat.mul_pos nonzero (pow_pos two_pos up), one_pos, ?_, rfl⟩
      simp [magnitude]
  | negSucc down =>
      refine ⟨_, _, nonzero, pow_pos two_pos (down + 1), ?_, rfl⟩
      simp [magnitude, Rat.mkRat_eq_div]

theorem roundDyadic_below {significand significand' : Nat} {exponent exponent' : Int} (nonzero : 0 < significand)
    (nonzero' : 0 < significand') (order : (significand : ℚ) * 2 ^ exponent ≤ (significand' : ℚ) * 2 ^ exponent') :
    Below (roundDyadic false significand exponent) (roundDyadic false significand' exponent') := by
  obtain ⟨numerator, denominator, above, positive, ratio, same⟩ := roundDyadic_eq false nonzero exponent
  obtain ⟨numerator', denominator', above', positive', ratio', same'⟩ := roundDyadic_eq false nonzero' exponent'
  rw [same, same']
  apply roundNat_below above positive above' positive'
  rwa [ratio, ratio']

theorem Below.mul {q : ℚ} {x y z : Binary64} (below : Below y z) (positive : 0 < q) (bound : AtLeast q x)
    (factor : AtLeast 1 y) : Below (x.mul y) (x.mul z) := by
  have nonzero : ∀ {m : Nat} {d : Int}, 0 < (m : ℚ) * 2 ^ d → m ≠ 0 := by
    rintro m d above rfl
    simp at above
  -- A product with an infinite number is infinite.
  have infinite : x.mul (.infinite false) = .infinite false := by
    rcases bound.shape positive with rfl | ⟨m, d, rfl, above⟩
    · rfl
    · simp [Binary64.mul, isZero, isNegative, nonzero (positive.trans_le above)]
  rcases factor.shape one_pos with rfl | ⟨n, e, rfl, larger⟩
  · rw [below.infinite]
    exact .refl _
  rcases (below 1 factor).shape one_pos with rfl | ⟨k, f, rfl, larger'⟩
  · rw [infinite]
    exact below_infinite _
  · rcases bound.shape positive with rfl | ⟨m, d, rfl, above⟩
    · simp [Binary64.mul, isZero, isNegative, nonzero (one_pos.trans_le larger),
        nonzero (one_pos.trans_le larger'), Below.refl]
    · have order : (n : ℚ) * 2 ^ e ≤ k * 2 ^ f := by
        obtain ⟨v, value, least⟩ := (below _ (atLeast_finite le_rfl)).resolve_left (by simp)
        simp only [value?, Bool.false_eq_true, if_false, Option.some.injEq, magnitude_eq] at value
        rwa [value]
      have product : ∀ j i, ((m * j : Nat) : ℚ) * 2 ^ (d + i) = (m * 2 ^ d) * (j * 2 ^ i) := by
        intro j i
        rw [zpow_add₀ two_ne_zero]
        push_cast
        ring
      rw [mul_finite, mul_finite]
      apply roundDyadic_below
      · exact Nat.mul_pos (pos_of_dyadic positive above) (pos_of_dyadic one_pos larger)
      · exact Nat.mul_pos (pos_of_dyadic positive above) (pos_of_dyadic one_pos larger')
      · rw [product, product]
        exact mul_le_mul_of_nonneg_left order (positive.le.trans above)

def reduced (significand : Nat) (exponent : Int) : Nat × Int := reduceTwos precision significand exponent

theorem pow_finite (significand : Nat) (exponent : Int) (n : Nat) :
    (Binary64.finite false significand exponent).pow n =
      if (reduced significand exponent).1 = 1 ∧ (reduced significand exponent).2 = 0 then
        .finite false (Nat.pow 2 (precision - 1)) (1 - precision)
      else if overflowingPower (reduced significand exponent).1 (reduced significand exponent).2 ≤ n then
        .infinite false
      else roundDyadic false ((reduced significand exponent).1 ^ n) ((reduced significand exponent).2 * n) := by
  simp only [Binary64.pow, reduced, Bool.false_and]
  generalize (reduceTwos precision significand exponent).2 * (n : Int) = power
  cases power <;> rfl

theorem power_value (significand : Nat) (exponent : Int) (n : Nat) :
    ((significand ^ n : Nat) : ℚ) * 2 ^ (exponent * n) = ((significand : ℚ) * 2 ^ exponent) ^ n := by
  rw [mul_pow, Nat.cast_pow, zpow_mul, zpow_natCast]

/-- A power of a number that is at least one is not above a higher power. -/
theorem AtLeast.pow_below {x : Binary64} (bound : AtLeast 1 x) {m n : Nat} (fewer : m ≤ n) :
    Below (x.pow m) (x.pow n) := by
  rcases bound.shape one_pos with rfl | ⟨significand, exponent, rfl, above⟩
  · exact .refl _
  · rw [← reduceTwos_value precision] at above
    change 1 ≤ ((reduced significand exponent).1 : ℚ) * 2 ^ (reduced significand exponent).2 at above
    rw [pow_finite, pow_finite]
    generalize reduced significand exponent = base at above ⊢
    have nonzero := pos_of_dyadic one_pos above
    split_ifs with one large many larger
    · exact .refl _
    · exact .refl _
    · omega
    · exact below_infinite _
    · apply roundDyadic_below (Nat.pow_pos nonzero) (Nat.pow_pos nonzero)
      rw [power_value, power_value]
      exact pow_le_pow_right₀ above fewer

/-- So many factors of a number above one overflow. -/
theorem overflowBound_le_pow {significand : Nat} {exponent : Int} (above : 1 < (significand : ℚ) * 2 ^ exponent)
    {n : Nat} (many : overflowingPower significand exponent ≤ n) :
    overflowBound ≤ ((significand : ℚ) * 2 ^ exponent) ^ n := by
  simp only [overflowingPower, magnitude_eq, if_neg (not_le.mpr above)] at many
  generalize (significand : ℚ) * 2 ^ exponent = v at above many ⊢
  have rest : 0 < v - 1 := sub_pos.mpr above
  have turns : 1 / (v - 1) ≤ ((1 / (v - 1)).ceil.toNat : ℚ) := by
    have ceil : 1 / (v - 1) ≤ (1 / (v - 1)).ceil := Rat.le_ceil
    have whole : ((1 / (v - 1)).ceil : ℚ) ≤ ((1 / (v - 1)).ceil.toNat : ℚ) := by
      exact_mod_cast Int.self_le_toNat _
    exact ceil.trans whole
  generalize (1 / (v - 1)).ceil.toNat = count at turns many
  have doubled : 2 ≤ v ^ count := by
    have bernoulli := one_add_mul_le_pow (show -2 ≤ v - 1 by linarith) count
    rw [add_sub_cancel] at bernoulli
    rw [div_le_iff₀ rest] at turns
    linarith
  calc overflowBound ≤ firstPower := overflowBound_le
    _ = 2 ^ 1024 := by
        rw [firstPower, ← zpow_natCast]
        congr 1
    _ ≤ (v ^ count) ^ 1024 := pow_le_pow_left₀ zero_le_two doubled 1024
    _ = v ^ (1024 * count) := by rw [← pow_mul, Nat.mul_comm]
    _ ≤ v ^ n := pow_le_pow_right₀ above.le many

theorem reduceTwos_power {fuel k : Nat} (enough : k ≤ fuel) (exponent : Int) :
    reduceTwos fuel (2 ^ k) exponent = (1, exponent + k) := by
  induction k generalizing fuel exponent with
  | zero =>
      cases fuel <;> simp [reduceTwos]
  | succ k ih =>
      obtain ⟨fuel, rfl⟩ := Nat.exists_eq_add_of_le' (Nat.one_le_of_lt enough)
      have even : 2 ^ (k + 1) % 2 = 0 ∧ 2 ^ (k + 1) ≠ 0 := ⟨by omega, by positivity⟩
      have half : 2 ^ (k + 1) / 2 = 2 ^ k := by omega
      rw [reduceTwos, if_pos even, half, ih (by omega)]
      push_cast
      rw [add_assoc, add_comm 1]

theorem reduced_one {significand : Nat} {exponent : Int} (short : significand < 2 ^ precision)
    (one : (significand : ℚ) * 2 ^ exponent = 1) : reduced significand exponent = (1, 0) := by
  have power : ∃ k : Nat, significand = 2 ^ k ∧ exponent = -k := by
    cases exponent with
    | ofNat up =>
        rw [Int.ofNat_eq_natCast, zpow_natCast] at one
        have whole : significand * 2 ^ up = 1 := by exact_mod_cast one
        have unit : significand = 1 := Nat.dvd_one.mp (Dvd.intro _ whole)
        have power : 2 ^ up = 1 := Nat.dvd_one.mp (Dvd.intro_left _ whole)
        have none : up = 0 := by simpa using power
        exact ⟨0, unit, by rw [none]; rfl⟩
    | negSucc down =>
        refine ⟨down + 1, ?_, rfl⟩
        rw [zpow_negSucc, mul_inv_eq_one₀ (by positivity)] at one
        exact_mod_cast one
  obtain ⟨k, rfl, rfl⟩ := power
  have enough : k < precision := (Nat.pow_lt_pow_iff_right (by decide)).mp short
  rw [reduced, reduceTwos_power enough.le, neg_add_cancel]

/-- A power is infinite where the exact power is beyond the bound. -/
theorem pow_infinite_iff {x : Binary64} (double : x.IsDouble) {v : ℚ} (value : x.value? = some v) (least : 1 ≤ v)
    (n : Nat) : x.pow n = .infinite false ↔ overflowBound ≤ v ^ n := by
  obtain ⟨significand, exponent, rfl, above⟩ := (AtLeast.shape one_pos (Or.inr ⟨v, value, least⟩)).resolve_left (by
    rintro rfl
    cases value)
  have exact_ : v = (significand : ℚ) * 2 ^ exponent := by
    simpa [value?, magnitude_eq, eq_comm] using value
  have same := reduceTwos_value precision significand exponent
  change ((reduced significand exponent).1 : ℚ) * 2 ^ (reduced significand exponent).2 = _ at same
  rw [pow_finite]
  by_cases one : v = 1
  · rw [reduced_one double.1 (by rw [← exact_, one]), one]
    have small : (1 : ℚ) ^ n < overflowBound := by
      rw [one_pow]
      apply lt_of_lt_of_le _ le_overflowBound
      exact one_lt_zpow₀ one_lt_two (by decide)
    exact iff_of_false (by simp) (not_le.mpr small)
  · rw [exact_] at one least ⊢
    rw [← same] at one least ⊢
    generalize reduced significand exponent = base at one least ⊢
    have larger : 1 < (base.1 : ℚ) * 2 ^ base.2 := lt_of_le_of_ne least (Ne.symm one)
    rw [if_neg (by rintro ⟨unit, none⟩; rw [unit, none] at one; simp at one)]
    split
    next many => exact iff_of_true rfl (overflowBound_le_pow larger many)
    next =>
      have nonzero := Nat.pow_pos (n := n) (pos_of_dyadic one_pos least)
      obtain ⟨numerator, denominator, above, positive, ratio, rounds⟩ :=
        roundDyadic_eq false nonzero (base.2 * n)
      rw [rounds, roundNat_infinite_iff above positive, ratio, power_value]

end WorkflowRuns.Binary64
