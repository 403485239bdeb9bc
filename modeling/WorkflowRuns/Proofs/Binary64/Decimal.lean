import WorkflowRuns.Proofs.Binary64.Nearest

/-!
Decimal numbers and how they are rounded.  Digits may be moved across the point, and the sign stands apart.
-/

namespace WorkflowRuns.Binary64

def roundDecimal (negative : Bool) (digits : Nat) : Int → Binary64
  | .ofNat up => roundNat negative (digits * Nat.pow 10 up) 1
  | .negSucc down => roundNat negative digits (Nat.pow 10 (down + 1))

def decimalSize (digits : Nat) (exponent : Int) : Int := (Nat.toDigits 10 digits).length + exponent

theorem ofDecimal_pos (negative : Bool) {digits : Nat} (positive : 0 < digits) (exponent : Int) :
    ofDecimal negative digits exponent =
      if 400 < decimalSize digits exponent then .infinite negative
      else if decimalSize digits exponent < -400 then .finite negative 0 leastExponent
      else roundDecimal negative digits exponent := by
  unfold ofDecimal
  rw [if_neg (Nat.ne_of_gt positive)]
  rfl

def signed (negative : Bool) : Binary64 → Binary64
  | .finite _ significand exponent => .finite negative significand exponent
  | .infinite _ => .infinite negative
  | .nan => .nan

theorem pack_signed (negative : Bool) (significand : Nat) (exponent : Int) :
    pack negative significand exponent = (pack false significand exponent).signed negative := by
  simp only [pack]
  split <;> split <;> rfl

theorem roundNat_signed (negative : Bool) (numerator denominator : Nat) :
    roundNat negative numerator denominator = (roundNat false numerator denominator).signed negative := by
  rcases Nat.eq_zero_or_pos numerator with rfl | nonzero
  · rfl
  · rw [roundNat_eq negative nonzero, roundNat_eq false nonzero]
    exact pack_signed negative _ _

theorem ofDecimal_signed (negative : Bool) (digits : Nat) (exponent : Int) :
    ofDecimal negative digits exponent = (ofDecimal false digits exponent).signed negative := by
  rcases Nat.eq_zero_or_pos digits with rfl | positive
  · rfl
  · rw [ofDecimal_pos negative positive, ofDecimal_pos false positive]
    split
    · rfl
    · split
      · rfl
      · cases exponent <;> exact roundNat_signed negative _ _

theorem roundDecimal_ten_mul (negative : Bool) (digits : Nat) (exponent : Int) :
    roundDecimal negative (10 * digits) exponent = roundDecimal negative digits (exponent + 1) := by
  have ten : 0 < 10 := by decide
  cases exponent with
  | ofNat up =>
      have numerator : 10 * digits * Nat.pow 10 up = digits * Nat.pow 10 (up + 1) := by
        simp only [Nat.pow_eq]
        ring
      show roundNat negative (10 * digits * Nat.pow 10 up) 1 = roundNat negative (digits * Nat.pow 10 (up + 1)) 1
      rw [numerator]
  | negSucc down =>
      cases down with
      | zero =>
          show roundNat negative (10 * digits) (10 * 1) = roundNat negative (digits * 1) 1
          rw [roundNat_scale negative ten one_pos, Nat.mul_one]
      | succ down =>
          have denominator : Nat.pow 10 (down + 1 + 1) = 10 * Nat.pow 10 (down + 1) := by
            simp only [Nat.pow_eq]
            ring
          show roundNat negative (10 * digits) (Nat.pow 10 (down + 1 + 1)) =
            roundNat negative digits (Nat.pow 10 (down + 1))
          rw [denominator, roundNat_scale negative ten (pow_pos ten _)]

theorem decimalSize_ten_mul {digits : Nat} (positive : 0 < digits) (exponent : Int) :
    decimalSize (10 * digits) exponent = decimalSize digits (exponent + 1) := by
  have length : (Nat.toDigits 10 (10 * digits)).length = (Nat.toDigits 10 digits).length + 1 := by
    rw [Nat.toDigits_of_base_le (by decide) (by omega), Nat.mul_div_cancel_left digits (by decide), List.length_append]
    rfl
  rw [decimalSize, length, decimalSize]
  push_cast
  ring

theorem ofDecimal_ten_mul (negative : Bool) (digits : Nat) (exponent : Int) :
    ofDecimal negative (10 * digits) exponent = ofDecimal negative digits (exponent + 1) := by
  rcases Nat.eq_zero_or_pos digits with rfl | positive
  · rfl
  · rw [ofDecimal_pos negative (Nat.mul_pos (by decide) positive), ofDecimal_pos negative positive,
      decimalSize_ten_mul positive, roundDecimal_ten_mul]

theorem ofDecimal_zeros (negative : Bool) (digits count : Nat) (exponent : Int) :
    ofDecimal negative (digits * 10 ^ count) exponent = ofDecimal negative digits (exponent + count) := by
  induction count generalizing exponent with
  | zero => simp
  | succ count ih =>
      have moved : digits * 10 ^ (count + 1) = 10 * (digits * 10 ^ count) := by ring
      rw [moved, ofDecimal_ten_mul, ih]
      congr 1
      push_cast
      ring

theorem decimalSize_spec {digits : Nat} (positive : 0 < digits) (exponent : Int) :
    (10 : ℚ) ^ (decimalSize digits exponent - 1) ≤ digits * 10 ^ exponent ∧
      (digits : ℚ) * 10 ^ exponent < 10 ^ decimalSize digits exponent := by
  have length := Nat.length_toDigits_pos (b := 10) (n := digits)
  have power : (0 : ℚ) < 10 ^ exponent := by positivity
  constructor
  · have low : 10 ^ ((Nat.toDigits 10 digits).length - 1) ≤ digits := by
      by_contra small
      rw [not_le] at small
      rcases Nat.eq_zero_or_pos ((Nat.toDigits 10 digits).length - 1) with zero | more
      · rw [zero] at small
        omega
      · have shorter := (Nat.length_toDigits_le_iff (by decide) more).mpr small
        omega
    have split : decimalSize digits exponent - 1 = (((Nat.toDigits 10 digits).length - 1 : Nat) : Int) + exponent := by
      rw [decimalSize]
      omega
    rw [split, zpow_add₀ (by norm_num), zpow_natCast]
    exact mul_le_mul_of_nonneg_right (by exact_mod_cast low) power.le
  · have high := (Nat.length_toDigits_le_iff (b := 10) (n := digits) (by decide) length).mp le_rfl
    rw [decimalSize, zpow_add₀ (by norm_num), zpow_natCast]
    exact mul_lt_mul_of_pos_right (by exact_mod_cast high) power

theorem two_pow_le_ten_pow {binary decimal : Nat} (fewer : binary ≤ 3 * decimal) : (2 : ℚ) ^ binary ≤ 10 ^ decimal := by
  calc (2 : ℚ) ^ binary ≤ 2 ^ (3 * decimal) := pow_le_pow_right₀ (by norm_num) fewer
    _ = 8 ^ decimal := by
        rw [pow_mul]
        norm_num
    _ ≤ 10 ^ decimal := by gcongr; norm_num

theorem Canonical.bounds {negative : Bool} {significand : Nat} {exponent : Int} (nonzero : 0 < significand)
    (canonical : (Binary64.finite negative significand exponent).Canonical) :
    (2 : ℚ) ^ (-1074 : Int) ≤ significand * 2 ^ exponent ∧ (significand : ℚ) * 2 ^ exponent ≤ 2 ^ (1024 : Int) := by
  obtain ⟨short, least, greatest, _⟩ := canonical
  have digits : (significand : ℚ) ≤ 2 ^ 53 := by exact_mod_cast short.le
  have one : (1 : ℚ) ≤ significand := by exact_mod_cast nonzero
  constructor
  · calc (2 : ℚ) ^ (-1074 : Int) ≤ 2 ^ exponent := zpow_le_zpow_right₀ (by norm_num) least
      _ ≤ significand * 2 ^ exponent := le_mul_of_one_le_left (two_pow_pos exponent).le one
  · calc (significand : ℚ) * 2 ^ exponent ≤ 2 ^ 53 * 2 ^ (971 : Int) := by
          have power : (2 : ℚ) ^ exponent ≤ 2 ^ (971 : Int) := zpow_le_zpow_right₀ (by norm_num) greatest
          exact mul_le_mul digits power (two_pow_pos exponent).le (by positivity)
      _ = 2 ^ (1024 : Int) := by
          rw [← zpow_natCast, ← zpow_add₀ two_ne_zero]
          rfl

section Sizes

variable {negative : Bool} {digits significand : Nat} {power exponent : Int} (positive : 0 < digits)
  (nonzero : 0 < significand) (canonical : (Binary64.finite negative significand exponent).Canonical)

include positive nonzero canonical

theorem Canonical.decimalSize_le (doubled : (digits : ℚ) * 10 ^ power ≤ 2 * (significand * 2 ^ exponent)) :
    decimalSize digits power ≤ 400 := by
  by_contra many
  have contrary : (10 : ℚ) ^ (400 : Int) < 10 ^ (400 : Int) := by
    calc (10 : ℚ) ^ (400 : Int) ≤ 10 ^ (decimalSize digits power - 1) :=
          zpow_le_zpow_right₀ (by norm_num) (by omega)
      _ ≤ 2 * (significand * 2 ^ exponent) := (decimalSize_spec positive power).1.trans doubled
      _ ≤ 2 * 2 ^ (1024 : Int) := mul_le_mul_of_nonneg_left (canonical.bounds nonzero).2 zero_le_two
      _ = 2 ^ 1025 := by rw [zpow_ofNat, ← pow_succ']
      _ ≤ 10 ^ 342 := two_pow_le_ten_pow (by norm_num)
      _ < 10 ^ 400 := pow_lt_pow_right₀ (by norm_num) (by norm_num)
      _ = 10 ^ (400 : Int) := by rw [zpow_ofNat]
  exact lt_irrefl _ contrary

theorem Canonical.le_decimalSize (halved : significand * 2 ^ exponent ≤ 2 * ((digits : ℚ) * 10 ^ power)) :
    -400 ≤ decimalSize digits power := by
  by_contra few
  have tiny : (2 : ℚ) ^ (-1074 : Int) < 2 * 10 ^ (-401 : Int) := by
    calc (2 : ℚ) ^ (-1074 : Int) ≤ 2 * ((digits : ℚ) * 10 ^ power) := (canonical.bounds nonzero).1.trans halved
      _ < 2 * 10 ^ decimalSize digits power :=
          mul_lt_mul_of_pos_left (decimalSize_spec positive power).2 zero_lt_two
      _ ≤ 2 * 10 ^ (-401 : Int) := by
          have smaller : (10 : ℚ) ^ decimalSize digits power ≤ 10 ^ (-401 : Int) :=
            zpow_le_zpow_right₀ (by norm_num) (by omega)
          exact mul_le_mul_of_nonneg_left smaller zero_le_two
  have inverted : (10 : ℚ) ^ 401 < 2 ^ 1074 * 2 := by
    rw [zpow_neg, zpow_neg, ← div_eq_mul_inv, lt_div_iff₀ (by positivity), inv_mul_lt_iff₀ (by positivity)] at tiny
    exact_mod_cast tiny
  have contrary : (10 : ℚ) ^ 401 < 10 ^ 401 := by
    calc (10 : ℚ) ^ 401 < 2 ^ 1074 * 2 := inverted
      _ = 2 ^ 1075 := (pow_succ 2 1074).symm
      _ ≤ 10 ^ 401 := two_pow_le_ten_pow (by norm_num)
  exact lt_irrefl _ contrary

end Sizes

theorem roundDecimal_near (negative : Bool) {digits significand : Nat} {power exponent : Int}
    (nonzero : 0 < significand) (canonical : (Binary64.finite negative significand exponent).Canonical)
    (near : |(digits : ℚ) * 10 ^ power - significand * 2 ^ exponent| < significand * 2 ^ exponent / 2 ^ 54) :
    roundDecimal negative digits power = .finite negative significand exponent := by
  cases power with
  | ofNat up =>
      apply roundNat_near negative one_pos nonzero canonical
      simpa using near
  | negSucc down =>
      apply roundNat_near negative (pow_pos (by decide) _) nonzero canonical
      simpa [div_eq_mul_inv] using near

/-- Decimal digits that differ from a number by less than one part in `2 ^ 54` are read as that number. -/
theorem ofDecimal_near (negative : Bool) {digits significand : Nat} {power exponent : Int}
    (positive : 0 < digits) (nonzero : 0 < significand)
    (canonical : (Binary64.finite negative significand exponent).Canonical)
    (near : |(digits : ℚ) * 10 ^ power - significand * 2 ^ exponent| < significand * 2 ^ exponent / 2 ^ 54) :
    ofDecimal negative digits power = .finite negative significand exponent := by
  obtain ⟨low, high⟩ := abs_lt.mp near
  have doubled : (digits : ℚ) * 10 ^ power ≤ 2 * (significand * 2 ^ exponent) := by linarith
  have halved : significand * 2 ^ exponent ≤ 2 * ((digits : ℚ) * 10 ^ power) := by linarith
  have few := canonical.decimalSize_le positive nonzero doubled
  have many := canonical.le_decimalSize positive nonzero halved
  rw [ofDecimal_pos negative positive, if_neg (by omega), if_neg (by omega)]
  exact roundDecimal_near negative nonzero canonical near

end WorkflowRuns.Binary64
