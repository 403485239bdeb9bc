import WorkflowRuns.Json.Writer
import WorkflowRuns.Proofs.Binary64.Shortest
import WorkflowRuns.Proofs.Json.Numbers

/-!
The texts of numbers with a point or an exponent.
-/

namespace WorkflowRuns.Json

open Text

theorem numeral_fraction (negative : Bool) {whole fraction : List Char} (is : Whole whole) (all : Digits fraction)
    (present : fraction ≠ []) : Numeral (minus negative ++ (whole ++ '.' :: fraction))
      (.float (.ofDecimal negative (natOfDigits (whole ++ fraction)) (0 - fraction.length))) := by
  constructor
  · obtain ⟨c, tail, rfl, digit⟩ := is.unsigned
    exact ⟨negative, c, tail ++ '.' :: fraction, rfl, digit⟩
  · exact (minus_bare negative).append ((bare_digits is.digits).append (.cons rfl (bare_digits all)))
  · intro rest ends
    simpa using readNumber_fraction negative is all present ends

theorem exponent_bare (down : Bool) {size : List Char} (all : Digits size) :
    Bare ('e' :: exponentSign down :: size) := by
  refine .cons rfl (.cons ?_ (bare_digits all))
  cases down <;> rfl

theorem numeral_exponent (negative down : Bool) {whole size : List Char} (is : Whole whole) (all : Digits size)
    (present : size ≠ []) : Numeral (minus negative ++ (whole ++ 'e' :: exponentSign down :: size))
      (.float (.ofDecimal negative (natOfDigits whole)
        (if down then -(natOfDigits size : Int) else natOfDigits size))) := by
  constructor
  · obtain ⟨c, tail, rfl, digit⟩ := is.unsigned
    exact ⟨negative, c, tail ++ 'e' :: exponentSign down :: size, rfl, digit⟩
  · exact (minus_bare negative).append ((bare_digits is.digits).append (exponent_bare down all))
  · intro rest ends
    simpa using readNumber_exponent negative is down all present ends

theorem numeral_scientific (negative down : Bool) {whole fraction size : List Char} (is : Whole whole)
    (fractional : Digits fraction) (some : fraction ≠ []) (all : Digits size) (present : size ≠ []) :
    Numeral (minus negative ++ (whole ++ '.' :: (fraction ++ 'e' :: exponentSign down :: size)))
      (.float (.ofDecimal negative (natOfDigits (whole ++ fraction))
        ((if down then -(natOfDigits size : Int) else natOfDigits size) - fraction.length))) := by
  constructor
  · obtain ⟨c, tail, rfl, digit⟩ := is.unsigned
    exact ⟨negative, c, tail ++ '.' :: (fraction ++ 'e' :: exponentSign down :: size), rfl, digit⟩
  · exact (minus_bare negative).append
      ((bare_digits is.digits).append (.cons rfl ((bare_digits fractional).append (exponent_bare down all))))
  · intro rest ends
    simpa using readNumber_scientific negative is down fractional some all present ends

/-- Digits that stand for a positive number, without zeros before them. -/
structure Significant (digits : List Char) : Prop where
  all : Digits digits
  present : digits ≠ []
  leading : digits.head? ≠ some '0'

theorem significant_toDigits {n : Nat} (positive : 0 < n) : Significant (Nat.toDigits 10 n) :=
  ⟨toDigits_digits n, Nat.toDigits_ne_nil, toDigits_head positive⟩

theorem Significant.whole {digits rest : List Char} (significant : Significant digits) (zeros : Digits rest) :
    Whole (digits ++ rest) := by
  obtain ⟨all, present, leading⟩ := significant
  obtain ⟨c, tail, rfl⟩ := List.exists_cons_of_ne_nil present
  exact Or.inr ⟨all.append zeros, by simp, leading⟩

theorem Significant.take {digits : List Char} (significant : Significant digits) (count : Nat) (some : 0 < count) :
    Whole (digits.take count) := by
  obtain ⟨all, present, leading⟩ := significant
  obtain ⟨c, tail, rfl⟩ := List.exists_cons_of_ne_nil present
  obtain ⟨count, rfl⟩ : ∃ fewer, count = fewer + 1 := ⟨count - 1, by omega⟩
  exact Or.inr ⟨fun d member => all d (List.mem_of_mem_take member), by simp, leading⟩

section Significant

variable (negative : Bool) {digits : List Char} (significant : Significant digits)

include significant

theorem numeral_small {point : Int} (small : point ≤ 0) :
    Numeral (minus negative ++ (Binary64.positional digits point).toList)
      (.float (.ofDecimal negative (natOfDigits digits) (point - digits.length))) := by
  have zeros : natOfDigits (['0'] ++ (List.replicate point.natAbs '0' ++ digits)) = natOfDigits digits := by
    rw [natOfDigits_append, natOfDigits_append, natOfDigits_zeros, Nat.zero_mul, Nat.zero_add]
    exact (congrArg (· + natOfDigits digits) (Nat.zero_mul _)).trans (Nat.zero_add _)
  have exponent : (0 : Int) - (List.replicate point.natAbs '0' ++ digits).length = point - digits.length := by
    rw [List.length_append, List.length_replicate]
    omega
  have text : (Binary64.positional digits point).toList =
      ['0'] ++ '.' :: (List.replicate point.natAbs '0' ++ digits) := by
    simp [Binary64.positional, small]
  have numeral := numeral_fraction negative (Or.inl rfl)
    ((zeros_digits point.natAbs).append significant.all) (by simp [significant.present])
  rw [zeros, exponent] at numeral
  rwa [text]

theorem numeral_medium {point : Int} (positive : 0 < point) (among : point < digits.length) :
    Numeral (minus negative ++ (Binary64.positional digits point).toList)
      (.float (.ofDecimal negative (natOfDigits digits) (point - digits.length))) := by
  have some : digits.drop point.toNat ≠ [] := by
    rw [Ne, List.drop_eq_nil_iff]
    omega
  have exponent : (0 : Int) - (digits.drop point.toNat).length = point - digits.length := by
    rw [List.length_drop]
    omega
  have text : (Binary64.positional digits point).toList =
      digits.take point.toNat ++ '.' :: digits.drop point.toNat := by
    have none : point.toNat - digits.length = 0 := by omega
    simp [Binary64.positional, not_le.mpr positive, some, none]
  have numeral := numeral_fraction negative (significant.take point.toNat (by omega))
    (fun d member => significant.all d (List.mem_of_mem_drop member)) some
  rw [List.take_append_drop, exponent] at numeral
  rwa [text]

theorem numeral_large {point : Int} (large : digits.length ≤ point) :
    Numeral (minus negative ++ (Binary64.positional digits point).toList)
      (.float (.ofDecimal negative (natOfDigits digits) (point - digits.length))) := by
  have length := List.length_pos_iff.mpr significant.present
  have zeros : natOfDigits (digits ++ List.replicate (point.toNat - digits.length) '0' ++ ['0']) =
      natOfDigits digits * 10 ^ (point.toNat - digits.length + 1) := by
    rw [List.append_assoc, ← List.replicate_succ', natOfDigits_append, natOfDigits_zeros, List.length_replicate]
    rfl
  have value : Binary64.ofDecimal negative (natOfDigits digits * 10 ^ (point.toNat - digits.length + 1))
      (0 - (['0'].length : Nat)) = Binary64.ofDecimal negative (natOfDigits digits) (point - digits.length) := by
    rw [Binary64.ofDecimal_zeros]
    congr 1
    simp only [List.length_singleton]
    omega
  have text : (Binary64.positional digits point).toList =
      digits ++ List.replicate (point.toNat - digits.length) '0' ++ '.' :: ['0'] := by
    have none : digits.drop point.toNat = [] := List.drop_eq_nil_of_le (by omega)
    have every : digits.take point.toNat = digits := List.take_of_length_le (by omega)
    have positive : ¬ point ≤ 0 := by omega
    simp [Binary64.positional, positive, none, every]
  have numeral := numeral_fraction negative (significant.whole (zeros_digits (point.toNat - digits.length)))
    (zeros_digits 1) (by simp)
  rw [List.replicate_one, zeros, value] at numeral
  rwa [text]

theorem numeral_positional (point : Int) :
    Numeral (minus negative ++ (Binary64.positional digits point).toList)
      (.float (.ofDecimal negative (natOfDigits digits) (point - digits.length))) := by
  by_cases small : point ≤ 0
  · exact numeral_small negative significant small
  · by_cases among : point < digits.length
    · exact numeral_medium negative significant (by omega) among
    · exact numeral_large negative significant (by omega)

end Significant

def exponentSize (exponent : Int) : List Char :=
  if (Nat.toDigits 10 exponent.natAbs).length < 2 then '0' :: Nat.toDigits 10 exponent.natAbs
  else Nat.toDigits 10 exponent.natAbs

theorem exponentSize_digits (exponent : Int) : Digits (exponentSize exponent) ∧ exponentSize exponent ≠ [] := by
  have digits := toDigits_digits exponent.natAbs
  unfold exponentSize
  split
  · exact ⟨(zeros_digits 1).append digits, by simp⟩
  · exact ⟨digits, Nat.toDigits_ne_nil⟩

theorem natOfDigits_exponentSize (exponent : Int) : natOfDigits (exponentSize exponent) = exponent.natAbs := by
  unfold exponentSize
  split
  · have padded := natOfDigits_append ['0'] (Nat.toDigits 10 exponent.natAbs)
    rw [natOfDigits_toDigits] at padded
    simpa [natOfDigits] using padded
  · exact natOfDigits_toDigits _

theorem exponent_value (exponent : Int) :
    (if decide (exponent < 0) then -(natOfDigits (exponentSize exponent) : Int)
      else natOfDigits (exponentSize exponent)) = exponent := by
  rw [natOfDigits_exponentSize]
  split
  next negative =>
    rw [decide_eq_true_eq] at negative
    omega
  next nonnegative =>
    rw [decide_eq_true_eq] at nonnegative
    omega

theorem scientific_toList (first : Char) (others : List Char) (exponent : Int) :
    (Binary64.scientific (first :: others) exponent).toList =
      [first] ++ ((if others = [] then [] else '.' :: others) ++
        'e' :: exponentSign (decide (exponent < 0)) :: exponentSize exponent) := by
  have size : (if (toString exponent.natAbs).length < 2 then "0" ++ toString exponent.natAbs
      else toString exponent.natAbs).toList = exponentSize exponent := by
    have text : (toString exponent.natAbs).toList = Nat.toDigits 10 exponent.natAbs := Nat.toList_repr
    rw [exponentSize, ← text, String.length_toList]
    split
    · rw [String.toList_append]
      rfl
    · rfl
  have mark : (if exponent < 0 then "e-" else "e+").toList = ['e', exponentSign (decide (exponent < 0))] := by
    by_cases negative : exponent < 0 <;> simp [negative, exponentSign]
  cases others with
  | nil =>
      simp only [Binary64.scientific, String.toList_append, size, mark, if_true]
      simp
  | cons next others =>
      simp only [Binary64.scientific, String.toList_append, size, mark]
      simp

theorem numeral_scale (negative : Bool) {digits : List Char} (significant : Significant digits) (exponent : Int) :
    Numeral (minus negative ++ (Binary64.scientific digits exponent).toList)
      (.float (.ofDecimal negative (natOfDigits digits) (exponent - (digits.length - 1)))) := by
  obtain ⟨all, present⟩ := exponentSize_digits exponent
  have value := exponent_value exponent
  obtain ⟨first, others, rfl⟩ := List.exists_cons_of_ne_nil significant.present
  have whole := significant.take 1 one_pos
  rw [List.take_succ_cons, List.take_zero] at whole
  rw [scientific_toList]
  cases others with
  | nil =>
      have numeral := numeral_exponent negative (decide (exponent < 0)) whole all present
      rw [value] at numeral
      simpa using numeral
  | cons next others =>
      have fractional : Digits (next :: others) := fun d member => significant.all d (List.mem_cons_of_mem _ member)
      have numeral := numeral_scientific negative (decide (exponent < 0)) whole fractional (by simp) all present
      have length : exponent - ((next :: others).length : Int) =
          exponent - (((first :: next :: others).length : Int) - 1) := by
        simp only [List.length_cons]
        push_cast
        omega
      rw [value, length] at numeral
      exact numeral

theorem numeral_magnitude {negative : Bool} {significand : Nat} {exponent : Int} (nonzero : 0 < significand)
    (canonical : (Binary64.finite negative significand exponent).Canonical) :
    Numeral (minus negative ++ (Binary64.magnitudeText significand exponent).toList)
      (.float (.finite negative significand exponent)) := by
  obtain ⟨positive, reads⟩ := Binary64.writtenDigits_read nonzero canonical
  unfold Binary64.magnitudeText
  rw [if_neg (Nat.ne_of_gt nonzero)]
  simp only
  generalize Binary64.stripZeros 20 (Binary64.shortestDigits significand exponent).1
    (Binary64.shortestDigits significand exponent).2 = written at positive reads
  have significant := significant_toDigits positive
  have digits := natOfDigits_toDigits written.1
  split
  · have numeral := numeral_positional negative significant
      (written.2 + (Nat.toDigits 10 written.1).length - 1 + 1)
    have scale : written.2 + ((Nat.toDigits 10 written.1).length : Int) - 1 + 1 - (Nat.toDigits 10 written.1).length =
        written.2 := by omega
    rw [digits, scale, reads] at numeral
    exact numeral
  · have numeral := numeral_scale negative significant (written.2 + (Nat.toDigits 10 written.1).length - 1)
    have scale : written.2 + ((Nat.toDigits 10 written.1).length : Int) - 1 - ((Nat.toDigits 10 written.1).length - 1) =
        written.2 := by omega
    rw [digits, scale, reads] at numeral
    exact numeral

theorem numeral_zero (negative : Bool) : Numeral (minus negative ++ "0.0".toList)
    (.float (.finite negative 0 Binary64.leastExponent)) :=
  numeral_fraction negative (Or.inl rfl) (zeros_digits 1) (by simp)

/-- A finite number is written as a numeral that is read as this number. -/
theorem numeral_float {negative : Bool} {significand : Nat} {exponent : Int}
    (canonical : (Binary64.finite negative significand exponent).Canonical) :
    Numeral (floatText (.finite negative significand exponent)).toList
      (.float (.finite negative significand exponent)) := by
  have text : (floatText (.finite negative significand exponent)).toList =
      minus negative ++ (Binary64.magnitudeText significand exponent).toList := by
    cases negative <;> simp [floatText, Binary64.text, minus]
  rw [text]
  rcases Nat.eq_zero_or_pos significand with rfl | nonzero
  · obtain ⟨_, _, _, full⟩ := canonical
    rw [full.resolve_left (by decide)]
    exact numeral_zero negative
  · exact numeral_magnitude nonzero canonical

end WorkflowRuns.Json
