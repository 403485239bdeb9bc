import Mathlib.Algebra.Order.Ring.Nat
import Mathlib.Data.List.TakeWhile
import WorkflowRuns.Json.Reader

/-!
Numerals and how they are read: a whole part, a fraction and an exponent.
-/

namespace WorkflowRuns

namespace Text

theorem isAsciiDigit_eq (c : Char) : isAsciiDigit c = c.isDigit := by
  simp [isAsciiDigit, Char.isDigit, Char.le_def, UInt32.le_iff_toNat_le]

theorem natOfDigits_eq (digits : List Char) : natOfDigits digits = Nat.ofDigitChars 10 digits 0 := by
  rw [Nat.ofDigitChars_eq_foldl, natOfDigits]
  congr 1
  funext n c
  rw [Nat.mul_comm]

theorem natOfDigits_toDigits (n : Nat) : natOfDigits (Nat.toDigits 10 n) = n := by
  rw [natOfDigits_eq, Nat.ofDigitChars_ten_toDigits]

theorem natOfDigits_append (first second : List Char) :
    natOfDigits (first ++ second) = natOfDigits first * 10 ^ second.length + natOfDigits second := by
  rw [natOfDigits_eq, natOfDigits_eq, natOfDigits_eq, Nat.ofDigitChars_append,
    Nat.ofDigitChars_eq_ofDigitChars_zero, Nat.mul_comm]

theorem natOfDigits_zeros (count : Nat) : natOfDigits (List.replicate count '0') = 0 := by
  rw [natOfDigits_eq, Nat.ofDigitChars_replicate_zero, Nat.mul_zero]

def Digits (text : List Char) : Prop := ∀ c ∈ text, isAsciiDigit c = true

theorem toDigits_digits (n : Nat) : Digits (Nat.toDigits 10 n) := by
  intro c member
  rw [isAsciiDigit_eq]
  exact Nat.isDigit_of_mem_toDigits (by decide) (by decide) member

theorem zeros_digits (count : Nat) : Digits (List.replicate count '0') := by
  intro c member
  rw [List.eq_of_mem_replicate member]
  rfl

theorem Digits.append {first second : List Char} (left : Digits first) (right : Digits second) :
    Digits (first ++ second) := by
  intro c member
  rcases List.mem_append.mp member with before | after
  · exact left c before
  · exact right c after

theorem natOfDigits_lt {digits : List Char} (all : Digits digits) : natOfDigits digits < 10 ^ digits.length := by
  induction digits with
  | nil => simp [natOfDigits]
  | cons c rest ih =>
      have later := ih fun d member => all d (List.mem_cons_of_mem _ member)
      have first : natOfDigits [c] ≤ 9 := by
        have digit := all c List.mem_cons_self
        rw [isAsciiDigit_eq, Char.isDigit_iff_toNat] at digit
        have nine : '9'.toNat = 57 := rfl
        have zero : '0'.toNat = 48 := rfl
        simp only [natOfDigits, List.foldl_cons, List.foldl_nil]
        omega
      have split := natOfDigits_append [c] rest
      rw [List.singleton_append] at split
      rw [split, List.length_cons, Nat.pow_succ]
      have scaled := Nat.mul_le_mul_right (10 ^ rest.length) first
      omega

theorem toDigits_natOfDigits_length {digits : List Char} (all : Digits digits) (present : digits ≠ []) :
    (Nat.toDigits 10 (natOfDigits digits)).length ≤ digits.length := by
  have positive := List.length_pos_iff.mpr present
  exact (Nat.length_toDigits_le_iff (by decide) positive).mpr (natOfDigits_lt all)

theorem toDigits_head {n : Nat} (positive : 0 < n) : (Nat.toDigits 10 n).head? ≠ some '0' := by
  induction n using Nat.strongRecOn with
  | ind n ih =>
      by_cases single : n < 10
      · have digits : ∀ d < 10, 0 < d → (Nat.toDigits 10 d).head? ≠ some '0' := by decide
        exact digits n single positive
      · rw [Nat.toDigits_of_base_le (by decide) (by omega), List.head?_append]
        have earlier := ih (n / 10) (by omega) (by omega)
        obtain ⟨d, rest, digits⟩ := List.exists_cons_of_ne_nil (Nat.toDigits_ne_nil (n := n / 10) (b := 10))
        rw [digits] at earlier ⊢
        exact earlier

end Text

namespace Json

open Text

/-- A text that goes on with none of the characters of a number. -/
def Ends (rest : List Char) : Prop :=
  ∀ c ∈ rest.head?, isAsciiDigit c = false ∧ c ≠ '.' ∧ c ≠ 'e' ∧ c ≠ 'E'

def Undigited (rest : List Char) : Prop := ∀ c ∈ rest.head?, isAsciiDigit c = false

theorem takeWhile_digits {digits rest : List Char} (all : Digits digits) (stops : Undigited rest) :
    (digits ++ rest).takeWhile isAsciiDigit = digits ∧ (digits ++ rest).dropWhile isAsciiDigit = rest := by
  rw [List.takeWhile_append_of_pos all, List.dropWhile_append_of_pos all]
  cases rest with
  | nil => simp
  | cons c rest => simp [stops c rfl]

def Whole (digits : List Char) : Prop := digits = ['0'] ∨ Digits digits ∧ digits ≠ [] ∧ digits.head? ≠ some '0'

theorem readWhole_digits {digits rest : List Char} (whole : Whole digits) (stops : Undigited rest) :
    readWhole (digits ++ rest) = some (digits, rest) := by
  rcases whole with rfl | ⟨all, present, leading⟩
  · rfl
  · obtain ⟨taken, dropped⟩ := takeWhile_digits all stops
    obtain ⟨c, later, rfl⟩ := List.exists_cons_of_ne_nil present
    have nonzero : c ≠ '0' := by simpa using leading
    rw [List.cons_append] at taken dropped
    rw [List.cons_append, readWhole.eq_def]
    simp [nonzero, taken, dropped]

theorem readFraction_digits {digits rest : List Char} (all : Digits digits) (present : digits ≠ [])
    (stops : Undigited rest) : readFraction ('.' :: (digits ++ rest)) = some (digits, rest) := by
  obtain ⟨taken, dropped⟩ := takeWhile_digits all stops
  simp [readFraction, taken, dropped, present]

theorem readFraction_none {rest : List Char} (stops : ∀ c ∈ rest.head?, c ≠ '.') : readFraction rest = none := by
  cases rest with
  | nil => rfl
  | cons c rest =>
      have other : c ≠ '.' := stops c rfl
      simp [readFraction, other]

def exponentSign (negative : Bool) : Char := if negative then '-' else '+'

theorem readExponent_digits (negative : Bool) {digits rest : List Char} (all : Digits digits) (present : digits ≠ [])
    (stops : Undigited rest) : readExponent ('e' :: exponentSign negative :: (digits ++ rest)) =
      some (if negative then -(natOfDigits digits : Int) else natOfDigits digits, rest) := by
  obtain ⟨taken, dropped⟩ := takeWhile_digits all stops
  cases negative <;> simp [readExponent, exponentSign, readSign, taken, dropped, present]

theorem readExponent_none {rest : List Char} (stops : ∀ c ∈ rest.head?, c ≠ 'e' ∧ c ≠ 'E') :
    readExponent rest = none := by
  cases rest with
  | nil => rfl
  | cons c rest =>
      obtain ⟨small, large⟩ := stops c rfl
      simp [readExponent, small, large]

theorem Ends.undigited {rest : List Char} (ends : Ends rest) : Undigited rest := fun c head => (ends c head).1

theorem Ends.fraction {rest : List Char} (ends : Ends rest) : readFraction rest = none :=
  readFraction_none fun c head => (ends c head).2.1

theorem Ends.exponent {rest : List Char} (ends : Ends rest) : readExponent rest = none :=
  readExponent_none fun c head => (ends c head).2.2

def minus (negative : Bool) : List Char := if negative then ['-'] else []

theorem Whole.unsigned {whole : List Char} (is : Whole whole) : ∃ c rest, whole = c :: rest ∧ isAsciiDigit c = true := by
  rcases is with rfl | ⟨all, present, _⟩
  · exact ⟨'0', [], rfl, rfl⟩
  · obtain ⟨c, rest, rfl⟩ := List.exists_cons_of_ne_nil present
    exact ⟨c, rest, rfl, all c List.mem_cons_self⟩

section Numerals

variable (negative : Bool) {whole : List Char} (is : Whole whole) {rest : List Char}

include is

theorem readMinus_whole (tail : List Char) :
    readMinus (minus negative ++ (whole ++ tail)) = (negative, whole ++ tail) := by
  obtain ⟨c, later, rfl, digit⟩ := is.unsigned
  have unsigned : c ≠ '-' := by
    rintro rfl
    cases digit
  cases negative <;> simp [readMinus, minus, unsigned]

theorem readNumber_int (short : whole.length ≤ digitLimit) (ends : Ends rest) :
    readNumber (minus negative ++ (whole ++ rest)) =
      .ok (.int (if negative then -(natOfDigits whole : Int) else natOfDigits whole), rest) := by
  unfold readNumber
  simp only [readMinus_whole negative is, readWhole_digits is ends.undigited, ends.fraction, ends.exponent,
    Bool.or_false, Bool.false_eq_true, if_false, Nat.not_lt.mpr short]

theorem readNumber_overlong (long : digitLimit < whole.length) (ends : Ends rest) :
    readNumber (minus negative ++ (whole ++ rest)) = .error (.tooManyDigits whole.length) := by
  unfold readNumber
  simp only [readMinus_whole negative is, readWhole_digits is ends.undigited, ends.fraction, ends.exponent,
    Bool.or_false, Bool.false_eq_true, if_false, long, if_true]

theorem readNumber_fraction {fraction : List Char} (all : Digits fraction) (present : fraction ≠ [])
    (ends : Ends rest) : readNumber (minus negative ++ (whole ++ '.' :: (fraction ++ rest))) =
      .ok (.float (.ofDecimal negative (natOfDigits (whole ++ fraction)) (0 - fraction.length)), rest) := by
  have stops : Undigited ('.' :: (fraction ++ rest)) := by
    rintro c ⟨⟩
    rfl
  unfold readNumber
  simp only [readMinus_whole negative is, readWhole_digits is stops, readFraction_digits all present ends.undigited,
    ends.exponent, Bool.or_false, if_true]

theorem readNumber_exponent {size : List Char} (down : Bool) (all : Digits size) (present : size ≠ [])
    (ends : Ends rest) : readNumber (minus negative ++ (whole ++ 'e' :: exponentSign down :: (size ++ rest))) =
      .ok (.float (.ofDecimal negative (natOfDigits whole)
        (if down then -(natOfDigits size : Int) else natOfDigits size)), rest) := by
  have stops : Undigited ('e' :: exponentSign down :: (size ++ rest)) := by
    rintro c ⟨⟩
    rfl
  have pointless : readFraction ('e' :: exponentSign down :: (size ++ rest)) = none := rfl
  unfold readNumber
  simp only [readMinus_whole negative is, readWhole_digits is stops, pointless,
    readExponent_digits down all present ends.undigited, Bool.false_or, if_true, List.append_nil, List.length_nil,
    Int.natCast_zero, Int.sub_zero]

theorem readNumber_scientific {fraction size : List Char} (down : Bool) (fractional : Digits fraction)
    (some : fraction ≠ []) (all : Digits size) (present : size ≠ []) (ends : Ends rest) :
    readNumber (minus negative ++
        (whole ++ '.' :: (fraction ++ 'e' :: exponentSign down :: (size ++ rest)))) =
      .ok (.float (.ofDecimal negative (natOfDigits (whole ++ fraction))
        ((if down then -(natOfDigits size : Int) else natOfDigits size) - fraction.length)), rest) := by
  have point : Undigited ('.' :: (fraction ++ 'e' :: exponentSign down :: (size ++ rest))) := by
    rintro c ⟨⟩
    rfl
  have stops : Undigited ('e' :: exponentSign down :: (size ++ rest)) := by
    rintro c ⟨⟩
    rfl
  unfold readNumber
  simp only [readMinus_whole negative is, readWhole_digits is point, readFraction_digits fractional some stops,
    readExponent_digits down all present ends.undigited, Bool.or_self, if_true]

end Numerals

theorem whole_toDigits (n : Nat) : Whole (Nat.toDigits 10 n) := by
  rcases Nat.eq_zero_or_pos n with rfl | positive
  · exact Or.inl (Nat.toDigits_zero 10)
  · exact Or.inr ⟨toDigits_digits n, Nat.toDigits_ne_nil, toDigits_head positive⟩

/-- An integer that may be written. -/
def Writable (n : Int) : Prop := (Nat.toDigits 10 n.natAbs).length ≤ digitLimit

theorem toString_int (n : Int) :
    (toString n).toList = minus (decide (n < 0)) ++ Nat.toDigits 10 n.natAbs := by
  cases n with
  | ofNat m =>
      have text : toString (Int.ofNat m) = m.repr := rfl
      have sign : minus (decide (Int.ofNat m < 0)) = [] := rfl
      rw [text, Nat.toList_repr, sign]
      rfl
  | negSucc m =>
      have text : toString (Int.negSucc m) = "-" ++ (m + 1).repr := rfl
      have sign : minus (decide (Int.negSucc m < 0)) = "-".toList := by simp [minus]
      rw [text, String.toList_append, Nat.toList_repr, sign]
      rfl

theorem readNumber_toString {n : Int} (writable : Writable n) {rest : List Char} (ends : Ends rest) :
    readNumber ((toString n).toList ++ rest) = .ok (.int n, rest) := by
  have signed : (if decide (n < 0) = true then -(n.natAbs : Int) else n.natAbs) = n := by
    simp only [decide_eq_true_eq]
    split <;> omega
  rw [toString_int, List.append_assoc, readNumber_int _ (whole_toDigits _) writable ends, natOfDigits_toDigits, signed]

def Bare (text : List Char) : Prop := ∀ c ∈ text, isBare c = true

theorem bare_digits {digits : List Char} (all : Digits digits) : Bare digits := by
  intro c member
  have digit := all c member
  rw [isAsciiDigit_eq] at digit
  simp [isBare, Char.isAlphanum, digit]

theorem Bare.append {first second : List Char} (left : Bare first) (right : Bare second) : Bare (first ++ second) :=
  fun c member => (List.mem_append.mp member).elim (left c) (right c)

theorem Bare.cons {c : Char} {rest : List Char} (first : isBare c = true) (later : Bare rest) : Bare (c :: rest) :=
  List.forall_mem_cons.mpr ⟨first, later⟩

theorem minus_bare (negative : Bool) : Bare (minus negative) := by
  cases negative <;> simp [Bare, minus, isBare]

theorem Whole.digits {whole : List Char} (is : Whole whole) : Digits whole := by
  rcases is with rfl | ⟨all, _, _⟩
  · exact zeros_digits 1
  · exact all

/-- A text that is read as a number, whatever it is followed by. -/
structure Numeral (text : List Char) (d : Document) : Prop where
  begins : ∃ negative c tail, text = minus negative ++ c :: tail ∧ isAsciiDigit c = true
  bare : Bare text
  reads : ∀ rest, Ends rest → readNumber (text ++ rest) = .ok (d, rest)

theorem numeral_int {n : Int} (writable : Writable n) : Numeral (toString n).toList (.int n) := by
  obtain ⟨c, tail, digits, digit⟩ := (whole_toDigits n.natAbs).unsigned
  refine ⟨⟨decide (n < 0), c, tail, ?_, digit⟩, ?_, fun rest ends => readNumber_toString writable ends⟩
  · rw [toString_int, digits]
  · rw [toString_int]
    exact (minus_bare _).append (bare_digits (toDigits_digits _))

end Json

end WorkflowRuns
