import WorkflowRuns.Graph.Reader
import WorkflowRuns.Proofs.Config.Settings
import WorkflowRuns.Proofs.Json.Documents

/-!
The duration of a wait.  It is never longer than an integer may be written, so that its text is read again.
-/

namespace WorkflowRuns

namespace Text

section

variable {c : Char}

theorem toNat_of_digit (digit : isAsciiDigit c = true) : 48 ≤ c.toNat ∧ c.toNat ≤ 57 := by
  rw [isAsciiDigit_eq, Char.isDigit_iff_toNat] at digit
  exact digit

theorem isBlank_of_digit (digit : isAsciiDigit c = true) : isBlank c = false := by
  obtain ⟨low, high⟩ := toNat_of_digit digit
  simp only [isBlank, isWhiteSpace, Bool.or_eq_false_iff, Bool.and_eq_false_iff, decide_eq_false_iff_not]
  omega

theorem isDigit_of_digit (digit : isAsciiDigit c = true) : isDigit c = true := by
  obtain ⟨_, high⟩ := toNat_of_digit digit
  rw [isDigit, if_pos (by omega)]
  exact digit

theorem decimalValue?_of_digit (digit : isAsciiDigit c = true) : decimalValue? c = some (c.toNat - '0'.toNat) := by
  obtain ⟨low, high⟩ := toNat_of_digit digit
  rw [decimalValue?, zeroDigits, List.find?_cons_of_pos (by simp; omega)]
  rfl

theorem decimalValue?_lt {d : Nat} (value : decimalValue? c = some d) : d < 10 := by
  obtain ⟨first, found, rfl⟩ := Option.map_eq_some_iff.mp value
  have range := List.find?_some found
  rw [Bool.and_eq_true, decide_eq_true_iff, decide_eq_true_iff] at range
  omega

end

theorem foldl_values_lt (values : List (Option Nat)) (digits : ∀ d, some d ∈ values → d < 10) :
    values.foldl (fun n value => n * 10 + value.getD 0) 0 < 10 ^ values.length := by
  induction values using List.reverseRecOn with
  | nil => exact Nat.one_pos
  | append_singleton before last ih =>
      have earlier := ih fun d member => digits d (List.mem_append_left _ member)
      have small : last.getD 0 < 10 := by
        cases last with
        | none => exact Nat.zero_lt_succ 9
        | some d => exact digits d (by simp)
      rw [List.foldl_append, List.length_append, List.length_singleton, Nat.pow_succ]
      simp only [List.foldl_cons, List.foldl_nil]
      omega

theorem foldl_values_digits {digits : List Char} (all : Digits digits) (n : Nat) :
    (digits.map decimalValue?).foldl (fun n value => n * 10 + value.getD 0) n =
      digits.foldl (fun n c => n * 10 + (c.toNat - '0'.toNat)) n := by
  induction digits generalizing n with
  | nil => rfl
  | cons c rest ih =>
      rw [List.map_cons, List.foldl_cons, List.foldl_cons, decimalValue?_of_digit (all c List.mem_cons_self)]
      exact ih (fun d member => all d (List.mem_cons_of_mem _ member)) _

theorem trim_digits {digits : List Char} (all : Digits digits) : trim (String.ofList digits) = String.ofList digits := by
  have kept : ∀ {text : List Char}, Digits text → text.dropWhile isBlank = text := by
    intro text all
    exact List.dropWhile_eq_self_iff.mpr fun some blank => by
      rw [isBlank_of_digit (all _ (List.getElem_mem some))] at blank
      cases blank
  have back : Digits digits.reverse := fun c member => all c (List.mem_reverse.mp member)
  rw [trim, trimWith, String.toList_ofList, kept all, kept back, List.reverse_reverse]

end Text

namespace Json

theorem writable_of_lt {n : Int} (digits : Nat) (positive : 0 < digits) (small : n.natAbs < 10 ^ digits)
    (few : digits ≤ Text.digitLimit) : Writable n :=
  Nat.le_trans ((Nat.length_toDigits_le_iff (by decide) positive).mpr small) few

theorem writable_zero : Writable 0 := writable_of_lt 1 Nat.one_pos (by decide) (by decide)

end Json

namespace Schema

open Text
open Json (Writable)

theorem groupedDigits_digits {text digits rest : List Char} (read : groupedDigits text = some (digits, rest)) :
    Digits digits ∧ digits ≠ [] := by
  fun_induction groupedDigits text generalizing digits rest with
  | case1 c rest digit ih =>
      obtain ⟨⟨others, after⟩, found, same⟩ := Option.map_eq_some_iff.mp read
      cases same
      exact ⟨List.forall_mem_cons.mpr ⟨digit, (ih found).1⟩, List.cons_ne_nil _ _⟩
  | case3 c d rest _ digit _ ih =>
      obtain ⟨⟨others, after⟩, found, same⟩ := Option.map_eq_some_iff.mp read
      cases same
      exact ⟨List.forall_mem_cons.mpr ⟨digit, (ih found).1⟩, List.cons_ne_nil _ _⟩
  | case4 c d rest _ digit =>
      cases read
      exact ⟨List.forall_mem_singleton.mpr digit, List.cons_ne_nil _ _⟩
  | case6 c digit =>
      cases read
      exact ⟨List.forall_mem_singleton.mpr digit, List.cons_ne_nil _ _⟩
  | _ => cases read

theorem writable_of_integerOfText {s : String} {n : Int} (accepted : integerOfText s = .accepted n) : Writable n := by
  unfold integerOfText at accepted
  simp only at accepted
  split at accepted
  next => cases accepted
  next digits rest found =>
    obtain ⟨all, present⟩ := groupedDigits_digits found
    split_ifs at accepted with _ long negative
    · cases accepted
    · cases accepted
    · cases accepted
      exact Json.writable_digits all present (Nat.not_lt.mp long) true
    · cases accepted
      exact Json.writable_digits all present (Nat.not_lt.mp long) false

theorem writable_of_integer {value : Value} {n : Int} (document : Json.Proper value)
    (accepted : integer value = .accepted n) : Writable n := by
  cases value with
  | int m =>
      cases accepted
      exact document
  | bool b =>
      cases accepted
      exact Json.writable_of_lt 1 Nat.one_pos (by cases b <;> decide) (by decide)
  | float x =>
      rw [integer, integerOfFloat] at accepted
      split at accepted
      next => cases accepted
      next m _ =>
        split at accepted
        next => cases accepted
        next =>
          split at accepted
          next within =>
            cases accepted
            refine Json.writable_of_lt 19 (by decide) ?_ (by decide)
            omega
          next => cases accepted
  | text s => exact writable_of_integerOfText accepted
  | foreign => exact document.elim
  | null | list | record => cases accepted

end Schema

namespace Params

open Schema Text

theorem integerOfDigits_digits {digits : List Char} (all : Digits digits) (present : digits ≠ [])
    (short : digits.length ≤ digitLimit) : integerOfDigits (String.ofList digits) = .accepted (natOfDigits digits) := by
  have unsigned : ∀ rest, digits ≠ '-' :: rest := by
    rintro rest rfl
    exact absurd (all '-' List.mem_cons_self) (by decide)
  have valued : (digits.map decimalValue?).takeWhile Option.isSome = digits.map decimalValue? := by
    rw [List.takeWhile_eq_self_iff, List.forall_mem_map]
    intro c member
    rw [decimalValue?_of_digit (all c member)]
    rfl
  unfold integerOfDigits
  rw [String.toList_ofList]
  split
  next negative read equal =>
    split at equal
    next rest => exact absurd rfl (unsigned rest)
    next =>
      cases equal
      simp only [valued, List.length_map]
      rw [if_neg (by omega), if_neg (by simp [present]), foldl_values_digits all]
      rfl

theorem writable_of_integerOfDigits {s : String} {n : Int} (accepted : integerOfDigits s = .accepted n) :
    Json.Writable n := by
  unfold integerOfDigits at accepted
  split at accepted
  next negative digits _ =>
    simp only at accepted
    split at accepted
    next => cases accepted
    next short =>
      split at accepted
      next => cases accepted
      next whole =>
        cases accepted
        simp only [Bool.or_eq_true, decide_eq_true_eq, not_or, List.isEmpty_iff] at whole
        have valued : (digits.map decimalValue?).length ≤ digitLimit := by omega
        have some : 0 < (digits.map decimalValue?).length := by
          rw [List.length_map]
          exact List.length_pos_iff.mpr whole.1
        have small := foldl_values_lt (digits.map decimalValue?) fun d member => by
          obtain ⟨c, _, value⟩ := List.mem_map.mp member
          exact decimalValue?_lt value
        refine Json.writable_of_lt _ some ?_ valued
        cases negative with
        | false => exact small
        | true =>
            rw [if_pos rfl, Int.natAbs_neg]
            exact small

theorem duration_toString {n : Nat} (writable : Json.Writable n) : duration (.text (toString n)) = .accepted n := by
  have text : toString n = String.ofList (Nat.toDigits 10 n) := Nat.repr_eq_ofList_toDigits
  have all := toDigits_digits n
  obtain ⟨c, rest, first⟩ := List.exists_cons_of_ne_nil (Nat.toDigits_ne_nil (n := n) (b := 10))
  have unsigned : c ≠ '-' := by
    rintro rfl
    exact absurd (all '-' (by simp [first])) (by decide)
  have digits : isDurationText (String.ofList (Nat.toDigits 10 n)) = true := by
    have each : (Nat.toDigits 10 n).all isDigit = true :=
      List.all_eq_true.mpr fun d member => isDigit_of_digit (all d member)
    simp only [isDurationText, String.toList_ofList]
    rw [first] at each ⊢
    rw [List.dropWhile_cons_of_neg (by simpa using unsigned), each]
    rfl
  have present : String.ofList (Nat.toDigits 10 n) ≠ "" := by
    rw [first]
    exact fun empty => absurd (congrArg String.toList empty) (by simp)
  have read : durationOfText (toString n) = .accepted (n : Int) := by
    rw [durationOfText, text, if_neg present, trim_digits all, if_pos digits,
      integerOfDigits_digits all Nat.toDigits_ne_nil writable, natOfDigits_toDigits]
  simp only [duration, read, Checked.andThen]
  rw [if_pos (Int.natCast_nonneg n)]

/-- The milliseconds that a value stands for; null and the empty text stand for zero. -/
inductive Lasts : Value → Int → Prop
  | null : Lasts .null 0
  | text {s : String} {n : Int} (read : durationOfText s = .accepted n) : Lasts (.text s) n
  | number {value : Value} {n : Int} (present : value ≠ .null) (untold : ∀ s, value ≠ .text s)
      (read : integer value = .accepted n) : Lasts value n

/-- No value stands for a duration below zero, and none is cut off. -/
theorem duration_accepted_iff {value : Value} {n : Int} : duration value = .accepted n ↔ 0 ≤ n ∧ Lasts value n := by
  have checked : ∀ read : Checked Int,
      (read.andThen fun n => if 0 ≤ n then .accepted n else fail (.atLeast 0)) = .accepted n ↔
        0 ≤ n ∧ read = .accepted n := by
    intro read
    cases read with
    | accepted m =>
        simp only [Checked.andThen, Checked.accepted.injEq]
        by_cases positive : 0 ≤ m
        · rw [if_pos positive, Checked.accepted.injEq]
          omega
        · rw [if_neg positive]
          exact iff_of_false (by rintro ⟨⟩) (by omega)
    | refused faults => exact iff_of_false (by rintro ⟨⟩) (by rintro ⟨_, ⟨⟩⟩)
  unfold duration
  cases value with
  | null =>
      refine (checked (.accepted 0)).trans (and_congr_right fun _ => ⟨fun zero => ?_, fun lasts => ?_⟩)
      · rw [← Checked.accepted.inj zero]
        exact .null
      · cases lasts with
        | null => rfl
        | number present => exact absurd rfl present
  | text s =>
      refine (checked (durationOfText s)).trans (and_congr_right fun _ => ⟨.text, fun lasts => ?_⟩)
      cases lasts with
      | text read => exact read
      | number _ untold => exact absurd rfl (untold s)
  | bool | int | float | list | record | foreign =>
      simp only [checked]
      refine and_congr_right fun _ => ⟨fun read => .number (by simp) (by simp) read, fun lasts => ?_⟩
      cases lasts with
      | number _ _ read => exact read

/-- A duration that is read from a document may be written. -/
theorem writable_of_lasts {value : Value} {n : Int} (document : Json.Proper value) (lasts : Lasts value n) :
    Json.Writable n := by
  cases lasts with
  | null => exact Json.writable_zero
  | text read =>
      simp only [durationOfText] at read
      split at read
      next =>
        rw [← Checked.accepted.inj read]
        exact Json.writable_zero
      next =>
        split at read
        next => exact writable_of_integerOfDigits read
        next => cases read
  | number _ untold read => exact writable_of_integer document read

end Params

end WorkflowRuns
