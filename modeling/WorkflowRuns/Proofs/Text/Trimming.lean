import Mathlib.Data.List.DropRight
import WorkflowRuns.Text.Classes

/-!
Trimming takes everything that is to be dropped off both ends of a text, and nothing else.
-/

namespace WorkflowRuns.Text

/-- No character that is to be dropped stands at either end. -/
structure Trimmed (drop : Char → Bool) (text : List Char) : Prop where
  first : ∀ c ∈ text.head?, drop c = false
  last : ∀ c ∈ text.getLast?, drop c = false

variable {drop narrow wide : Char → Bool}

theorem Trimmed.narrower {text : List Char} (trimmed : Trimmed wide text)
    (includes : ∀ c, narrow c = true → wide c = true) : Trimmed narrow text := by
  have kept : ∀ {c}, wide c = false → narrow c = false := by
    intro c outside
    rw [Bool.eq_false_iff] at outside ⊢
    exact fun inside => outside (includes c inside)
  exact ⟨fun c member => kept (trimmed.first c member), fun c member => kept (trimmed.last c member)⟩

theorem trimmed_or {other : Char → Bool} {text : List Char} :
    Trimmed (fun c => drop c || other c) text ↔ Trimmed drop text ∧ Trimmed other text := by
  constructor
  · intro both
    exact ⟨both.narrower fun c inside => by rw [inside, Bool.true_or],
      both.narrower fun c inside => by rw [inside, Bool.or_true]⟩
  · rintro ⟨one, two⟩
    constructor
    · intro c member
      rw [one.first c member, two.first c member, Bool.or_false]
    · intro c member
      rw [one.last c member, two.last c member, Bool.or_false]

theorem dropWhile_of_first {text : List Char} (first : ∀ c ∈ text.head?, drop c = false) :
    text.dropWhile drop = text := by
  cases text with
  | nil => rfl
  | cons c rest => rw [List.dropWhile_cons_of_neg (Bool.eq_false_iff.mp (first c rfl))]

theorem first_dropWhile (drop : Char → Bool) (text : List Char) :
    ∀ c ∈ (text.dropWhile drop).head?, drop c = false := by
  intro c member
  have kept := List.head?_dropWhile_not drop text
  rw [Option.mem_def.mp member] at kept
  exact kept

theorem trimWith_of_trimmed {text : List Char} (trimmed : Trimmed drop text) : trimWith drop text = text := by
  have back : ∀ c ∈ text.reverse.head?, drop c = false := by
    rw [List.head?_reverse]
    exact trimmed.last
  rw [trimWith, dropWhile_of_first trimmed.first, dropWhile_of_first back, List.reverse_reverse]

theorem trimmed_trimWith (drop : Char → Bool) (text : List Char) : Trimmed drop (trimWith drop text) := by
  constructor
  · intro c member
    -- What is taken off the back leaves the first character, unless it takes all.
    obtain ⟨after, whole⟩ := List.rdropWhile_prefix drop (text.dropWhile drop)
    apply first_dropWhile drop text
    have front : ((text.dropWhile drop).rdropWhile drop).head? = some c := member
    rw [← whole, List.head?_append, front]
    rfl
  · intro c member
    rw [trimWith, List.getLast?_reverse] at member
    exact first_dropWhile drop _ c member

theorem trimWith_eq_self_iff {text : List Char} : trimWith drop text = text ↔ Trimmed drop text := by
  constructor
  · intro same
    rw [← same]
    exact trimmed_trimWith drop text
  · exact trimWith_of_trimmed

theorem exists_dropped (drop : Char → Bool) (text : List Char) : ∃ before after,
    text = before ++ trimWith drop text ++ after ∧ (∀ c ∈ before, drop c = true) ∧ ∀ c ∈ after, drop c = true := by
  refine ⟨text.takeWhile drop, (text.dropWhile drop).rtakeWhile drop, ?_,
    fun c => List.mem_takeWhile_imp, fun c => List.mem_rtakeWhile_imp⟩
  calc text = text.takeWhile drop ++ text.dropWhile drop := List.takeWhile_append_dropWhile.symm
    _ = text.takeWhile drop ++ ((text.dropWhile drop).rdropWhile drop ++ (text.dropWhile drop).rtakeWhile drop) := by
        rw [List.rdropWhile_append_rtakeWhile]
    _ = text.takeWhile drop ++ trimWith drop text ++ (text.dropWhile drop).rtakeWhile drop :=
        (List.append_assoc ..).symm

theorem trimWith_append {before text after : List Char} (front : ∀ c ∈ before, drop c = true)
    (back : ∀ c ∈ after, drop c = true) : trimWith drop (before ++ text ++ after) = trimWith drop text := by
  have reversed : ∀ c ∈ after.reverse, drop c = true := fun c member => back c (List.mem_reverse.mp member)
  unfold trimWith
  rw [List.append_assoc, List.dropWhile_append_of_pos front, List.dropWhile_append]
  split
  next dropped => rw [List.dropWhile_eq_nil_iff.mpr back, List.isEmpty_iff.mp dropped]
  next => rw [List.reverse_append, List.dropWhile_append_of_pos reversed]

theorem trimWith_trimWith (includes : ∀ c, narrow c = true → wide c = true) (text : List Char) :
    trimWith wide (trimWith narrow text) = trimWith wide text := by
  obtain ⟨before, after, whole, front, back⟩ := exists_dropped narrow text
  conv_rhs => rw [whole]
  exact (trimWith_append (fun c member => includes c (front c member))
    (fun c member => includes c (back c member))).symm

theorem length_trimWith_le (drop : Char → Bool) (text : List Char) : (trimWith drop text).length ≤ text.length := by
  obtain ⟨before, after, whole, _⟩ := exists_dropped drop text
  have sizes := congrArg List.length whole
  simp only [List.length_append] at sizes
  omega

theorem trimWith_eq_self_of_length {text : List Char} (same : (trimWith drop text).length = text.length) :
    trimWith drop text = text := by
  obtain ⟨before, after, whole, _⟩ := exists_dropped drop text
  have sizes := congrArg List.length whole
  simp only [List.length_append] at sizes
  have front : before = [] := List.eq_nil_of_length_eq_zero (by omega)
  have back : after = [] := List.eq_nil_of_length_eq_zero (by omega)
  rw [front, back, List.nil_append, List.append_nil] at whole
  exact whole.symm

end WorkflowRuns.Text
