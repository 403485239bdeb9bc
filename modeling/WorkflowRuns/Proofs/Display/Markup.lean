import Mathlib.Tactic.SplitIfs
import WorkflowRuns.Display.Markup

/-!
The tags of markup, and what escaping does to them.  An escaped text has no tags, and takes none away from what
follows it, unless three backslashes or a greater odd number of them stand at its end.
-/

namespace WorkflowRuns.Display

/-- The tags of a text before which `slashes` backslashes stand; an odd number of them makes a tag plain text. -/
def tagsAfter (slashes : Nat) : List Char → List (List Char)
  | [] => []
  | c :: rest =>
      if c = '\\' then tagsAfter (slashes + 1) rest
      else if c = '[' ∧ isTag rest ∧ slashes % 2 = 0 then rest.takeWhile (· ≠ ']') :: tagsAfter 0 rest
      else tagsAfter 0 rest

def tags (s : String) : List String := (tagsAfter 0 s.toList).map String.ofList

def lastSlashes (slashes : Nat) : List Char → Nat
  | [] => slashes
  | c :: rest => if c = '\\' then lastSlashes (slashes + 1) rest else lastSlashes 0 rest

/-- A text escapes nothing behind it: the backslashes at its end are one, which is doubled, or an even number. -/
def Sealed (s : String) : Prop := lastSlashes 0 s.toList = 1 ∨ lastSlashes 0 s.toList % 2 = 0

instance (s : String) : Decidable (Sealed s) :=
  inferInstanceAs (Decidable (lastSlashes 0 s.toList = 1 ∨ lastSlashes 0 s.toList % 2 = 0))

def escapedBody (slashes : Nat) : List Char → List Char
  | [] => []
  | c :: rest =>
      if c = '\\' then escapedBody (slashes + 1) rest
      else if c = '[' ∧ isTag rest then List.replicate (2 * slashes + 1) '\\' ++ c :: escapedBody 0 rest
      else List.replicate slashes '\\' ++ c :: escapedBody 0 rest

variable {after : List Char}

theorem escapeAfter_eq (slashes : Nat) (text : List Char) :
    escapeAfter slashes text = escapedBody slashes text ++ List.replicate (lastSlashes slashes text) '\\' := by
  induction text generalizing slashes with
  | nil => rfl
  | cons c rest ih =>
      unfold escapeAfter escapedBody lastSlashes
      split_ifs
      · exact ih (slashes + 1)
      · rw [ih 0, List.append_assoc, List.cons_append]
      · rw [ih 0, List.append_assoc, List.cons_append]

theorem getLast?_escapedBody (slashes : Nat) (text : List Char) :
    (escapedBody slashes text).getLast? ≠ some '\\' := by
  induction text generalizing slashes with
  | nil => nofun
  | cons c rest ih =>
      have behind (c : Char) (plain : c ≠ '\\') (before : List Char) :
          (before ++ c :: escapedBody 0 rest).getLast? ≠ some '\\' := by
        rw [List.getLast?_append, List.getLast?_cons]
        cases last : (escapedBody 0 rest).getLast? with
        | none => exact fun same => plain (Option.some.inj same)
        | some d => exact fun same => ih 0 (last.trans same)
      unfold escapedBody
      split_ifs with slash
      · exact ih (slashes + 1)
      · exact behind c slash _
      · exact behind c slash _

theorem closes_slashes (k : Nat) (text : List Char) : closes (List.replicate k '\\' ++ text) = closes text := by
  induction k with
  | zero => rfl
  | succ k ih => exact ih

theorem tagsAfter_slashes (slashes k : Nat) (text : List Char) :
    tagsAfter slashes (List.replicate k '\\' ++ text) = tagsAfter (slashes + k) text := by
  induction k generalizing slashes with
  | zero => rfl
  | succ k ih =>
      rw [List.replicate_succ, List.cons_append, tagsAfter, if_pos rfl, ih, Nat.add_assoc, Nat.add_comm 1 k]

theorem tagsAfter_congr {slashes others : Nat} (same : slashes % 2 = others % 2) (text : List Char) :
    tagsAfter slashes text = tagsAfter others text := by
  induction text generalizing slashes others with
  | nil => rfl
  | cons c rest ih =>
      unfold tagsAfter
      rw [ih (show (slashes + 1) % 2 = (others + 1) % 2 by omega), same]

theorem closes_of_isTag {text : List Char} (tag : isTag text = true) : closes text = true := by
  cases text with
  | nil => cases tag
  | cons c rest =>
      rw [isTag, Bool.and_eq_true] at tag
      rw [closes]
      split_ifs with closing opening
      · rfl
      · rw [opening] at tag
        cases tag.1
      · exact tag.2

section Followed

variable (unclosed : closes after = false)
include unclosed

theorem closes_escaped (slashes k : Nat) (text : List Char) :
    closes (escapedBody slashes text ++ (List.replicate k '\\' ++ after)) = closes text := by
  induction text generalizing slashes with
  | nil => rw [escapedBody, List.nil_append, closes_slashes, unclosed, closes]
  | cons c rest ih =>
      unfold escapedBody
      split_ifs with slash tag
      · rw [ih, slash]
        rfl
      · rw [List.append_assoc, closes_slashes, tag.1]
        rfl
      · rw [List.append_assoc, closes_slashes, List.cons_append, closes, closes, ih]

theorem isTag_escaped (slashes k : Nat) (text : List Char) :
    isTag (escapedBody slashes text ++ (List.replicate k '\\' ++ after)) = (decide (slashes = 0) && isTag text) := by
  have slashed (n : Nat) (rest : List Char) : isTag (List.replicate (n + 1) '\\' ++ rest) = false := rfl
  induction text generalizing slashes with
  | nil =>
      rw [escapedBody, List.nil_append, isTag, Bool.and_false]
      cases k with
      | zero => exact Bool.eq_false_iff.mpr fun tag => Bool.eq_false_iff.mp unclosed (closes_of_isTag tag)
      | succ k => exact slashed k after
  | cons c rest ih =>
      unfold escapedBody
      split_ifs with slash tag
      · rw [ih, slash]
        simp [isTag, startsTag]
      · rw [List.append_assoc, slashed, tag.1]
        simp [isTag, startsTag]
      · cases slashes with
        | zero => rw [List.replicate_zero, List.nil_append, List.cons_append, isTag, closes_escaped unclosed]; simp [isTag]
        | succ n => rw [List.append_assoc, slashed]; rfl

theorem tagsAfter_escapedBody (slashes k : Nat) (text : List Char) :
    tagsAfter 0 (escapedBody slashes text ++ (List.replicate k '\\' ++ after)) = tagsAfter k after := by
  induction text generalizing slashes with
  | nil => rw [escapedBody, List.nil_append, tagsAfter_slashes, Nat.zero_add]
  | cons c rest ih =>
      unfold escapedBody
      split_ifs with slash tag
      · exact ih (slashes + 1)
      · rw [List.append_assoc, tagsAfter_slashes, List.cons_append, tagsAfter, if_neg slash, if_neg (by omega), ih]
      · have untagged : ¬(c = '[' ∧ isTag (escapedBody 0 rest ++ (List.replicate k '\\' ++ after)) ∧
            (0 + slashes) % 2 = 0) := by
          rintro ⟨bracket, started, _⟩
          rw [isTag_escaped unclosed] at started
          exact tag ⟨bracket, by simpa using started⟩
        rw [List.append_assoc, tagsAfter_slashes, List.cons_append, tagsAfter, if_neg slash, if_neg untagged, ih]

end Followed

theorem closeEnd_eq {body : List Char} (ends : body.getLast? ≠ some '\\') (k : Nat) :
    closeEnd (body ++ List.replicate k '\\') = body ++ List.replicate (if k = 1 then 2 else k) '\\' := by
  have turned : (body ++ List.replicate k '\\').reverse = List.replicate k '\\' ++ body.reverse := by
    rw [List.reverse_append, List.reverse_replicate]
  rw [← List.head?_reverse] at ends
  unfold closeEnd
  rw [turned]
  match k with
  | 0 =>
      cases first : body.reverse with
      | nil => rfl
      | cons c rest =>
          rw [first] at ends
          have plain : c ≠ '\\' := fun same => ends (congrArg some same)
          simp [plain]
  | 1 =>
      cases first : body.reverse with
      | nil => simp
      | cons c rest =>
          rw [first] at ends
          have plain : c ≠ '\\' := fun same => ends (congrArg some same)
          simp [plain]
  | k + 2 => simp [List.replicate_succ]

/-- What follows an escaped text keeps its tags; behind a text that is not sealed, the first one may be lost. -/
theorem tagsAfter_escape (s : String) (unclosed : closes after = false) :
    tagsAfter 0 ((escape s).toList ++ after) = tagsAfter (if Sealed s then 0 else 1) after := by
  rw [escape, String.toList_ofList, escapeAfter_eq, closeEnd_eq (getLast?_escapedBody 0 s.toList), List.append_assoc,
    tagsAfter_escapedBody unclosed]
  refine tagsAfter_congr ?_ after
  by_cases closed : Sealed s
  all_goals
    simp only [closed, if_true, if_false]
    unfold Sealed at closed
    split_ifs <;> omega

def isBracket (c : Char) : Bool := c = '[' || c = ']'

def decides : List Char → Bool
  | [] => false
  | c :: rest => !startsTag c || (rest.find? isBracket).isSome

def selfContained : List Char → Bool
  | [] => true
  | c :: rest => c ≠ '\\' && (c ≠ '[' || decides rest) && selfContained rest

theorem closes_append_none {before after : List Char} (none : before.find? isBracket = none) :
    closes (before ++ after) = closes after := by
  induction before with
  | nil => rfl
  | cons c rest ih =>
      rw [List.find?_cons] at none
      split at none
      next => cases none
      next plain =>
        simp only [isBracket, Bool.or_eq_false_iff, decide_eq_false_iff_not] at plain
        rw [List.cons_append, closes, if_neg plain.2, if_neg plain.1, ih none]

theorem closes_append_some {before after : List Char} {c : Char} (first : before.find? isBracket = some c) :
    closes (before ++ after) = decide (c = ']') := by
  induction before with
  | nil => cases first
  | cons d rest ih =>
      rw [List.find?_cons] at first
      split at first
      next bracket =>
        cases first
        simp only [isBracket, Bool.or_eq_true, decide_eq_true_eq] at bracket
        rw [List.cons_append, closes]
        rcases bracket with rfl | rfl <;> rfl
      next plain =>
        simp only [isBracket, Bool.or_eq_false_iff, decide_eq_false_iff_not] at plain
        rw [List.cons_append, closes, if_neg plain.2, if_neg plain.1, ih first]

theorem isTag_append {rest : List Char} (decided : decides rest = true) (after : List Char) :
    isTag (rest ++ after) = isTag rest := by
  cases rest with
  | nil => cases decided
  | cons c rest =>
      rw [List.cons_append, isTag, isTag]
      rw [decides, Bool.or_eq_true, Option.isSome_iff_exists] at decided
      rcases decided with plain | ⟨bracket, found⟩
      · rw [Bool.not_eq_true'] at plain
        rw [plain, Bool.false_and, Bool.false_and]
      · have alone : closes (rest ++ []) = decide (bracket = ']') := closes_append_some found
        rw [List.append_nil] at alone
        rw [closes_append_some found, alone]

theorem takeWhile_append {rest : List Char} (closed : closes rest = true) (after : List Char) :
    (rest ++ after).takeWhile (· ≠ ']') = rest.takeWhile (· ≠ ']') := by
  induction rest with
  | nil => cases closed
  | cons c rest ih =>
      rw [List.cons_append, List.takeWhile_cons, List.takeWhile_cons]
      rw [closes] at closed
      split_ifs at closed with ending opening
      · rw [ending]
        rfl
      · rw [ih closed]

theorem tagsAfter_append {before : List Char} (contained : selfContained before = true) (after : List Char) :
    tagsAfter 0 (before ++ after) = tagsAfter 0 before ++ tagsAfter 0 after := by
  induction before with
  | nil => rfl
  | cons c rest ih =>
      simp only [selfContained, Bool.and_eq_true, Bool.or_eq_true, decide_eq_true_eq, ne_eq] at contained
      obtain ⟨⟨slash, bracket⟩, rest⟩ := contained
      rw [List.cons_append, tagsAfter, tagsAfter, if_neg slash, if_neg slash, ih rest]
      by_cases opening : c = '['
      · have same := isTag_append (bracket.resolve_left fun other => other opening) after
        rw [same]
        split_ifs with tag
        · rw [takeWhile_append (closes_of_isTag tag.2.1), List.cons_append]
        · rfl
      · rw [if_neg fun tag => opening tag.1, if_neg fun tag => opening tag.1]

end WorkflowRuns.Display
