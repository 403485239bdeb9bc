import WorkflowRuns.Proofs.Json.Documents

/-!
Where a number is refused: only for an integer in the text that has too many digits.
-/

namespace WorkflowRuns.Json

open Text

/-- So many digits in a row stand in a text, and they are too many for an integer. -/
def Overlong (text : List CodePoint) (count : Nat) : Prop :=
  digitLimit < count ∧ ∃ digits, Digits digits ∧ digits.length = count ∧ digits.map .char <:+: text

theorem Overlong.within {text whole : List CodePoint} {count : Nat} (overlong : Overlong text count)
    (inside : text <:+: whole) : Overlong whole count := by
  obtain ⟨long, digits, all, length, infix_⟩ := overlong
  exact ⟨long, digits, all, length, infix_.trans inside⟩

/-- A reader leaves an end of its text, and refuses a number only for an overlong integer there. -/
structure Reads {α : Type} (text : List CodePoint) (result : Except Failure (α × List CodePoint)) : Prop where
  leaves : ∀ a rest, result = .ok (a, rest) → rest <:+ text
  refuses : ∀ count rest, result = .error ⟨.tooManyDigits count, rest⟩ → Overlong text count

namespace Reads

variable {α β : Type} {text whole rest : List CodePoint} {result : Except Failure (α × List CodePoint)}

theorem found (a : α) (suffix : rest <:+ text) : Reads text (.ok (a, rest)) := by
  constructor
  · intro b left same
    cases same
    exact suffix
  · nofun

theorem failed {problem : Problem} (other : ∀ count, problem ≠ .tooManyDigits count) :
    Reads text (.error ⟨problem, rest⟩ : Except Failure (α × List CodePoint)) := by
  constructor
  · nofun
  · intro count left same
    cases same
    exact absurd rfl (other count)

theorem within (reads : Reads text result) (suffix : text <:+ whole) : Reads whole result :=
  ⟨fun a rest same => (reads.leaves a rest same).trans suffix,
    fun count rest same => (reads.refuses count rest same).within suffix.isInfix⟩

theorem bind (first : Reads text result) {f : α × List CodePoint → Except Failure (β × List CodePoint)}
    (second : ∀ a rest, rest <:+ text → Reads rest (f (a, rest))) : Reads text (result >>= f) := by
  cases result with
  | error failure =>
      constructor
      · nofun
      · intro count rest same
        apply first.refuses count rest
        cases same
        rfl
  | ok pair =>
      obtain ⟨a, rest⟩ := pair
      have suffix := first.leaves a rest rfl
      exact (second a rest suffix).within suffix

end Reads

theorem skipSpace_suffix (text : List CodePoint) : skipSpace text <:+ text :=
  List.dropWhile_suffix _

theorem readUnit_suffix {text rest : List CodePoint} {unit : Nat} (read : readUnit text = some (unit, rest)) :
    rest <:+ text := by
  unfold readUnit at read
  split at read
  next a b c d next rest =>
    obtain ⟨n, _, same⟩ := Option.map_eq_some_iff.mp read
    cases same
    exact List.suffix_append [a, b, c, d] _
  next => cases read

theorem readLow_suffix {text rest : List CodePoint} {unit : Nat} (read : readLow text = some (unit, rest)) :
    rest <:+ text := by
  unfold readLow at read
  split at read
  next tail =>
    exact (readUnit_suffix (Option.filter_eq_some_iff.mp read).1).trans (List.suffix_append [_, _] tail)
  next => cases read

theorem readEscape_suffix {text rest : List CodePoint} {point : CodePoint}
    (read : readEscape text = some (point, rest)) : rest <:+ text := by
  obtain ⟨⟨unit, after⟩, first, same⟩ := Option.map_eq_some_iff.mp read
  have suffix := readUnit_suffix first
  simp only at same
  split at same
  next low later found =>
    cases same
    split at found
    · exact (readLow_suffix found).trans suffix
    · cases found
  next =>
    cases same
    exact suffix

theorem reads_string (opening done text : List CodePoint) : Reads text (readString opening done text) := by
  fun_induction readString opening done text
  case case1 => exact .found _ (List.suffix_cons _ _)
  -- The code points that are read on from.
  case case3 rest point after escape ih =>
    exact ih.within ((readEscape_suffix escape).trans (List.suffix_append [_, _] rest))
  case case5 ih => exact ih.within (List.suffix_append [_, _] _)
  case case8 ih => exact ih.within (List.suffix_cons _ _)
  all_goals exact .failed nofun

theorem readMinus_suffix (text : List Char) : (readMinus text).2 <:+ text := by
  unfold readMinus
  split
  · exact List.suffix_cons _ _
  · exact List.suffix_refl _

theorem readSign_suffix (text : List Char) : (readSign text).2 <:+ text := by
  unfold readSign
  split
  · exact List.suffix_cons _ _
  · exact List.suffix_cons _ _
  · exact List.suffix_refl _

theorem readWhole_append {text digits rest : List Char} (read : readWhole text = some (digits, rest)) :
    digits ++ rest = text := by
  unfold readWhole at read
  split at read
  · cases read
    rfl
  · simp only at read
    split at read
    · cases read
    · cases read
      exact List.takeWhile_append_dropWhile

theorem readFraction_suffix {text digits rest : List Char} (read : readFraction text = some (digits, rest)) :
    rest <:+ text := by
  unfold readFraction at read
  split at read
  · simp only at read
    split at read
    · cases read
    · cases read
      exact (List.dropWhile_suffix _).trans (List.suffix_cons _ _)
  · cases read

theorem readExponent_suffix {text rest : List Char} {exponent : Int} (read : readExponent text = some (exponent, rest)) :
    rest <:+ text := by
  unfold readExponent at read
  split at read
  next c tail =>
    split at read
    · simp only at read
      split at read
      · cases read
      · cases read
        exact ((List.dropWhile_suffix _).trans (readSign_suffix tail)).trans (List.suffix_cons _ _)
    · cases read
  · cases read

structure ReadsBare (text : List Char) (result : Except Problem (Document × List Char)) : Prop where
  leaves : ∀ d rest, result = .ok (d, rest) → rest <:+ text
  refuses : ∀ count, result = .error (.tooManyDigits count) → Overlong (text.map .char) count

theorem ReadsBare.found {text rest : List Char} (d : Document) (suffix : rest <:+ text) :
    ReadsBare text (.ok (d, rest)) := by
  constructor
  · intro e left same
    cases same
    exact suffix
  · nofun

theorem reads_numeral {start digits rest : List Char} (all : Digits digits) (inside : digits <:+: start)
    (suffix : rest <:+ start) (isFloat : Bool) (float int : Document) :
    ReadsBare start (if isFloat then .ok (float, rest)
      else if digitLimit < digits.length then .error (.tooManyDigits digits.length)
      else .ok (int, rest)) := by
  split_ifs with _ long
  · exact .found float suffix
  · constructor
    · nofun
    · intro count same
      cases same
      exact ⟨long, digits, all, rfl, inside.map _⟩
  · exact .found int suffix

theorem reads_number (start : List Char) : ReadsBare start (readNumber start) := by
  unfold readNumber
  cases whole : readWhole (readMinus start).2 with
  | none =>
      simp only [whole]
      exact ⟨nofun, nofun⟩
  | some found =>
      obtain ⟨digits, after⟩ := found
      have parts := readWhole_append whole
      have all := (readWhole_spec whole).1
      have inside : digits <:+: start :=
        (List.prefix_append digits after).isInfix.trans (parts ▸ (readMinus_suffix start).isInfix)
      have suffix : after <:+ start :=
        (List.suffix_append digits after).trans (parts ▸ readMinus_suffix start)
      simp only [whole]
      cases fraction : readFraction after with
      | none =>
          cases exponent : readExponent after with
          | none => exact reads_numeral all inside suffix _ _ _
          | some scaled =>
              exact reads_numeral all inside ((readExponent_suffix exponent).trans suffix) _ _ _
      | some fractional =>
          have left := (readFraction_suffix fraction).trans suffix
          cases exponent : readExponent fractional.2 with
          | none =>
              simp only
              exact reads_numeral all inside left _ _ _
          | some scaled =>
              simp only
              exact reads_numeral all inside ((readExponent_suffix exponent).trans left) _ _ _

theorem readWord_suffix {word : String} {text rest : List Char} (read : readWord word text = some rest) :
    rest <:+ text := by
  unfold readWord at read
  split at read
  · cases read
    exact List.drop_suffix _ _
  · cases read

theorem reads_bare (text : List Char) : ReadsBare text (readBare text) := by
  unfold readBare
  split
  case h_7 => exact reads_number text
  all_goals exact .found _ (readWord_suffix ‹_›)

theorem spanBare_eq (text : List CodePoint) : (spanBare text).1.map .char ++ (spanBare text).2 = text := by
  fun_induction spanBare text
  case case1 ih => simpa using ih
  all_goals simp

theorem ReadsBare.front {bare : List Char} {result : Except Problem (Document × List Char)}
    (reads : ReadsBare bare result) (after : List CodePoint) :
    Reads (bare.map .char ++ after) (readFront (bare.map .char ++ after) after result) := by
  cases result with
  | error problem =>
      constructor
      · nofun
      · intro count rest same
        cases same
        exact (reads.refuses count rfl).within (List.prefix_append _ _).isInfix
  | ok found =>
      obtain ⟨d, left⟩ := found
      obtain ⟨taken, rfl⟩ := reads.leaves d left rfl
      exact .found d ⟨taken.map .char, by simp⟩

theorem reads_scalar (text : List CodePoint) : Reads text (readScalar text) := by
  unfold readScalar
  split
  next tail =>
    apply Reads.bind ((reads_string _ _ tail).within (List.suffix_cons _ _))
    exact fun s rest _ => .found _ (List.suffix_refl _)
  next =>
    have reads := (reads_bare (spanBare text).1).front (spanBare text).2
    rwa [spanBare_eq] at reads

structure ReadsAt (depth : Nat) : Prop where
  value : ∀ text, Reads text (readValue depth text)
  items : ∀ text, Reads text (readItems depth text)
  members : ∀ text, Reads text (readMembers depth text)

theorem readsAt_zero : ReadsAt 0 := by
  constructor
  · exact fun text => .failed nofun
  · exact fun text => .failed nofun
  · exact fun text => .failed nofun

theorem suffix_of_skipSpace {text rest : List CodePoint} {p : CodePoint} (opens : skipSpace text = p :: rest) :
    rest <:+ text := by
  apply (List.suffix_cons p rest).trans
  rw [← opens]
  exact skipSpace_suffix text

theorem ReadsAt.succ {depth : Nat} (below : ReadsAt depth) : ReadsAt (depth + 1) := by
  -- Each call one level down is given an end of the text, and leaves an end of that.
  constructor
  · intro text
    unfold readValue
    split
    next tail =>
      split
      next rest closes => exact .found _ ((suffix_of_skipSpace closes).trans (List.suffix_cons _ _))
      next =>
        apply Reads.within _ ((skipSpace_suffix tail).trans (List.suffix_cons _ _))
        apply (below.items _).bind
        exact fun items rest _ => .found _ (List.suffix_refl _)
    next tail =>
      split
      next rest closes => exact .found _ ((suffix_of_skipSpace closes).trans (List.suffix_cons _ _))
      next =>
        apply Reads.within _ ((skipSpace_suffix tail).trans (List.suffix_cons _ _))
        apply (below.members _).bind
        exact fun entries rest _ => .found _ (List.suffix_refl _)
    next => exact reads_scalar text
  · intro text
    unfold readItems
    apply (below.value text).bind
    intro item rest _
    simp only
    split
    next closes => exact .found _ (suffix_of_skipSpace closes)
    next more continues =>
      apply Reads.within _ (suffix_of_skipSpace continues)
      apply ((below.items _).within (skipSpace_suffix more)).bind
      exact fun items rest _ => .found _ (List.suffix_refl _)
    next => exact .failed (by simp)
  · intro text
    unfold readMembers
    split
    next body =>
      apply ((reads_string _ _ body).within (List.suffix_cons _ _)).bind
      intro key rest _
      simp only
      split
      next after colon =>
        apply Reads.within _ (suffix_of_skipSpace colon)
        apply ((below.value _).within (skipSpace_suffix after)).bind
        intro value rest _
        simp only
        split
        next closes => exact .found _ (suffix_of_skipSpace closes)
        next more continues =>
          apply Reads.within _ (suffix_of_skipSpace continues)
          apply ((below.members _).within (skipSpace_suffix more)).bind
          exact fun entries rest _ => .found _ (List.suffix_refl _)
        next => exact .failed (by simp)
      next => exact .failed (by simp)
    next => exact .failed (by simp)

theorem readsAt (depth : Nat) : ReadsAt depth := by
  induction depth with
  | zero => exact readsAt_zero
  | succ depth ih => exact ih.succ

/-- A number is refused for an integer in the text that has so many digits. -/
theorem overlong_of_readDocument {text : List CodePoint} {count : Nat}
    (refused : readDocument text = .error (.digits count)) : Overlong text count := by
  have numeral : ∃ rest, readAll text = .error ⟨.tooManyDigits count, rest⟩ := by
    unfold readDocument at refused
    cases document : readAll text with
    | ok d =>
        rw [document] at refused
        cases refused
    | error failure =>
        obtain ⟨problem, rest⟩ := failure
        rw [document] at refused
        simp only [Except.mapError, Except.error.injEq] at refused
        unfold locate at refused
        split at refused
        next other =>
          cases refused
          exact ⟨rest, by rw [← other]⟩
        next => cases refused
  obtain ⟨rest, document⟩ := numeral
  unfold readAll at document
  split at document
  · cases document
  · have reads := ((readsAt (2 * text.length + 1)).value _).within (skipSpace_suffix text)
    cases value : readValue (2 * text.length + 1) (skipSpace text) with
    | error failure =>
        rw [value] at document
        cases document
        exact reads.refuses count rest value
    | ok found =>
        rw [value] at document
        simp only [bind, Except.bind] at document
        split at document <;> cases document

theorem overlong_of_read {text : List CodePoint} {count : Nat} (refused : read text = .error (.digits count)) :
    Overlong text count := by
  unfold read at refused
  cases document : readDocument text with
  | ok d =>
      rw [document] at refused
      cases refused
  | error error =>
      rw [document] at refused
      cases refused
      exact overlong_of_readDocument document

end WorkflowRuns.Json
