import WorkflowRuns.Proofs.Json.Records
import WorkflowRuns.Proofs.Json.RoundTrip

/-!
What documents hold.  Whatever is read can be written, and is read back from that but for its pairs.
-/

namespace WorkflowRuns.Json

open Text

theorem takeWhile_all (text : List Char) : Digits (text.takeWhile isAsciiDigit) :=
  fun _ member => List.mem_takeWhile_imp member

theorem readWhole_spec {text digits rest : List Char} (read : readWhole text = some (digits, rest)) :
    Digits digits ∧ digits ≠ [] := by
  unfold readWhole at read
  split at read
  next =>
    cases read
    exact ⟨zeros_digits 1, by simp⟩
  next =>
    simp only at read
    split at read
    · cases read
    next present =>
      cases read
      exact ⟨takeWhile_all _, by simpa using present⟩

theorem writable_digits {digits : List Char} (all : Digits digits) (present : digits ≠ [])
    (short : digits.length ≤ digitLimit) (negative : Bool) :
    Writable (if negative then -(natOfDigits digits : Int) else natOfDigits digits) := by
  have length := toDigits_natOfDigits_length all present
  have natAbs : (if negative then -(natOfDigits digits : Int) else natOfDigits digits).natAbs =
      natOfDigits digits := by
    cases negative <;> simp
  rw [Writable, natAbs]
  omega

theorem proper_readNumber {text rest : List Char} {d : Document} (read : readNumber text = .ok (d, rest)) :
    d.Proper := by
  unfold readNumber at read
  cases whole : readWhole (readMinus text).2 with
  | none =>
      simp only [whole] at read
      cases read
  | some found =>
      obtain ⟨digits, after⟩ := found
      obtain ⟨all, present⟩ := readWhole_spec whole
      simp only [whole] at read
      split_ifs at read with float long negative
      · cases read
        exact Binary64.ofDecimal_canonical _ _ _
      · cases read
        exact writable_digits all present (Nat.not_lt.mp long) true
      · cases read
        exact writable_digits all present (Nat.not_lt.mp long) false

theorem proper_readBare {text rest : List Char} {d : Document} (read : readBare text = .ok (d, rest)) : d.Proper := by
  unfold readBare at read
  split at read
  case h_7 => exact proper_readNumber read
  all_goals
    cases read
    trivial

theorem bind_ok {ε α β : Type} {x : Except ε α} {f : α → Except ε β} {b : β} (bound : x >>= f = .ok b) :
    ∃ a, x = .ok a ∧ f a = .ok b := by
  cases x with
  | error e => cases bound
  | ok a => exact ⟨a, rfl, bound⟩

theorem readFront_ok {text after rest : List CodePoint} {read : Except Problem (Document × List Char)} {d : Document}
    (front : readFront text after read = .ok (d, rest)) :
    ∃ left, read = .ok (d, left) ∧ rest = left.map .char ++ after := by
  cases read with
  | error problem => cases front
  | ok found =>
      cases front
      exact ⟨found.2, rfl, rfl⟩

theorem proper_readScalar {text rest : List CodePoint} {d : Document} (read : readScalar text = .ok (d, rest)) :
    d.Proper := by
  unfold readScalar at read
  split at read
  next =>
    obtain ⟨found, _, same⟩ := bind_ok read
    cases same
    trivial
  next =>
    obtain ⟨left, bare, _⟩ := readFront_ok read
    exact proper_readBare bare

namespace Document

theorem properFields_iff {fields : List (List CodePoint × Document)} :
    ProperFields fields ↔ ∀ field ∈ fields, field.2.Proper := by
  induction fields with
  | nil => simp [ProperFields]
  | cons field fields ih =>
      obtain ⟨name, content⟩ := field
      simp only [ProperFields, ih, List.forall_mem_cons]

theorem proper_merge {fields : List (List CodePoint × Document)} (proper : ProperFields fields) :
    Proper (.record (Fields.merge fields)) := by
  rw [properFields_iff] at proper
  exact ⟨properFields_iff.mpr fun field member => proper field (Fields.mem_merge member), Fields.nodup_merge fields⟩

end Document

section Reading

open Document (ProperItems ProperFields)

/-- What the reader makes of a text down to some depth. -/
structure ProperAt (depth : Nat) : Prop where
  value : ∀ {text rest d}, readValue depth text = .ok (d, rest) → d.Proper
  items : ∀ {text rest items}, readItems depth text = .ok (items, rest) → ProperItems items
  members : ∀ {text rest fields}, readMembers depth text = .ok (fields, rest) → ProperFields fields

theorem properAt_zero : ProperAt 0 := by
  constructor <;> (intro text rest _ read; cases read)

theorem ProperAt.succ {depth : Nat} (below : ProperAt depth) : ProperAt (depth + 1) := by
  constructor
  · intro text rest d read
    unfold readValue at read
    split at read
    · split at read
      · cases read
        trivial
      · obtain ⟨⟨items, after⟩, inside, rest⟩ := bind_ok read
        cases rest
        exact below.items inside
    · split at read
      · cases read
        exact ⟨trivial, List.nodup_nil⟩
      · obtain ⟨⟨fields, after⟩, inside, rest⟩ := bind_ok read
        cases rest
        -- A name that is repeated keeps its last value, so that the names differ.
        exact Document.proper_merge (below.members inside)
    · exact proper_readScalar read
  · intro text rest items read
    unfold readItems at read
    obtain ⟨⟨item, after⟩, first, read⟩ := bind_ok read
    simp only at read
    split at read
    · cases read
      exact ⟨below.value first, trivial⟩
    · obtain ⟨⟨others, after⟩, later, rest⟩ := bind_ok read
      cases rest
      exact ⟨below.value first, below.items later⟩
    · cases read
  · intro text rest fields read
    unfold readMembers at read
    split at read
    · obtain ⟨⟨name, after⟩, _, read⟩ := bind_ok read
      simp only at read
      split at read
      · obtain ⟨⟨content, after⟩, first, read⟩ := bind_ok read
        simp only at read
        split at read
        · cases read
          exact ⟨below.value first, trivial⟩
        · obtain ⟨⟨others, after⟩, later, rest⟩ := bind_ok read
          cases rest
          exact ⟨below.value first, below.members later⟩
        · cases read
      · cases read
    · cases read

theorem properAt (depth : Nat) : ProperAt depth := by
  induction depth with
  | zero => exact properAt_zero
  | succ depth ih => exact ih.succ

end Reading

theorem readAll_ok {text : List CodePoint} {d : Document} (read : readAll text = .ok d) :
    ∃ rest, readValue (2 * text.length + 1) (skipSpace text) = .ok (d, rest) := by
  unfold readAll at read
  split at read
  · cases read
  · obtain ⟨⟨e, rest⟩, value, read⟩ := bind_ok read
    simp only at read
    split at read
    · cases read
      exact ⟨rest, value⟩
    · cases read

/-- What is read from a text can be written. -/
theorem proper_of_readDocument {text : List CodePoint} {d : Document} (holds : readDocument text = .ok d) :
    d.Proper := by
  unfold readDocument at holds
  cases whole : readAll text with
  | error failure =>
      rw [whole] at holds
      cases holds
  | ok found =>
      rw [whole] at holds
      cases holds
      obtain ⟨rest, value⟩ := readAll_ok whole
      exact (properAt _).value value

/-- A document that is read is written as a text that holds the same document, but for its pairs. -/
theorem read_write_read {text : List CodePoint} {d : Document} (holds : readDocument text = .ok d) :
    readDocument d.write = .ok d.joined :=
  read_write (proper_of_readDocument holds)

namespace Document

mutual
/-- No text and no name in the document has a pair. -/
def Unpaired : Document → Prop
  | .text s => Text.Unpaired s
  | .list items => UnpairedItems items
  | .record fields => UnpairedFields fields
  | _ => True

def UnpairedItems : List Document → Prop
  | [] => True
  | item :: items => Unpaired item ∧ UnpairedItems items

def UnpairedFields : List (List CodePoint × Document) → Prop
  | [] => True
  | (name, content) :: fields => Text.Unpaired name ∧ Unpaired content ∧ UnpairedFields fields
end

theorem joinedFields_length (fields : List (List CodePoint × Document)) :
    (joinedFields fields).length = fields.length := by
  induction fields with
  | nil => rfl
  | cons field fields ih => rw [joinedFields, List.length_cons, ih, List.length_cons]

theorem joined_record {fields : List (List CodePoint × Document)} (distinct : (fields.map Prod.fst).Nodup) :
    joined (.record fields) = .record fields ↔ joinedFields fields = fields := by
  rw [joined, Document.record.injEq]
  constructor
  · intro same
    have all := (congrArg List.length same).trans (joinedFields_length fields).symm
    exact (Fields.merge_of_length all).symm.trans same
  · intro same
    rw [same, Fields.merge_of_nodup distinct]

mutual
/-- Exactly the documents without pairs stay as they are. -/
theorem joined_eq_iff : (d : Document) → d.Proper → (d.joined = d ↔ d.Unpaired)
  | .null, _ | .bool _, _ | .int _, _ | .float _, _ => by simp [joined, Unpaired]
  | .text s, _ => by rw [joined, Unpaired, Document.text.injEq, Text.joined_eq_iff]
  | .list items, proper => by rw [joined, Unpaired, Document.list.injEq, joinedItems_eq_iff items proper]
  | .record fields, proper => by rw [joined_record proper.2, Unpaired, joinedFields_eq_iff fields proper.1]

theorem joinedItems_eq_iff : (items : List Document) → ProperItems items →
    (joinedItems items = items ↔ UnpairedItems items)
  | [], _ => by simp [joinedItems, UnpairedItems]
  | item :: items, proper => by
      rw [joinedItems, UnpairedItems, List.cons.injEq, joined_eq_iff item proper.1, joinedItems_eq_iff items proper.2]

theorem joinedFields_eq_iff : (fields : List (List CodePoint × Document)) → ProperFields fields →
    (joinedFields fields = fields ↔ UnpairedFields fields)
  | [], _ => by simp [joinedFields, UnpairedFields]
  | (name, content) :: fields, proper => by
      rw [joinedFields, UnpairedFields, List.cons.injEq, Prod.mk.injEq, Text.joined_eq_iff,
        joined_eq_iff content proper.1, joinedFields_eq_iff fields proper.2, and_assoc]
end

end Document

mutual
def Proper : Value → Prop
  | .null => True
  | .bool _ => True
  | .int n => Writable n
  | .float x => x.Canonical
  | .text _ => True
  | .list items => ProperItems items
  | .record fields => ProperFields fields ∧ (fields.map Prod.fst).Nodup
  | .foreign .. => False

def ProperItems : List Value → Prop
  | [] => True
  | item :: items => Proper item ∧ ProperItems items

def ProperFields : List (Key × Value) → Prop
  | [] => True
  | (key, value) :: fields => (∃ name, key = .name name) ∧ Proper value ∧ ProperFields fields
end

theorem properItems_iff {items : List Value} : ProperItems items ↔ ∀ item ∈ items, Proper item := by
  induction items with
  | nil => simp [ProperItems]
  | cons item items ih => simp only [ProperItems, ih, List.forall_mem_cons]

theorem properFields_iff {fields : Fields} :
    ProperFields fields ↔ ∀ field ∈ fields, (∃ name, field.1 = .name name) ∧ Proper field.2 := by
  induction fields with
  | nil => simp [ProperFields]
  | cons field fields ih =>
      obtain ⟨key, value⟩ := field
      simp only [ProperFields, ih, List.forall_mem_cons, and_assoc]

mutual
theorem proper_value : (d : Document) → d.Proper → Proper d.value
  | .null, _ | .bool _, _ | .text _, _ => trivial
  | .int _, proper | .float _, proper => proper
  | .list items, proper => proper_values items proper
  | .record fields, proper => by
      have all := properFields_iff.mp (proper_entries fields proper.1)
      exact ⟨properFields_iff.mpr fun field member => all field (Fields.mem_merge member), Fields.nodup_merge _⟩

theorem proper_values : (items : List Document) → Document.ProperItems items → ProperItems (Document.values items)
  | [], _ => trivial
  | item :: items, proper => ⟨proper_value item proper.1, proper_values items proper.2⟩

theorem proper_entries : (fields : List (List CodePoint × Document)) → Document.ProperFields fields →
    ProperFields (Document.entries fields)
  | [], _ => trivial
  | (_, content) :: fields, proper => ⟨⟨_, rfl⟩, proper_value content proper.1, proper_entries fields proper.2⟩
end

theorem proper_of_read {text : List CodePoint} {v : Value} (holds : read text = .ok v) : Proper v := by
  unfold read at holds
  cases document : readDocument text with
  | error error =>
      rw [document] at holds
      cases holds
  | ok d =>
      rw [document] at holds
      cases holds
      exact proper_value d (proper_of_readDocument document)

theorem readDocument_overlong (negative : Bool) {whole : List Char} (is : Whole whole)
    (long : digitLimit < whole.length) :
    readDocument (points (String.ofList (minus negative ++ whole))) = .error (.digits whole.length) := by
  have refused := readNumber_overlong negative is long (show Ends [] by rintro c ⟨⟩)
  have all : Bare (minus negative ++ whole) := (minus_bare negative).append (bare_digits is.digits)
  rw [List.append_nil] at refused
  obtain ⟨c, tail, rfl, digit⟩ := is.unsigned
  have value := readValue_number (2 * (minus negative ++ c :: tail).length) negative digit all
    (show Stops [] by rintro d ⟨⟩)
  have opens := opens_number negative digit (tail.map .char)
  rw [List.append_nil, refused] at value
  have document : readAll (points (String.ofList (minus negative ++ c :: tail))) =
      .error ⟨.tooManyDigits (c :: tail).length, (minus negative ++ c :: tail).map .char⟩ := by
    apply readAll_eq
    · simpa [points] using opens
    · simpa [points, readFront, Except.map, Except.mapError] using value
  rw [readDocument, document]
  rfl

theorem read_overlong (negative : Bool) {whole : List Char} (is : Whole whole) (long : digitLimit < whole.length) :
    read (points (String.ofList (minus negative ++ whole))) = .error (.digits whole.length) := by
  rw [read, readDocument_overlong negative is long]
  rfl

end WorkflowRuns.Json
