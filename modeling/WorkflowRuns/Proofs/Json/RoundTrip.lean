import WorkflowRuns.Proofs.Json.Floats
import WorkflowRuns.Proofs.Json.Strings

/-!
Documents that are written and read back.
-/

namespace WorkflowRuns.Json

open Text

namespace Document

mutual
/-- Integers that may be written, numbers in their one form, and records of names that are distinct. -/
def Proper : Document → Prop
  | .null | .bool _ | .text _ => True
  | .int n => Writable n
  | .float x => x.Canonical
  | .list items => ProperItems items
  | .record fields => ProperFields fields ∧ (fields.map Prod.fst).Nodup

def ProperItems : List Document → Prop
  | [] => True
  | item :: items => Proper item ∧ ProperItems items

def ProperFields : List (List CodePoint × Document) → Prop
  | [] => True
  | (_, content) :: fields => Proper content ∧ ProperFields fields
end

mutual
/-- The document with characters in the place of pairs; names may come to be the same. -/
def joined : Document → Document
  | .null => .null
  | .bool b => .bool b
  | .int n => .int n
  | .float x => .float x
  | .text s => .text (Text.joined s)
  | .list items => .list (joinedItems items)
  | .record fields => .record (Fields.merge (joinedFields fields))

def joinedItems : List Document → List Document
  | [] => []
  | item :: items => joined item :: joinedItems items

def joinedFields : List (List CodePoint × Document) → List (List CodePoint × Document)
  | [] => []
  | (name, content) :: fields => (Text.joined name, joined content) :: joinedFields fields
end

def itemsText : List Document → List CodePoint
  | [] => []
  | [item] => points item.write
  | item :: next :: items => points item.write ++ .char ',' :: .char ' ' :: itemsText (next :: items)

def fieldText (name : List CodePoint) (content : Document) : List CodePoint :=
  points (quote name) ++ .char ':' :: .char ' ' :: points content.write

def fieldsText : List (List CodePoint × Document) → List CodePoint
  | [] => []
  | [(name, content)] => fieldText name content
  | (name, content) :: next :: fields =>
      fieldText name content ++ .char ',' :: .char ' ' :: fieldsText (next :: fields)

theorem points_intercalate_cons (first next : String) (rest : List String) :
    points (", ".intercalate (first :: next :: rest)) =
      points first ++ .char ',' :: .char ' ' :: points (", ".intercalate (next :: rest)) := by
  simp [points, String.toList_intercalate]

theorem itemsText_eq (items : List Document) : points (", ".intercalate (writeItems items)) = itemsText items := by
  induction items with
  | nil => rfl
  | cons item items ih =>
      cases items with
      | nil => simp [writeItems, itemsText, points]
      | cons next items =>
          simp only [writeItems] at ih ⊢
          rw [points_intercalate_cons, ih, itemsText]

theorem fieldsText_eq (fields : List (List CodePoint × Document)) :
    points (", ".intercalate (writeFields fields)) = fieldsText fields := by
  have text : ∀ name content, points (quote name ++ ": " ++ write content) = fieldText name content := by
    intro name content
    simp [points, fieldText]
  induction fields with
  | nil => rfl
  | cons field fields ih =>
      obtain ⟨name, content⟩ := field
      cases fields with
      | nil =>
          rw [fieldsText, ← text]
          simp [writeFields, points]
      | cons next fields =>
          obtain ⟨nextName, nextContent⟩ := next
          simp only [writeFields] at ih ⊢
          rw [points_intercalate_cons, ih, text, fieldsText]

theorem write_list (items : List Document) :
    points (write (.list items)) = .char '[' :: (itemsText items ++ [.char ']']) := by
  rw [write, points_append, points_append, itemsText_eq]
  rfl

theorem write_record (fields : List (List CodePoint × Document)) :
    points (write (.record fields)) = .char '\x7b' :: (fieldsText fields ++ [.char '\x7d']) := by
  rw [write, points_append, points_append, fieldsText_eq]
  rfl

end Document

def Stops (rest : List CodePoint) : Prop := ∀ c, rest.head? = some (.char c) → isBare c = false

theorem spanBare_append {bare : List Char} (all : Bare bare) {rest : List CodePoint} (stops : Stops rest) :
    spanBare (bare.map .char ++ rest) = (bare, rest) := by
  induction bare with
  | nil =>
      cases rest with
      | nil => rfl
      | cons p rest =>
          cases p with
          | half offset => rfl
          | char c => simp [spanBare, stops c rfl]
  | cons c bare ih =>
      have first := all c List.mem_cons_self
      have later := ih fun d member => all d (List.mem_cons_of_mem _ member)
      simp [spanBare, first, later]

theorem readScalar_bare {bare : List Char} (all : Bare bare) {rest : List CodePoint} (stops : Stops rest)
    (unquoted : bare.head? ≠ some '"') (present : bare ≠ []) :
    readScalar (bare.map .char ++ rest) = readFront (bare.map .char ++ rest) rest (readBare bare) := by
  obtain ⟨c, tail, rfl⟩ := List.exists_cons_of_ne_nil present
  have other : c ≠ '"' := by simpa using unquoted
  have span := spanBare_append all stops
  simp only [List.map_cons, List.cons_append] at span ⊢
  unfold readScalar
  split
  next same => exact absurd (CodePoint.char.inj (List.cons.inj same).1) other
  next => simp only [span]

theorem readBare_number (negative : Bool) {c : Char} (digit : isAsciiDigit c = true) (rest : List Char) :
    readBare (minus negative ++ c :: rest) = readNumber (minus negative ++ c :: rest) := by
  have other : 'n' ≠ c ∧ 't' ≠ c ∧ 'f' ≠ c ∧ 'N' ≠ c ∧ 'I' ≠ c ∧ '-' ≠ c := by
    refine ⟨?_, ?_, ?_, ?_, ?_, ?_⟩ <;> (rintro rfl; cases digit)
  cases negative <;> simp [readBare, readWord, minus, other]

/-- How a text that is written for a document begins. -/
structure Opens (text : List CodePoint) : Prop where
  starts : ∃ p tail, text = p :: tail ∧ isSpace p = false ∧ p ≠ .char ']' ∧ p ≠ .char '\x7d' ∧ p ≠ .char '\ufeff'

theorem opens_number (negative : Bool) {c : Char} (digit : isAsciiDigit c = true) (rest : List CodePoint) :
    Opens ((minus negative).map .char ++ .char c :: rest) := by
  cases negative with
  | true => exact ⟨.char '-', .char c :: rest, rfl, rfl, by decide, by decide, by decide⟩
  | false =>
      refine ⟨.char c, rest, rfl, ?_, ?_, ?_, ?_⟩
      · simp only [isSpace, CodePoint.char.injEq, Bool.or_eq_false_iff, decide_eq_false_iff_not]
        refine ⟨⟨⟨?_, ?_⟩, ?_⟩, ?_⟩ <;> (rintro rfl; cases digit)
      all_goals
        intro same
        cases same
        cases digit

theorem Numeral.opens {text : List Char} {d : Document} (numeral : Numeral text d) : Opens (text.map .char) := by
  obtain ⟨negative, c, tail, rfl, digit⟩ := numeral.begins
  rw [List.map_append, List.map_cons]
  exact opens_number negative digit (tail.map .char)

theorem opens_write {d : Document} (proper : d.Proper) : Opens (points d.write) := by
  cases d with
  | null => exact ⟨.char 'n', _, rfl, by decide⟩
  | bool b => cases b <;> exact ⟨_, _, rfl, by decide⟩
  | int n => exact (numeral_int proper).opens
  | float x =>
      cases x with
      | finite negative significand exponent => exact (numeral_float proper).opens
      | infinite negative => cases negative <;> exact ⟨_, _, rfl, by decide⟩
      | nan => exact ⟨_, _, rfl, by decide⟩
  | text s =>
      have text := quote_append s []
      rw [List.append_nil] at text
      rw [Document.write, text]
      exact ⟨_, _, rfl, by decide⟩
  | list items =>
      rw [Document.write_list]
      exact ⟨_, _, rfl, by decide⟩
  | record fields =>
      rw [Document.write_record]
      exact ⟨_, _, rfl, by decide⟩

theorem Opens.skipSpace {text : List CodePoint} (opens : Opens text) (rest : List CodePoint) :
    skipSpace (text ++ rest) = text ++ rest := by
  obtain ⟨p, tail, rfl, space, _⟩ := opens.starts
  simp [Json.skipSpace, space]

theorem Opens.length {text : List CodePoint} (opens : Opens text) : 0 < text.length := by
  obtain ⟨p, tail, rfl, _⟩ := opens.starts
  exact Nat.succ_pos _

theorem readValue_number (depth : Nat) (negative : Bool) {c : Char} {tail : List Char}
    (digit : isAsciiDigit c = true) (all : Bare (minus negative ++ c :: tail)) {rest : List CodePoint}
    (stops : Stops rest) : readValue (depth + 1) ((minus negative ++ c :: tail).map .char ++ rest) =
      readFront ((minus negative ++ c :: tail).map .char ++ rest) rest
        (readNumber (minus negative ++ c :: tail)) := by
  have other : '"' ≠ c ∧ '[' ≠ c ∧ '\x7b' ≠ c := by
    refine ⟨?_, ?_, ?_⟩ <;> (rintro rfl; cases digit)
  have quote : (minus negative ++ c :: tail).head? ≠ some '"' := by
    cases negative <;> simp [minus, other.1.symm]
  have scalar : readValue (depth + 1) ((minus negative ++ c :: tail).map .char ++ rest) =
      readScalar ((minus negative ++ c :: tail).map .char ++ rest) := by
    cases negative <;> simp [readValue, minus, other.2.1.symm, other.2.2.symm]
  rw [scalar, readScalar_bare all stops quote (by simp), readBare_number negative digit]

theorem Numeral.readValue {text : List Char} {d : Document} (numeral : Numeral text d) (depth : Nat)
    {rest : List CodePoint} (stops : Stops rest) :
    readValue (depth + 1) (text.map .char ++ rest) = .ok (d, rest) := by
  have reads := numeral.reads [] (by rintro c ⟨⟩)
  have all := numeral.bare
  obtain ⟨negative, c, tail, rfl, digit⟩ := numeral.begins
  rw [List.append_nil] at reads
  rw [readValue_number depth negative digit all stops, reads]
  rfl

theorem readValue_word (depth : Nat) {c : Char} {tail : List Char} {d : Document}
    (read : readBare (c :: tail) = .ok (d, [])) (all : (c :: tail).all isBare = true)
    (other : c ≠ '"' ∧ c ≠ '[' ∧ c ≠ '\x7b') {rest : List CodePoint} (stops : Stops rest) :
    readValue (depth + 1) ((c :: tail).map .char ++ rest) = .ok (d, rest) := by
  obtain ⟨quote, bracket, brace⟩ := other
  have scalar : readValue (depth + 1) ((c :: tail).map .char ++ rest) =
      readScalar ((c :: tail).map .char ++ rest) := by
    simp [readValue, bracket, brace]
  rw [scalar, readScalar_bare (List.all_eq_true.mp all) stops (by simpa using quote) (by simp), read]
  rfl

theorem readValue_quote (depth : Nat) (s rest : List CodePoint) :
    readValue (depth + 1) (points (quote s) ++ rest) = .ok (.text (joined s), rest) := by
  rw [quote_append]
  simp [readValue, readScalar, readString_escaped]

theorem stops_of {c : Char} (other : isBare c = false) (rest : List CodePoint) : Stops (.char c :: rest) := by
  rintro d ⟨⟩
  exact other

section Pieces

variable {depth : Nat} {text rest more : List CodePoint} {item : Document} {items : List Document}
  {name : List CodePoint} {fields : List (List CodePoint × Document)}

theorem readItems_last (read : readValue depth text = .ok (item, .char ']' :: rest)) :
    readItems (depth + 1) text = .ok ([item], rest) := by
  rw [readItems, read]
  rfl

theorem readItems_more (read : readValue depth text = .ok (item, .char ',' :: .char ' ' :: rest))
    (opens : skipSpace rest = rest) (later : readItems depth rest = .ok (items, more)) :
    readItems (depth + 1) text = .ok (item :: items, more) := by
  have skipped : skipSpace (.char ' ' :: rest) = rest := opens
  rw [readItems, read]
  show (readItems depth (skipSpace (.char ' ' :: rest)) >>= _) = _
  rw [skipped, later]
  rfl

theorem readMembers_last (value : readValue depth text = .ok (item, .char '\x7d' :: rest))
    (opens : skipSpace text = text) :
    readMembers (depth + 1) (.char '"' :: (escaped name ++ .char '"' :: .char ':' :: .char ' ' :: text)) =
      .ok ([(joined name, item)], rest) := by
  have skipped : skipSpace (.char ' ' :: text) = text := opens
  rw [readMembers, readString_escaped]
  show (readValue depth (skipSpace (.char ' ' :: text)) >>= _) = _
  rw [skipped, value]
  rfl

theorem readMembers_more (value : readValue depth text = .ok (item, .char ',' :: .char ' ' :: rest))
    (opens : skipSpace text = text) (continues : skipSpace rest = rest)
    (later : readMembers depth rest = .ok (fields, more)) :
    readMembers (depth + 1) (.char '"' :: (escaped name ++ .char '"' :: .char ':' :: .char ' ' :: text)) =
      .ok ((joined name, item) :: fields, more) := by
  have skipped : skipSpace (.char ' ' :: text) = text := opens
  have continued : skipSpace (.char ' ' :: rest) = rest := continues
  rw [readMembers, readString_escaped]
  show (readValue depth (skipSpace (.char ' ' :: text)) >>= _) = _
  rw [skipped, value]
  show (readMembers depth (skipSpace (.char ' ' :: rest)) >>= _) = _
  rw [continued, later]
  rfl

theorem readValue_items (opens : Opens text) (read : readItems depth text = .ok (items, rest)) :
    readValue (depth + 1) (.char '[' :: text) = .ok (.list items, rest) := by
  obtain ⟨p, tail, rfl, space, bracket, _⟩ := opens.starts
  have skipped : skipSpace (p :: tail) = p :: tail := by simp [skipSpace, space]
  simp [readValue, skipped, bracket, read]

theorem readValue_members (opens : Opens text) (read : readMembers depth text = .ok (fields, rest)) :
    readValue (depth + 1) (.char '\x7b' :: text) = .ok (.record (Fields.merge fields), rest) := by
  obtain ⟨p, tail, rfl, space, _, brace, _⟩ := opens.starts
  have skipped : skipSpace (p :: tail) = p :: tail := by simp [skipSpace, space]
  simp [readValue, skipped, brace, read]

end Pieces

open Document (itemsText fieldText fieldsText joinedItems joinedFields ProperItems ProperFields)

theorem opens_items {item : Document} (proper : item.Proper) (items : List Document) (rest : List CodePoint) :
    Opens (itemsText (item :: items) ++ rest) := by
  obtain ⟨p, tail, text, first⟩ := (opens_write proper).starts
  cases items with
  | nil =>
      refine ⟨p, tail ++ rest, ?_, first⟩
      rw [itemsText, text, List.cons_append]
  | cons next items =>
      refine ⟨p, tail ++ .char ',' :: .char ' ' :: itemsText (next :: items) ++ rest, ?_, first⟩
      rw [itemsText, text]
      simp

theorem fieldText_append (name : List CodePoint) (content : Document) (rest : List CodePoint) :
    fieldText name content ++ rest =
      .char '"' :: (escaped name ++ .char '"' :: .char ':' :: .char ' ' :: (points content.write ++ rest)) := by
  rw [fieldText, List.append_assoc, quote_append]
  rfl

theorem opens_fields (name : List CodePoint) (content : Document) (fields : List (List CodePoint × Document))
    (rest : List CodePoint) : Opens (fieldsText ((name, content) :: fields) ++ rest) := by
  cases fields with
  | nil =>
      rw [fieldsText, fieldText_append]
      exact ⟨_, _, rfl, by decide⟩
  | cons next fields =>
      rw [fieldsText, List.append_assoc, fieldText_append]
      exact ⟨_, _, rfl, by decide⟩

/-- What is written is read back, its pairs as characters, by a reader that may go so deep. -/
structure ReadsBack (depth : Nat) : Prop where
  value : ∀ {d : Document}, d.Proper → 2 * (points d.write).length ≤ depth + 1 → ∀ rest, Stops rest →
    readValue depth (points d.write ++ rest) = .ok (d.joined, rest)
  items : ∀ {item : Document} {items : List Document}, ProperItems (item :: items) →
    2 * (itemsText (item :: items)).length ≤ depth → ∀ rest,
    readItems depth (itemsText (item :: items) ++ .char ']' :: rest) = .ok (joinedItems (item :: items), rest)
  members : ∀ {name : List CodePoint} {content : Document} {fields : List (List CodePoint × Document)},
    ProperFields ((name, content) :: fields) → 2 * (fieldsText ((name, content) :: fields)).length ≤ depth →
    ∀ rest, readMembers depth (fieldsText ((name, content) :: fields) ++ .char '\x7d' :: rest) =
      .ok (joinedFields ((name, content) :: fields), rest)

theorem readsBack_zero : ReadsBack 0 := by
  constructor
  · intro d proper deep
    have length := (opens_write proper).length
    omega
  · intro item items proper deep
    have length := (opens_items proper.1 items []).length
    rw [List.append_nil] at length
    omega
  · intro name content fields _ deep
    have length := (opens_fields name content fields []).length
    rw [List.append_nil] at length
    omega

namespace ReadsBack

variable {depth : Nat} (below : ReadsBack depth)
include below

theorem value_succ {d : Document} (proper : d.Proper) (deep : 2 * (points d.write).length ≤ depth + 1 + 1)
    (rest : List CodePoint) (stops : Stops rest) :
    readValue (depth + 1) (points d.write ++ rest) = .ok (d.joined, rest) := by
  cases d with
  | null => exact readValue_word (c := 'n') depth rfl rfl (by decide) stops
  | bool b =>
      cases b with
      | true => exact readValue_word (c := 't') depth rfl rfl (by decide) stops
      | false => exact readValue_word (c := 'f') depth rfl rfl (by decide) stops
  | int n => exact (numeral_int proper).readValue depth stops
  | float x =>
      cases x with
      | finite negative significand exponent => exact (numeral_float proper).readValue depth stops
      | infinite negative =>
          cases negative with
          | true => exact readValue_word (c := '-') depth rfl rfl (by decide) stops
          | false => exact readValue_word (c := 'I') depth rfl rfl (by decide) stops
      | nan => exact readValue_word (c := 'N') depth rfl rfl (by decide) stops
  | text s => exact readValue_quote depth s rest
  | list items =>
      cases items with
      | nil => rfl
      | cons item items =>
          rw [Document.write_list] at deep ⊢
          simp only [List.length_cons, List.length_append] at deep
          have read := below.items proper (by omega) rest
          rw [Document.joined]
          simpa using readValue_items (opens_items proper.1 items (.char ']' :: rest)) read
  | record fields =>
      cases fields with
      | nil => rfl
      | cons field fields =>
          obtain ⟨name, content⟩ := field
          rw [Document.write_record] at deep ⊢
          simp only [List.length_cons, List.length_append] at deep
          have read := below.members proper.1 (by omega) rest
          have whole := readValue_members (opens_fields name content fields (.char '\x7d' :: rest)) read
          rw [Document.joined]
          simpa using whole

theorem items_succ {item : Document} {items : List Document} (proper : ProperItems (item :: items))
    (deep : 2 * (itemsText (item :: items)).length ≤ depth + 1) (rest : List CodePoint) :
    readItems (depth + 1) (itemsText (item :: items) ++ .char ']' :: rest) =
      .ok (joinedItems (item :: items), rest) := by
  cases items with
  | nil =>
      rw [itemsText] at deep ⊢
      exact readItems_last (below.value proper.1 deep (.char ']' :: rest) (stops_of rfl rest))
  | cons next items =>
      have length := (opens_write proper.1).length
      rw [itemsText] at deep ⊢
      simp only [List.length_append, List.length_cons] at deep
      have opens := opens_items proper.2.1 items (.char ']' :: rest)
      have read := below.value proper.1 (by omega) _
        (stops_of (c := ',') rfl (.char ' ' :: (itemsText (next :: items) ++ .char ']' :: rest)))
      have later := below.items proper.2 (by omega) rest
      have skipped := opens.skipSpace []
      rw [List.append_nil] at skipped
      rw [joinedItems]
      simpa using readItems_more read skipped later

theorem members_succ {name : List CodePoint} {content : Document} {fields : List (List CodePoint × Document)}
    (proper : ProperFields ((name, content) :: fields))
    (deep : 2 * (fieldsText ((name, content) :: fields)).length ≤ depth + 1) (rest : List CodePoint) :
    readMembers (depth + 1) (fieldsText ((name, content) :: fields) ++ .char '\x7d' :: rest) =
      .ok (joinedFields ((name, content) :: fields), rest) := by
  cases fields with
  | nil =>
      rw [fieldsText, fieldText] at deep
      simp only [List.length_append, List.length_cons] at deep
      rw [fieldsText, fieldText_append]
      have read := below.value proper.1 (by omega) (.char '\x7d' :: rest) (stops_of rfl rest)
      exact readMembers_last read ((opens_write proper.1).skipSpace _)
  | cons next fields =>
      obtain ⟨nextName, nextContent⟩ := next
      rw [fieldsText, fieldText] at deep
      simp only [List.length_append, List.length_cons] at deep
      rw [fieldsText, List.append_assoc, fieldText_append]
      have opens := opens_fields nextName nextContent fields (.char '\x7d' :: rest)
      have read := below.value proper.1 (by omega) _
        (stops_of (c := ',') rfl (.char ' ' :: (fieldsText ((nextName, nextContent) :: fields) ++ .char '\x7d' :: rest)))
      have later := below.members proper.2 (by omega) rest
      have skipped := opens.skipSpace []
      rw [List.append_nil] at skipped
      exact readMembers_more read ((opens_write proper.1).skipSpace _) skipped later

end ReadsBack

theorem readsBack (depth : Nat) : ReadsBack depth := by
  induction depth with
  | zero => exact readsBack_zero
  | succ depth ih => exact ⟨ih.value_succ, ih.items_succ, ih.members_succ⟩

theorem readAll_eq {text : List CodePoint} (opens : Opens text) {result : Except Failure Document}
    (value : readValue (2 * text.length + 1) text = result.map fun d => (d, [])) : readAll text = result := by
  have spaced := opens.skipSpace []
  rw [List.append_nil] at spaced
  obtain ⟨p, tail, rfl, _, _, _, unmarked⟩ := opens.starts
  unfold readAll
  split
  next marked => exact absurd (List.cons.inj marked).1 unmarked
  next =>
    rw [spaced, value]
    cases result <;> rfl

/-- What is written for a document is read as this document, its pairs as characters. -/
theorem read_write {d : Document} (proper : d.Proper) : readDocument d.write = .ok d.joined := by
  have value := (readsBack (2 * (points d.write).length + 1)).value proper (by omega) [] (by rintro c ⟨⟩)
  rw [List.append_nil] at value
  have document : readAll d.write = .ok d.joined := readAll_eq (opens_write proper) value
  rw [readDocument, document]
  rfl

end WorkflowRuns.Json
