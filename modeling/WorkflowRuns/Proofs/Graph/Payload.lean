import WorkflowRuns.Graph.Payload
import WorkflowRuns.Proofs.Graph.Duration
import WorkflowRuns.Proofs.Json.Documents

/-!
Nodes that are sent and read again.  The extras of a node that are null are not sent; all else that an
editor record gives for its parameters comes back.
-/

namespace WorkflowRuns

namespace Value

mutual
def Finite : Value → Prop
  | .float x => x.isFinite = true
  | .list items => FiniteItems items
  | .record fields => FiniteFields fields
  | _ => True

def FiniteItems : List Value → Prop
  | [] => True
  | item :: items => Finite item ∧ FiniteItems items

def FiniteFields : List (Key × Value) → Prop
  | [] => True
  | (_, value) :: fields => Finite value ∧ FiniteFields fields
end

theorem finiteItems_iff {items : List Value} : FiniteItems items ↔ ∀ item ∈ items, Finite item := by
  induction items with
  | nil => simp [FiniteItems]
  | cons item items ih => rw [FiniteItems, ih, List.forall_mem_cons]

theorem finiteFields_iff {fields : Fields} : FiniteFields fields ↔ ∀ field ∈ fields, Finite field.2 := by
  induction fields with
  | nil => simp [FiniteFields]
  | cons field fields ih => rw [FiniteFields, ih, List.forall_mem_cons]

theorem plainItems_eq {items : List Value} (each : ∀ item ∈ items, plain item = item) : plainItems items = items := by
  induction items with
  | nil => rfl
  | cons item items ih =>
      rw [List.forall_mem_cons] at each
      rw [plainItems, each.1, ih each.2]

theorem plainFields_eq {fields : Fields} (each : ∀ field ∈ fields, (∃ name, field.1 = .name name) ∧ plain field.2 = field.2) :
    plainFields fields = fields := by
  induction fields with
  | nil => rfl
  | cons field fields ih =>
      obtain ⟨key, value⟩ := field
      rw [List.forall_mem_cons] at each
      obtain ⟨⟨⟨name, rfl⟩, same⟩, later⟩ := each
      rw [plainFields, same, ih later]

/-- A document with finite numbers is in JSON terms already. -/
theorem plain_of_document (v : Value) (document : Json.Proper v) (finite : Finite v) : plain v = v := by
  match v with
  | .null | .bool _ | .int _ | .text _ => rfl
  | .float _ => exact if_pos finite
  | .list items =>
      refine congrArg Value.list (plainItems_eq fun item member => ?_)
      exact plain_of_document item (Json.properItems_iff.mp document item member) (finiteItems_iff.mp finite item member)
  | .record fields =>
      refine congrArg Value.record (plainFields_eq fun field member => ?_)
      have part := Json.properFields_iff.mp document.1 field member
      exact ⟨part.1, plain_of_document field.2 part.2 (finiteFields_iff.mp finite field member)⟩
  | .foreign .. => exact document.elim
termination_by sizeOf v
decreasing_by
  · have smaller := List.sizeOf_lt_of_mem member
    simp only [Value.list.sizeOf_spec]
    omega
  · have smaller := List.sizeOf_lt_of_mem member
    have part : sizeOf field.2 < sizeOf field := by
      obtain ⟨key, value⟩ := field
      simp only [Prod.mk.sizeOf_spec]
      omega
    simp only [Value.record.sizeOf_spec]
    omega

end Value

namespace Params

open Schema

def declared : NodeKind → List String
  | .manualStart => ["label"]
  | .httpRequest => ["method", "url"]
  | .wait => ["duration"]

def withExtras (params : Params) (extras : Fields) : Params :=
  match params with
  | .manualStart label _ => .manualStart label extras
  | .httpRequest method url _ => .httpRequest method url extras
  | .wait duration _ => .wait duration extras

def typed (params : Params) : Params := params.withExtras []

def keptExtras (params : Params) : Fields := params.extras.filter fun (_, value) => value != .null

def sent (params : Params) : Fields := params.dump.filter fun (_, value) => value != .null

@[simp] theorem kind_withExtras (params : Params) (extras : Fields) : (params.withExtras extras).kind = params.kind := by
  cases params <;> rfl

@[simp] theorem extras_withExtras (params : Params) (extras : Fields) : (params.withExtras extras).extras = extras := by
  cases params <;> rfl

@[simp] theorem typed_withExtras (params : Params) (extras : Fields) : (params.withExtras extras).typed = params.typed := by
  cases params <;> rfl

/-- What is known of the parameters that come from a document. -/
structure Documented (params : Params) : Prop where
  undeclared : ∀ entry ∈ params.extras, ∃ name, entry.1 = .name name ∧ name ∉ declared params.kind
  document : Json.ProperFields params.extras
  finite : Value.FiniteFields params.extras
  writable : ∀ duration extras, params = .wait duration extras → 0 ≤ duration ∧ Json.Writable duration

theorem undeclared_accepted {names : List String} {fields extras : Fields}
    (accepted : undeclared names fields = .accepted extras) :
    extras = fields.filter fun (key, _) => !names.any fun name => key = .name name := by
  unfold undeclared at accepted
  simp only at accepted
  split at accepted
  next => exact (Checked.accepted.inj accepted).symm
  next => cases accepted

theorem undeclared_append (names : List String) (first : Fields) {extras : Fields}
    (known : ∀ entry ∈ first, ∃ name ∈ names, entry.1 = .name name)
    (others : ∀ entry ∈ extras, ∃ name, entry.1 = .name name ∧ name ∉ names) :
    undeclared names (first ++ extras) = .accepted extras := by
  have chosen : (first ++ extras).filter (fun (key, _) => !names.any fun name => key = .name name) = extras := by
    rw [List.filter_append, List.filter_eq_nil_iff.mpr, List.filter_eq_self.mpr, List.nil_append]
    · intro entry member
      obtain ⟨name, key, other⟩ := others entry member
      simpa [key] using fun x declared (same : name = x) => other (same ▸ declared)
    · intro entry member
      obtain ⟨name, declared, key⟩ := known entry member
      simpa [key] using declared
  simp only [undeclared, chosen]
  rw [List.filterMap_eq_nil_iff.mpr]
  · rfl
  · intro entry member
    obtain ⟨name, key, _⟩ := others entry member
    simp [key]

theorem extras_of_check {names : List String} {fields extras : Fields} (document : Json.Proper (.record fields))
    (finite : Value.Finite (.record fields)) (accepted : undeclared names fields = .accepted extras) :
    (∀ entry ∈ extras, ∃ name, entry.1 = .name name ∧ name ∉ names) ∧ Json.ProperFields extras ∧
      Value.FiniteFields extras := by
  have proper := Json.properFields_iff.mp document.1
  have finite := Value.finiteFields_iff.mp finite
  have chosen : ∀ entry ∈ extras, entry ∈ fields ∧ (!names.any fun name => entry.1 = .name name) = true := by
    intro entry member
    rw [undeclared_accepted accepted] at member
    exact List.mem_filter.mp member
  refine ⟨fun entry member => ?_, Json.properFields_iff.mpr fun entry member => proper entry (chosen entry member).1,
    Value.finiteFields_iff.mpr fun entry member => finite entry (chosen entry member).1⟩
  obtain ⟨inside, other⟩ := chosen entry member
  obtain ⟨name, key⟩ := (proper entry inside).1
  have different : ∀ x ∈ names, name ≠ x := by simpa [key] using other
  exact ⟨name, key, fun declared => different name declared rfl⟩

theorem documented_of_check {kind : NodeKind} {fields : Fields} {params : Params}
    (document : Json.Proper (.record fields)) (finite : Value.Finite (.record fields))
    (accepted : check kind fields = .accepted params) : params.kind = kind ∧ params.Documented := by
  cases kind with
  | manualStart =>
      obtain ⟨_, extras, first, rest, rfl⟩ := accepted_of_seq accepted
      obtain ⟨label, _, rfl⟩ := accepted_of_map first
      obtain ⟨others, proper, finite⟩ := extras_of_check document finite rest
      exact ⟨rfl, others, proper, finite, nofun⟩
  | httpRequest =>
      obtain ⟨_, extras, first, rest, rfl⟩ := accepted_of_seq accepted
      obtain ⟨_, url, second, _, rfl⟩ := accepted_of_seq first
      obtain ⟨method, _, rfl⟩ := accepted_of_map second
      obtain ⟨others, proper, finite⟩ := extras_of_check document finite rest
      exact ⟨rfl, others, proper, finite, nofun⟩
  | wait =>
      obtain ⟨_, extras, first, rest, rfl⟩ := accepted_of_seq accepted
      obtain ⟨n, read, rfl⟩ := accepted_of_map first
      obtain ⟨others, proper, finite⟩ := extras_of_check document finite rest
      refine ⟨rfl, others, proper, finite, fun _ _ same => ?_⟩
      cases same
      rcases accepted_of_defaulted read with rfl | ⟨key, value, member, checked⟩
      · exact ⟨Int.le_refl 0, Json.writable_zero⟩
      · obtain ⟨positive, lasts⟩ := duration_accepted_iff.mp checked
        exact ⟨positive, writable_of_lasts (Json.properFields_iff.mp document.1 _ member).2 lasts⟩

theorem mem_dump {params : Params} {entry : Key × Value} (member : entry ∈ params.dump) :
    entry ∈ params.extras ∨ ∃ name, entry.1 = .name name ∧ (entry.2 = .null ∨ ∃ text, entry.2 = .text text) := by
  cases params with
  | manualStart label =>
      rcases List.mem_cons.mp member with rfl | extra
      · cases label with
        | none => exact Or.inr ⟨"label", rfl, Or.inl rfl⟩
        | some label => exact Or.inr ⟨"label", rfl, Or.inr ⟨label, rfl⟩⟩
      · exact Or.inl extra
  | httpRequest method url =>
      rcases List.mem_cons.mp member with rfl | other
      · exact Or.inr ⟨"method", rfl, Or.inr ⟨method.word, rfl⟩⟩
      · rcases List.mem_cons.mp other with rfl | extra
        · exact Or.inr ⟨"url", rfl, Or.inr ⟨url, rfl⟩⟩
        · exact Or.inl extra
  | wait n =>
      rcases List.mem_cons.mp member with rfl | extra
      · exact Or.inr ⟨"duration", rfl, Or.inr ⟨toString n, rfl⟩⟩
      · exact Or.inl extra

theorem payload_eq {params : Params} (documented : params.Documented) : params.payload = .record params.sent := by
  refine congrArg Value.record (Value.plainFields_eq fun entry member => ?_)
  rcases mem_dump (List.mem_filter.mp member).1 with extra | ⟨name, key, null | ⟨text, word⟩⟩
  · have part := Json.properFields_iff.mp documented.document entry extra
    exact ⟨part.1, Value.plain_of_document entry.2 part.2 (Value.finiteFields_iff.mp documented.finite entry extra)⟩
  · rw [null]
    exact ⟨⟨name, key⟩, rfl⟩
  · rw [word]
    exact ⟨⟨name, key⟩, rfl⟩

theorem method_word (m : Method) : method (.text m.word) = .accepted m := by
  cases m <;> decide

theorem check_sent {params : Params} (documented : params.Documented) :
    check params.kind params.sent = .accepted (params.withExtras params.keptExtras) := by
  have others : ∀ entry ∈ params.keptExtras, ∃ name, entry.1 = .name name ∧ name ∉ declared params.kind :=
    fun entry member => documented.undeclared entry (List.mem_filter.mp member).1
  cases params with
  | manualStart label extras =>
      cases label with
      | none =>
          -- A label that is null is not sent, and no other field stands in its place.
          have unlabelled : Fields.get? (manualStart none extras).keptExtras "label" = none := by
            rw [Fields.get?, List.lookup_eq_none_iff]
            intro entry member
            obtain ⟨name, key, other⟩ := others entry member
            rw [key, bne_iff_ne]
            rintro ⟨⟩
            exact other (List.mem_singleton_self _)
          have read := undeclared_append ["label"] [] (by simp) others
          have fields : (manualStart none extras).sent = [] ++ (manualStart none extras).keptExtras := rfl
          rw [fields, kind, check, read, List.nil_append, defaulted_of_absent unlabelled]
          rfl
      | some label =>
          have read := undeclared_append ["label"] [(.name "label", .text label)] (by simp) others
          have fields : (manualStart (some label) extras).sent =
              [(.name "label", .text label)] ++ (manualStart (some label) extras).keptExtras := rfl
          rw [fields, kind, check, read, defaulted_of_present rfl (a := some label) rfl]
          rfl
  | httpRequest method url extras =>
      have read := undeclared_append ["method", "url"] [(.name "method", .text method.word), (.name "url", .text url)]
        (by simp) others
      have fields : (httpRequest method url extras).sent =
          [(.name "method", .text method.word), (.name "url", .text url)] ++
            (httpRequest method url extras).keptExtras := rfl
      rw [fields, kind, check, read, defaulted_of_present rfl (method_word method),
        defaulted_of_present rfl (a := url) rfl]
      rfl
  | wait n extras =>
      obtain ⟨positive, writable⟩ := documented.writable n extras rfl
      obtain ⟨n, rfl⟩ := Int.eq_ofNat_of_zero_le positive
      have read := undeclared_append ["duration"] [(.name "duration", .text (toString n))] (by simp) others
      have fields : (wait n extras).sent =
          [(.name "duration", .text (toString n))] ++ (wait n extras).keptExtras := rfl
      rw [fields, kind, check, read, defaulted_of_present rfl (duration_toString writable)]
      rfl

end Params

namespace Node

open Schema

theorem accepted_of_required {α : Type} {fields : Fields} {name : String} {check : Value → Checked α} {a : α}
    (accepted : required fields name name check = .accepted a) :
    ∃ value, Fields.get? fields name = some value ∧ check value = .accepted a := by
  cases held : Fields.get? fields name with
  | some value =>
      simp only [required, find?, held] at accepted
      exact ⟨value, rfl, accepted_of_under accepted⟩
  | none =>
      simp only [required, find?, held, Option.map_none] at accepted
      cases accepted

def editorFields (id kind position : Value) : Fields :=
  [(.name "id", id), (.name "type", kind), (.name "position", position)]

theorem accepted_of_assemble {fields : Fields} {given : Checked Params} {node : Node}
    (accepted : assemble fields given = .accepted node) :
    required fields "id" "id" nodeId = .accepted node.id ∧
      (∃ kind, required fields "type" "type" (choice kinds) = .accepted kind) ∧ given = .accepted node.params := by
  obtain ⟨_, _, first, _, rfl⟩ := accepted_of_seq accepted
  obtain ⟨_, _, second, _, rfl⟩ := accepted_of_seq first
  obtain ⟨_, _, third, _, rfl⟩ := accepted_of_seq second
  obtain ⟨_, _, fourth, _, rfl⟩ := accepted_of_seq third
  obtain ⟨_, _, fifth, params, rfl⟩ := accepted_of_seq fourth
  obtain ⟨_, kind, sixth, type, rfl⟩ := accepted_of_seq fifth
  obtain ⟨_, id, rfl⟩ := accepted_of_map sixth
  exact ⟨id, ⟨kind, type⟩, accepted_of_under params⟩

theorem nodeId_accepted {value : Value} {id : String} (accepted : nodeId value = .accepted id) :
    Text.isAllBlank id = false := by
  obtain ⟨s, _, checked⟩ := accepted_of_andThen accepted
  split at checked
  next => cases checked
  next named =>
    cases checked
    simpa using named

theorem lookup_kind (kind : NodeKind) : kinds.lookup kind.word = some kind := by
  cases kind <;> decide

theorem checkAny_refused {value : Value} (other : ∀ fields, value ≠ .record fields) (params : Params) :
    Params.checkAny value ≠ .accepted params := by
  cases value with
  | record fields => exact absurd rfl (other fields)
  | null | bool | int | float | text | list | foreign => exact nofun

/-- A node as it comes out of an editor record: its parameters were checked for its kind, as the record that was
given or an empty one. -/
structure Edited (id value : Value) (node : Node) : Prop where
  named : nodeId id = .accepted node.id
  checked : ∃ kind fields, (value = .record fields ∨ fields = []) ∧ Params.check kind fields = .accepted node.params

theorem edited_of_build {id kind position value : Value} {node : Node}
    (accepted : build (editorFields id kind position) (.value value) = .accepted node) : Edited id value node := by
  have checkedAs : ∀ {k : NodeKind} {fields : Fields}, (value = .record fields ∨ fields = []) →
      (Params.check k fields).andThen
        (fun params => assemble (editorFields id kind position) (.accepted params)) = .accepted node →
      Edited id value node := by
    intro k fields given accepted
    obtain ⟨params, read, built⟩ := accepted_of_andThen accepted
    obtain ⟨named, _, same⟩ := accepted_of_assemble built
    obtain ⟨_, ⟨⟩, named⟩ := accepted_of_required named
    cases same
    exact ⟨named, k, fields, given, read⟩
  unfold build at accepted
  cases known : kindOf? (editorFields id kind position) with
  | none =>
      simp only [known] at accepted
      obtain ⟨_, ⟨k, typed⟩, _⟩ := accepted_of_assemble accepted
      obtain ⟨_, ⟨⟩, read⟩ := accepted_of_required typed
      obtain ⟨word, rfl, found⟩ := accepted_of_choice read
      exact absurd (found.symm.trans known) nofun
  | some k =>
      simp only [known] at accepted
      cases value with
      | null => exact checkedAs (Or.inr rfl) accepted
      | record fields => exact checkedAs (Or.inl rfl) accepted
      | bool | int | float | text | list | foreign =>
          obtain ⟨_, _, any⟩ := accepted_of_assemble accepted
          exact absurd any (checkAny_refused (by nofun) _)

theorem ok_of_toExcept {α : Type} {x : Checked α} {a : α} (read : x.toExcept.mapError ExportFault.fields = .ok a) :
    x = .accepted a := by
  cases x with
  | accepted b => exact congrArg _ (Except.ok.inj read)
  | refused faults => cases read

theorem documented_of_ofEditor {record : Value} {node : Node} (document : Json.Proper record) (finite : record.Finite)
    (read : ofEditor record = .ok node) :
    Text.isAllBlank node.id = false ∧ node.params.Documented := by
  cases record with
  | record fields =>
      have edited := edited_of_build (ok_of_toExcept read)
      obtain ⟨kind, data, given, checked⟩ := edited.checked
      have part : Json.Proper (.record data) ∧ Value.Finite (.record data) := by
        rcases given with given | rfl
        · split at given
          next =>
            cases given
            exact ⟨⟨trivial, List.nodup_nil⟩, trivial⟩
          next =>
            rw [Fields.get] at given
            cases held : Fields.get? fields "data" with
            | none =>
                rw [held] at given
                cases given
            | some value =>
                rw [held] at given
                cases given
                have member := member_of_get? held
                exact ⟨(Json.properFields_iff.mp document.1 _ member).2, Value.finiteFields_iff.mp finite _ member⟩
        · exact ⟨⟨trivial, List.nodup_nil⟩, trivial⟩
      exact ⟨nodeId_accepted edited.named, (Params.documented_of_check part.1 part.2 checked).2⟩
  | null | bool | int | float | text | list | foreign => cases read

theorem required_of_present {α : Type} {fields : Fields} {name : String} {check : Value → Checked α} {value : Value}
    {a : α} (present : Fields.get? fields name = some value) (accepted : check value = .accepted a) :
    required fields name name check = .accepted a := by
  simp only [required, find?, present, accepted, Checked.under]

theorem build_sent {node : Node} (named : Text.isAllBlank node.id = false) (documented : node.params.Documented) :
    build (editorFields (.text node.id) (.text node.kind.word) .null) (.value (.record node.params.sent)) =
      .accepted ⟨node.id, node.params.withExtras node.params.keptExtras, none, .pending, none, none⟩ := by
  let fields := editorFields (.text node.id) (.text node.kind.word) .null
  have known : kindOf? fields = some node.kind := lookup_kind node.kind
  have checked : Params.check node.kind node.params.sent =
      .accepted (node.params.withExtras node.params.keptExtras) := Params.check_sent documented
  have id : required fields "id" "id" nodeId = .accepted node.id := by
    refine required_of_present rfl ?_
    simp [nodeId, Schema.text, Checked.andThen, named]
  have type : required fields "type" "type" (choice kinds) = .accepted node.kind := by
    refine required_of_present rfl ?_
    simp only [choice, lookup_kind]
  unfold build
  simp only [fields] at known id type
  simp only [known, checked, Checked.andThen]
  rw [assemble, id, type]
  rfl

/-- A node that is sent is read again. -/
theorem ofEditor_payload {node : Node} (named : Text.isAllBlank node.id = false)
    (documented : node.params.Documented) :
    ofEditor node.payload = .ok ⟨node.id, node.params.withExtras node.params.keptExtras, none, .pending, none, none⟩ := by
  have data : (if (Value.record node.params.sent).isBlank then .record [] else .record node.params.sent) =
      Value.record node.params.sent := by
    split
    next none => rw [List.isEmpty_iff.mp none]
    next => rfl
  have read : ofEditor node.payload =
      ((build (editorFields (.text node.id) (.text node.kind.word) .null) (.value
        (if node.params.payload.isBlank then .record [] else node.params.payload))).toExcept).mapError .fields := rfl
  rw [read, Params.payload_eq documented, data, build_sent named documented]
  rfl

/-- A node comes back with all but its extras that are null. -/
theorem round_trip {record : Value} {node : Node} (document : Json.Proper record) (finite : record.Finite)
    (read : ofEditor record = .ok node) :
    ∃ again, ofEditor node.payload = .ok again ∧ again.id = node.id ∧ again.kind = node.kind ∧
      again.params.typed = node.params.typed ∧
      again.params.extras = node.params.extras.filter (fun (_, value) => value != .null) ∧
      (again.params.extras = node.params.extras ↔ ∀ entry ∈ node.params.extras, entry.2 ≠ .null) := by
  obtain ⟨named, documented⟩ := documented_of_ofEditor document finite read
  refine ⟨_, ofEditor_payload named documented, rfl, Params.kind_withExtras _ _, Params.typed_withExtras _ _,
    Params.extras_withExtras _ _, ?_⟩
  rw [Params.extras_withExtras, Params.keptExtras, List.filter_eq_self]
  simp only [bne_iff_ne]

def pauseRecord : Value :=
  .record [(.name "id", .text "pause"), (.name "type", .text "waitingNode"), (.name "data", .record [
    (.name "duration", .text " 0250 "), (.name "note", .null), (.name "tags", .list [.null, .int 7])])]

def pauseText : String :=
  "\x7b\"id\": \"pause\", \"type\": \"waitingNode\", \"data\": "
    ++ "\x7b\"duration\": \" 0250 \", \"note\": null, \"tags\": [null, 7]\x7d\x7d"

theorem round_trip_waiting : Json.Proper pauseRecord ∧ pauseRecord.Finite ∧ ∃ node, ofEditor pauseRecord = .ok node ∧
    ∃ again, ofEditor node.payload = .ok again ∧ again.id = node.id ∧ again.kind = node.kind ∧
      again.params.typed = node.params.typed ∧
      again.params.extras = node.params.extras.filter (fun (_, value) => value != .null) ∧
      (again.params.extras = node.params.extras ↔ ∀ entry ∈ node.params.extras, entry.2 ≠ .null) := by
  have text : Json.read pauseText = .ok pauseRecord := by decide +kernel
  have document := Json.proper_of_read text
  have finite : pauseRecord.Finite := by
    simp [pauseRecord, Value.Finite, Value.FiniteFields, Value.FiniteItems]
  have read : ofEditor pauseRecord = .ok ⟨"pause",
      .wait 250 [(.name "note", .null), (.name "tags", .list [.null, .int 7])], none, .pending, none, none⟩ := by
    decide +kernel
  exact ⟨document, finite, _, read, round_trip document finite read⟩

def notedRecord : Value :=
  .record [(.name "id", .text "a"), (.name "type", .text "manualStartNode"),
    (.name "data", .record [(.name "note", .null)])]

/-- A key that no kind declares is lost if its value is null. -/
theorem note_lost : Json.Proper notedRecord ∧ notedRecord.Finite ∧ ∃ node again,
    ofEditor notedRecord = .ok node ∧ ofEditor node.payload = .ok again ∧
      node.params.extras = [(.name "note", .null)] ∧ again.params.extras = [] := by
  refine ⟨?_, ?_, ⟨"a", .manualStart none [(.name "note", .null)], none, .pending, none, none⟩,
    ⟨"a", .manualStart none [], none, .pending, none, none⟩, by decide +kernel, by decide +kernel, rfl, rfl⟩
  · simp [notedRecord, Json.Proper, Json.ProperFields]
  · simp [notedRecord, Value.Finite, Value.FiniteFields]

end Node

end WorkflowRuns
