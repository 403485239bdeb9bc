import WorkflowRuns.Proofs.Schema.Agreement
import WorkflowRuns.Proofs.Snapshot.Reading

/-!
What reading a snapshot overlooks: keys that no field has, the order of keys, and null in place of an absent field
that is optional.
-/

namespace WorkflowRuns

open Schema Value

def Value.outline : Value → Value
  | .list _ => .list []
  | .record _ => .record []
  | value => value

namespace NodeResult

def names : Names where
  wires := ["nodeId", "nodeType", "status", "timestamp", "durationMs", "logs", "result", "error", "meta"]
  plains := ["node_id", "node_type", "timestamp_sec", "duration_ms"]
  optional := ["logs", "nodeType", "result", "error", "meta"]
  apart := by decide

/-- Results that are equal but for the free values in them, which are the same in some sense. -/
structure Alike (same : Value → Value → Prop) (a b : NodeResult) : Prop where
  result : same a.result b.result
  note : same a.note b.note
  rest : b = { a with result := b.result, note := b.note }

theorem Alike.eq {a b : NodeResult} (alike : Alike Eq a b) : a = b := by
  rw [alike.rest, ← alike.result, ← alike.note]

end NodeResult

namespace Snapshot

def names : Names where
  wires := ["workflowId", "status", "startedAt", "endedAt", "durationMs", "numberOfNodes", "nodes", "logs", "error",
    "meta"]
  plains := ["run_id", "started_at", "ended_at", "duration_ms", "declared_node_count", "node_results",
    "workflow_logs", "error_message"]
  optional := ["logs", "meta", "error", "startedAt", "endedAt", "numberOfNodes"]
  apart := by decide

/-- Snapshots that are equal but for the free values in them. -/
structure Alike (same : Value → Value → Prop) (s t : Snapshot) : Prop where
  results : List.Forall₂ (NodeResult.Alike same) s.results t.results
  notes : same (.record s.notes) (.record t.notes)
  rest : t = { s with results := t.results, notes := t.notes }

theorem Alike.eq {s t : Snapshot} (alike : Alike Eq s t) : s = t := by
  have results : s.results = t.results := by
    have equal := alike.results.imp fun _ _ each => each.eq
    rwa [List.forall₂_eq_eq_eq] at equal
  rw [alike.rest, ← results, ← Value.record.inj alike.notes]

theorem Alike.withRunId {same : Value → Value → Prop} {s t : Snapshot} (alike : Alike same s t)
    (runId : Option String) : Alike same (s.withRunId runId) (t.withRunId runId) := by
  obtain ⟨results, notes, rest⟩ := alike
  have named : t.runId = s.runId := by rw [rest]
  cases runId with
  | none => exact ⟨results, notes, rest⟩
  | some id =>
      unfold Snapshot.withRunId
      simp only [named]
      split_ifs
      · refine ⟨results, notes, ?_⟩
        rw [rest]
      · exact ⟨results, notes, rest⟩

/-- Two payloads are snapshots that are alike, or malformed in the same way. -/
inductive Outcome (same : Value → Value → Prop) : Except SnapshotFault Snapshot → Except SnapshotFault Snapshot → Prop
  | read {s t : Snapshot} (alike : Alike same s t) : Outcome same (.ok s) (.ok t)
  | malformed {fault : SnapshotFault} {words : String} (failure : fault.failure = .malformedPayload words) :
      Outcome same (.error fault) (.error fault)

structure Wired (fields : Fields) : Prop where
  own : names.Wired fields
  entries : ∀ entries, Fields.get? fields "nodes" = some (.list entries) →
    ∀ entry, Value.record entry ∈ entries → NodeResult.names.Wired entry

/-- A change to a payload that is meant to be overlooked: in its record, or in the record of a node entry. -/
inductive Edit : Fields → Fields → Prop
  | top {fields others : Fields} (edited : Edited names fields others) : Edit fields others
  | entry (before after : Fields) (first rest : List Value) {entry revised : Fields}
      (edited : Edited NodeResult.names entry revised) :
      Edit (before ++ (.name "nodes", .list (first ++ .record entry :: rest)) :: after)
        (before ++ (.name "nodes", .list (first ++ .record revised :: rest)) :: after)

theorem ofValue_statusless (runId : Option String) {fields : Fields} (absent : Fields.get? fields "status" = none) :
    ofValue runId (.record fields) = .error .noStatus := by
  rw [ofValue, absent]

theorem ofValue_unlisted (runId : Option String) {fields : Fields} (present : Fields.get? fields "status" ≠ none)
    (unlisted : ∀ entries, Fields.get fields "nodes" ≠ .list entries) :
    ofValue runId (.record fields) = .error .nodesNotList := by
  rw [ofValue]
  split
  next absent => exact absurd absent present
  next listed => exact absurd listed (unlisted _)
  next => rfl

theorem ofValue_shaped (runId : Option String) {fields : Fields} (present : Fields.get? fields "status" ≠ none)
    (listed : ¬ ∀ entries, Fields.get fields "nodes" ≠ .list entries) :
    ofValue runId (.record fields) = match (ofFields fields).toExcept with
      | .ok s => .ok (s.withRunId runId)
      | .error faults => .error (.fields faults) := by
  rw [ofValue]
  split
  next absent => exact absurd absent present
  next => rfl
  next other => exact absurd (fun entries listed => other entries listed) listed

section Views

variable {α : Type} {sees : Value → α}

def entryView (sees : Value → α) : Value → Option (String → Option α)
  | .record fields => some (NodeResult.names.view [] sees fields)
  | _ => none

def nodesView (sees : Value → α) : Value → Option (List (Option (String → Option α)))
  | .list entries => some (entries.map (entryView sees))
  | _ => none

structure SeenAlike (sees : Value → α) (fields others : Fields) : Prop where
  view : names.view ["nodes"] sees fields = names.view ["nodes"] sees others
  nodes : (Fields.get? fields "nodes").map (nodesView sees) = (Fields.get? others "nodes").map (nodesView sees)

theorem SeenAlike.replaced (before after : Fields) (key : Key) {a b : Value} (present : a ≠ .null) (present' : b ≠ .null)
    (same : key = .name "nodes" ∨ sees a = sees b) (nodes : nodesView sees a = nodesView sees b) :
    SeenAlike sees (before ++ (key, a) :: after) (before ++ (key, b) :: after) := by
  constructor
  · refine view_eq_iff.mpr fun name known counted => ?_
    rcases Fields.get?_replaced before after key a b name with equal | ⟨rfl, first, second⟩
    · rw [Names.seen_of_get? equal]
    · rw [Names.seen_of_some first present, Names.seen_of_some second present', Option.map_some, Option.map_some]
      rcases same with exempt | same
      · exact absurd (List.mem_singleton.mpr (Key.name.inj exempt)) counted
      · rw [same]
  · rcases Fields.get?_replaced before after key a b "nodes" with equal | ⟨rfl, first, second⟩
    · rw [equal]
    · rw [first, second, Option.map_some, Option.map_some, nodes]

theorem Edit.seenAlike {fields others : Fields} (edit : Edit fields others) : SeenAlike sees fields others := by
  cases edit with
  | top edited =>
      refine ⟨view_eq_iff.mpr fun name known _ => by rw [edited.seen known], ?_⟩
      have nodes := edited.seen (by decide : "nodes" ∈ names.known)
      rw [Names.seen_of_required (by decide), Names.seen_of_required (by decide)] at nodes
      rw [nodes]
  | entry before after first rest edited =>
      refine .replaced before after _ nofun nofun (.inl rfl) ?_
      have same : ∀ {entry revised : Fields}, Edited NodeResult.names entry revised →
          NodeResult.names.view [] sees entry = NodeResult.names.view [] sees revised :=
        fun edited => view_eq_iff.mpr fun name known _ => by rw [edited.seen known]
      simp only [nodesView, List.map_append, List.map_cons, entryView, same edited]

theorem view_reordered (steady : ∀ a b, Reordered a b → sees a = sees b) {fields others : Fields}
    (reordered : Reordered (.record fields) (.record others)) (names : Names) (exempt : List String) :
    names.view exempt sees fields = names.view exempt sees others := by
  refine view_eq_iff.mpr fun name _ _ => ?_
  cases reordered with
  | keys perm distinct => rw [Names.seen_of_get? (Fields.get?_perm perm distinct name)]
  | @field a b before after key inside =>
      rcases Fields.get?_replaced before after key a b name with equal | ⟨rfl, first, second⟩
      · rw [Names.seen_of_get? equal]
      · rw [Names.seen_of_some first (by cases inside <;> nofun), Names.seen_of_some second (by cases inside <;> nofun),
          Option.map_some, Option.map_some, steady a b inside]

theorem entryView_reordered (steady : ∀ a b, Reordered a b → sees a = sees b) {a b : Value}
    (reordered : Reordered a b) : entryView sees a = entryView sees b := by
  cases reordered with
  | keys perm distinct => exact congrArg some (view_reordered steady (.keys perm distinct) _ _)
  | item => rfl
  | field before after key inside => exact congrArg some (view_reordered steady (.field before after key inside) _ _)

theorem nodesView_reordered (steady : ∀ a b, Reordered a b → sees a = sees b) {a b : Value}
    (reordered : Reordered a b) : nodesView sees a = nodesView sees b := by
  cases reordered with
  | keys => rfl
  | item before after inside =>
      simp only [nodesView, List.map_append, List.map_cons, entryView_reordered steady inside]
  | field => rfl

theorem seenAlike_reordered (steady : ∀ a b, Reordered a b → sees a = sees b) {fields others : Fields}
    (reordered : Reordered (.record fields) (.record others)) : SeenAlike sees fields others := by
  refine ⟨view_reordered steady reordered _ _, ?_⟩
  cases reordered with
  | keys perm distinct => rw [Fields.get?_perm perm distinct]
  | @field a b before after key inside =>
      rcases Fields.get?_replaced before after key a b "nodes" with equal | ⟨_, first, second⟩
      · rw [equal]
      · rw [first, second, Option.map_some, Option.map_some, nodesView_reordered steady inside]

theorem seenAlike_of_eqvGen {step : Fields → Fields → Prop} (seen : ∀ a b, step a b → SeenAlike sees a b)
    {fields others : Fields} (steps : Relation.EqvGen step fields others) : SeenAlike sees fields others := by
  induction steps with
  | rel _ _ one => exact seen _ _ one
  | refl => exact ⟨rfl, rfl⟩
  | symm _ _ _ ih => exact ⟨ih.view.symm, ih.nodes.symm⟩
  | trans _ _ _ _ _ first second => exact ⟨first.view.trans second.view, first.nodes.trans second.nodes⟩

variable (within : ∀ a b, sees a = sees b → Same a b)
include within

theorem lines_agree {a b : Value} (same : sees a = sees b) : Checked.Agree Eq (lines a) (lines b) := by
  refine Steady.agree (fun a b reordered => ?_) (within a b same)
  have listed := steady_text.listOf a b reordered
  cases reordered <;> exact listed

theorem notesOf_agree {a b : Value} (same : sees a = sees b) :
    Checked.Agree (fun f g => sees (.record f) = sees (.record g)) (notesOf a) (notesOf b) := by
  have outline : a.outline = b.outline := (within a b same).lift fun a b reordered => by cases reordered <;> rfl
  cases a with
  | null =>
      cases b with
      | null => exact .accepted rfl
      | _ => cases outline
  | record f =>
      cases b with
      | record g => exact .accepted same
      | _ => cases outline
  | bool | int | float | text | list | foreign => cases b <;> first | exact .refused _ | cases outline

theorem nodeResult_agree {a b : Value} (view : entryView sees a = entryView sees b)
    (wired : ∀ fields, a = .record fields → NodeResult.names.Wired fields) :
    Checked.Agree (NodeResult.Alike fun a b => sees a = sees b) (nodeResult a) (nodeResult b) := by
  cases a with
  | record fields =>
      cases b with
      | record others =>
          have same := Option.some.inj view
          have twins : Twins NodeResult.names [] sees fields others :=
            ⟨same, wired fields rfl, wired_of_view same (wired fields rfl) nofun⟩
          have steady {β : Type} {check : Value → Checked β} (steady : Steady check) (a b : Value)
              (same : sees a = sees b) : Checked.Agree Eq (check a) (check b) := steady.agree (within a b same)
          have free {wire : String} (known : wire ∈ NodeResult.names.known) :
              Checked.Agree (fun a b => sees a = sees b) (defaulted fields wire wire .null anything)
                (defaulted others wire wire .null anything) :=
            twins.defaulted ⟨known, nofun, .inl rfl⟩ (fun _ => rfl) rfl fun _ _ same => .accepted same
          unfold nodeResult
          refine .seq (.seq (.seq (.seq (.seq (.seq (.seq (.seq (.map ?alike
            (twins.required (by decide) (steady steady_text)))
            (twins.defaulted (by decide) (fun _ => rfl) rfl (steady steady_text.nullable)))
            (twins.required (by decide) (steady (steady_choice _))))
            (twins.defaulted (by decide) (by decide) rfl (steady steady_integer)))
            (twins.defaulted (by decide) (by decide) rfl (steady steady_integer)))
            (twins.defaulted (by decide) (fun _ => rfl) rfl fun _ _ => lines_agree within))
            (free (by decide)))
            (twins.defaulted (by decide) (fun _ => rfl) rfl (steady steady_text.nullable)))
            (free (by decide))
          rintro id _ rfl kind _ rfl status _ rfl time _ rfl duration _ rfl lines _ rfl a b result error _ rfl c d note
          exact ⟨result, note, rfl⟩
      | _ => cases view
  | null | bool | int | float | text | list | foreign => cases b <;> first | exact .refused _ | cases view

theorem listOf_nodeResult_agree {a b : Value} (view : nodesView sees a = nodesView sees b)
    (wired : ∀ entries, a = .list entries → ∀ entry, Value.record entry ∈ entries → NodeResult.names.Wired entry) :
    Checked.Agree (List.Forall₂ (NodeResult.Alike fun a b => sees a = sees b)) (listOf nodeResult a)
      (listOf nodeResult b) := by
  cases a with
  | list entries =>
      cases b with
      | list others =>
          have views : List.Forall₂ (fun a b => entryView sees a = entryView sees b) entries others := by
            have equal : List.Forall₂ Eq (entries.map (entryView sees)) (others.map (entryView sees)) := by
              rw [Option.some.inj view]
              exact List.forall₂_same.mpr fun _ _ => rfl
            exact List.forall₂_map_left_iff.mp (List.forall₂_map_right_iff.mp equal)
          have each := (List.forall₂_and_left _ _).mpr ⟨fun entry member => member, views⟩
          refine .items (each.imp ?_) 0
          rintro a b ⟨member, view⟩
          refine nodeResult_agree within view ?_
          rintro fields rfl
          exact wired entries rfl fields member
      | _ => cases view
  | null | bool | int | float | text | record | foreign => cases b <;> first | exact .refused _ | cases view

theorem ofFields_agree {fields others : Fields} (alike : SeenAlike sees fields others) (wired : Wired fields) :
    Checked.Agree (Alike fun a b => sees a = sees b) (ofFields fields) (ofFields others) := by
  have twins : Twins names ["nodes"] sees fields others :=
    ⟨alike.view, wired.own, wired_of_view alike.view wired.own (by decide)⟩
  have steady {β : Type} {check : Value → Checked β} (steady : Steady check) (a b : Value)
      (same : sees a = sees b) : Checked.Agree Eq (check a) (check b) := steady.agree (within a b same)
  have nodes : Checked.Agree (List.Forall₂ (NodeResult.Alike fun a b => sees a = sees b))
      (required fields "nodes" "node_results" (listOf nodeResult))
      (required others "nodes" "node_results" (listOf nodeResult)) := by
    have same := alike.nodes
    have needed : "nodes" ∉ names.optional := by decide
    rw [← Names.seen_of_required needed, ← Names.seen_of_required needed] at same
    rw [required_seen twins.wired (by decide) (by decide), required_seen twins.wired' (by decide) (by decide)]
    refine .elim same (.refused _) fun a b held view => (listOf_nodeResult_agree within view ?_).under _
    rintro entries rfl
    rw [Names.seen_of_required (by decide)] at held
    exact wired.entries entries held
  have notes : Checked.Agree (fun f g => sees (.record f) = sees (.record g))
      (defaulted fields "meta" "meta" [] notesOf) (defaulted others "meta" "meta" [] notesOf) :=
    twins.defaulted (by decide) (fun _ => rfl) rfl fun _ _ => notesOf_agree within
  unfold ofFields
  refine .seq (.seq (.seq (.seq (.seq (.seq (.seq (.seq (.seq (.map ?alike
    (twins.defaulted (by decide) (by decide) rfl (steady steady_text)))
    (twins.required (by decide) (steady (steady_choice _))))
    (twins.defaulted (by decide) (fun _ => rfl) rfl (steady steady_integer.nullable)))
    (twins.defaulted (by decide) (fun _ => rfl) rfl (steady steady_integer.nullable)))
    (twins.defaulted (by decide) (by decide) rfl (steady steady_integer)))
    (twins.defaulted (by decide) (fun _ => rfl) rfl (steady steady_integer.nullable)))
    nodes)
    (twins.defaulted (by decide) (fun _ => rfl) rfl fun _ _ => lines_agree within))
    (twins.defaulted (by decide) (fun _ => rfl) rfl (steady steady_text.nullable)))
    notes
  rintro id _ rfl status _ rfl start _ rfl finish _ rfl duration _ rfl count _ rfl a b results lines _ rfl error _ rfl
    f g notes
  exact ⟨results, notes, rfl⟩

omit within in
theorem nodesView_eq_none {value : Value} : nodesView sees value = none ↔ ∀ entries, value ≠ .list entries := by
  cases value with
  | list entries => exact iff_of_false nofun fun other => other entries rfl
  | null | bool | int | float | text | record | foreign => exact iff_of_true rfl nofun

theorem ofValue_agree (runId : Option String) {fields others : Fields} (alike : SeenAlike sees fields others)
    (wired : Wired fields) :
    Outcome (fun a b => sees a = sees b) (ofValue runId (.record fields)) (ofValue runId (.record others)) := by
  have status : Fields.get? fields "status" = none ↔ Fields.get? others "status" = none := by
    have same := view_eq_iff.mp alike.view "status" (by decide) (by decide)
    rw [Names.seen_of_required (by decide), Names.seen_of_required (by decide)] at same
    rw [← Option.map_eq_none_iff (f := sees), same, Option.map_eq_none_iff]
  have nodes : nodesView sees (Fields.get fields "nodes") = nodesView sees (Fields.get others "nodes") := by
    unfold Fields.get
    have same := alike.nodes
    cases held : Fields.get? fields "nodes" with
    | none =>
        rw [held] at same
        rw [Option.map_eq_none_iff.mp same.symm]
    | some a =>
        rw [held] at same
        obtain ⟨b, held', equal⟩ := Option.map_eq_some_iff.mp same.symm
        rw [held']
        exact equal.symm
  by_cases absent : Fields.get? fields "status" = none
  · rw [ofValue_statusless runId absent, ofValue_statusless runId (status.mp absent)]
    exact .malformed rfl
  have absent' := fun missing => absent (status.mpr missing)
  by_cases unlisted : ∀ entries, Fields.get fields "nodes" ≠ .list entries
  · have unlisted' := nodesView_eq_none.mp (nodes ▸ nodesView_eq_none.mpr unlisted)
    rw [ofValue_unlisted runId absent unlisted, ofValue_unlisted runId absent' unlisted']
    exact .malformed rfl
  have unlisted' : ¬ ∀ entries, Fields.get others "nodes" ≠ .list entries := fun other =>
    unlisted (nodesView_eq_none.mp (nodes.trans (nodesView_eq_none.mpr other)))
  rw [ofValue_shaped runId absent unlisted, ofValue_shaped runId absent' unlisted']
  have agree := ofFields_agree within alike wired
  generalize ofFields fields = x, ofFields others = y at agree
  cases agree with
  | accepted snapshots => exact .read (snapshots.withRunId runId)
  | refused faults => exact .malformed rfl

end Views

def Counted (held : Option Value) (n : Int) : Prop :=
  held = none ∧ n = 0 ∨ ∃ value, held = some value ∧ integer value = .accepted n

inductive MaySpell : Value → Option String → Prop
  | absent : MaySpell .null none
  | given {value : Value} {s : String} (spells : value.Spells s) : MaySpell value (some s)

structure Describes (fields : Fields) (r : NodeResult) : Prop where
  nodeId : ∃ value, Fields.get? fields "nodeId" = some value ∧ value.Spells r.nodeId
  status : Fields.get? fields "status" = some (.text r.status.word)
  nodeType : MaySpell (Fields.get fields "nodeType") r.nodeType
  timestamp : Counted (Fields.get? fields "timestamp") r.timestamp
  duration : Counted (Fields.get? fields "durationMs") r.duration
  logs : (∃ lines, Fields.get fields "logs" = .list lines ∧ List.Forall₂ Value.Spells lines r.logs) ∨
    Fields.get fields "logs" = .null ∧ r.logs = []
  result : Fields.get fields "result" = r.result
  error : MaySpell (Fields.get fields "error") r.error
  note : Fields.get fields "meta" = r.note

theorem maySpell_of_nullable {value : Value} {text : Option String}
    (accepted : nullable Schema.text value = .accepted text) : MaySpell value text := by
  by_cases absent : value = .null
  · subst absent
    cases accepted
    exact .absent
  · have given : (Schema.text value).map some = .accepted text := by
      rwa [nullable] at accepted
      exact absent
    obtain ⟨s, read, rfl⟩ := accepted_of_map given
    exact .given (text_accepted_iff.mp read)

theorem lines_of_accepted {value : Value} {texts : List String} (accepted : lines value = .accepted texts) :
    (∃ lines, value = .list lines ∧ List.Forall₂ Value.Spells lines texts) ∨ value = .null ∧ texts = [] := by
  cases value with
  | null =>
      cases accepted
      exact Or.inr ⟨rfl, rfl⟩
  | list values =>
      exact Or.inl ⟨values, rfl, (accepted_of_items accepted).imp fun _ _ checked => text_accepted_iff.mp checked⟩
  | bool | int | float | text | record | foreign => cases accepted

theorem outcome_word {word : String} {outcome : NodeOutcome} (found : nodeOutcomes.lookup word = some outcome) :
    word = outcome.word := by
  obtain ⟨before, after, whole, _⟩ := List.lookup_eq_some_iff.mp found
  have member : (word, outcome) ∈ nodeOutcomes := by
    rw [whole]
    simp
  simp only [nodeOutcomes, List.mem_cons, Prod.mk.injEq, List.not_mem_nil, or_false] at member
  rcases member with ⟨rfl, rfl⟩ | ⟨rfl, rfl⟩ | ⟨rfl, rfl⟩ <;> rfl

theorem describes_of_accepted {fields : Fields} {r : NodeResult} (wired : NodeResult.names.Wired fields)
    (accepted : nodeResult (.record fields) = .accepted r) : Describes fields r := by
  have checks := entryChecks_of_accepted accepted
  obtain ⟨idValue, idHeld, idRead⟩ := held_of_required wired (by decide) checks.nodeId
  obtain ⟨statusValue, statusHeld, statusRead⟩ := held_of_required wired (by decide) checks.status
  obtain ⟨word, rfl, found⟩ := accepted_of_choice statusRead
  constructor
  case nodeId => exact ⟨idValue, idHeld, text_accepted_iff.mp idRead⟩
  case status => rw [statusHeld, outcome_word found]
  case nodeType => exact maySpell_of_nullable (held_of_nullable wired (by decide) rfl checks.nodeType)
  case timestamp => exact held_of_defaulted wired (by decide) checks.timestamp
  case duration => exact held_of_defaulted wired (by decide) checks.duration
  case logs => exact lines_of_accepted (held_of_nullable wired (by decide) rfl checks.logs)
  case result => exact Checked.accepted.inj (held_of_nullable wired (by decide) rfl checks.result)
  case error => exact maySpell_of_nullable (held_of_nullable wired (by decide) rfl checks.error)
  case note => exact Checked.accepted.inj (held_of_nullable wired (by decide) rfl checks.note)

theorem ofFields_describes {fields : Fields} {s : Snapshot} (wired : Wired fields)
    (accepted : ofFields fields = .accepted s) :
    ∃ entries, Fields.get? fields "nodes" = some (.list entries) ∧
      List.Forall₂ (fun entry r => ∃ inner, entry = .record inner ∧ Describes inner r) entries s.results := by
  obtain ⟨value, held, read⟩ := held_of_required wired.own (by decide) (checks_of_accepted accepted).results
  cases value with
  | list entries =>
      refine ⟨entries, held, ?_⟩
      have each := (List.forall₂_and_left _ _).mpr ⟨fun entry member => member, accepted_of_items read⟩
      refine each.imp ?_
      rintro entry r ⟨member, checked⟩
      cases entry with
      | record inner => exact ⟨inner, rfl, describes_of_accepted (wired.entries entries held inner member) checked⟩
      | null | bool | int | float | text | list | foreign => cases checked
  | null | bool | int | float | text | record | foreign => cases read

theorem withRunId_results (s : Snapshot) (runId : Option String) : (s.withRunId runId).results = s.results := by
  cases runId with
  | none => rfl
  | some id =>
      unfold withRunId
      dsimp only
      split_ifs <;> rfl

theorem read_holds (runId : Option String) {payload : Payload} {v : Value} (holds : payload.Holds v) :
    read runId payload = ofValue runId v := by
  cases holds with
  | spelled spells document => rw [read_spells runId spells, ofText, document]
  | decoded structured =>
      cases v with
      | text text => exact absurd rfl (structured text)
      | null | bool | int | float | list | record | foreign => rfl

/-- How a payload is read, against another one that holds other fields. -/
structure Lenient (runId : Option String) (payload revised : Payload) (fields others : Fields) : Prop where
  malformed : ∀ fault, read runId payload = .error fault → ∃ words, fault.failure = .malformedPayload words
  /-- Overlooked changes make no difference at all. -/
  edited : Relation.EqvGen Edit fields others → read runId payload = read runId revised
  /-- With keys in another order at any depth, too, snapshots differ in the order of keys only. -/
  reordered : Relation.EqvGen (fun a b => Edit a b ∨ Reordered (.record a) (.record b)) fields others →
    Outcome Same (read runId payload) (read runId revised)
  /-- The results of a snapshot are those of the node entries, one by one. -/
  described : ∀ s, read runId payload = .ok s → ∃ entries, Fields.get? fields "nodes" = some (.list entries) ∧
    List.Forall₂ (fun entry r => ∃ inner, entry = .record inner ∧ Describes inner r) entries s.results

theorem Outcome.eq {x y : Except SnapshotFault Snapshot} (outcome : Outcome Eq x y) : x = y := by
  cases outcome with
  | read alike => rw [alike.eq]
  | malformed => rfl

theorem read_lenient (runId : Option String) {payload revised : Payload} {fields others : Fields}
    (holds : payload.Holds (.record fields)) (holds' : revised.Holds (.record others)) (wired : Wired fields) :
    Lenient runId payload revised fields others := by
  have here := read_holds runId holds
  have there := read_holds runId holds'
  constructor
  case malformed =>
    intro fault failed
    exact ofValue_malformed (here.symm.trans failed)
  case edited =>
    intro edits
    rw [here, there]
    have alike : SeenAlike id fields others := seenAlike_of_eqvGen (fun _ _ => Edit.seenAlike) edits
    have within : ∀ a b : Value, id a = id b → Same a b := by
      rintro a b rfl
      exact Same.refl a
    exact (ofValue_agree within runId alike wired).eq
  case reordered =>
    intro edits
    rw [here, there]
    have alike : SeenAlike (Quot.mk Reordered) fields others := by
      refine seenAlike_of_eqvGen (fun a b step => ?_) edits
      rcases step with edit | reordered
      · exact edit.seenAlike
      · exact seenAlike_reordered (fun _ _ => Quot.sound) reordered
    have same : (fun a b => Quot.mk Reordered a = Quot.mk Reordered b) = Same := by
      funext a b
      exact propext ⟨Quot.eqvGen_exact, Quot.eqvGen_sound⟩
    exact same ▸ ofValue_agree (fun a b same => Quot.eqvGen_exact same) runId alike wired
  case described =>
    intro s read
    obtain ⟨_, plain, same, accepted, rfl⟩ := accepted_of_ofValue (here.symm.trans read)
    cases same
    rw [withRunId_results]
    exact ofFields_describes wired accepted

def terse : Fields :=
  [(.name "status", .text "success"),
    (.name "nodes", .list [.record [(.name "nodeId", .text "a"), (.name "status", .text "error")]])]

/-- The same run with its keys in another order, null for the lines of the node, and a key that is unknown. -/
def wordy : Fields :=
  [(.name "nodes",
      .list [.record [(.name "nodeId", .text "a"), (.name "logs", .null), (.name "status", .text "error")]]),
    (.name "status", .text "success"), (.name "region", .int 7)]

theorem terse_wired : Wired terse := by
  refine ⟨by decide, fun entries listed entry member => ?_⟩
  obtain rfl : [Value.record [(.name "nodeId", .text "a"), (.name "status", .text "error")]] = entries :=
    Value.list.inj (Option.some.inj listed)
  obtain rfl := Value.record.inj (List.mem_singleton.mp member)
  decide

theorem wordy_of_terse : Relation.EqvGen Edit terse wordy :=
  have turned : Edit terse
      [(.name "nodes", .list [.record [(.name "nodeId", .text "a"), (.name "status", .text "error")]]),
        (.name "status", .text "success")] := .top (.reordered (.swap _ _ _) (by decide))
  have nulled := Edit.entry [] [(.name "status", .text "success")] [] []
    (.null [(.name "nodeId", .text "a")] [(.name "status", .text "error")] (by decide : "logs" ∈ _) rfl)
  have widened : Edit _ wordy :=
    .top (.unknown [(.name "nodes", _), (.name "status", .text "success")] [] (.int 7) (by decide))
  .trans _ _ _ (.rel _ _ turned) (.trans _ _ _ (.rel _ _ nulled) (.rel _ _ widened))

theorem read_lenient_wordy :
    ∃ s text, read (some "run-1") (.value (.record terse)) = .ok s ∧ read (some "run-1") (.text text) = .ok s ∧
      Json.read text = .ok (.record wordy) ∧ s.runId = "run-1" ∧ s.results.map NodeResult.logs = [[]] := by
  let text := "\x7b\"nodes\": [\x7b\"nodeId\": \"a\", \"logs\": null, \"status\": \"error\"\x7d], " ++
    "\"status\": \"success\", \"region\": 7\x7d"
  have spelled : Json.read text = .ok (.record wordy) := by decide +kernel
  have lenient := read_lenient (some "run-1") (.decoded nofun) (.spelled (.text text) spelled) terse_wired
  refine ⟨_, text, rfl, (lenient.edited wordy_of_terse).symm.trans rfl, spelled, rfl, rfl⟩

end Snapshot

end WorkflowRuns
