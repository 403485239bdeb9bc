import WorkflowRuns.Proofs.Config.Settings
import WorkflowRuns.Proofs.Json.Literals
import WorkflowRuns.Snapshot.Reader

/-!
How a payload fails to be a snapshot, and which run a snapshot is of.
-/

namespace WorkflowRuns

namespace Payload

inductive Spells : Payload → List Text.CodePoint → Prop
  | bytes {bytes : List UInt8} {text : List Text.CodePoint} (decodes : Text.decodeUtf8 .refused bytes = .ok text) :
      Spells (.bytes bytes) text
  | text (text : List Text.CodePoint) : Spells (.text text) text
  | value (text : String) : Spells (.value (.text text)) text

inductive Holds : Payload → Value → Prop
  | spelled {payload : Payload} {text : List Text.CodePoint} {v : Value} (spells : Spells payload text)
      (read : Json.read text = .ok v) : Holds payload v
  | decoded {v : Value} (structured : ∀ text, v ≠ .text text) : Holds (.value v) v

/-- The text has an integer with too many digits, and is read up to there. -/
def Overlong (payload : Payload) : Prop :=
  ∃ text count, Spells payload text ∧ Json.read text = .error (.digits count)

end Payload

namespace Snapshot

open Payload Schema

theorem ofValue_malformed {runId : Option String} {v : Value} {fault : SnapshotFault}
    (failed : ofValue runId v = .error fault) : ∃ words, fault.failure = .malformedPayload words := by
  unfold ofValue at failed
  split at failed
  next fields =>
    split at failed
    next =>
      cases failed
      exact ⟨_, rfl⟩
    next =>
      split at failed
      next => cases failed
      next =>
        cases failed
        exact ⟨_, rfl⟩
    next =>
      cases failed
      exact ⟨_, rfl⟩
  next =>
    cases failed
    exact ⟨_, rfl⟩

def ownId (fields : Fields) : String :=
  match (find? fields "workflowId" "run_id").map fun named => Schema.text named.2 with
  | some (.accepted id) => id
  | _ => ""

/-- Each part of a node result is what its check makes of the value under its name. -/
structure EntryChecks (fields : Fields) (r : NodeResult) : Prop where
  nodeId : required fields "nodeId" "node_id" Schema.text = .accepted r.nodeId
  nodeType : defaulted fields "nodeType" "node_type" none (nullable Schema.text) = .accepted r.nodeType
  status : required fields "status" "status" (choice nodeOutcomes) = .accepted r.status
  timestamp : defaulted fields "timestamp" "timestamp_sec" 0 integer = .accepted r.timestamp
  duration : defaulted fields "durationMs" "duration_ms" 0 integer = .accepted r.duration
  logs : defaulted fields "logs" "logs" [] lines = .accepted r.logs
  result : defaulted fields "result" "result" .null anything = .accepted r.result
  error : defaulted fields "error" "error" none (nullable Schema.text) = .accepted r.error
  note : defaulted fields "meta" "meta" .null anything = .accepted r.note

theorem entryChecks_of_accepted {fields : Fields} {r : NodeResult} (accepted : nodeResult (.record fields) = .accepted r) :
    EntryChecks fields r := by
  unfold nodeResult at accepted
  obtain ⟨_, _, upToError, note, rfl⟩ := accepted_of_seq accepted
  obtain ⟨_, _, upToResult, error, rfl⟩ := accepted_of_seq upToError
  obtain ⟨_, _, upToLogs, result, rfl⟩ := accepted_of_seq upToResult
  obtain ⟨_, _, upToDuration, logs, rfl⟩ := accepted_of_seq upToLogs
  obtain ⟨_, _, upToTime, duration, rfl⟩ := accepted_of_seq upToDuration
  obtain ⟨_, _, upToStatus, time, rfl⟩ := accepted_of_seq upToTime
  obtain ⟨_, _, upToType, status, rfl⟩ := accepted_of_seq upToStatus
  obtain ⟨_, _, upToId, type, rfl⟩ := accepted_of_seq upToType
  obtain ⟨_, id, rfl⟩ := accepted_of_map upToId
  exact ⟨id, type, status, time, duration, logs, result, error, note⟩

structure Checks (fields : Fields) (s : Snapshot) : Prop where
  runId : defaulted fields "workflowId" "run_id" "" Schema.text = .accepted s.runId
  status : required fields "status" "status" (choice runStatuses) = .accepted s.status
  startedAt : defaulted fields "startedAt" "started_at" none (nullable integer) = .accepted s.startedAt
  endedAt : defaulted fields "endedAt" "ended_at" none (nullable integer) = .accepted s.endedAt
  duration : defaulted fields "durationMs" "duration_ms" 0 integer = .accepted s.duration
  declaredNodes :
    defaulted fields "numberOfNodes" "declared_node_count" none (nullable integer) = .accepted s.declaredNodes
  results : required fields "nodes" "node_results" (listOf nodeResult) = .accepted s.results
  logs : defaulted fields "logs" "workflow_logs" [] lines = .accepted s.logs
  error : defaulted fields "error" "error_message" none (nullable Schema.text) = .accepted s.error
  notes : defaulted fields "meta" "meta" [] notesOf = .accepted s.notes

theorem checks_of_accepted {fields : Fields} {s : Snapshot} (accepted : ofFields fields = .accepted s) :
    Checks fields s := by
  unfold ofFields at accepted
  obtain ⟨_, _, upToError, notes, rfl⟩ := accepted_of_seq accepted
  obtain ⟨_, _, upToLogs, error, rfl⟩ := accepted_of_seq upToError
  obtain ⟨_, _, upToNodes, logs, rfl⟩ := accepted_of_seq upToLogs
  obtain ⟨_, _, upToDeclared, results, rfl⟩ := accepted_of_seq upToNodes
  obtain ⟨_, _, upToDuration, declared, rfl⟩ := accepted_of_seq upToDeclared
  obtain ⟨_, _, upToEnd, duration, rfl⟩ := accepted_of_seq upToDuration
  obtain ⟨_, _, upToStart, ended, rfl⟩ := accepted_of_seq upToEnd
  obtain ⟨_, _, upToStatus, started, rfl⟩ := accepted_of_seq upToStart
  obtain ⟨_, _, upToId, status, rfl⟩ := accepted_of_seq upToStatus
  obtain ⟨_, id, rfl⟩ := accepted_of_map upToId
  exact ⟨id, status, started, ended, duration, declared, results, logs, error, notes⟩

theorem runId_of_accepted {fields : Fields} {s : Snapshot} (accepted : ofFields fields = .accepted s) :
    s.runId = ownId fields := by
  have named := (checks_of_accepted accepted).runId
  unfold ownId
  unfold defaulted at named
  split at named
  next name value found =>
    rw [found, Option.map_some, accepted_of_under named]
  next absent =>
    rw [absent]
    exact (Checked.accepted.inj named).symm

theorem withRunId_runId (s : Snapshot) (runId : Option String) :
    (s.withRunId runId).runId = if s.runId = "" then runId.getD "" else s.runId := by
  unfold withRunId
  cases runId with
  | none =>
      split_ifs with unnamed
      · exact unnamed
      · rfl
  | some id =>
      by_cases unnamed : s.runId = "" <;> by_cases blank : id = "" <;> simp [unnamed, blank]

theorem accepted_of_ofValue {runId : Option String} {v : Value} {s : Snapshot} (read : ofValue runId v = .ok s) :
    ∃ fields plain, v = .record fields ∧ ofFields fields = .accepted plain ∧ s = plain.withRunId runId := by
  unfold ofValue at read
  split at read
  next fields =>
    split at read
    next => cases read
    next =>
      cases checked : ofFields fields with
      | accepted plain =>
          rw [checked] at read
          cases read
          exact ⟨fields, plain, rfl, checked, rfl⟩
      | refused faults =>
          rw [checked] at read
          cases read
    next => cases read
  next => cases read

theorem ofValue_named {runId : Option String} {v : Value} {s : Snapshot} (read : ofValue runId v = .ok s) :
    ∃ fields, v = .record fields ∧ s.runId = if ownId fields = "" then runId.getD "" else ownId fields := by
  obtain ⟨fields, plain, rfl, checked, rfl⟩ := accepted_of_ofValue read
  rw [withRunId_runId, runId_of_accepted checked]
  exact ⟨fields, rfl, rfl⟩

theorem read_spells (runId : Option String) {payload : Payload} {text : List Text.CodePoint} (spells : payload.Spells text) :
    read runId payload = ofText runId text := by
  cases spells with
  | bytes decodes => simp only [read, decodes]
  | text => rfl
  | value => rfl

theorem read_cases (runId : Option String) (payload : Payload) :
    (∃ text, payload.Spells text) ∨ (∃ v, payload.Holds v ∧ read runId payload = ofValue runId v) ∨
      ∃ error, read runId payload = .error (.encoding error) := by
  cases payload with
  | bytes bytes =>
      cases decodes : Text.decodeUtf8 .refused bytes with
      | ok text => exact Or.inl ⟨text, .bytes decodes⟩
      | error error => exact Or.inr (Or.inr ⟨error, by simp only [read, decodes]⟩)
  | text text => exact Or.inl ⟨text, .text text⟩
  | value v =>
      cases v with
      | text text => exact Or.inl ⟨_, .value text⟩
      | _ => exact Or.inr (Or.inl ⟨_, .decoded nofun, rfl⟩)

theorem ofText_malformed {runId : Option String} {text : List Text.CodePoint} {fault : SnapshotFault}
    (failed : ofText runId text = .error fault) (short : ∀ count, Json.read text ≠ .error (.digits count)) :
    ∃ words, fault.failure = .malformedPayload words := by
  unfold ofText at failed
  split at failed
  next => exact ofValue_malformed failed
  next =>
    cases failed
    exact ⟨_, rfl⟩
  next count overlong => exact absurd overlong (short count)

theorem ofText_overlong (runId : Option String) {text : List Text.CodePoint} {count : Nat}
    (overlong : Json.read text = .error (.digits count)) : ofText runId text = .error (.digits count) := by
  rw [ofText, overlong]

/-- How a payload is answered for. -/
structure Answered (runId : Option String) (payload : Payload) : Prop where
  /-- A failure is a malformed payload. -/
  malformed : ∀ fault, read runId payload = .error fault → ¬ payload.Overlong →
    ∃ words, fault.failure = .malformedPayload words
  /-- Only for an integer of too many digits it is not. -/
  overlong : payload.Overlong → ∃ fault words, read runId payload = .error fault ∧ fault.failure = .badValue words
  literal : payload.Overlong → ∃ text count, payload.Spells text ∧ Json.Overlong text count
  /-- A snapshot is of the run that its document names, or else of the one asked for. -/
  named : ∀ s, read runId payload = .ok s → ∃ fields, payload.Holds (.record fields) ∧
    s.runId = if ownId fields = "" then runId.getD "" else ownId fields

theorem read_answered (runId : Option String) (payload : Payload) : Answered runId payload := by
  constructor
  case malformed =>
    intro fault failed short
    rcases read_cases runId payload with ⟨text, spells⟩ | ⟨v, holds, same⟩ | ⟨error, undecoded⟩
    · rw [read_spells runId spells] at failed
      exact ofText_malformed failed fun count overlong => short ⟨text, count, spells, overlong⟩
    · rw [same] at failed
      exact ofValue_malformed failed
    · rw [undecoded] at failed
      cases failed
      exact ⟨_, rfl⟩
  case overlong =>
    rintro ⟨text, count, spells, overlong⟩
    refine ⟨.digits count, _, ?_, rfl⟩
    rw [read_spells runId spells, ofText_overlong runId overlong]
  case literal =>
    rintro ⟨text, count, spells, overlong⟩
    exact ⟨text, count, spells, Json.overlong_of_read overlong⟩
  case named =>
    intro s read
    rcases read_cases runId payload with ⟨text, spells⟩ | ⟨v, holds, same⟩ | ⟨error, undecoded⟩
    · rw [read_spells runId spells, ofText] at read
      split at read
      next v document =>
        obtain ⟨fields, rfl, named⟩ := ofValue_named read
        exact ⟨fields, .spelled spells document, named⟩
      next => cases read
      next => cases read
    · rw [same] at read
      obtain ⟨fields, rfl, named⟩ := ofValue_named read
      exact ⟨fields, holds, named⟩
    · rw [undecoded] at read
      cases read

theorem overlong_sevens {count : Nat} (long : Text.digitLimit < count) :
    Json.read (String.ofList (List.replicate count '7')) = .error (.digits count) := by
  have whole : Json.Whole (List.replicate count '7') := by
    refine Or.inr ⟨fun c member => ?_, ?_, ?_⟩
    · rw [List.eq_of_mem_replicate member]
      rfl
    · rw [Ne, List.replicate_eq_nil_iff]
      omega
    · rw [List.head?_replicate]
      split <;> decide
  have overlong := Json.read_overlong false whole (by rwa [List.length_replicate])
  rwa [List.length_replicate] at overlong

/-- An integer of 4301 digits is a document that is not refused as a malformed payload. -/
theorem unanswered : ∃ fault, read (some "run-1") (.text (String.ofList (List.replicate 4301 '7'))) = .error fault ∧
    ∀ words, fault.failure ≠ .malformedPayload words := by
  have overlong := overlong_sevens (show Text.digitLimit < 4301 by decide)
  generalize String.ofList (List.replicate 4301 '7') = text at overlong ⊢
  exact ⟨.digits 4301, ofText_overlong (some "run-1") overlong, nofun⟩

end Snapshot

end WorkflowRuns
