import WorkflowRuns.Failure
import WorkflowRuns.Json.Reader
import WorkflowRuns.Schema.Scalar
import WorkflowRuns.Snapshot
import WorkflowRuns.Text.Encoding

/-!
Reading snapshots: strict on `status` and `nodes`, lenient on everything else.  Unknown keys are
ignored, absent fields take empty values.
-/

namespace WorkflowRuns

inductive Payload
  | bytes (bytes : List UInt8)
  | text (text : List Text.CodePoint)
  | value (value : Value)
  deriving DecidableEq, Repr

inductive SnapshotFault
  | encoding (error : Text.DecodeError)
  | grammar (error : Json.SyntaxError)
  | digits (count : Nat)
  | notRecord (kind : String)
  | noStatus
  | nodesNotList
  | fields (faults : List Schema.Fault)
  deriving DecidableEq, Repr

/-- An integer literal past the digit limit is reported as it is; all else is a malformed payload. -/
def SnapshotFault.failure : SnapshotFault → Failure
  | .encoding error => .malformedPayload ("Snapshot is not valid UTF-8: " ++ error.message)
  | .grammar error => .malformedPayload ("Invalid JSON in snapshot: " ++ error.message)
  | .digits count => .badValue (Text.digitLimitMessage count)
  | .notRecord kind => .malformedPayload ("Snapshot must be a JSON object, got " ++ kind)
  | .noStatus => .malformedPayload "Snapshot is missing required field 'status'"
  | .nodesNotList => .malformedPayload "Snapshot field 'nodes' must be an array"
  | .fields faults => .malformedPayload ("Snapshot doesn't match schema: " ++ Schema.describe faults)

namespace Snapshot

open Schema

def nodeOutcomes : List (String × NodeOutcome) :=
  [("success", .success), ("error", .error), ("skipped", .skipped)]

def runStatuses : List (String × RunStatus) :=
  [("running", .running), ("success", .success), ("error", .error), ("skipped", .skipped)]

def lines : Value → Checked (List String)
  | .null => .accepted []
  | value => listOf Schema.text value

def notesOf : Value → Checked Fields
  | .null => .accepted []
  | .record fields => .accepted fields
  | _ => fail .dictionary

def nodeResult : Value → Checked NodeResult
  | .record fields =>
      NodeResult.mk
        <$> required fields "nodeId" "node_id" Schema.text
        <*> defaulted fields "nodeType" "node_type" none (nullable Schema.text)
        <*> required fields "status" "status" (choice nodeOutcomes)
        <*> defaulted fields "timestamp" "timestamp_sec" 0 integer
        <*> defaulted fields "durationMs" "duration_ms" 0 integer
        <*> defaulted fields "logs" "logs" [] lines
        <*> defaulted fields "result" "result" .null anything
        <*> defaulted fields "error" "error" none (nullable Schema.text)
        <*> defaulted fields "meta" "meta" .null anything
  | _ => fail (.model "NodeResult")

def ofFields (fields : Fields) : Checked Snapshot :=
  Snapshot.mk
    <$> defaulted fields "workflowId" "run_id" "" Schema.text
    <*> required fields "status" "status" (choice runStatuses)
    <*> defaulted fields "startedAt" "started_at" none (nullable integer)
    <*> defaulted fields "endedAt" "ended_at" none (nullable integer)
    <*> defaulted fields "durationMs" "duration_ms" 0 integer
    <*> defaulted fields "numberOfNodes" "declared_node_count" none (nullable integer)
    <*> required fields "nodes" "node_results" (listOf nodeResult)
    <*> defaulted fields "logs" "workflow_logs" [] lines
    <*> defaulted fields "error" "error_message" none (nullable Schema.text)
    <*> defaulted fields "meta" "meta" [] notesOf

/-- The run id of the request fills in for an empty one. -/
def withRunId (s : Snapshot) (runId : Option String) : Snapshot :=
  match runId with
  | some id => if s.runId = "" ∧ id ≠ "" then { s with runId := id } else s
  | none => s

def ofValue (runId : Option String) : Value → Except SnapshotFault Snapshot
  | .record fields =>
      match Fields.get? fields "status", Fields.get fields "nodes" with
      | none, _ => .error .noStatus
      | some _, .list _ =>
          match (ofFields fields).toExcept with
          | .ok s => .ok (s.withRunId runId)
          | .error faults => .error (.fields faults)
      | some _, _ => .error .nodesNotList
  | value => .error (.notRecord value.kind)

def ofText (runId : Option String) (text : List Text.CodePoint) : Except SnapshotFault Snapshot :=
  match Json.read text with
  | .ok value => ofValue runId value
  | .error (.grammar error) => .error (.grammar error)
  | .error (.digits count) => .error (.digits count)

def read (runId : Option String) : Payload → Except SnapshotFault Snapshot
  | .bytes bytes =>
      match Text.decodeUtf8 .refused bytes with
      | .ok text => ofText runId text
      | .error error => .error (.encoding error)
  | .text text => ofText runId text
  | .value (.text text) => ofText runId text
  | .value value => ofValue runId value

end Snapshot

end WorkflowRuns
