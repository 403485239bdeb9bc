import WorkflowRuns.Config
import WorkflowRuns.Json.Writer
import WorkflowRuns.Snapshot.Reader
import WorkflowRuns.Url

/-!
The wire contract with the workflow service.  A graph is posted and accepted by status 200 or 201;
the status of a run comes in a document that holds the snapshot as text, or the snapshot itself.
-/

namespace WorkflowRuns

inductive Response
  | answered (status : Int) (body : List UInt8)
  | timedOut (words : String)
  | broken (words : String)
  deriving DecidableEq, Repr

namespace Client

def submissionPath : String := "/workflow"

def statusPath (runId : String) : String := "/workflow/" ++ runId

def urlFailure (fault : UrlFault) : Failure := .invalidUrl fault.message

/-- The address below which all requests go. -/
def base (config : Config) : Except Failure Url :=
  (Url.read config.scheme config.location >>= Url.rooted).mapError urlFailure

def url (base : Url) (path : String) : Except Failure Url :=
  (Reference.read path >>= base.extend).mapError urlFailure

def answer (method path : String) : Response → Except Failure (Int × List UInt8)
  | .answered status body => .ok (status, body)
  | .timedOut words => .error (.transport (method ++ " " ++ path ++ " timed out: " ++ words) none)
  | .broken words => .error (.transport (method ++ " " ++ path ++ " failed: " ++ words) none)

def statusFailure (status : Int) : Failure :=
  .transport ("Server returned status " ++ toString status) (some status)

def submitted (runId : String) (response : Response) : Except Failure String := do
  let (status, _) ← answer "POST" submissionPath response
  if status = 200 ∨ status = 201 then return runId
  throw (statusFailure status)

def readBody (bytes : List UInt8) : Except String Json.Document :=
  match Text.decodeDetected bytes with
  | .error error => .error error.message
  | .ok text => (Json.readDocument text).mapError Json.Error.message

/-- The snapshot text that results stand for: they are that text, or the document itself. -/
def content (results : Json.Document) : Except Failure (List Text.CodePoint) :=
  if results.isBlank then .error (.malformedPayload "Invalid response structure: missing results field")
  else match results with
    | .text s => match Json.readDocument s with
      | .ok _ => .ok s
      | .error (.grammar _) => .error (.malformedPayload "Invalid JSON in results field")
      | .error (.digits count) => .error (.badValue (Text.digitLimitMessage count))
    | d => .ok d.write

def embedded (body : Json.Document) : Except Failure (List Text.CodePoint) :=
  match body.field? "data" with
  | some (.record []) => .error (.malformedPayload "Invalid response structure: missing data field")
  | some data@(.record _) => content ((data.field? "results").getD .null)
  | _ => .error (.malformedPayload "Invalid response structure: missing data field")

def fetched (runId : String) (response : Response) : Except Failure (List Text.CodePoint) := do
  let (status, body) ← answer "GET" (statusPath runId) response
  if status ≠ 200 then throw (statusFailure status)
  if body.isEmpty then throw (.malformedPayload "No data received from server")
  match readBody body with
  | .error words => throw (.malformedPayload ("Response body is not JSON: " ++ words))
  | .ok body => embedded body

end Client

end WorkflowRuns
