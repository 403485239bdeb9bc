import WorkflowRuns.Json.Writer
import WorkflowRuns.Script
import WorkflowRuns.Text.Base64

/-!
Recorded replies of a service, one list for submissions and one for status requests.
-/

namespace WorkflowRuns

structure Recording where
  posts : List (Reply Response)
  gets : List (Reply Response)

namespace Recording

def secondsOf : Value → Rat
  | .int n => n
  | .float x => x.value?.getD 0
  | _ => 0

def textOf : Value → String
  | .text s => s
  | _ => ""

def statusOf : Value → Int
  | .int n => n
  | _ => 200

def bytesOf (s : String) : List UInt8 := s.toUTF8.toList

def wrapped (snapshot : Value) : Value :=
  .record [(.name "data", .record [(.name "results", snapshot)])]

def bodyOf (fields : Fields) : List UInt8 :=
  match Fields.get? fields "snapshot", Fields.get? fields "body_b64" with
  | some (.text s), _ => bytesOf (Json.write (wrapped (.text s)))
  | _, some (.text s) => Text.decodeBase64 s
  | _, _ => bytesOf (textOf (Fields.get fields "body"))

/-- A kind of error that ends in "Timeout" is a timeout, any other one a broken exchange. -/
def response (fields : Fields) : Response :=
  match Fields.get? fields "raise" with
  | some (.text kind) =>
      let words := textOf (Fields.get fields "message")
      if kind.endsWith "Timeout" then .timedOut words else .broken words
  | _ => .answered (statusOf (Fields.get fields "status")) (bodyOf fields)

def reply : Value → Reply Response
  | .record fields => ⟨some (secondsOf (Fields.get fields "delay")), response fields⟩
  | _ => Service.reply 200

def replies : Value → List (Reply Response)
  | .list items => items.map reply
  | _ => []

def ofFields (fields : Fields) : Recording :=
  ⟨replies (Fields.get fields "post"), replies (Fields.get fields "get")⟩

def service (recording : Recording) (config : Config) : Except Failure Service :=
  (Client.base config).map fun base => ⟨base, recording.posts, recording.gets, 0⟩

end Recording

end WorkflowRuns
