import WorkflowRuns.Client
import WorkflowRuns.Machine

/-!
Sources that answer from a script: each request takes the next reply, and the last one repeats.
-/

namespace WorkflowRuns

structure Reply (α : Type) where
  delay : Delay
  answer : α

/-- The next element of a script and the script after it; the last element stays. -/
def nextOf {β : Type} : List β → Option (β × List β)
  | [] => none
  | [last] => some (last, [last])
  | first :: rest => some (first, rest)

/-- A service that answers from two scripts, and how many run ids it was given. -/
structure Service where
  base : Url
  posts : List (Reply Response)
  gets : List (Reply Response)
  issued : Nat

namespace Service

def reply (status : Int) : Reply Response := ⟨some 0, .answered status []⟩

def runId (n : Nat) : String :=
  let digits := toString n
  "00000000-0000-4000-8000-" ++ String.ofList (List.replicate (12 - digits.length) '0') ++ digits

def take (absent : Int) (script : List (Reply Response)) : Reply Response × List (Reply Response) :=
  (nextOf script).getD (reply absent, script)

instance {ε : Type} : Coe (Exchange ε (List Text.CodePoint)) (Exchange ε String) :=
  ⟨fun exchange => ⟨exchange.sent, exchange.delay, exchange.result.map Text.shown⟩⟩

def refusal {α : Type} (failure : Failure) : Exchange Failure α := ⟨none, some 0, .error failure⟩

def fetch (s : Service) (runId : String) : Exchange Failure (List Text.CodePoint) × Service :=
  if Text.isAllBlank runId then (refusal (.notInitialized "Invalid workflow ID provided"), s)
  else match Client.url s.base (Client.statusPath runId) with
    | .error failure => (refusal failure, s)
    | .ok url =>
        let (reply, gets) := take 404 s.gets
        (⟨some (.request ⟨"GET", url.text, none⟩), reply.delay, Client.fetched runId reply.answer⟩, { s with gets })

def post (s : Service) (graph : Graph) (wanted : Option String) : Exchange Failure String × Service :=
  let (id, s) := match wanted with
    | some id => if id = "" then (runId (s.issued + 1), { s with issued := s.issued + 1 }) else (id, s)
    | none => (runId (s.issued + 1), { s with issued := s.issued + 1 })
  match Client.url s.base Client.submissionPath with
  | .error failure => (refusal failure, s)
  | .ok url =>
      let (reply, posts) := take 201 s.posts
      (⟨some (.request ⟨"POST", url.text, some (graph.payload id)⟩), reply.delay, Client.submitted id reply.answer⟩,
        { s with posts })

end Service

namespace Source

def noAnswer : Failure := .runtime "no answer"

/-- Status documents from a script, whose errors are raised in this way; nothing can be submitted. -/
def raising {ε : Type} (raise : ε → Raised) : Source (List (Reply (Except ε Payload))) where
  status script runId :=
    match nextOf script with
    | some (reply, script) => (⟨some (.fetch runId), reply.delay, reply.answer.mapError raise⟩, script)
    | none => (⟨some (.fetch runId), none, .error (.failure noAnswer)⟩, script)
  submit script _ := (⟨none, none, .error noAnswer⟩, script)

def scripted : Source (List (Reply (Except Failure Payload))) := raising .failure

def service : Source Service where
  status s runId :=
    let (exchange, s) := s.fetch runId
    (⟨exchange.sent, exchange.delay, (exchange.result.map .text).mapError .failure⟩, s)
  submit s graph := s.post graph none

end Source

end WorkflowRuns
