import WorkflowRuns.Value

/-!
A run as the workflow service reports it at one moment.
-/

namespace WorkflowRuns

inductive RunStatus
  | running
  | success
  | error
  | skipped
  deriving DecidableEq, Repr, Inhabited

namespace RunStatus

def isTerminal (status : RunStatus) : Bool := status != .running

def word : RunStatus → String
  | .running => "running"
  | .success => "success"
  | .error => "error"
  | .skipped => "skipped"

end RunStatus

inductive NodeOutcome
  | success
  | error
  | skipped
  deriving DecidableEq, Repr, Inhabited

def NodeOutcome.word : NodeOutcome → String
  | .success => "success"
  | .error => "error"
  | .skipped => "skipped"

/-- The outcome of one executed node; the time is in seconds, the duration in milliseconds. -/
structure NodeResult where
  nodeId : String
  nodeType : Option String
  status : NodeOutcome
  timestamp : Int
  duration : Int
  logs : List String
  result : Value
  error : Option String
  note : Value
  deriving DecidableEq, Repr, Inhabited

structure Snapshot where
  runId : String
  status : RunStatus
  startedAt : Option Int
  endedAt : Option Int
  duration : Int
  declaredNodes : Option Int
  results : List NodeResult
  logs : List String
  error : Option String
  notes : Fields
  deriving DecidableEq, Repr, Inhabited

namespace Snapshot

def isTerminal (s : Snapshot) : Bool := s.status.isTerminal

/-- The declared number of nodes; without one, or with zero, the number of results. -/
def totalNodes (s : Snapshot) : Int :=
  match s.declaredNodes with
  | some n => if n = 0 then s.results.length else n
  | none => s.results.length

/-- The first result reported for a node. -/
def resultFor (s : Snapshot) (nodeId : String) : Option NodeResult :=
  s.results.find? (·.nodeId = nodeId)

end Snapshot

end WorkflowRuns
