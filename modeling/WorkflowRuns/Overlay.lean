import WorkflowRuns.Graph

/-!
Laying the results of a run over nodes.  Only the overlay fields change: they take the first result
reported for the node, or are reset where there is none.
-/

namespace WorkflowRuns

def NodeOutcome.status : NodeOutcome → NodeStatus
  | .success => .success
  | .error => .error
  | .skipped => .skipped

def NodeResult.data (result : NodeResult) : Fields :=
  [(.name "result", result.result), (.name "error", (result.error.map Value.text).getD .null),
    (.name "logs", .list (result.logs.map Value.text)), (.name "meta", result.note),
    (.name "timestamp", .int result.timestamp)]

/-- Holds a result under the id of its node, unless one is held there. -/
def NodeResult.hold (results : List (String × NodeResult)) (result : NodeResult) : List (String × NodeResult) :=
  if (results.lookup result.nodeId).isSome then results else results ++ [(result.nodeId, result)]

def Snapshot.resultsById (s : Snapshot) : List (String × NodeResult) := s.results.foldl NodeResult.hold []

namespace Node

def cleared (node : Node) : Node := { node with status := .pending, duration := none, data := none }

def withResult (node : Node) (result : NodeResult) : Node :=
  { node with status := result.status.status, duration := some result.duration, data := some result.data }

def overlay (results : List (String × NodeResult)) (node : Node) : Node :=
  match results.lookup node.id with
  | some result => node.withResult result
  | none => node.cleared

end Node

/-- The results under the ids of their nodes are collected once, for all nodes. -/
def overlayAll (nodes : List Node) (s : Option Snapshot) : List Node :=
  nodes.map (Node.overlay ((s.map Snapshot.resultsById).getD []))

end WorkflowRuns
