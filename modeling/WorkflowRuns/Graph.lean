import WorkflowRuns.Snapshot

/-!
Workflow graphs: task nodes with typed parameters, joined by directed edges.  A parameter record
keeps the keys that its kind does not declare.  Nodes also carry an execution overlay, which is not
part of what is sent to the service.
-/

namespace WorkflowRuns

inductive NodeKind
  | manualStart
  | httpRequest
  | wait
  deriving DecidableEq, Repr, Inhabited

def NodeKind.word : NodeKind → String
  | .manualStart => "manualStartNode"
  | .httpRequest => "httpRequestNode"
  | .wait => "waitingNode"

inductive Method
  | get
  | post
  | put
  | patch
  | delete
  | head
  | options
  deriving DecidableEq, Repr, Inhabited

def Method.word : Method → String
  | .get => "GET"
  | .post => "POST"
  | .put => "PUT"
  | .patch => "PATCH"
  | .delete => "DELETE"
  | .head => "HEAD"
  | .options => "OPTIONS"

/-- The parameters of a node; a wait is in milliseconds.  No check has passed over them as they are. -/
inductive Params
  | manualStart (label : Option String) (extras : Fields)
  | httpRequest (method : Method) (url : String) (extras : Fields)
  | wait (duration : Int) (extras : Fields)
  deriving DecidableEq, Repr, Inhabited

namespace Params

def kind : Params → NodeKind
  | .manualStart .. => .manualStart
  | .httpRequest .. => .httpRequest
  | .wait .. => .wait

def extras : Params → Fields
  | .manualStart _ extras => extras
  | .httpRequest _ _ extras => extras
  | .wait _ extras => extras

/-- The record as a mapping, defaults included; a duration is written as text. -/
def dump : Params → Fields
  | .manualStart label extras =>
      (.name "label", (label.map Value.text).getD .null) :: extras
  | .httpRequest method url extras =>
      (.name "method", .text method.word) :: (.name "url", .text url) :: extras
  | .wait duration extras => (.name "duration", .text (toString duration)) :: extras

end Params

inductive NodeStatus
  | pending
  | success
  | error
  | skipped
  deriving DecidableEq, Repr, Inhabited

def NodeStatus.word : NodeStatus → String
  | .pending => "pending"
  | .success => "success"
  | .error => "error"
  | .skipped => "skipped"

structure Node where
  id : String
  params : Params
  position : Option (List (Key × Binary64))
  status : NodeStatus
  duration : Option Int
  data : Option Fields
  deriving DecidableEq, Repr, Inhabited

def Node.kind (node : Node) : NodeKind := node.params.kind

structure Edge where
  id : String
  source : String
  target : String
  style : Option String
  deriving DecidableEq, Repr, Inhabited

structure Graph where
  id : Option String
  nodes : List Node
  edges : List Edge
  deriving DecidableEq, Repr, Inhabited

namespace Graph

def nodeIds (g : Graph) : List String := g.nodes.map (·.id)

/-- The last node with an id. -/
def nodeWithId? (nodes : List Node) (id : String) : Option Node :=
  nodes.reverse.find? (·.id = id)

def firstOccurrences {α : Type} [DecidableEq α] : List α → List α
  | [] => []
  | x :: xs => x :: (firstOccurrences xs).filter (· ≠ x)

/-- The source and target of each edge; parallel edges count once. -/
def arrows (g : Graph) : List (String × String) :=
  firstOccurrences (g.edges.map fun edge => (edge.source, edge.target))

/-- Nodes first, then unknown endpoints as the edges mention them. -/
def vertices (g : Graph) : List String :=
  firstOccurrences (g.nodeIds ++ g.edges.flatMap fun edge => [edge.source, edge.target])

end Graph

end WorkflowRuns
