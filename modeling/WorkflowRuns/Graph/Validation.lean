import WorkflowRuns.Graph.Cycle

/-!
What the service requires of a workflow graph, as a list of faults in a fixed order.
-/

namespace WorkflowRuns

inductive GraphFault
  | noNodes
  | duplicateNode (id : String)
  | duplicateEdge (id : String)
  | parallelEdges (source target : String)
  | unknownSource (edge source : String)
  | unknownTarget (edge target : String)
  | noStart
  | manyStarts (ids : List String)
  | noUrl (node : String)
  | noDuration (node : String)
  | cyclic (ids : List String)
  deriving DecidableEq, Repr

def GraphFault.message : GraphFault → String
  | .noNodes => "No nodes provided"
  | .duplicateNode id => "Duplicate node ID: '" ++ id ++ "'"
  | .duplicateEdge id => "Duplicate edge ID: '" ++ id ++ "'"
  | .parallelEdges source target => "Duplicate edge from '" ++ source ++ "' to '" ++ target ++ "'"
  | .unknownSource edge source => "Edge " ++ edge ++ ": source '" ++ source ++ "' not found"
  | .unknownTarget edge target => "Edge " ++ edge ++ ": target '" ++ target ++ "' not found"
  | .noStart => "No manual start node found"
  | .manyStarts ids => "Multiple manual start nodes found: " ++ ", ".intercalate ids
  | .noUrl node => "HTTP node '" ++ node ++ "' is missing a URL"
  | .noDuration node => "Wait node '" ++ node ++ "' needs a positive duration"
  | .cyclic ids => "Cycle detected: " ++ " -> ".intercalate ids

namespace Graph

/-- The elements that occurred before, once for each repetition. -/
def repetitions {α : Type} [DecidableEq α] (seen : List α) : List α → List α
  | [] => []
  | x :: xs => if x ∈ seen then x :: repetitions seen xs else repetitions (x :: seen) xs

def endpointFaults (ids : List String) (edge : Edge) : List GraphFault :=
  (if edge.source ∈ ids then [] else [.unknownSource edge.id edge.source])
    ++ (if edge.target ∈ ids then [] else [.unknownTarget edge.id edge.target])

def startFaults (nodes : List Node) : List GraphFault :=
  match nodes.filter (·.kind = .manualStart) with
  | [] => [.noStart]
  | [_] => []
  | starts => [.manyStarts (starts.map (·.id))]

def paramFaults (node : Node) : List GraphFault :=
  match node.params with
  | .httpRequest _ url _ => if url = "" then [.noUrl node.id] else []
  | .wait duration _ => if duration ≤ 0 then [.noDuration node.id] else []
  | .manualStart .. => []

def faults (g : Graph) : List GraphFault :=
  if g.nodes = [] then [.noNodes]
  else
    (repetitions [] g.nodeIds).map .duplicateNode
      ++ (repetitions [] (g.edges.map (·.id))).map .duplicateEdge
      ++ (repetitions [] (g.edges.map fun edge => (edge.source, edge.target))).map
          (fun pair => .parallelEdges pair.1 pair.2)
      ++ g.edges.flatMap (endpointFaults g.nodeIds)
      ++ startFaults g.nodes
      ++ g.nodes.flatMap paramFaults
      ++ (g.cycle?.map fun ids => [GraphFault.cyclic ids]).getD []

def validationErrors (g : Graph) : List String := g.faults.map GraphFault.message

end Graph

end WorkflowRuns
