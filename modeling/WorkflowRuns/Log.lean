import WorkflowRuns.Snapshot

/-!
The lines of a run: those of the workflow first, then those of each node in reported order.  A
filter selects all lines, those of the workflow, or those of one node.
-/

namespace WorkflowRuns

inductive LogSource
  | workflow
  | node
  deriving DecidableEq, Repr, Inhabited

def LogSource.word : LogSource → String
  | .workflow => "workflow"
  | .node => "node"

/-- A line with its place in its own source. -/
structure LogEntry where
  source : LogSource
  text : String
  position : Nat
  nodeId : Option String
  deriving DecidableEq, Repr, Inhabited

namespace LogEntry

/-- An empty node id is written like the workflow's own lines. -/
def keyId (entry : LogEntry) : String :=
  match entry.nodeId with
  | some id => if id = "" then "workflow" else id
  | none => "workflow"

def key (entry : LogEntry) : String :=
  entry.source.word ++ "-" ++ entry.keyId ++ "-" ++ toString entry.position

def label (entry : LogEntry) : String :=
  match entry.source with
  | .workflow => "WORKFLOW"
  | .node => entry.nodeId.getD "None"

end LogEntry

def filterAll : String := "all"
def filterWorkflow : String := "workflow"

def numbered (source : LogSource) (nodeId : Option String) (lines : List String) : List LogEntry :=
  lines.zipIdx.map fun (line, position) => ⟨source, line, position, nodeId⟩

namespace Snapshot

def workflowEntries (s : Snapshot) : List LogEntry := numbered .workflow none s.logs

def nodeEntries (result : NodeResult) : List LogEntry :=
  numbered .node (some result.nodeId) result.logs

def entries (s : Snapshot) : List LogEntry := s.workflowEntries ++ s.results.flatMap nodeEntries

end Snapshot

def LogEntry.passes (filter : String) (entry : LogEntry) : Bool :=
  if filter = filterAll then true
  else if filter = filterWorkflow then entry.source = .workflow
  else entry.nodeId = some filter

structure FilterOption where
  value : String
  label : String
  count : Nat
  deriving DecidableEq, Repr

namespace Snapshot

def filtered (s : Snapshot) (filter : String) : List LogEntry := s.entries.filter (·.passes filter)

def loggingNodes (s : Snapshot) : List NodeResult := s.results.filter fun result => !result.logs.isEmpty

def counted (name : String) (count : Nat) : String := name ++ " (" ++ toString count ++ ")"

def filterOptions (s : Snapshot) : List FilterOption :=
  ⟨filterAll, counted "All Sources" (s.filtered filterAll).length, (s.filtered filterAll).length⟩
    :: ⟨filterWorkflow, counted "Workflow" s.logs.length, s.logs.length⟩
    :: s.loggingNodes.map fun result =>
        ⟨result.nodeId, counted ("Node " ++ result.nodeId) result.logs.length, result.logs.length⟩

end Snapshot

namespace LogEntry

def ofSnapshot (s : Option Snapshot) (filter : String) : List LogEntry :=
  match s with
  | some s => s.filtered filter
  | none => []

end LogEntry

end WorkflowRuns
