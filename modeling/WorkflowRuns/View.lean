import WorkflowRuns.Log
import WorkflowRuns.Overlay
import WorkflowRuns.Progress
import WorkflowRuns.Session

/-!
All that is needed to show the tracked run at one moment.  A view is made of a session, the nodes of
the graph and a log filter, and everything in it follows from these.
-/

namespace WorkflowRuns

/-- The nodes carry the results of the session's snapshot. -/
structure View where
  session : Session
  nodes : List Node
  filter : String
  deriving Repr

namespace View

def build (session : Session) (nodes : List Node) (filter : String) : View :=
  ⟨session, overlayAll nodes session.snapshot, filter⟩

def runId (v : View) : Option String := v.session.runId

def snapshot (v : View) : Option Snapshot := v.session.snapshot

def progress (v : View) : Nat :=
  match v.snapshot with
  | some s => s.progress
  | none => 0

def logs (v : View) : List LogEntry := LogEntry.ofSnapshot v.snapshot v.filter

def loggingNodes (v : View) : List NodeResult :=
  match v.snapshot with
  | some s => s.loggingNodes
  | none => []

def displayState (v : View) : DisplayState := v.session.displayState

end View

end WorkflowRuns
