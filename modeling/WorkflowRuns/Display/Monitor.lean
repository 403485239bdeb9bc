import WorkflowRuns.Display.GraphTree
import WorkflowRuns.Display.RunPanel

/-!
The layout of the live monitor: five panels filled from a view.
-/

namespace WorkflowRuns.Display

structure Layout where
  header : Renderable
  graph : Renderable
  status : Renderable
  logs : Renderable
  footer : Renderable
  deriving Repr

def headerText (v : View) : String :=
  let id := escape (shortRunId v.runId)
  if v.session.isCompleted then styled "bold green" "✓ Completed:" ++ " " ++ id
  else if v.session.isFailed then styled "bold red" "✗ Failed:" ++ " " ++ id
  else if v.session.isRunning then styled "bold blue" "⟳ Executing:" ++ " " ++ id
  else styled "bold" id

def logLimit : Int := 12

/-- The two panels in the middle: the graph and its nodes if the graph is known, else the results. -/
def middle (graph : Option Graph) (v : View) : Except Overflow (Renderable × Renderable) :=
  match graph, v.snapshot with
  | some g, _ => do
      let tree ← graphTree g v.nodes "Workflow Graph" standardDepth
      let table ← statusTable v.nodes v.runId
      return (.panel (.tree tree) (.titled "Workflow Graph"), .panel (.table table) (.titled "Node Status"))
  | none, some s => do
      let table ← resultsTable s
      return (.panel (.table table) (.titled "Node Results"),
        .panel (.text (filterMenu (some s) v.filter)) (.titled "Log Filters"))
  | none, none =>
      .ok (.panel (.markup (styled "dim" "Waiting for first status...")) (.titled "Node Results"),
        .panel (.markup "") (.titled "Log Filters"))

def layout (graph : Option Graph) (v : View) : Except Overflow Layout := do
  let (left, right) ← middle graph v
  return {
    header := .panel (.markup (headerText v)) { Frame.plain with style := "bold" }
    graph := left
    status := right
    logs := .panel (logLines v (some logLimit)) (.titled "Execution Logs")
    footer := .panel (.table (progressTable v.progress))
      { Frame.titled "Progress" with subtitle := some (footer v) } }

end WorkflowRuns.Display
