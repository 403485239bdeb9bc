import WorkflowRuns.Display.Quantity
import WorkflowRuns.Display.Renderable
import WorkflowRuns.Display.Status
import WorkflowRuns.Graph

/-!
Tables of nodes: those of a graph with what was laid over them, and those that a snapshot reports.
-/

namespace WorkflowRuns.Display

def runTitle (id : String) : String := "Run: " ++ escape (String.ofList (id.toList.take 8)) ++ "..."

/-- The error of a node or else its result, cut to forty characters. -/
def outputText (data : Fields) : String :=
  let error := Fields.get data "error"
  let output := if error.isBlank then Fields.get data "result" else error
  let text := if output = .null then "" else output.shown
  if 40 < text.length then String.ofList (text.toList.take 37) ++ "..." else text

def statusRow (node : Node) : Except Overflow (List Cell) := do
  let duration ← durationCell node.duration
  return [.markup (escape node.id), .markup node.kind.word, .markup (statusMarkup node.status.word),
    .markup duration, .markup (escape (outputText (node.data.getD [])))]

def statusTable (nodes : List Node) (runId : Option String) : Except Overflow Table := do
  let rows ← nodes.mapM statusRow
  return {
    title := some (match runId with
      | some id => if id = "" then "Nodes" else runTitle id
      | none => "Nodes")
    columns := [.plain "Node" "cyan" .left, .plain "Type" "magenta" .left, .plain "Status" "" .center,
      .plain "Duration" "" .right, { Column.plain "Output" "" .left with maxWidth := some 40 }]
    rows }

def typeText (result : NodeResult) : String :=
  match result.nodeType with
  | some kind => if kind = "" then "-" else kind
  | none => "-"

def resultRow (result : NodeResult) : Except Overflow (List Cell) := do
  let duration ← durationText (.int result.duration)
  return [.markup (escape result.nodeId), .markup (escape (typeText result)),
    .markup (statusMarkup result.status.word), .markup (timeText (.int result.timestamp)),
    .markup duration, .markup (toString result.logs.length)]

def resultsTable (s : Snapshot) : Except Overflow Table := do
  let rows ← s.results.mapM resultRow
  return {
    title := some (runTitle (if s.runId = "" then "-" else s.runId))
    columns := [.plain "Node" "cyan" .left, .plain "Type" "magenta" .left, .plain "Status" "" .center,
      .plain "Started" "" .right, .plain "Duration" "" .right, .plain "Logs" "" .right]
    rows }

end WorkflowRuns.Display
