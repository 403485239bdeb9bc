import WorkflowRuns.Display.NodeTable
import WorkflowRuns.Json.Writer

/-!
One reported node in detail, or all of them in a table.
-/

namespace WorkflowRuns.Display

def reportedRow (result : NodeResult) : List Cell :=
  [.markup (escape result.nodeId), .markup (escape (typeText result)), .markup (statusMarkup result.status.word),
    .markup (match result.error with
      | some error => if error = "" then "-" else escape error
      | none => "-")]

def reportedTable (s : Snapshot) : Table where
  title := some "Reported Nodes"
  columns := [.plain "ID" "" .left, .plain "Type" "" .left, .plain "Status" "" .left, .plain "Error" "" .left]
  rows := s.results.map reportedRow

def labelled (name body : String) : Renderable := .markup (styled "bold" (name ++ ":") ++ " " ++ body)

def documentPanel (title : String) : Value → List Renderable
  | .null => []
  | value => [.panel (.code (Json.writeIndented 0 value)) (.titled title)]

def logPanel (lines : List String) : List Renderable :=
  if lines.isEmpty then []
  else [.panel (.text (.of ("\n".intercalate lines) "")) (.titled ("Logs (" ++ toString lines.length ++ ")"))]

def errorPanel (title : String) : Option String → List Renderable
  | some error =>
      if error = "" then []
      else [.panel (.markup (styled "red" (escape error))) { Frame.titled title with style := "red" }]
  | none => []

def inspection (result : NodeResult) : Except Overflow (List Renderable) := do
  let duration ← durationText (.int result.duration)
  let id := escape result.nodeId
  let facts := [labelled "ID" id, labelled "Type" (escape (typeText result)),
    labelled "Status" (statusMarkup result.status.word), labelled "Started" (timeText (.int result.timestamp)),
    labelled "Duration" duration]
  return .panel (.group facts) (.titled ("Node: " ++ id))
    :: documentPanel "Result" result.result ++ documentPanel "Meta" result.note
    ++ logPanel result.logs ++ errorPanel "Error" result.error

def inspect (s : Snapshot) (nodeId : Option String) : Except Overflow (Bool × List Renderable) :=
  match nodeId with
  | none => .ok (true, [.table (reportedTable s)])
  | some id =>
      match s.resultFor id with
      | none => .ok (false, [.markup (styled "yellow" ("No execution data for " ++ escape id))])
      | some result => (inspection result).map fun shown => (true, shown)

end WorkflowRuns.Display
