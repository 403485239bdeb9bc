import WorkflowRuns.Display.Inspection
import WorkflowRuns.View

/-!
Status, progress and log lines of a view.
-/

namespace WorkflowRuns.Display

def gridColumn (style : String) : Column := .plain "" style .left

def metrics (s : Snapshot) : Except Overflow Table := do
  let duration ← durationText (.int s.duration)
  return {
    title := none
    columns := [gridColumn "dim", gridColumn "", gridColumn "dim", gridColumn ""]
    rows := [
      [.markup "Total Nodes", .markup (toString s.totalNodes), .markup "Status",
        .markup (styled (statusColor s.status.word) (Text.upper s.status.word))],
      [.markup "Started At", .markup (timeCell s.startedAt), .markup "Ended At", .markup (timeCell s.endedAt)],
      [.markup "Duration", .markup duration, .markup "", .markup ""]] }

def progressTable (progress : Nat) : Table where
  title := none
  columns := [{ Column.plain "" "" .left with ratio := some 1 }, { Column.plain "" "" .right with width := some 5 }]
  rows := [[.bar progress 100, .markup (toString progress ++ "%")]]

def finishedFooter (v : View) : String :=
  if v.session.isCompleted then styled "green" "✓ Workflow completed successfully"
  else if v.session.isFailed then styled "red" "✗ Workflow execution failed"
  else statusMarkup (match v.snapshot with
    | some s => s.status.word
    | none => "")

def staleFooter (v : View) : String :=
  let error := match v.session.failure with
    | some failure => escape failure.message
    | none => "unknown error"
  styled "yellow" ("⚠ Status request failed, showing previous data: " ++ error)

def footer (v : View) : String :=
  match v.displayState with
  | .idle => styled "dim" "No workflow submitted"
  | .waiting => styled "yellow" "● Waiting for first status..."
  | .live => styled "green" "● Live monitoring active"
  | .stale => staleFooter v
  | .connectionLost => styled "red bold" "✗ Connection lost - showing last known state"
  | .finished => finishedFooter v
  | .stopped => styled "dim" "Polling stopped"

def sourceStyle : LogSource → String
  | .workflow => "blue"
  | .node => "bright_black"

def logLine (entry : LogEntry) : StyledText :=
  (StyledText.of "" "" |>.append ("[" ++ entry.label ++ "] ") (sourceStyle entry.source)).append entry.text ""

/-- The last lines, at most `limit` of them; a limit that is not positive drops so many from the start. -/
def lastLines (limit : Option Int) (entries : List LogEntry) : List LogEntry :=
  match limit with
  | none => entries
  | some limit =>
      if (entries.length : Int) ≤ limit then entries
      else if 0 < limit then entries.drop (entries.length - limit.toNat)
      else entries.drop limit.natAbs

def logLines (v : View) (limit : Option Int) : Renderable :=
  if v.logs.isEmpty then .text (.of "No logs available for the selected filter" "dim")
  else .group ((lastLines limit v.logs).map fun entry => .text (logLine entry))

def optionStyle (selected : String) (option : FilterOption) : String :=
  if option.value = selected then "bold reverse" else "dim"

def filterMenu (s : Option Snapshot) (selected : String) : StyledText :=
  let labelOf := fun (t : StyledText) (option : FilterOption) =>
    t.append option.label (optionStyle selected option)
  match s.map (·.filterOptions) with
  | some (first :: rest) =>
      rest.foldl (fun t option => labelOf (t.append "  " "") option) (labelOf (.of "" "") first)
  | _ => .of "" ""

def snapshotParts (v : View) (s : Snapshot) (limit : Option Int) : Except Overflow (List Renderable) := do
  let table ← metrics s
  return .table table
    :: (if 0 < v.progress then [.table (progressTable v.progress)] else [])
    ++ errorPanel "Error Details" s.error
    ++ [.text (filterMenu (some s) v.filter), logLines v limit]

def statusPanel (v : View) (limit : Option Int) : Except Overflow Renderable := do
  let runId := v.runId.getD ""
  let head := if runId = "" then [] else [.markup (styled "dim" "Workflow ID:" ++ " " ++ escape (shortRunId v.runId))]
  let body ← match v.snapshot with
    | some s => snapshotParts v s limit
    | none => pure [.text (.of "No data yet" "dim")]
  let border := match v.snapshot with
    | some s => statusColor s.status.word
    | none => "dim"
  return .panel (.group (head ++ body ++ [.markup (footer v)]))
    { Frame.titled "Workflow Status" with borderStyle := border }

end WorkflowRuns.Display
