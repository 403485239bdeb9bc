import WorkflowRuns.Cli.Invocation
import WorkflowRuns.Cli.Report
import WorkflowRuns.Display.Inspection
import WorkflowRuns.Recording

/-!
The commands: each makes a report of the directory, the environment and the service it works with.
-/

namespace WorkflowRuns.Cli

open Display

/-- What a command works with.  Following a run takes at most `fuel` steps, and `yamlWords` is what the reader of
YAML says of a malformed text, parts of which it may quote. -/
structure Surroundings where
  location : String
  directory : Directory
  environment : Config.Environment
  recording : Recording
  fuel : Nat
  yamlWords : String → String := fun _ => "<yaml error>"

namespace Surroundings

def fileText? (s : Surroundings) (path : String) : Option String := (s.directory path).bind Entry.text?

def graph (s : Surroundings) (path : String) : Except Complaint Graph :=
  let text := (s.fileText? path).getD ""
  (Graph.ofFile path text).mapError (Complaint.ofFileFault (s.yamlWords text) path)

def configPath : String := Config.directoryName ++ "/" ++ Config.fileName

def config (s : Surroundings) : Except Complaint Config :=
  let text? := s.fileText? configPath
  (Config.load s.location text? s.environment).mapError (Complaint.ofConfigFault (s.yamlWords (text?.getD "")))

def service (s : Surroundings) (config : Config) : Except Complaint Service :=
  (s.recording.service config).mapError Complaint.ofFailure

end Surroundings

def reporting {α : Type} (made : Except Complaint α) (report : α → Report) : Report :=
  match made with
  | .ok a => report a
  | .error complaint => .ofComplaint complaint

def tell (markup : String) : Renderable := .markup markup

def exampleName : String := "workflow.yaml"

def createdPanel (location : String) : Renderable :=
  .panel (tell (Complaint.colored "green" "Project initialized!" ++ "\n\nCreated: " ++ location ++ "/"
      ++ Config.directoryName ++ "\n- " ++ Config.fileName ++ ": Service location and polling settings\n- "
      ++ exampleName ++ ": Example workflow"))
    (.titled "Flowmon Initialized")

def setUp (s : Surroundings) : Report :=
  if (s.directory Config.directoryName).isSome then
    .shows [tell (Complaint.colored "yellow" "Project already initialized")] 0
  else
    let example? := if (s.directory exampleName).isSome then [] else [(exampleName, Graph.exampleFile)]
    { Report.shows [createdPanel s.location] 0 with
      written := (Surroundings.configPath, Config.standardFile) :: example? }

def validate (s : Surroundings) (path : String) : Report :=
  reporting (s.graph path) fun graph =>
    if graph.validationErrors ≠ [] then .ofComplaint (.ofErrors graph.validationErrors)
    else .ofParts 0
      [.ok (tell (Complaint.colored "green" "Workflow validation passed")),
        .ok (tell ("  Nodes: " ++ toString graph.nodes.length)),
        .ok (tell ("  Edges: " ++ toString graph.edges.length)),
        (graphTree graph graph.nodes "Workflow" standardDepth).map .tree]

def exitCode (v : View) : Nat :=
  if v.session.isFailed || v.displayState = .connectionLost then 1 else 0

/-- The table under the summary: nodes of the graph if it is known, else what was reported. -/
def summaryTable (graph : Option Graph) (v : View) : List (Except Overflow Renderable) :=
  match graph, v.snapshot with
  | some _, _ => [(statusTable v.nodes v.runId).map .table]
  | none, some snapshot => [(resultsTable snapshot).map .table]
  | none, none => []

def summary (graph : Option Graph) (v : View) (code : Nat) : Report :=
  .ofParts code (statusPanel v none :: summaryTable graph v)

def followRun (s : Surroundings) (graph : Option Graph) (following : Following) (m : Machine Service) : Report :=
  match m.follow? Source.service s.fuel following.live with
  | none => .ended .unfinished
  | some m =>
      let showing := Showing.ofHistory graph following.filter m.history
      let report := if showing.broken then .ended (.crash .overflow)
        else
          let v := m.view following.filter
          summary graph v (exitCode v)
      report.after (showing.frames.map fun (time, layout) => .frame time layout) showing.requests

def start (s : Surroundings) (config : Config) : Except Complaint (Machine Service) :=
  (s.service config).map fun service => .initial config false [] service none

def startedLine (runId : String) : Renderable :=
  tell (Complaint.colored "blue" ("Started execution: " ++ escape runId))

def run (s : Surroundings) (path : String) (following : Following) : Report :=
  reporting (s.graph path) fun graph =>
  reporting s.config fun config =>
  reporting (start s config) fun m =>
    let m := m.submitGraph Source.service s.fuel graph
    match m.outcome? with
    | none => .ended .unfinished
    | some (.error failure) =>
        let showing := Showing.ofHistory graph following.filter m.history
        (Report.ofComplaint (.ofFailure failure)).after [] showing.requests
    | some (.ok runId) => (followRun s graph following m).after [.shown (startedLine runId)] []

def watch (s : Surroundings) (runId : String) (following : Following) : Report :=
  reporting s.config fun config =>
  reporting (start s config) fun m =>
  reporting ((m.perform (.start runId)).mapError Complaint.ofFailure) fun m => followRun s none following m

def sentRequests {ε α : Type} (exchange : Exchange ε α) : List Request :=
  match exchange.sent with
  | some (.request request) => [request]
  | _ => []

def withSnapshot (s : Surroundings) (runId : String) (report : Snapshot → Report) : Report :=
  reporting s.config fun config =>
  reporting (s.service config) fun service =>
    let (exchange, _) := service.fetch runId
    let snapshot := exchange.result.bind fun text =>
      (Snapshot.read (some runId) (.text text)).mapError SnapshotFault.failure
    (reporting (snapshot.mapError Complaint.ofFailure) report).after [] (sentRequests exchange)

def snapshotView (runId : String) (snapshot : Snapshot) : View :=
  .build { Session.empty with runId := some runId, snapshot := some snapshot } [] filterAll

def status (s : Surroundings) (runId : String) : Report :=
  withSnapshot s runId fun snapshot => summary none (snapshotView runId snapshot) 0

/-- The filters that select something by themselves, or a node with log lines. -/
def knownFilters (snapshot : Snapshot) : List String :=
  Graph.firstOccurrences (filterAll :: filterWorkflow :: snapshot.loggingNodes.map (·.nodeId))

def logs (s : Surroundings) (runId filter : String) : Report :=
  withSnapshot s runId fun snapshot =>
    let known := knownFilters snapshot
    let entries := snapshot.filtered filter
    if !known.contains filter then
      .shows
        [tell (Complaint.colored "yellow" ("No logs for filter '" ++ escape filter ++ "'")),
          tell (Complaint.colored "dim" ("Available: " ++ escape (", ".intercalate (Graph.inOrder known))))] 0
    else if entries.isEmpty then
      .shows [tell (Complaint.colored "dim" "No logs available for the selected filter")] 0
    else .shows (entries.map fun entry => .text (logLine entry)) 0

def inspectNode (s : Surroundings) (runId : String) (nodeId : Option String) : Report :=
  withSnapshot s runId fun snapshot =>
    match inspect snapshot nodeId with
    | .ok (found, shown) => .shows shown (if found then 0 else 1)
    | .error _ => .ended (.crash .overflow)

def versionLine : String := "main, version 0.1.0\n"

def usageLine : String := "Usage: main [OPTIONS] COMMAND [ARGS]...\n"

def perform (s : Surroundings) : Invocation → Report
  | .help => { Report.ended (.exit 0) with output := usageLine }
  | .version => { Report.ended (.exit 0) with output := versionLine }
  | .init => setUp s
  | .validate path => validate s path
  | .run path following => run s path following
  | .watch runId following => watch s runId following
  | .status runId => status s runId
  | .logs runId filter => logs s runId filter
  | .inspect runId nodeId => inspectNode s runId nodeId

def answer (s : Surroundings) (words : List String) : Report :=
  match Invocation.ofWords s.directory words with
  | .ok invocation => perform s invocation
  | .error error => .ended (.misuse error)

end WorkflowRuns.Cli
