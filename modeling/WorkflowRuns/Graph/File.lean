import WorkflowRuns.Graph.Reader
import WorkflowRuns.Json.Reader
import WorkflowRuns.Text.Path
import WorkflowRuns.Yaml.Reader

/-!
Workflow files: exported graphs as JSON, if the name says so, or as YAML.
-/

namespace WorkflowRuns

inductive FileFault
  | json (error : Json.Error)
  | yaml (error : Yaml.Error)
  | notMapping (path kind : String)
  | graph (fault : ExportFault)

def FileFault.notMappingMessage (path kind : String) : String :=
  "Invalid workflow file '" ++ path ++ "'. Expected a dictionary, got " ++ kind ++ "."

namespace Graph

def isJsonName (path : String) : Bool := Text.lower (Text.extension path) = "json"

def readFile (path text : String) : Except FileFault Value :=
  let text := String.ofList (Text.plainLines text.toList)
  if isJsonName path then (Json.read text).mapError .json else (Yaml.read text).mapError .yaml

def ofFile (path text : String) : Except FileFault Graph := do
  match ← readFile path text with
  | .record fields => (Graph.ofEditor (.record fields)).mapError .graph
  | value => throw (.notMapping (Text.plainPath path) value.kind)

def exampleFile : String :=
  "\n".intercalate
    ["# Example workflow: start, wait one second, then call an HTTP endpoint",
      "nodes:",
      "  - id: start",
      "    type: manualStartNode",
      "    data:",
      "      label: Start",
      "  - id: pause",
      "    type: waitingNode",
      "    data:",
      "      duration: \"1000\"",
      "  - id: fetch_fact",
      "    type: httpRequestNode",
      "    data:",
      "      method: GET",
      "      url: https://catfact.ninja/fact",
      "edges:",
      "  - id: start-pause",
      "    source: start",
      "    target: pause",
      "  - id: pause-fetch",
      "    source: pause",
      "    target: fetch_fact", ""]

end Graph

end WorkflowRuns
