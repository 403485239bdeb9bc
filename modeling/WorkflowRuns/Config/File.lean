import WorkflowRuns.Config
import WorkflowRuns.Text.Path
import WorkflowRuns.Yaml.Reader

/-!
Settings of a project.  The client section of its configuration file goes over the defaults, and
variables of the environment go over both.
-/

namespace WorkflowRuns

inductive ConfigFault
  | yaml (error : Yaml.Error)
  | notMapping (path kind : String)
  | badSection (path : String)
  /-- A key that is no text names no setting. -/
  | unnamedSetting
  | fields (faults : List Schema.Fault)

def ConfigFault.shapeMessage? : ConfigFault → Option String
  | .notMapping path kind => some ("Invalid config in '" ++ path ++ "': expected a mapping, got " ++ kind)
  | .badSection path => some ("Invalid 'client' section in '" ++ path ++ "'")
  | _ => none

namespace Config

def directoryName : String := ".flowmon"
def fileName : String := "config.yaml"

def filePath (project : String) : String := project ++ "/" ++ directoryName ++ "/" ++ fileName

abbrev Environment := List (String × String)

/-- Only the word "true" turns encryption on. -/
def isTrueWord (word : String) : Bool :=
  Text.lower (String.ofList (Text.trimWith Text.isBlank word.toList)) = "true"

/-- The settings that an environment gives; empty variables count as absent. -/
def overrides (environment : Environment) : Fields :=
  let setting := fun (source name : String) (value : String → Value) =>
    match environment.lookup source with
    | some word => if word = "" then [] else [(Key.name name, value word)]
    | none => []
  setting "WORKER_MANAGER_HOST" "host" .text ++ setting "WORKER_MANAGER_PORT" "port" .text
    ++ setting "SSL_ON" "ssl" (fun word => .bool (isTrueWord word)) ++ setting "API_VERSION" "api_version" .text

/-- The client section of a file; whatever is empty counts as an empty section. -/
def clientSection (path text : String) : Except ConfigFault Fields := do
  let value ← (Yaml.read (String.ofList (Text.plainLines text.toList))).mapError .yaml
  if value.isBlank then return []
  match value with
  | .record fields =>
      let client := Fields.get fields "client"
      if client.isBlank then return []
      match client with
      | .record settings => return settings
      | _ => throw (.badSection path)
  | value => throw (.notMapping path value.kind)

def isNamed : Key × Value → Bool
  | (.name _, _) => true
  | _ => false

def load (project : String) (file : Option String) (environment : Environment) : Except ConfigFault Config := do
  let settings ← match file with
    | some text => clientSection (filePath project) text
    | none => pure []
  let settings := (overrides environment).foldl (fun fields (key, value) => Fields.put fields key value) settings
  if !settings.all isNamed then throw .unnamedSetting
  (ofFields settings).toExcept.mapError .fields

def standardFile : String :=
  "\n".intercalate
    ["# Flowmon configuration for this project",
      "",
      "client:",
      "  # Workflow service location",
      "  host: localhost",
      "  port: 8080",
      "  ssl: false",
      "  api_version: v1",
      "",
      "  # Per-request timeout (seconds)",
      "  request_timeout: 10.0",
      "",
      "  # Polling cadence while a run is in flight (seconds)",
      "  poll_interval: 0.5",
      "  max_poll_interval: 5.0",
      "  backoff_multiplier: 2.0",
      "",
      "  # Stop polling after this many failed ticks in a row",
      "  max_consecutive_failures: 5", ""]

end Config

end WorkflowRuns
