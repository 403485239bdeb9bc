import WorkflowRuns.Cli.Program
import WorkflowRuns.Display.Plain

/-!
The program: reads the files and variables that a command may need, performs the command, prints what
it reports and writes its files.  Replies of the service are taken from a recording.
-/

namespace WorkflowRuns.Cli

def recordingVariable : String := "WORKFLOW_RECORDING"

def variableNames : List String := ["WORKER_MANAGER_HOST", "WORKER_MANAGER_PORT", "SSL_ON", "API_VERSION"]

def stepLimit : Nat := 1000000000

/-- Without a recording no service can be reached. -/
def unreachable : Recording :=
  let refusal : Reply Response := ⟨some 0, .broken "All connection attempts failed"⟩
  ⟨[refusal], [refusal]⟩

def Item.lines : Item → List String
  | .shown item => item.lines
  | .frame _ layout => layout.lines

def recordingOf (text : String) : Recording :=
  match Json.read text with
  | .ok (.record fields) => .ofFields fields
  | _ => unreachable

def entryAt (path : String) : IO (Option Entry) := do
  try
    return some (.file (← IO.FS.readFile path))
  catch e =>
    match e with
    | .inappropriateType .. => return some .folder
    | _ => return none

def readEnvironment : IO Config.Environment := do
  let values ← variableNames.mapM fun name => return (name, (← IO.getEnv name).getD "")
  return values

def readRecording : IO Recording := do
  match ← IO.getEnv recordingVariable with
  | none => return unreachable
  | some path =>
      match ← entryAt path with
      | some (.file text) => return recordingOf text
      | _ => return unreachable

def surroundings (words : List String) : IO Surroundings := do
  let paths := words ++ [Config.directoryName, Surroundings.configPath, exampleName]
  let entries ← paths.mapM fun path => return (path, ← entryAt path)
  return {
    location := (← IO.currentDir).toString
    directory := fun path => (entries.lookup path).bind id
    environment := ← readEnvironment
    recording := ← readRecording
    fuel := stepLimit }

def deliver (report : Report) : IO Unit := do
  for item in report.printed do
    for line in item.lines do
      IO.println line
  IO.print report.output
  for (path, text) in report.written do
    IO.FS.createDirAll Config.directoryName
    IO.FS.writeFile path text
  match report.ending with
  | .exit _ => return
  | .misuse error =>
      match error.message? with
      | some words => IO.eprintln ("Error: " ++ words)
      | none => IO.eprint usageLine
  | .crash (.failure failure) => IO.eprintln failure.message
  | .crash _ => IO.eprintln "The command could not be completed."
  | .unfinished => IO.eprintln "The run did not end."

end WorkflowRuns.Cli

def main (words : List String) : IO UInt32 := do
  let report := WorkflowRuns.Cli.answer (← WorkflowRuns.Cli.surroundings words) words
  WorkflowRuns.Cli.deliver report
  return UInt32.ofNat report.ending.code
