import WorkflowRuns.Cli.Directory
import WorkflowRuns.Cli.Option
import WorkflowRuns.Log

/-!
What a command line asks for.
-/

namespace WorkflowRuns.Cli

structure Following where
  live : Bool
  filter : String
  deriving DecidableEq, Repr

inductive Invocation
  | help
  | version
  | init
  | validate (path : String)
  | run (path : String) (following : Following)
  | watch (runId : String) (following : Following)
  | status (runId : String)
  | logs (runId filter : String)
  | inspect (runId : String) (nodeId : Option String)
  deriving DecidableEq, Repr

inductive GeneralOption
  | verbose
  | help
  | version
  deriving DecidableEq, Repr

inductive CommandOption
  | help
  | live (on : Bool)
  | filter (filter : String)
  deriving DecidableEq, Repr

namespace Invocation

def generalOptions : Vocabulary GeneralOption :=
  [("--version", .mark .version), ("--verbose", .mark .verbose), ("-v", .mark .verbose), ("--help", .mark .help)]

def helpOption : Vocabulary CommandOption := [("--help", .mark .help)]

def followOptions : Vocabulary CommandOption :=
  [("--live", .mark (.live true)), ("--no-live", .mark (.live false)), ("--log-filter", .valued .filter)]
    ++ helpOption

def filterOptions : Vocabulary CommandOption := ("--filter", .valued .filter) :: helpOption

def following (options : List CommandOption) : Following :=
  options.foldl (fun f option => match option with
    | .live on => { f with live := on }
    | .filter filter => { f with filter }
    | .help => f) ⟨true, filterAll⟩

/-- The first of the options that answer by themselves. -/
def answer? : List GeneralOption → Option Invocation
  | [] => none
  | .help :: _ => some .help
  | .version :: _ => some .version
  | .verbose :: rest => answer? rest

def argument (name : String) : List String → Except UsageError (String × List String)
  | [] => .error (.missingArgument name)
  | word :: rest => .ok (word, rest)

def fileArgument (directory : Directory) (name : String) (words : List String) :
    Except UsageError (String × List String) := do
  let (path, rest) ← argument name words
  match directory path with
  | some (.file _) => return (path, rest)
  | some .folder => throw (.folder name path)
  | none => throw (.noFile name path)

def complete (invocation : Invocation) : List String → Except UsageError Invocation
  | [] => .ok invocation
  | words => .error (.extraArguments words)

def withFile (directory : Directory) (words : List String) (make : String → Invocation) :
    Except UsageError Invocation := do
  let (path, rest) ← fileArgument directory "WORKFLOW_FILE" words
  complete (make path) rest

def withRun (words : List String) (make : String → Invocation) : Except UsageError Invocation := do
  let (runId, rest) ← argument "RUN_ID" words
  complete (make runId) rest

def withNode (words : List String) : Except UsageError Invocation := do
  let (runId, rest) ← argument "RUN_ID" words
  match rest with
  | [] => return .inspect runId none
  | nodeId :: rest => complete (.inspect runId (some nodeId)) rest

structure Form where
  options : Vocabulary CommandOption
  make : Following → List String → Except UsageError Invocation

def forms (directory : Directory) : List (String × Form) :=
  [("init", ⟨helpOption, fun _ words => complete .init words⟩),
    ("validate", ⟨helpOption, fun _ words => withFile directory words .validate⟩),
    ("run", ⟨followOptions, fun f words => withFile directory words fun path => .run path f⟩),
    ("watch", ⟨followOptions, fun f words => withRun words fun runId => .watch runId f⟩),
    ("status", ⟨helpOption, fun _ words => withRun words .status⟩),
    ("logs", ⟨filterOptions, fun f words => withRun words fun runId => .logs runId f.filter⟩),
    ("inspect", ⟨helpOption, fun _ words => withNode words⟩)]

def ofForm (form : Form) (words : List String) : Except UsageError Invocation := do
  let (options, arguments) ← form.options.read true words
  if options.contains .help then return .help
  form.make (following options) arguments

/-- A word that names no command is read once more as an option. -/
def unknown (name : String) (words : List String) : Except UsageError Invocation := do
  let (options, _) ← generalOptions.read false (name :: words)
  match answer? options with
  | some invocation => return invocation
  | none => throw (.noSuchCommand name)

/-- Errors among the options come before anything else. -/
def ofWords (directory : Directory) (words : List String) : Except UsageError Invocation := do
  if words.isEmpty then throw .noWords
  let (options, others) ← generalOptions.read false words
  if let some invocation := answer? options then return invocation
  match others with
  | [] => throw .missingCommand
  | name :: rest =>
      match (forms directory).lookup name with
      | some form => ofForm form rest
      | none => unknown name rest

end Invocation

end WorkflowRuns.Cli
