import WorkflowRuns.Config.File
import WorkflowRuns.Display.Markup
import WorkflowRuns.Failure
import WorkflowRuns.Graph.File

/-!
Why a command ends early.  What a user can mend is told in lines of markup; all else is a crash.
-/

namespace WorkflowRuns.Cli

inductive Crash
  | file (fault : FileFault)
  | config (fault : ConfigFault)
  | failure (failure : Failure)
  | overflow

inductive Complaint
  | lines (lines : List String)
  | crash (cause : Crash)

namespace Complaint

open Display

def colored (color body : String) : String := "[" ++ color ++ "]" ++ body ++ "[/" ++ color ++ "]"

def headed (heading : String) (details : List String) : Complaint :=
  .lines (colored "red" heading :: details)

def error (words : String) : Complaint := .lines [colored "red" "Error:" ++ " " ++ words]

def faultLine (fault : Schema.Fault) : String := "  - " ++ fault.location ++ ": " ++ fault.problem.message

def parsing (path words : String) : Complaint :=
  headed ("Error parsing workflow file '" ++ escape path ++ "':") ["  " ++ escape words]

def validating (words : String) : Complaint := headed "Error validating workflow:" ["  " ++ escape words]

def ofExportFault : ExportFault → Complaint
  | .notIterable kind => validating ("'" ++ kind ++ "' object is not iterable")
  | .notMapping kind =>
      validating ("flowmon.core.graph_schema.Edge() argument after ** must be a mapping, not " ++ kind)
  | .unnamedKeyword => validating "keywords must be strings"
  | .fields faults => headed "Error validating workflow schema:" (faults.map faultLine)
  | .noFields kind => .crash (.file (.graph (.noFields kind)))

/-- The complaint about a file, given what the reader of YAML says of its text if it is malformed. -/
def ofFileFault (yamlWords path : String) : FileFault → Complaint
  | .json (.grammar e) => parsing path e.message
  | .json (.digits count) => validating (Text.digitLimitMessage count)
  | .yaml .malformed => parsing path yamlWords
  | .yaml (.badValue words) => validating words
  | .yaml e => .crash (.file (.yaml e))
  | .notMapping path kind => validating (FileFault.notMappingMessage path kind)
  | .graph fault => ofExportFault fault

def ofConfigFault (yamlWords : String) : ConfigFault → Complaint
  | .yaml .malformed =>
      error ("Invalid YAML in " ++ Config.directoryName ++ "/" ++ Config.fileName ++ ": " ++ escape yamlWords)
  | .yaml (.badValue words) => error (escape words)
  | .fields faults => headed "Error validating configuration:" (faults.map faultLine)
  | fault =>
      match fault.shapeMessage? with
      | some words => error (escape words)
      | none => .crash (.config fault)

def ofErrors (errors : List String) : Complaint :=
  headed "Validation errors:" (errors.map fun error => "  - " ++ escape error)

def ofFailure (failure : Failure) : Complaint :=
  match failure with
  | .malformedPayload _ | .transport _ _ | .notInitialized _ => error (escape failure.message)
  | .invalidGraph errors => ofErrors errors
  | .invalidUrl _ | .badValue _ | .runtime _ => .crash (.failure failure)

end Complaint

end WorkflowRuns.Cli
