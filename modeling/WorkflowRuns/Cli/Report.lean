import WorkflowRuns.Cli.Complaint
import WorkflowRuns.Cli.Option
import WorkflowRuns.Following

/-!
What a command did: what it printed, asked for and wrote, and how it ended.
-/

namespace WorkflowRuns.Cli

open Display

/-- Something printed, or a frame of the live display with its time. -/
inductive Item
  | shown (item : Renderable)
  | frame (time : Instant) (layout : Layout)

inductive Ending
  | exit (code : Nat)
  | crash (cause : Crash)
  | misuse (error : UsageError)
  /-- The command had not ended when its fuel did. -/
  | unfinished

def Ending.code : Ending → Nat
  | .exit code => code
  | .crash _ => 1
  | .misuse _ => 2
  | .unfinished => 1

structure Report where
  printed : List Item
  output : String
  requests : List Request
  written : List (String × String)
  ending : Ending

namespace Report

def ended (ending : Ending) : Report := ⟨[], "", [], [], ending⟩

def shows (items : List Renderable) (code : Nat) : Report :=
  { ended (.exit code) with printed := items.map .shown }

def ofComplaint : Complaint → Report
  | .lines lines => shows (lines.map .markup) 1
  | .crash cause => ended (.crash cause)

def after (items : List Item) (requests : List Request) (report : Report) : Report :=
  { report with printed := items ++ report.printed, requests := requests ++ report.requests }

/-- A report of the first part that can be shown; where one cannot, the command crashes. -/
def ofParts (code : Nat) : List (Except Overflow Renderable) → Report
  | [] => ended (.exit code)
  | .ok item :: rest => (ofParts code rest).after [.shown item] []
  | .error _ :: _ => ended (.crash .overflow)

end Report

end WorkflowRuns.Cli
