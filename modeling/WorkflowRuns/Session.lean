import WorkflowRuns.Config
import WorkflowRuns.Failure
import WorkflowRuns.Snapshot

/-!
What is known about the tracked run, and how it is shown.
-/

namespace WorkflowRuns

structure Session where
  runId : Option String
  isPolling : Bool
  snapshot : Option Snapshot
  failure : Option Failure
  consecutiveFailures : Nat
  connectionLost : Bool
  fetchCount : Nat
  deriving DecidableEq, Repr, Inhabited

namespace Session

def empty : Session := ⟨none, false, none, none, 0, false, 0⟩

def tracking (runId : String) : Session := { empty with runId := some runId }

def status (s : Session) : Option RunStatus := s.snapshot.map (·.status)

def isRunning (s : Session) : Bool := s.status = some .running
def isCompleted (s : Session) : Bool := s.status = some .success
def isFailed (s : Session) : Bool := s.status = some .error
def isFinished (s : Session) : Bool := s.isCompleted || s.isFailed

end Session

inductive DisplayState
  | idle
  | waiting
  | live
  | stale
  | connectionLost
  | finished
  | stopped
  deriving DecidableEq, Repr, Inhabited

def DisplayState.word : DisplayState → String
  | .idle => "idle"
  | .waiting => "waiting"
  | .live => "live"
  | .stale => "stale"
  | .connectionLost => "connection_lost"
  | .finished => "finished"
  | .stopped => "stopped"

def Session.displayState (s : Session) : DisplayState :=
  if s.runId = none then .idle
  else if s.connectionLost then .connectionLost
  else match s.snapshot with
    | none => if s.isPolling then .waiting else .stopped
    | some snapshot =>
        if s.failure.isSome then .stale
        else if snapshot.isTerminal && !s.isPolling then .finished
        else if !s.isPolling then .stopped
        else .live

end WorkflowRuns
