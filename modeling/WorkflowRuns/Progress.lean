import WorkflowRuns.Snapshot

/-!
Completion of a run in percent.
-/

namespace WorkflowRuns.Snapshot

def isFinished (result : NodeResult) : Bool :=
  match result.status with
  | .success | .error => true
  | .skipped => false

def finishedCount (s : Snapshot) : Nat := s.results.countP isFinished

def percent (finished total : Nat) : Nat := (200 * finished + total) / (2 * total)

/-- A success is complete and an error is not, whatever the nodes reported; any other run shows the
share of nodes that finished. -/
def progress (s : Snapshot) : Nat :=
  match s.status with
  | .success => 100
  | .error => 0
  | .running | .skipped =>
      if s.totalNodes ≤ 0 then 0
      else min 100 (percent s.finishedCount s.totalNodes.toNat)

end WorkflowRuns.Snapshot
