import WorkflowRuns.Display.Monitor
import WorkflowRuns.Machine

/-!
Following a run to its end, drawing frames on the way or waiting only.  Frames are drawn from what
is known and ask for nothing, so that both ways make the same requests.
-/

namespace WorkflowRuns

namespace Machine

variable {σ : Type}

def latest (m : Machine σ) : Option Event := m.trace.head?.map (·.2)

def outcome? (m : Machine σ) : Option (Except Failure String) :=
  match m.latest with
  | some (.submitted result) => some result
  | _ => none

def submitGraph (service : Source σ) (fuel : Nat) (graph : Graph) (m : Machine σ) : Machine σ :=
  (m.beginSubmission service m.tickets graph).run service none (fun m => m.outcome?.isSome) fuel

def hasWaited (m : Machine σ) : Bool :=
  match m.latest with
  | some .waited => true
  | _ => false

def await (service : Source σ) (fuel : Nat) (m : Machine σ) : Machine σ :=
  (m.beginWait m.tickets).run service none hasWaited fuel

/-- Draws frames until polling has ended. -/
def watchFrames (service : Source σ) (fuel : Nat) (m : Machine σ) : Machine σ :=
  m.stepFrames.run service none (·.frames.finished) fuel

def follow? (service : Source σ) (fuel : Nat) (live : Bool) (m : Machine σ) : Option (Machine σ) :=
  let m := if live then m.watchFrames service fuel else m.await service fuel
  if (if live then m.frames.finished else m.hasWaited) then some m else none

def view (m : Machine σ) (filter : String) : View := .build m.poller.session m.nodes filter

def history (m : Machine σ) : List (Instant × Event) := m.trace.reverse

end Machine

/-- What is seen of a history: frames and requests, up to the first frame that cannot be drawn. -/
structure Showing where
  frames : List (Instant × Display.Layout)
  requests : List Request
  broken : Bool

namespace Showing

def ofHistory (graph : Option Graph) (filter : String) : List (Instant × Event) → Showing
  | [] => ⟨[], [], false⟩
  | (time, .frame session nodes) :: rest =>
      match Display.layout graph (.build session nodes filter) with
      | .ok layout =>
          let showing := ofHistory graph filter rest
          { showing with frames := (time, layout) :: showing.frames }
      | .error _ => ⟨[], [], true⟩
  | (_, .request request) :: rest =>
      let showing := ofHistory graph filter rest
      { showing with requests := request :: showing.requests }
  | _ :: rest => ofHistory graph filter rest

end Showing

end WorkflowRuns
