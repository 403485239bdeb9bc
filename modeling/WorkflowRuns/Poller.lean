import WorkflowRuns.Binary64.Shortest
import WorkflowRuns.Session

/-!
The polling of one run as a state machine.  Calls, steps of polling loops and settling fetches are
total functions on the state; what has to happen later is returned as signals.

A session is superseded by `clear` and by `start` of another run: its generation passes, its loop is
called off and its fetches are discarded when they settle.  Of the current session at most one fetch
is in flight, whether a loop or a refresh began it.
-/

namespace WorkflowRuns

inductive Phase
  | idle
  | polling
  | stopped
  deriving DecidableEq, Repr, Inhabited

def Phase.word : Phase → String
  | .idle => "idle"
  | .polling => "polling"
  | .stopped => "stopped"

/-- Where a polling loop stands.  It decides on its next tick once its fetch has settled, and wakes
when its delay is over or polling was stopped. -/
inductive Stage
  | created
  | fetching
  | deciding
  | sleeping
  | waking
  deriving DecidableEq, Repr, Inhabited

structure PollLoop where
  id : Nat
  generation : Nat
  stage : Stage
  deriving DecidableEq, Repr, Inhabited

inductive Requester
  | loop (id : Nat)
  | refresh (ticket : Nat)
  deriving DecidableEq, Repr, Inhabited

/-- A fetch that has not settled; ids ascend in the order of beginning. -/
structure Fetch where
  id : Nat
  generation : Nat
  runId : String
  requester : Requester
  deriving DecidableEq, Repr, Inhabited

/-- `task` is the loop of the current session; `loops` holds every loop that has not ended. -/
structure Poller where
  config : Config
  keepPolling : Bool
  session : Session
  phase : Phase
  generation : Nat
  task : Option Nat
  loops : List PollLoop
  inFlight : Option Nat
  fetches : List Fetch
  nextLoop : Nat
  nextFetch : Nat
  deriving Repr, Inhabited

/-- What follows from a change: a loop to run, to wake or to call off, a loop that ended, a fetch to
send, or a delay to wait. -/
inductive Signal
  | spawned (loop : Nat)
  | woken (loop : Nat)
  | calledOff (loop : Nat)
  | ended (loop : Nat)
  | fetching (fetch : Fetch)
  | sleeping (loop : Nat) (delay : Binary64)
  deriving DecidableEq, Repr

namespace Poller

def initial (config : Config) (keepPolling : Bool) : Poller :=
  ⟨config, keepPolling, .empty, .idle, 0, none, [], none, [], 0, 0⟩

def loop? (p : Poller) (id : Nat) : Option PollLoop := p.loops.find? (·.id = id)

def fetch? (p : Poller) (id : Nat) : Option Fetch := p.fetches.find? (·.id = id)

def isActive (p : Poller) : Bool := p.task.any fun id => (p.loop? id).isSome

def isInFlight (p : Poller) : Bool := p.inFlight = some p.generation

def isCurrent (p : Poller) (generation : Nat) : Bool := generation = p.generation

def setStage (p : Poller) (id : Nat) (stage : Stage) : Poller :=
  { p with loops := p.loops.map fun l => if l.id = id then { l with stage } else l }

/-- A terminal snapshot ends polling, unless polling is to go on. -/
def endsOn (p : Poller) (s : Snapshot) : Bool := s.isTerminal && !p.keepPolling

/-- The delay before the next tick, zero to stop; none if the backoff overflows. -/
def nextInterval? (p : Poller) : Option Binary64 :=
  if !p.session.isPolling then some .zero
  else if p.session.snapshot.any p.endsOn then some .zero
  else p.config.retryDelay? p.session.consecutiveFailures

/-- Calls off the loop and disowns whatever fetch is in flight. -/
def supersede (p : Poller) : Poller × List Signal :=
  ({ p with generation := p.generation + 1, inFlight := none, task := none },
    match p.task with
    | some id => [.calledOff id]
    | none => [])

def spawn (p : Poller) : Poller × List Signal :=
  ({ p with
      task := some p.nextLoop
      loops := p.loops ++ [⟨p.nextLoop, p.generation, .created⟩]
      nextLoop := p.nextLoop + 1 },
    [.spawned p.nextLoop])

def beginPolling (s : Session) : Session :=
  { s with isPolling := true, connectionLost := false, consecutiveFailures := 0 }

def resume (p : Poller) : Poller × List Signal :=
  let p := { p with session := beginPolling p.session, phase := .polling }
  if p.isActive then (p, []) else p.spawn

/-- Tracks a run.  Another run supersedes the session; the same run keeps its snapshot, and a loop
that is still finishing a fetch carries on.  There has to be an event loop for the polling loop to run
in; a call without one is not modelled. -/
def start (p : Poller) (runId : String) : Except Failure (Poller × List Signal) :=
  if runId = "" then .error (.notInitialized "Cannot poll without a run id")
  else if p.session.runId = some runId ∧ p.session.isPolling then .ok (p, [])
  else if p.session.runId = some runId then .ok p.resume
  else
    let (superseded, before) := p.supersede
    let (p, after) := { superseded with session := .tracking runId }.resume
    .ok (p, before ++ after)

def isAsleep (l : PollLoop) : Bool := l.stage = .sleeping

/-- Schedules no more ticks and wakes a sleeping loop.  A fetch in flight still lands. -/
def stop (p : Poller) : Poller × List Signal :=
  ({ p with
      session := { p.session with isPolling := false }
      phase := if p.session.runId.isSome then .stopped else p.phase
      loops := p.loops.map fun l => if isAsleep l then { l with stage := .waking } else l },
    (p.loops.filter isAsleep).map fun l => .woken l.id)

def clear (p : Poller) : Poller × List Signal :=
  let (stopped, woken) := p.stop
  let (superseded, off) := stopped.supersede
  ({ superseded with session := .empty, phase := .idle }, woken ++ off)

def leave (p : Poller) (l : PollLoop) : Poller × List Signal :=
  let p := { p with loops := p.loops.filter (·.id ≠ l.id) }
  if p.isCurrent l.generation then
    ({ p with
        task := none
        session := { p.session with isPolling := false }
        phase := if p.phase = .polling then .stopped else p.phase },
      [.ended l.id])
  else (p, [.ended l.id])

def beginFetch (p : Poller) (generation : Nat) (requester : Requester) : Poller × List Signal :=
  let fetch : Fetch := ⟨p.nextFetch, generation, p.session.runId.getD "", requester⟩
  ({ p with
      inFlight := some generation
      fetches := p.fetches ++ [fetch]
      nextFetch := p.nextFetch + 1 },
    [.fetching fetch])

def decide (p : Poller) (id : Nat) : Poller × List Signal :=
  match p.loop? id with
  | none => (p, [])
  | some l =>
      if l.stage ≠ .deciding then (p, [])
      else if !p.isCurrent l.generation then p.leave l
      else match p.nextInterval? with
        | none => p.leave l
        | some delay =>
            if delay.le .zero then p.leave l else (p.setStage id .sleeping, [.sleeping id delay])

/-- A loop begins a tick, unless it is superseded or polling has stopped.  While another fetch is in
flight the tick is skipped. -/
def enter (p : Poller) (id : Nat) : Poller × List Signal :=
  match p.loop? id with
  | none => (p, [])
  | some l =>
      if l.stage = .created ∨ l.stage = .waking then
        if !p.isCurrent l.generation || !p.session.isPolling then p.leave l
        else if p.inFlight = some l.generation then (p.setStage id .deciding).decide id
        else (p.setStage id .fetching).beginFetch l.generation (.loop id)
      else (p, [])

def rouse (p : Poller) (id : Nat) : Poller :=
  { p with loops := p.loops.map fun l => if l.id = id ∧ isAsleep l then { l with stage := .waking } else l }

inductive Refreshing
  | refused (failure : Failure)
  | skipped
  | begun (p : Poller) (signals : List Signal)

def refresh (p : Poller) (ticket : Nat) : Refreshing :=
  if p.session.runId = none then .refused (.notInitialized "No run to refresh")
  else if p.inFlight = some p.generation then .skipped
  else
    let (p, signals) := p.beginFetch p.generation (.refresh ticket)
    .begun p signals

def recordSuccess (p : Poller) (s : Snapshot) : Poller :=
  let session := { p.session with
    snapshot := some s, failure := none, consecutiveFailures := 0, connectionLost := false
    fetchCount := p.session.fetchCount + 1 }
  if p.endsOn s && p.session.isPolling then
    { p with session := { session with isPolling := false }, phase := .stopped }
  else { p with session }

def recordFailure (p : Poller) (failure : Failure) : Poller :=
  let session := { p.session with
    failure := some failure, consecutiveFailures := p.session.consecutiveFailures + 1
    fetchCount := p.session.fetchCount + 1 }
  if p.config.maxFailures ≤ session.consecutiveFailures then
    { p with session := { session with connectionLost := true, isPolling := false }, phase := .stopped }
  else { p with session }

def record (p : Poller) : Except Failure Snapshot → Poller
  | .ok s => p.recordSuccess s
  | .error failure => p.recordFailure failure

def release (p : Poller) (f : Fetch) : Poller :=
  let p := { p with
    fetches := p.fetches.filter (·.id ≠ f.id)
    inFlight := if p.inFlight = some f.generation then none else p.inFlight }
  match f.requester with
  | .loop id => p.setStage id .deciding
  | .refresh _ => p

/-- A fetch settles.  The result is recorded if its session is still current. -/
def settle (p : Poller) (f : Fetch) (outcome : Except Failure Snapshot) : Poller :=
  let released := p.release f
  if released.isCurrent f.generation then released.record outcome else released

def cancel (p : Poller) (f : Fetch) : Poller × List Signal :=
  let released := p.release f
  match f.requester with
  | .loop id =>
      match released.loop? id with
      | some l => released.leave l
      | none => (released, [])
  | .refresh _ => (released, [])

/-- A loop that was called off ends, and so does its fetch. -/
def drop (p : Poller) (id : Nat) : Poller × List Signal :=
  match p.loop? id with
  | none => (p, [])
  | some l =>
      if p.isCurrent l.generation then (p, [])
      else match p.fetches.find? (·.requester = .loop id) with
        | some f => p.cancel f
        | none => p.leave l

def timeoutFailure (c : Config) : Failure :=
  .transport ("Status request timed out after " ++ c.requestTimeout.text ++ "s") none

/-- What is recorded of an error.  A timeout that the source raises itself is taken for one of the
request, whenever it comes. -/
def failureOf (c : Config) : Raised → Failure
  | .failure failure => failure
  | .timeout => timeoutFailure c

end Poller

end WorkflowRuns
