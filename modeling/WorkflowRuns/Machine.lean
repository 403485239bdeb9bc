import WorkflowRuns.Graph.Payload
import WorkflowRuns.Graph.Validation
import WorkflowRuns.Overlay
import WorkflowRuns.Poller
import WorkflowRuns.Snapshot.Reader

/-!
Sessions in time.  Jobs run one at a time, first in first out, and time passes only when none is
left.  A job may have to pass through the queue a number of times before it runs; this is how long
its news takes to arrive.

Of what is logged only the runs are noted at which a watcher failed.  The event that sleeping loops
wait for has no state of its own here: a stop wakes them.
-/

namespace WorkflowRuns

abbrev Instant := Rat

abbrev Delay := Option Rat

def Binary64.delay (x : Binary64) : Delay := x.value?

structure Request where
  method : String
  url : String
  body : Option Value
  deriving DecidableEq, Repr

inductive Event
  | fetch (runId : String)
  | request (request : Request)
  | update (session : Session)
  | refreshed (result : Except Failure Bool)
  | waited
  | submitted (result : Except Failure String)
  | frame (session : Session) (nodes : List Node)
  deriving Repr

/-- A request with what it sends, how long the answer takes, and the answer. -/
structure Exchange (ε α : Type) where
  sent : Option Event
  delay : Delay
  result : Except ε α

/-- Where status documents come from and graphs go to.  Asking changes the source's own state. -/
structure Source (σ : Type) where
  status : σ → String → Exchange Raised Payload × σ
  submit : σ → Graph → Exchange Failure String × σ

inductive Command (σ : Type)
  | start (runId : String)
  | stop
  | clear
  | refresh
  | wait
  | run (graph : Graph)
  | supply (state : σ)

/-- What a watcher of updates does with a session: it may give commands, and then it may fail with an
exception.  What ends the program, such as an interrupt, is no reaction. -/
structure Reaction (σ : Type) where
  commands : List (Command σ)
  fails : Bool

inductive Job
  | enter (loop : Nat)
  | drop (loop : Nat)
  | ask (fetch : Nat)
  | answer (fetch : Nat) (result : Except Raised Payload)
  | expire (fetch : Nat)
  | refresh (ticket : Nat)
  | wait (ticket : Nat)
  | waited (ticket : Nat)
  | submit (ticket : Nat) (graph : Graph)
  | submitted (ticket : Nat) (graph : Graph) (result : Except Failure String)
  | frame
  | cancelFrames
  deriving Repr

namespace Job

def wakes (id : Nat) : Job → Bool
  | .enter loop => loop = id
  | _ => false

def concerns (fetch : Nat) : Job → Bool
  | .answer id _ => id = fetch
  | .expire id => id = fetch
  | _ => false

end Job

structure Queued where
  passes : Nat
  job : Job
  deriving Repr

structure Timer where
  due : Instant
  passes : Nat
  job : Job
  deriving Repr

/-- The drawing of frames ends when polling has ended or it was cancelled. -/
structure Frames where
  cancelled : Bool
  finished : Bool
  deriving DecidableEq, Repr

structure Machine (σ : Type) where
  now : Instant
  poller : Poller
  nodes : List Node
  source : σ
  watcher : Option (Session → Reaction σ)
  queue : List Queued
  timers : List Timer
  waiting : List (Nat × Nat)
  frames : Frames
  tickets : Nat
  trace : List (Instant × Event)
  complaints : List (Instant × Option String)

namespace Machine

variable {σ : Type}

def initial (config : Config) (keepPolling : Bool) (nodes : List Node) (source : σ)
    (watcher : Option (Session → Reaction σ)) : Machine σ :=
  ⟨0, .initial config keepPolling, nodes, source, watcher, [], [], [], ⟨false, false⟩, 0, [], []⟩

/-- How often news passes through the queue: an answer given at once or after a delay, a timeout,
the end of a delay, a loop woken or called off, the end of a loop, and any other timer. -/
def promptPasses : Nat := 1
def answerPasses : Nat := 3
def timeoutPasses : Nat := 4
def sleepPasses : Nat := 4
def wokenPasses : Nat := 2
def dropPasses : Nat := 3
def endedPasses : Nat := 1
def timerPasses : Nat := 1

def emit (m : Machine σ) (event : Event) : Machine σ := { m with trace := (m.now, event) :: m.trace }

def emit? (m : Machine σ) : Option Event → Machine σ
  | some event => m.emit event
  | none => m

def push (m : Machine σ) (passes : Nat) (job : Job) : Machine σ :=
  { m with queue := m.queue ++ [⟨passes, job⟩] }

def schedule (m : Machine σ) (delay : Delay) (passes : Nat) (job : Job) : Machine σ :=
  match delay with
  | some seconds => { m with timers := m.timers ++ [⟨m.now + seconds, passes, job⟩] }
  | none => m

def cancelSleep (m : Machine σ) (loop : Nat) : Machine σ :=
  { m with timers := m.timers.filter fun timer => !timer.job.wakes loop }

def cancelFetch (m : Machine σ) (fetch : Nat) : Machine σ :=
  { m with timers := m.timers.filter fun timer => !timer.job.concerns fetch }

def announceEnd (m : Machine σ) (loop : Nat) : Machine σ :=
  let (ended, others) := m.waiting.partition (·.2 = loop)
  ended.foldl (fun m waiter => m.push endedPasses (.waited waiter.1)) { m with waiting := others }

def signal (m : Machine σ) : Signal → Machine σ
  | .spawned loop => m.push 0 (.enter loop)
  | .woken loop => (m.cancelSleep loop).push wokenPasses (.enter loop)
  | .calledOff loop => (m.cancelSleep loop).push dropPasses (.drop loop)
  | .ended loop => (m.cancelSleep loop).announceEnd loop
  | .fetching fetch =>
      (m.push 0 (.ask fetch.id)).schedule m.poller.config.requestTimeout.delay timeoutPasses (.expire fetch.id)
  | .sleeping loop delay => m.schedule delay.delay sleepPasses (.enter loop)

/-- Takes over a changed poller and sees to what follows. -/
def follow (m : Machine σ) (change : Poller × List Signal) : Machine σ :=
  change.2.foldl signal { m with poller := change.1 }

def perform (m : Machine σ) : Command σ → Except Failure (Machine σ)
  | .start runId => (m.poller.start runId).map m.follow
  | .stop => .ok (m.follow m.poller.stop)
  | .clear => .ok { m.follow m.poller.clear with nodes := overlayAll m.nodes none }
  | .refresh => .ok { m.push 0 (.refresh m.tickets) with tickets := m.tickets + 1 }
  | .wait => .ok { m.push 0 (.wait m.tickets) with tickets := m.tickets + 1 }
  | .run graph => .ok { m.push 0 (.submit m.tickets graph) with tickets := m.tickets + 1 }
  | .supply source => .ok { m with source }

def obey (m : Machine σ) (command : Command σ) : Machine σ :=
  match m.perform command with
  | .ok m => m
  | .error _ => m

/-- An exception of the watcher is caught: the run it was told of is noted, and nothing else follows. -/
def complain (m : Machine σ) (runId : Option String) (fails : Bool) : Machine σ :=
  if fails then { m with complaints := (m.now, runId) :: m.complaints } else m

theorem complain_spec (m : Machine σ) (runId : Option String) (fails : Bool) :
    ∃ complaints, m.complain runId fails = { m with complaints } := by
  cases fails with
  | false => exact ⟨m.complaints, rfl⟩
  | true => exact ⟨_, rfl⟩

def notify (m : Machine σ) : Machine σ :=
  match m.watcher with
  | none => m
  | some react =>
      let session := m.poller.session
      let reaction := react session
      (reaction.commands.foldl obey (m.emit (.update session))).complain session.runId reaction.fails

def readOutcome (c : Config) (f : Fetch) (result : Except Raised Payload) : Except Failure Snapshot :=
  (result.mapError (Poller.failureOf c)).bind fun payload =>
    (Snapshot.read (some f.runId) payload).mapError SnapshotFault.failure

def report (m : Machine σ) (f : Fetch) (applied : Bool) : Machine σ :=
  match f.requester with
  | .loop id => m.follow (m.poller.decide id)
  | .refresh _ => m.emit (.refreshed (.ok applied))

def isOk {ε α : Type} : Except ε α → Bool
  | .ok _ => true
  | .error _ => false

def settle (m : Machine σ) (id : Nat) (outcome : Fetch → Except Failure Snapshot) : Machine σ :=
  match m.poller.fetch? id with
  | none => m
  | some f =>
      let current := m.poller.isCurrent f.generation
      let m := { m.cancelFetch id with poller := m.poller.settle f (outcome f) }
      let m := if current then m.notify else m
      m.report f (current && isOk (outcome f))

def cancel (m : Machine σ) (id : Nat) : Machine σ :=
  match m.poller.fetch? id with
  | none => m
  | some f => (m.cancelFetch id).follow (m.poller.cancel f)

def ask (service : Source σ) (m : Machine σ) (id : Nat) : Machine σ :=
  match m.poller.fetch? id with
  | none => m
  | some f =>
      let (exchange, source) := service.status m.source f.runId
      let m := { m with source }.emit? exchange.sent
      if exchange.delay = some 0 then m.push promptPasses (.answer id exchange.result)
      else m.schedule exchange.delay answerPasses (.answer id exchange.result)

def beginRefresh (m : Machine σ) (ticket : Nat) : Machine σ :=
  match m.poller.refresh ticket with
  | .refused failure => m.emit (.refreshed (.error failure))
  | .skipped => m.emit (.refreshed (.ok false))
  | .begun poller signals => m.follow (poller, signals)

def beginWait (m : Machine σ) (ticket : Nat) : Machine σ :=
  match m.poller.task with
  | none => m.emit .waited
  | some loop => { m with waiting := m.waiting ++ [(ticket, loop)] }

/-- An accepted graph becomes the graph of the session, and its run is polled at once. -/
def endSubmission (m : Machine σ) (graph : Graph) (result : Except Failure String) : Machine σ :=
  match result with
  | .error failure => m.emit (.submitted (.error failure))
  | .ok runId =>
      let m := { m with nodes := graph.nodes }
      match m.poller.start runId with
      | .ok change => (m.follow change).emit (.submitted (.ok runId))
      | .error failure => m.emit (.submitted (.error failure))

def beginSubmission (service : Source σ) (m : Machine σ) (ticket : Nat) (graph : Graph) : Machine σ :=
  if graph.faults ≠ [] then m.emit (.submitted (.error (.invalidGraph graph.validationErrors)))
  else
    let (exchange, source) := service.submit m.source graph
    let m := { m with source }.emit? exchange.sent
    if exchange.delay = some 0 then m.endSubmission graph exchange.result
    else m.schedule exchange.delay timerPasses (.submitted ticket graph exchange.result)

def drawFrame (m : Machine σ) : Machine σ := m.emit (.frame m.poller.session m.nodes)

def refreshInterval : Rat := mkRat 1 4

def endFrames (m : Machine σ) : Machine σ :=
  { m.drawFrame with frames := { m.frames with finished := true } }

def stepFrames (m : Machine σ) : Machine σ :=
  if m.frames.cancelled then m.endFrames
  else
    let m := m.drawFrame
    if m.poller.isActive then m.schedule (some refreshInterval) timerPasses .frame else m.endFrames

def runJob (service : Source σ) (m : Machine σ) : Job → Machine σ
  | .enter loop => m.follow (m.poller.enter loop)
  | .drop loop => m.follow (m.poller.drop loop)
  | .ask fetch => m.ask service fetch
  | .answer fetch result => m.settle fetch fun f => readOutcome m.poller.config f result
  | .expire fetch => m.settle fetch fun _ => .error (Poller.timeoutFailure m.poller.config)
  | .refresh ticket => m.beginRefresh ticket
  | .wait ticket => m.beginWait ticket
  | .waited _ => m.emit .waited
  | .submit ticket graph => m.beginSubmission service ticket graph
  | .submitted _ graph result => m.endSubmission graph result
  | .frame => m.stepFrames
  | .cancelFrames => { m with frames := { m.frames with cancelled := true } }

def earliest : List Timer → Option Timer
  | [] => none
  | timer :: rest =>
      match earliest rest with
      | none => some timer
      | some other => if other.due < timer.due then some other else some timer

def removeTimer (chosen : Instant) : List Timer → List Timer
  | [] => []
  | timer :: rest => if timer.due = chosen then rest else timer :: removeTimer chosen rest

def fire (m : Machine σ) (timer : Timer) : Machine σ :=
  let m := { m with now := timer.due, timers := removeTimer timer.due m.timers }
  let m := match timer.job with
    | .enter loop => { m with poller := m.poller.rouse loop }
    | _ => m
  m.push timer.passes timer.job

def isDue (horizon : Option Instant) (timer : Timer) : Bool :=
  match horizon with
  | none => true
  | some instant => timer.due ≤ instant

/-- One step: the next job, or else the next timer up to the horizon. -/
def step? (service : Source σ) (horizon : Option Instant) (m : Machine σ) : Option (Machine σ) :=
  match m.queue with
  | next :: rest =>
      let m := { m with queue := rest }
      match next.passes with
      | 0 => some (m.runJob service next.job)
      | passes + 1 => some (m.push passes next.job)
  | [] =>
      match earliest m.timers with
      | some timer => if isDue horizon timer then some (m.fire timer) else none
      | none => none

/-- At most `fuel` steps, until there is nothing to do or the goal is reached. -/
def run (service : Source σ) (horizon : Option Instant) (goal : Machine σ → Bool) :
    Nat → Machine σ → Machine σ
  | 0, m => m
  | fuel + 1, m =>
      if goal m then m
      else match m.step? service horizon with
        | some m => run service horizon goal fuel m
        | none => m

def advance (service : Source σ) (fuel : Nat) (seconds : Rat) (m : Machine σ) : Machine σ :=
  let horizon := m.now + seconds
  { m.run service (some horizon) (fun _ => false) fuel with now := horizon }

end Machine

end WorkflowRuns
