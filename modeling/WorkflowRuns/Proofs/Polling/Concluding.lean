import WorkflowRuns.Following
import WorkflowRuns.Proofs.Polling.Execution
import WorkflowRuns.Proofs.Polling.Ticking
import WorkflowRuns.Proofs.Polling.Tracking
import WorkflowRuns.Script

/-!
Machines that follow one run.  They are told of the end, by an answer to whoever waits or by a last
frame, only after the loop has ended; so what is known then says why it ended.
-/

namespace WorkflowRuns.Machine

open Poller (Follows Keeps Paces)

variable {σ : Type} {c : Config} {runId : String}

def Suits (p : Poller) : Job → Prop
  | .enter _ | .drop _ | .ask _ | .answer _ _ | .expire _ | .frame => True
  | .waited _ => p.isActive = false
  | _ => False

/-- The machine follows the run, and nobody else has to do with it. -/
structure Attends (c : Config) (runId : String) (m : Machine σ) : Prop where
  follows : Follows c runId m.poller
  unwatched : m.watcher = none
  queue : ∀ queued ∈ m.queue, Suits m.poller queued.job
  timers : ∀ timer ∈ m.timers, Suits m.poller timer.job
  waited : ∀ entry ∈ m.trace, entry.2 = .waited → m.poller.isActive = false
  uncancelled : m.frames.cancelled = false
  finished : m.frames.finished = true → m.poller.isActive = false

namespace Attends

theorem fewer {m : Machine σ} (attends : Attends c runId m) {queue : List Queued} {timers : List Timer}
    (queued : ∀ item ∈ queue, item ∈ m.queue) (timed : ∀ timer ∈ timers, timer ∈ m.timers) :
    Attends c runId { m with queue, timers } :=
  { attends with
    queue := fun item member => attends.queue item (queued item member)
    timers := fun timer member => attends.timers timer (timed timer member) }

theorem push {m : Machine σ} (attends : Attends c runId m) (passes : Nat) {job : Job}
    (suits : Suits m.poller job) : Attends c runId (m.push passes job) := by
  refine { attends with queue := ?_ }
  intro queued member
  rcases List.mem_append.mp member with before | added
  · exact attends.queue queued before
  · rw [List.mem_singleton.mp added]
    exact suits

theorem schedule {m : Machine σ} (attends : Attends c runId m) (delay : Delay) (passes : Nat) {job : Job}
    (suits : Suits m.poller job) : Attends c runId (m.schedule delay passes job) := by
  cases delay with
  | none => exact attends
  | some seconds =>
      refine { attends with timers := ?_ }
      intro timer member
      rcases List.mem_append.mp member with before | added
      · exact attends.timers timer before
      · rw [List.mem_singleton.mp added]
        exact suits

theorem emit {m : Machine σ} (attends : Attends c runId m) {event : Event}
    (fits : event = .waited → m.poller.isActive = false) : Attends c runId (m.emit event) := by
  refine { attends with waited := ?_ }
  intro entry member
  rcases List.mem_cons.mp member with rfl | before
  · exact fits
  · exact attends.waited entry before

theorem cancelSleep {m : Machine σ} (attends : Attends c runId m) (loop : Nat) :
    Attends c runId (m.cancelSleep loop) :=
  attends.fewer (fun _ member => member) fun _ member => (List.mem_filter.mp member).1

theorem cancelFetch {m : Machine σ} (attends : Attends c runId m) (fetch : Nat) :
    Attends c runId (m.cancelFetch fetch) :=
  attends.fewer (fun _ member => member) fun _ member => (List.mem_filter.mp member).1

theorem announceEnd {m : Machine σ} (attends : Attends c runId m) (loop : Nat)
    (inactive : m.poller.isActive = false) : Attends c runId (m.announceEnd loop) := by
  have told : ∀ (waiters : List (Nat × Nat)) (n : Machine σ), Attends c runId n → n.poller.isActive = false →
      Attends c runId (waiters.foldl (fun m waiter => m.push endedPasses (.waited waiter.1)) n) := by
    intro waiters
    induction waiters with
    | nil => exact fun _ attends _ => attends
    | cons waiter rest ih => exact fun n attends rests => ih _ (attends.push endedPasses rests) rests
  exact told _ { m with waiting := _ } { attends with } inactive

theorem signal {m : Machine σ} (attends : Attends c runId m) {signal : Signal}
    (ended : ∀ loop, signal = .ended loop → m.poller.isActive = false) : Attends c runId (m.signal signal) := by
  cases signal with
  | spawned loop => exact attends.push 0 trivial
  | woken loop => exact (attends.cancelSleep loop).push wokenPasses trivial
  | calledOff loop => exact (attends.cancelSleep loop).push dropPasses trivial
  | ended loop => exact (attends.cancelSleep loop).announceEnd loop (ended loop rfl)
  | fetching fetch =>
      have asked : Attends c runId (m.push 0 (.ask fetch.id)) := attends.push 0 trivial
      exact asked.schedule _ timeoutPasses trivial
  | sleeping loop delay => exact attends.schedule _ sleepPasses trivial

theorem signals {m : Machine σ} (attends : Attends c runId m) {signals : List Signal}
    (ended : ∀ loop, .ended loop ∈ signals → m.poller.isActive = false) :
    Attends c runId (signals.foldl Machine.signal m) := by
  induction signals generalizing m with
  | nil => exact attends
  | cons first rest ih =>
      apply ih
      · exact attends.signal fun loop same => ended loop (same ▸ List.mem_cons_self)
      · rw [(deferred_signal m first).poller]
        exact fun loop member => ended loop (List.mem_cons_of_mem _ member)

theorem suits_later {p q : Poller} (silent : p.isActive = false → q.isActive = false) {job : Job}
    (suits : Suits p job) : Suits q job := by
  cases job with
  | waited ticket => exact silent suits
  | _ => exact suits

theorem become {m : Machine σ} (attends : Attends c runId m) {p : Poller} (follows : Follows c runId p)
    (silent : m.poller.isActive = false → p.isActive = false) : Attends c runId { m with poller := p } where
  follows := follows
  unwatched := attends.unwatched
  queue := fun queued member => suits_later silent (attends.queue queued member)
  timers := fun timer member => suits_later silent (attends.timers timer member)
  waited := fun entry member told => silent (attends.waited entry member told)
  uncancelled := attends.uncancelled
  finished := fun finished => silent (attends.finished finished)

theorem follow {m : Machine σ} (attends : Attends c runId m) (step : Poller → Poller × List Signal)
    (keeps : Keeps c runId (step m.poller))
    (rests : ∀ next s, (step (.retired c next s)).1 = .retired c next s) :
    Attends c runId (m.follow (step m.poller)) := by
  refine (attends.become keeps.follows ?_).signals keeps.ended
  intro inactive
  obtain ⟨next, s, rested, _⟩ := attends.follows.atRest inactive
  rw [rested, rests]
  rfl

theorem decide {m : Machine σ} (attends : Attends c runId m) (paces : Paces c) (loop : Nat) :
    Attends c runId (m.follow (m.poller.decide loop)) :=
  attends.follow (·.decide loop) (attends.follows.decide paces loop) fun _ _ => rfl

theorem settle {m : Machine σ} (attends : Attends c runId m) (paces : Paces c) (id : Nat)
    (outcome : Fetch → Except Failure Snapshot) : Attends c runId (m.settle id outcome) := by
  unfold Machine.settle
  cases found : m.poller.fetch? id with
  | none => exact attends
  | some f =>
      obtain ⟨own, follows⟩ := attends.follows.settle found (outcome f)
      have settled : Attends c runId { m.cancelFetch id with poller := m.poller.settle f (outcome f) } := by
        refine (attends.cancelFetch id).become follows ?_
        -- A loop that has ended has no fetch outstanding.
        intro inactive
        obtain ⟨next, s, rested, _⟩ := attends.follows.atRest inactive
        rw [rested] at found
        cases found
      have unheard : ({ m.cancelFetch id with poller := m.poller.settle f (outcome f) } : Machine σ).notify =
          { m.cancelFetch id with poller := m.poller.settle f (outcome f) } := by
        unfold notify
        rw [settled.unwatched]
      simp only [unheard, ite_self, report, own]
      exact settled.decide paces 0

theorem stepFrames {m : Machine σ} (attends : Attends c runId m) : Attends c runId m.stepFrames := by
  have drawn : Attends c runId m.drawFrame := attends.emit nofun
  unfold Machine.stepFrames
  rw [if_neg (by rw [attends.uncancelled]; exact Bool.false_ne_true)]
  simp only
  split
  next => exact drawn.schedule _ timerPasses trivial
  next inactive =>
    have last : Attends c runId m.drawFrame.drawFrame := drawn.emit nofun
    exact { last with
      uncancelled := last.uncancelled
      finished := fun _ => Bool.eq_false_iff.mpr inactive }

theorem beginWait {m : Machine σ} (attends : Attends c runId m) (ticket : Nat) :
    Attends c runId (m.beginWait ticket) := by
  unfold Machine.beginWait
  split
  next none => exact attends.emit fun _ => by simp [Poller.isActive, none]
  next => exact { attends with }

end Attends

theorem service_sent (s : Service) (runId : String) : (s.fetch runId).1.sent ≠ some .waited := by
  unfold Service.fetch
  split
  · nofun
  · split <;> nofun

namespace Attends

variable {m n : Machine Service}

theorem ask (attends : Attends c runId m) (id : Nat) : Attends c runId (m.ask Source.service id) := by
  unfold Machine.ask
  split
  next => exact attends
  next f _ =>
    have sent : ∀ (source : Service) (event : Option Event), event ≠ some .waited →
        Attends c runId (({ m with source } : Machine Service).emit? event) := by
      intro source event quiet
      have changed : Attends c runId { m with source } := { attends with }
      cases event with
      | none => exact changed
      | some event => exact changed.emit fun told => absurd (congrArg some told) quiet
    have asked := sent (Source.service.status m.source f.runId).2 (Source.service.status m.source f.runId).1.sent
      (service_sent m.source f.runId)
    simp only
    split
    · exact asked.push promptPasses trivial
    · exact asked.schedule _ answerPasses trivial

theorem runJob (attends : Attends c runId m) (paces : Paces c) {job : Job} (suits : Suits m.poller job) :
    Attends c runId (m.runJob Source.service job) := by
  cases job with
  | enter loop => exact attends.follow (·.enter loop) (attends.follows.enter loop) fun _ _ => rfl
  | drop loop => exact attends.follow (·.drop loop) (attends.follows.drop loop) fun _ _ => rfl
  | ask fetch => exact attends.ask fetch
  | answer fetch result => exact attends.settle paces fetch _
  | expire fetch => exact attends.settle paces fetch _
  | waited ticket => exact attends.emit fun _ => suits
  | frame => exact attends.stepFrames
  | _ => exact suits.elim

theorem fire (attends : Attends c runId m) {timer : Timer} (member : timer ∈ m.timers) :
    Attends c runId (m.fire timer) := by
  have follows : Follows c runId (roused m.poller timer.job) := by
    cases timer.job with
    | enter loop => exact attends.follows.rouse loop
    | _ => exact attends.follows
  have silent : m.poller.isActive = false → (roused m.poller timer.job).isActive = false := by
    intro inactive
    obtain ⟨next, s, rested, _⟩ := attends.follows.atRest inactive
    rw [rested]
    cases timer.job <;> rfl
  rw [fire_spec]
  have fewer : Attends c runId { m with timers := removeTimer timer.due m.timers } :=
    attends.fewer (fun _ member => member) fun _ kept => removeTimer_subset kept
  have become := fewer.become follows silent
  have pushed := become.push timer.passes (suits_later silent (attends.timers timer member))
  exact { pushed with }

theorem step (attends : Attends c runId m) (paces : Paces c)
    (stepped : m.step? Source.service none = some n) : Attends c runId n := by
  rcases step?_cases stepped with ⟨passes, job, rest, queue, rfl⟩ | ⟨job, rest, queue, rfl⟩ |
    ⟨timer, _, first, rfl⟩
  all_goals try
    have suits := fun passes inside => attends.queue ⟨passes, job⟩ inside
    have popped : Attends c runId { m with queue := rest } :=
      attends.fewer (fun item member => queue ▸ List.mem_cons_of_mem _ member) fun _ member => member
  · exact popped.push passes (suits (passes + 1) (queue ▸ List.mem_cons_self))
  · exact popped.runJob paces (suits 0 (queue ▸ List.mem_cons_self))
  · exact attends.fire (earliest_mem first)

theorem run (attends : Attends c runId m) (paces : Paces c) (goal : Machine Service → Bool) (fuel : Nat) :
    Attends c runId (m.run Source.service none goal fuel) := by
  induction fuel generalizing m with
  | zero => exact attends
  | succ fuel ih =>
      unfold Machine.run
      split
      · exact attends
      · split
        next stepped => exact ih (attends.step paces stepped)
        next => exact attends

theorem inactive_of_hasWaited (attends : Attends c runId m) (told : m.hasWaited = true) :
    m.poller.isActive = false := by
  unfold hasWaited latest at told
  cases trace : m.trace with
  | nil =>
      rw [trace] at told
      cases told
  | cons entry rest =>
      rw [trace] at told
      refine attends.waited entry (trace ▸ List.mem_cons_self) ?_
      obtain ⟨time, event⟩ := entry
      cases event with
      | waited => rfl
      | _ => cases told

theorem follow? (attends : Attends c runId m) (paces : Paces c) {fuel : Nat} {live : Bool}
    (followed : m.follow? Source.service fuel live = some n) :
    ∃ next s, n.poller = .retired c next s ∧ Poller.Ended c runId s := by
  unfold Machine.follow? at followed
  cases live with
  | true =>
      have watched : Attends c runId (m.watchFrames Source.service fuel) := attends.stepFrames.run paces _ fuel
      simp only [if_true] at followed
      split at followed
      next finished =>
        cases followed
        exact watched.follows.atRest (watched.finished finished)
      next => cases followed
  | false =>
      have awaited : Attends c runId (m.await Source.service fuel) := (attends.beginWait _).run paces _ fuel
      simp only [Bool.false_eq_true, if_false] at followed
      split at followed
      next told =>
        cases followed
        exact awaited.follows.atRest (awaited.inactive_of_hasWaited told)
      next => cases followed

end Attends

end WorkflowRuns.Machine
