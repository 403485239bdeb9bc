import WorkflowRuns.Proofs.Polling.Chronicle
import WorkflowRuns.Proofs.Polling.Execution
import WorkflowRuns.Proofs.Polling.Timers
import WorkflowRuns.Proofs.Polling.Unobserved

/-!
Machines with onlookers, for whom frames are drawn or who wait for the end of polling.  Such a machine
does all that the machine without onlookers does, and in the same order; what it does for them changes
nothing else but the time, and that only while there is nothing to do.
-/

namespace WorkflowRuns

def Job.looksOn : Job → Bool
  | .wait _ | .waited _ | .frame | .cancelFrames => true
  | _ => false

def Event.isSight : Event → Bool
  | .waited | .frame .. => true
  | _ => false

variable {σ : Type}

structure Source.Unseen (service : Source σ) : Prop where
  status : ∀ source runId, ∀ event ∈ (service.status source runId).1.sent, event.isSight = false
  submit : ∀ source graph, ∀ event ∈ (service.submit source graph).1.sent, event.isSight = false

namespace Machine

/-- The machine without onlookers, and without what they were shown. -/
def deserted (m : Machine σ) : Machine σ :=
  { m with
    queue := m.queue.filter fun queued => !queued.job.looksOn
    timers := m.timers.filter fun timer => !timer.job.looksOn
    waiting := []
    frames := ⟨false, false⟩
    trace := m.trace.filter fun entry => !entry.2.isSight }

section

variable (m : Machine σ)

theorem deserted_emit {event : Event} (other : event.isSight = false) :
    (m.emit event).deserted = m.deserted.emit event := by
  simp [deserted, emit, other]

theorem deserted_emit? {sent : Option Event} (other : ∀ event ∈ sent, event.isSight = false) :
    (m.emit? sent).deserted = m.deserted.emit? sent := by
  cases sent with
  | none => rfl
  | some event => exact m.deserted_emit (other event rfl)

theorem deserted_push (passes : Nat) {job : Job} (other : job.looksOn = false) :
    (m.push passes job).deserted = m.deserted.push passes job := by
  simp [deserted, push, other]

theorem deserted_schedule (delay : Delay) (passes : Nat) {job : Job} (other : job.looksOn = false) :
    (m.schedule delay passes job).deserted = m.deserted.schedule delay passes job := by
  cases delay with
  | none => rfl
  | some seconds => simp [deserted, schedule, other]

theorem deserted_cancelSleep (loop : Nat) : (m.cancelSleep loop).deserted = m.deserted.cancelSleep loop := by
  simp [deserted, cancelSleep, List.filter_filter, Bool.and_comm]

theorem deserted_cancelFetch (fetch : Nat) : (m.cancelFetch fetch).deserted = m.deserted.cancelFetch fetch := by
  simp [deserted, cancelFetch, List.filter_filter, Bool.and_comm]

theorem deserted_announceEnd (loop : Nat) : (m.announceEnd loop).deserted = m.deserted.announceEnd loop := by
  have told : ∀ (waiters : List (Nat × Nat)) (n : Machine σ),
      (waiters.foldl (fun m waiter => m.push endedPasses (.waited waiter.1)) n).deserted = n.deserted := by
    intro waiters
    induction waiters with
    | nil => exact fun _ => rfl
    | cons waiter rest ih => exact fun n => (ih _).trans (by simp [deserted, push, Job.looksOn])
  exact told _ { m with waiting := _ }

theorem deserted_signal (signal : Signal) : (m.signal signal).deserted = m.deserted.signal signal := by
  cases signal with
  | spawned loop => exact m.deserted_push 0 rfl
  | woken loop =>
      rw [Machine.signal, deserted_push _ _ rfl, deserted_cancelSleep]
      rfl
  | calledOff loop =>
      rw [Machine.signal, deserted_push _ _ rfl, deserted_cancelSleep]
      rfl
  | ended loop =>
      rw [Machine.signal, deserted_announceEnd, deserted_cancelSleep]
      rfl
  | fetching fetch =>
      rw [Machine.signal, deserted_schedule _ _ _ rfl, deserted_push _ _ rfl]
      rfl
  | sleeping loop delay => exact m.deserted_schedule delay.delay sleepPasses rfl

theorem deserted_follow (change : Poller × List Signal) : (m.follow change).deserted = m.deserted.follow change := by
  have signalled : ∀ (signals : List Signal) (n : Machine σ),
      (signals.foldl Machine.signal n).deserted = signals.foldl Machine.signal n.deserted := by
    intro signals
    induction signals with
    | nil => exact fun _ => rfl
    | cons first rest ih =>
        intro n
        rw [List.foldl_cons, ih, deserted_signal, List.foldl_cons]
  exact signalled change.2 { m with poller := change.1 }

theorem deserted_report (f : Fetch) (applied : Bool) : (m.report f applied).deserted = m.deserted.report f applied := by
  unfold report
  split
  next loop _ => exact m.deserted_follow (m.poller.decide loop)
  next => exact m.deserted_emit rfl

variable {m}

theorem settle_unwatched (unwatched : m.watcher = none) {id : Nat} {f : Fetch} (found : m.poller.fetch? id = some f)
    (outcome : Fetch → Except Failure Snapshot) :
    m.settle id outcome = ({ m.cancelFetch id with poller := m.poller.settle f (outcome f) } : Machine σ).report f
      (m.poller.isCurrent f.generation && isOk (outcome f)) := by
  have unheard : ({ m.cancelFetch id with poller := m.poller.settle f (outcome f) } : Machine σ).notify =
      { m.cancelFetch id with poller := m.poller.settle f (outcome f) } := notify_unwatched unwatched
  simp only [settle, found, unheard, ite_self]

theorem deserted_settle (unwatched : m.watcher = none) (id : Nat) (outcome : Fetch → Except Failure Snapshot) :
    (m.settle id outcome).deserted = m.deserted.settle id outcome := by
  have same : m.deserted.poller = m.poller := rfl
  cases found : m.poller.fetch? id with
  | none => simp only [settle, same, found]
  | some f =>
      have cancelled : ({ m.cancelFetch id with poller := m.poller.settle f (outcome f) } : Machine σ).deserted =
          { m.deserted.cancelFetch id with poller := m.poller.settle f (outcome f) } :=
        congrArg (fun n : Machine σ => { n with poller := m.poller.settle f (outcome f) }) (m.deserted_cancelFetch id)
      have alone := settle_unwatched (m := m.deserted) unwatched found outcome
      rw [settle_unwatched unwatched found, deserted_report, cancelled, alone, same]

theorem deserted_exchange {ε α : Type} (exchange : Exchange ε α) (source : σ)
    (unseen : ∀ event ∈ exchange.sent, event.isSight = false) {now : Machine σ → Machine σ}
    (same : ∀ n : Machine σ, (now n).deserted = now n.deserted) (passes : Nat) {job : Job}
    (other : job.looksOn = false) :
    (if exchange.delay = some 0 then now (({ m with source } : Machine σ).emit? exchange.sent)
      else (({ m with source } : Machine σ).emit? exchange.sent).schedule exchange.delay passes job).deserted =
    if exchange.delay = some 0 then now (({ m.deserted with source } : Machine σ).emit? exchange.sent)
      else (({ m.deserted with source } : Machine σ).emit? exchange.sent).schedule exchange.delay passes job := by
  have sent : (({ m with source } : Machine σ).emit? exchange.sent).deserted =
      ({ m.deserted with source } : Machine σ).emit? exchange.sent := deserted_emit? _ unseen
  split
  · rw [same, sent]
  · rw [deserted_schedule _ _ _ other, sent]

theorem deserted_ask {service : Source σ} (unseen : service.Unseen) (id : Nat) :
    (m.ask service id).deserted = m.deserted.ask service id := by
  unfold ask
  have same : m.deserted.poller = m.poller := rfl
  rw [same]
  cases m.poller.fetch? id with
  | none => rfl
  | some f =>
      exact deserted_exchange _ _ (unseen.status m.source f.runId) (fun n => n.deserted_push promptPasses rfl)
        answerPasses rfl

theorem deserted_beginRefresh (ticket : Nat) : (m.beginRefresh ticket).deserted = m.deserted.beginRefresh ticket := by
  unfold beginRefresh
  have same : m.deserted.poller = m.poller := rfl
  rw [same]
  cases m.poller.refresh ticket with
  | refused failure => exact m.deserted_emit rfl
  | skipped => exact m.deserted_emit rfl
  | begun poller signals => exact m.deserted_follow (poller, signals)

theorem deserted_endSubmission (graph : Graph) (result : Except Failure String) :
    (m.endSubmission graph result).deserted = m.deserted.endSubmission graph result := by
  cases result with
  | error failure => exact m.deserted_emit rfl
  | ok runId =>
      unfold endSubmission
      have same : m.deserted.poller = m.poller := rfl
      simp only [same]
      cases m.poller.start runId with
      | error failure => exact deserted_emit { m with nodes := graph.nodes } rfl
      | ok change =>
          simp only
          rw [deserted_emit _ rfl, deserted_follow]
          rfl

theorem deserted_beginSubmission {service : Source σ} (unseen : service.Unseen) (ticket : Nat) (graph : Graph) :
    (m.beginSubmission service ticket graph).deserted = m.deserted.beginSubmission service ticket graph := by
  unfold beginSubmission
  split
  · exact m.deserted_emit rfl
  · exact deserted_exchange _ _ (unseen.submit m.source graph)
      (fun n => n.deserted_endSubmission graph _) timerPasses rfl

theorem deserted_runJob {service : Source σ} (unseen : service.Unseen) (unwatched : m.watcher = none) {job : Job}
    (other : job.looksOn = false) : (m.runJob service job).deserted = m.deserted.runJob service job := by
  cases job with
  | enter loop => exact m.deserted_follow (m.poller.enter loop)
  | drop loop => exact m.deserted_follow (m.poller.drop loop)
  | ask fetch => exact deserted_ask unseen fetch
  | answer fetch result => exact m.deserted_settle unwatched fetch _
  | expire fetch => exact m.deserted_settle unwatched fetch _
  | refresh ticket => exact deserted_beginRefresh ticket
  | submit ticket graph => exact deserted_beginSubmission unseen ticket graph
  | submitted ticket graph result => exact deserted_endSubmission graph result
  | wait | waited | frame | cancelFrames => cases other

theorem deserted_fire {timer : Timer} (first : earliest m.timers = some timer) (other : timer.job.looksOn = false) :
    (m.fire timer).deserted = m.deserted.fire timer := by
  have removed := (earliest_filter first (fun timer => !timer.job.looksOn) (by simp [other])).2
  rw [fire_spec, fire_spec]
  simp [deserted, other, removed]

end

section

variable {m : Machine σ}

theorem deserted_sight {event : Event} (sight : event.isSight = true) : (m.emit event).deserted = m.deserted := by
  simp [deserted, emit, sight]

theorem deserted_beginWait (ticket : Nat) : (m.beginWait ticket).deserted = m.deserted := by
  unfold beginWait
  split
  · exact deserted_sight rfl
  · rfl

theorem deserted_stepFrames (m : Machine σ) : m.stepFrames.deserted = m.deserted := by
  have drawn : ∀ n : Machine σ, n.drawFrame.deserted = n.deserted := fun _ => deserted_sight rfl
  have ended : ∀ n : Machine σ, n.endFrames.deserted = n.deserted := drawn
  unfold stepFrames
  split
  · exact ended m
  · simp only
    split
    · rw [← drawn m]
      simp [deserted, schedule, Job.looksOn]
    · rw [ended, drawn]

theorem deserted_onlooker (service : Source σ) {job : Job} (looksOn : job.looksOn = true) :
    (m.runJob service job).deserted = m.deserted := by
  cases job with
  | wait ticket => exact deserted_beginWait ticket
  | waited ticket => exact deserted_sight rfl
  | frame => exact deserted_stepFrames m
  | cancelFrames => rfl
  | _ => cases looksOn

end

def upcoming (m : Machine σ) : Option Job :=
  match m.queue with
  | next :: _ => some next.job
  | [] => (earliest m.timers).map (·.job)

theorem upcoming_eq_none_iff {m : Machine σ} : m.upcoming = none ↔ m.queue = [] ∧ m.timers = [] := by
  unfold upcoming
  cases m.queue with
  | cons next rest => simp
  | nil =>
      simp only [Option.map_eq_none_iff, true_and]
      exact ⟨earliest_none, fun none => by rw [none]; rfl⟩

theorem step?_of_upcoming (service : Source σ) {m : Machine σ} {job : Job} (upcoming : m.upcoming = some job) :
    ∃ n, m.step? service none = some n := by
  unfold Machine.upcoming at upcoming
  cases queue : m.queue with
  | cons next rest =>
      obtain ⟨passes, job⟩ := next
      cases passes with
      | zero => exact ⟨_, step?_job service queue⟩
      | succ passes => exact ⟨_, step?_pass service queue⟩
  | nil =>
      simp only [queue, Option.map_eq_some_iff] at upcoming
      obtain ⟨timer, first, _⟩ := upcoming
      exact ⟨_, step?_timer service queue first⟩

theorem upcoming_of_step? {service : Source σ} {m n : Machine σ} (stepped : m.step? service none = some n) :
    ∃ job, m.upcoming = some job := by
  refine Option.ne_none_iff_exists'.mp fun none => ?_
  obtain ⟨queue, timers⟩ := upcoming_eq_none_iff.mp none
  rw [step?_stuck service queue timers] at stepped
  cases stepped

theorem mem_of_upcoming {m : Machine σ} {job : Job} (upcoming : m.upcoming = some job) :
    (∃ passes rest, m.queue = ⟨passes, job⟩ :: rest) ∨
      ∃ timer, m.queue = [] ∧ earliest m.timers = some timer ∧ timer.job = job := by
  unfold Machine.upcoming at upcoming
  cases queue : m.queue with
  | cons next rest =>
      simp only [queue, Option.some.injEq] at upcoming
      subst upcoming
      exact Or.inl ⟨next.passes, rest, rfl⟩
  | nil =>
      simp only [queue, Option.map_eq_some_iff] at upcoming
      obtain ⟨timer, first, same⟩ := upcoming
      exact Or.inr ⟨timer, rfl, first, same⟩

theorem step?_upcoming {service : Source σ} {m n : Machine σ} {job : Job} (stepped : m.step? service none = some n)
    (upcoming : m.upcoming = some job) :
    (∃ passes rest, m.queue = ⟨passes + 1, job⟩ :: rest ∧
        n = ({ m with queue := rest } : Machine σ).push passes job) ∨
      (∃ rest, m.queue = ⟨0, job⟩ :: rest ∧ n = ({ m with queue := rest } : Machine σ).runJob service job) ∨
      ∃ timer, timer.job = job ∧ m.queue = [] ∧ earliest m.timers = some timer ∧ n = m.fire timer := by
  rcases step?_cases stepped with ⟨passes, next, rest, queue, same⟩ | ⟨next, rest, queue, same⟩ |
    ⟨timer, queue, first, same⟩
  · simp only [Machine.upcoming, queue, Option.some.injEq] at upcoming
    exact Or.inl ⟨passes, rest, upcoming ▸ queue, upcoming ▸ same⟩
  · simp only [Machine.upcoming, queue, Option.some.injEq] at upcoming
    exact Or.inr (Or.inl ⟨rest, upcoming ▸ queue, upcoming ▸ same⟩)
  · simp only [Machine.upcoming, queue, first, Option.map_some, Option.some.injEq] at upcoming
    exact Or.inr (Or.inr ⟨timer, upcoming, queue, first, same⟩)

/-- The one machine is the other with onlookers.  While there is nothing to do for the other, time may pass
for the onlookers. -/
structure Crowded (m b : Machine σ) : Prop where
  same : { m.deserted with now := b.now } = b
  now : b.queue ≠ [] → m.now = b.now

namespace Crowded

variable {service : Source σ} {m n b : Machine σ}

theorem of_deserted (same : m.deserted = b) : Crowded m b := by
  subst same
  exact ⟨rfl, fun _ => rfl⟩

theorem busy (crowded : Crowded m b) (queue : b.queue ≠ []) : m.deserted = b := by
  have now : m.deserted.now = b.now := crowded.now queue
  rw [← crowded.same, ← now]

theorem queue (crowded : Crowded m b) : b.queue = m.queue.filter fun queued => !queued.job.looksOn :=
  (congrArg Machine.queue crowded.same).symm

theorem timers (crowded : Crowded m b) : b.timers = m.timers.filter fun timer => !timer.job.looksOn :=
  (congrArg Machine.timers crowded.same).symm

theorem poller (crowded : Crowded m b) : b.poller = m.poller := (congrArg Machine.poller crowded.same).symm

theorem stay (crowded : Crowded m b) (stepped : m.step? service none = some n) {job : Job}
    (upcoming : m.upcoming = some job) (looksOn : job.looksOn = true) : Crowded n b := by
  have kept : n.deserted = m.deserted → n.now = m.now → Crowded n b := fun same now =>
    ⟨by rw [same]; exact crowded.same, fun queue => now.trans (crowded.now queue)⟩
  rcases step?_upcoming stepped upcoming with ⟨passes, rest, queue, rfl⟩ | ⟨rest, queue, rfl⟩ |
    ⟨timer, rfl, queue, first, rfl⟩
  · exact kept (by simp [deserted, push, queue, looksOn]) rfl
  · refine kept ?_ (does_runJob service _ job).now
    rw [deserted_onlooker service looksOn]
    simp [deserted, queue, looksOn]
  · have left := removeTimer_filter first (fun timer => !timer.job.looksOn) (by simp [looksOn])
    have still : roused m.poller timer.job = m.poller := by
      cases job : timer.job with
      | enter loop =>
          rw [job] at looksOn
          cases looksOn
      | _ => rfl
    constructor
    · rw [← crowded.same, fire_spec]
      simp [deserted, looksOn, left, still]
    · exact fun busy => absurd (by simp [crowded.queue, queue]) busy

theorem advance (crowded : Crowded m b) (unseen : service.Unseen) (unwatched : m.watcher = none)
    (stepped : m.step? service none = some n) {job : Job} (upcoming : m.upcoming = some job)
    (other : job.looksOn = false) : ∃ after, b.step? service none = some after ∧ Crowded n after := by
  rcases step?_upcoming stepped upcoming with ⟨passes, rest, queue, rfl⟩ | ⟨rest, queue, rfl⟩ |
    ⟨timer, rfl, queue, first, rfl⟩
  · have queued : b.queue = ⟨passes + 1, job⟩ :: rest.filter fun queued => !queued.job.looksOn := by
      simp [crowded.queue, queue, other]
    refine ⟨_, step?_pass service queued, of_deserted ?_⟩
    rw [← crowded.busy (by simp [queued]), deserted_push _ _ other]
    rfl
  · have queued : b.queue = ⟨0, job⟩ :: rest.filter fun queued => !queued.job.looksOn := by
      simp [crowded.queue, queue, other]
    refine ⟨_, step?_job service queued, of_deserted ?_⟩
    have alone := deserted_runJob (m := { m with queue := rest }) unseen unwatched other
    rw [← crowded.busy (by simp [queued]), alone]
    rfl
  · have idle : b.queue = [] := by simp [crowded.queue, queue]
    have timed : earliest b.timers = some timer := by
      rw [crowded.timers]
      exact (earliest_filter first _ (by simp [other])).1
    refine ⟨_, step?_timer service idle timed, of_deserted ?_⟩
    rw [deserted_fire first other, fire_spec, fire_spec, ← crowded.same]

theorem along {after : Machine σ} (crowded : Crowded m b) (unseen : service.Unseen) (unwatched : m.watcher = none)
    (stepped : m.step? service none = some n) (advanced : b.step? service none = some after) {job : Job}
    (upcoming : m.upcoming = some job) (other : job.looksOn = false) : Crowded n after := by
  obtain ⟨same, again, ahead⟩ := crowded.advance unseen unwatched stepped upcoming other
  obtain rfl : after = same := Option.some.inj (advanced.symm.trans again)
  exact ahead

/-- Each step is one of both machines, or the other one stays. -/
theorem step (crowded : Crowded m b) (unseen : service.Unseen) (unwatched : m.watcher = none)
    (stepped : m.step? service none = some n) :
    Crowded n b ∨ ∃ after, b.step? service none = some after ∧ Crowded n after := by
  obtain ⟨job, upcoming⟩ := upcoming_of_step? stepped
  cases looksOn : job.looksOn with
  | true => exact Or.inl (crowded.stay stepped upcoming looksOn)
  | false => exact Or.inr (crowded.advance unseen unwatched stepped upcoming looksOn)

theorem upcoming_of_step {after : Machine σ} (crowded : Crowded m b) (stepped : b.step? service none = some after) :
    ∃ job, m.upcoming = some job := by
  refine Option.ne_none_iff_exists'.mp fun none => ?_
  obtain ⟨queue, timers⟩ := upcoming_eq_none_iff.mp none
  obtain ⟨job, upcoming⟩ := upcoming_of_step? stepped
  rw [upcoming_eq_none_iff.mpr ⟨by simp [crowded.queue, queue], by simp [crowded.timers, timers]⟩] at upcoming
  cases upcoming

end Crowded

section

variable {service : Source σ} {b after : Machine σ}

theorem looksOn_deserted (deserted : b.deserted = b) {job : Job} (upcoming : b.upcoming = some job) :
    job.looksOn = false := by
  rcases mem_of_upcoming upcoming with ⟨passes, rest, queue⟩ | ⟨timer, _, first, rfl⟩
  · have kept : (⟨passes, job⟩ : Queued) ∈ b.deserted.queue := by
      rw [deserted, queue]
      exact List.mem_cons_self
    simpa using (List.mem_filter.mp kept).2
  · have kept : timer ∈ b.deserted.timers := by
      rw [deserted]
      exact earliest_mem first
    simpa using (List.mem_filter.mp kept).2

theorem deserted_step (unseen : service.Unseen) (unwatched : b.watcher = none) (deserted : b.deserted = b)
    (stepped : b.step? service none = some after) : after.deserted = after := by
  obtain ⟨job, upcoming⟩ := upcoming_of_step? stepped
  have other := looksOn_deserted deserted upcoming
  exact ((Crowded.of_deserted deserted).along unseen unwatched stepped stepped upcoming other).same

theorem deserted_run (unseen : service.Unseen) (unwatched : b.watcher = none) (deserted : b.deserted = b)
    (goal : Machine σ → Bool) (fuel : Nat) :
    (b.run service none goal fuel).deserted = b.run service none goal fuel := by
  induction fuel generalizing b with
  | zero => exact deserted
  | succ fuel ih =>
      unfold Machine.run
      split
      · exact deserted
      · split
        next n stepped =>
          exact ih ((step_watcher stepped).trans unwatched) (deserted_step unseen unwatched deserted stepped)
        next => exact deserted

end

end Machine

end WorkflowRuns
