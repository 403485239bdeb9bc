import WorkflowRuns.Machine

/-!
Machines without their watcher.  Every part of a machine but the one that tells the watcher of an update
does the same whether or not there is one.
-/

namespace WorkflowRuns

variable {σ : Type}

def Event.update? : Event → Option Session
  | .update session => some session
  | _ => none

/-- A source that asks without telling the watcher anything. -/
structure Source.Discreet (service : Source σ) : Prop where
  status : ∀ source runId, ∀ event ∈ (service.status source runId).1.sent, event.update? = none
  submit : ∀ source graph, ∀ event ∈ (service.submit source graph).1.sent, event.update? = none

namespace Machine

/-- The machine with nobody watching: neither the watcher nor what it was told and how it failed. -/
def unobserved (m : Machine σ) : Machine σ :=
  { m with watcher := none, complaints := [], trace := m.trace.filter fun entry => entry.2.update?.isNone }

theorem notify_unwatched {m : Machine σ} (unwatched : m.watcher = none) : m.notify = m := by
  simp [Machine.notify, unwatched]

def updates (m : Machine σ) : List (Instant × Session) :=
  m.trace.reverse.filterMap fun entry => entry.2.update?.map (Prod.mk entry.1)

structure Blind (f : Machine σ → Machine σ) : Prop where
  unobserved : ∀ m, (f m).unobserved = f m.unobserved
  watcher : ∀ m, (f m).watcher = m.watcher
  updates : ∀ m, (f m).updates = m.updates
  complaints : ∀ m, (f m).complaints = m.complaints

theorem blind_id : Blind fun m : Machine σ => m := ⟨fun _ => rfl, fun _ => rfl, fun _ => rfl, fun _ => rfl⟩

theorem Blind.then {f g : Machine σ → Machine σ} (first : Blind f) (second : Blind g) :
    Blind fun m => g (f m) :=
  ⟨fun m => by rw [second.unobserved, first.unobserved], fun m => by rw [second.watcher, first.watcher],
    fun m => by rw [second.updates, first.updates], fun m => by rw [second.complaints, first.complaints]⟩

theorem Blind.depending {α : Type} {f : α → Machine σ → Machine σ} (view : Machine σ → α)
    (same : ∀ m, view m.unobserved = view m) (each : ∀ a, Blind (f a)) : Blind fun m => f (view m) m :=
  ⟨fun m => by rw [(each _).unobserved, same], fun m => (each _).watcher m, fun m => (each _).updates m,
    fun m => (each _).complaints m⟩

theorem Blind.choosing {α : Type} {f : Machine σ → Machine σ} (view : Machine σ → α)
    (same : ∀ m, view m.unobserved = view m)
    (each : ∀ a, ∃ chosen, Blind chosen ∧ ∀ m, view m = a → f m = chosen m) : Blind f := by
  constructor
  · intro m
    obtain ⟨chosen, blind, agree⟩ := each (view m)
    rw [agree m rfl, agree m.unobserved (same m), blind.unobserved]
  · intro m
    obtain ⟨chosen, blind, agree⟩ := each (view m)
    rw [agree m rfl, blind.watcher]
  · intro m
    obtain ⟨chosen, blind, agree⟩ := each (view m)
    rw [agree m rfl, blind.updates]
  · intro m
    obtain ⟨chosen, blind, agree⟩ := each (view m)
    rw [agree m rfl, blind.complaints]

theorem Blind.foldl {α : Type} {f : Machine σ → α → Machine σ} (each : ∀ a, Blind fun m => f m a)
    (items : List α) : Blind fun m => items.foldl f m := by
  induction items with
  | nil => exact blind_id
  | cons head tail ih => exact (each head).then ih

theorem blind_emit {e : Event} (quiet : e.update? = none) : Blind fun m : Machine σ => m.emit e := by
  constructor
  · intro m
    simp [unobserved, emit, quiet]
  · exact fun m => rfl
  · intro m
    simp [updates, emit, quiet]
  · exact fun m => rfl

theorem blind_emit? {sent : Option Event} (quiet : ∀ event ∈ sent, event.update? = none) :
    Blind fun m : Machine σ => m.emit? sent := by
  cases sent with
  | none => exact blind_id
  | some event => exact blind_emit (quiet event rfl)

theorem blind_push (passes : Nat) (job : Job) : Blind fun m : Machine σ => m.push passes job :=
  ⟨fun _ => rfl, fun _ => rfl, fun _ => rfl, fun _ => rfl⟩

theorem blind_schedule (delay : Delay) (passes : Nat) (job : Job) :
    Blind fun m : Machine σ => m.schedule delay passes job := by
  cases delay <;> exact ⟨fun _ => rfl, fun _ => rfl, fun _ => rfl, fun _ => rfl⟩

theorem blind_cancelSleep (loop : Nat) : Blind fun m : Machine σ => m.cancelSleep loop :=
  ⟨fun _ => rfl, fun _ => rfl, fun _ => rfl, fun _ => rfl⟩

theorem blind_cancelFetch (fetch : Nat) : Blind fun m : Machine σ => m.cancelFetch fetch :=
  ⟨fun _ => rfl, fun _ => rfl, fun _ => rfl, fun _ => rfl⟩

theorem blind_announceEnd (loop : Nat) : Blind fun m : Machine σ => m.announceEnd loop := by
  refine .depending (fun m : Machine σ => m.waiting.partition (·.2 = loop)) (fun _ => rfl)
    (f := fun parts m => parts.1.foldl (fun m waiter => m.push endedPasses (.waited waiter.1))
      { m with waiting := parts.2 }) fun parts => ?_
  have forgotten : Blind fun m : Machine σ => { m with waiting := parts.2 } :=
    ⟨fun _ => rfl, fun _ => rfl, fun _ => rfl, fun _ => rfl⟩
  exact forgotten.then (.foldl (fun waiter => blind_push endedPasses (.waited waiter.1)) parts.1)

theorem blind_signal (signal : Signal) : Blind fun m : Machine σ => m.signal signal := by
  cases signal with
  | spawned loop => exact blind_push 0 (.enter loop)
  | woken loop => exact (blind_cancelSleep loop).then (blind_push wokenPasses (.enter loop))
  | calledOff loop => exact (blind_cancelSleep loop).then (blind_push dropPasses (.drop loop))
  | ended loop => exact (blind_cancelSleep loop).then (blind_announceEnd loop)
  | fetching fetch =>
      refine (blind_push 0 (.ask fetch.id)).then (g := fun m : Machine σ =>
        m.schedule m.poller.config.requestTimeout.delay timeoutPasses (.expire fetch.id)) ?_
      exact .depending (fun m : Machine σ => m.poller.config.requestTimeout.delay) (fun _ => rfl)
        fun delay => blind_schedule delay timeoutPasses (.expire fetch.id)
  | sleeping loop delay => exact blind_schedule delay.delay sleepPasses (.enter loop)

theorem blind_follow (change : Poller × List Signal) : Blind fun m : Machine σ => m.follow change := by
  have taken : Blind fun m : Machine σ => { m with poller := change.1 } :=
    ⟨fun _ => rfl, fun _ => rfl, fun _ => rfl, fun _ => rfl⟩
  exact taken.then (.foldl blind_signal change.2)

theorem blind_change (change : Poller → Poller × List Signal) :
    Blind fun m : Machine σ => m.follow (change m.poller) :=
  .depending (fun m : Machine σ => change m.poller) (fun _ => rfl) blind_follow

theorem blind_ticket (job : Nat → Job) :
    Blind fun m : Machine σ => { m.push 0 (job m.tickets) with tickets := m.tickets + 1 } :=
  ⟨fun _ => rfl, fun _ => rfl, fun _ => rfl, fun _ => rfl⟩

theorem blind_obey (command : Command σ) : Blind fun m : Machine σ => m.obey command := by
  cases command with
  | start runId =>
      refine .choosing (fun m : Machine σ => m.poller.start runId) (fun _ => rfl) fun started => ?_
      cases started with
      | error failure =>
          refine ⟨_, blind_id, fun m failed => ?_⟩
          rw [obey, perform, failed]
          rfl
      | ok change =>
          refine ⟨_, blind_follow change, fun m begun => ?_⟩
          rw [obey, perform, begun]
          rfl
  | stop => exact blind_change Poller.stop
  | clear =>
      have forgotten : Blind fun m : Machine σ => { m with nodes := overlayAll m.nodes none } :=
        ⟨fun _ => rfl, fun _ => rfl, fun _ => rfl, fun _ => rfl⟩
      refine .depending (fun m : Machine σ => (m.poller.clear, m.nodes)) (fun _ => rfl)
        (f := fun seen m => { m.follow seen.1 with nodes := overlayAll seen.2 none }) fun seen => ?_
      have replaced : Blind fun m : Machine σ => { m with nodes := overlayAll seen.2 none } :=
        ⟨fun _ => rfl, fun _ => rfl, fun _ => rfl, fun _ => rfl⟩
      exact (blind_follow seen.1).then replaced
  | refresh => exact blind_ticket .refresh
  | wait => exact blind_ticket .wait
  | run graph => exact blind_ticket fun ticket => .submit ticket graph
  | supply source => exact ⟨fun _ => rfl, fun _ => rfl, fun _ => rfl, fun _ => rfl⟩

theorem blind_cancel (id : Nat) : Blind fun m : Machine σ => m.cancel id := by
  refine .choosing (fun m : Machine σ => m.poller.fetch? id) (fun _ => rfl) fun found => ?_
  cases found with
  | none =>
      refine ⟨_, blind_id, fun m gone => ?_⟩
      simp only [cancel, gone]
  | some f =>
      have dropped : Blind fun m : Machine σ => (m.cancelFetch id).follow (m.poller.cancel f) := by
        refine .depending (f := fun p m => (m.cancelFetch id).follow (Poller.cancel p f))
          (fun m : Machine σ => m.poller) (fun _ => rfl) fun p => ?_
        exact (blind_cancelFetch id).then (blind_follow (p.cancel f))
      refine ⟨_, dropped, fun m outstanding => ?_⟩
      simp only [cancel, outstanding]

theorem blind_exchange {ε α : Type} (exchange : Exchange ε α) (source : σ)
    (quiet : ∀ event ∈ exchange.sent, event.update? = none) {now : Machine σ → Machine σ} (blind : Blind now)
    (passes : Nat) (job : Job) :
    Blind fun m : Machine σ =>
      if exchange.delay = some 0 then now ({ m with source }.emit? exchange.sent)
      else ({ m with source }.emit? exchange.sent).schedule exchange.delay passes job := by
  have changed : Blind fun m : Machine σ => { m with source } := ⟨fun _ => rfl, fun _ => rfl, fun _ => rfl, fun _ => rfl⟩
  have sent := changed.then (blind_emit? quiet)
  by_cases prompt : exchange.delay = some 0
  · simp only [prompt, if_true]
    exact sent.then blind
  · simp only [prompt, if_false]
    exact sent.then (blind_schedule exchange.delay passes job)

theorem blind_ask {service : Source σ} (discreet : service.Discreet) (id : Nat) :
    Blind fun m : Machine σ => m.ask service id := by
  refine .choosing (fun m : Machine σ => (m.poller.fetch? id, m.source)) (fun _ => rfl) fun seen => ?_
  obtain ⟨found, source⟩ := seen
  cases found with
  | none =>
      refine ⟨_, blind_id, fun m seen => ?_⟩
      simp only [ask, (Prod.mk.inj seen).1]
  | some f =>
      have asked := blind_exchange (service.status source f.runId).1 (service.status source f.runId).2
        (discreet.status source f.runId)
        (blind_push promptPasses (.answer id (service.status source f.runId).1.result)) answerPasses
        (.answer id (service.status source f.runId).1.result)
      refine ⟨_, asked, fun m seen => ?_⟩
      simp only [ask, (Prod.mk.inj seen).1, (Prod.mk.inj seen).2]

theorem blind_beginRefresh (ticket : Nat) : Blind fun m : Machine σ => m.beginRefresh ticket := by
  refine .choosing (fun m : Machine σ => m.poller.refresh ticket) (fun _ => rfl) fun refreshing => ?_
  cases refreshing with
  | refused failure =>
      refine ⟨_, blind_emit (e := .refreshed (.error failure)) rfl, fun m refused => ?_⟩
      simp only [beginRefresh, refused]
  | skipped =>
      refine ⟨_, blind_emit (e := .refreshed (.ok false)) rfl, fun m skipped => ?_⟩
      simp only [beginRefresh, skipped]
  | begun poller signals =>
      refine ⟨_, blind_follow (poller, signals), fun m begun => ?_⟩
      simp only [beginRefresh, begun]

theorem blind_beginWait (ticket : Nat) : Blind fun m : Machine σ => m.beginWait ticket := by
  refine .choosing (fun m : Machine σ => m.poller.task) (fun _ => rfl) fun task => ?_
  cases task with
  | none =>
      refine ⟨_, blind_emit (e := .waited) rfl, fun m still => ?_⟩
      simp only [beginWait, still]
  | some loop =>
      have waits : Blind fun m : Machine σ => { m with waiting := m.waiting ++ [(ticket, loop)] } :=
        ⟨fun _ => rfl, fun _ => rfl, fun _ => rfl, fun _ => rfl⟩
      refine ⟨_, waits, fun m polling => ?_⟩
      simp only [beginWait, polling]

theorem blind_endSubmission (graph : Graph) (result : Except Failure String) :
    Blind fun m : Machine σ => m.endSubmission graph result := by
  cases result with
  | error failure => exact blind_emit rfl
  | ok runId =>
      have shown : Blind fun m : Machine σ => { m with nodes := graph.nodes } :=
        ⟨fun _ => rfl, fun _ => rfl, fun _ => rfl, fun _ => rfl⟩
      refine .choosing (fun m : Machine σ => m.poller.start runId) (fun _ => rfl) fun started => ?_
      cases started with
      | error failure =>
          refine ⟨_, shown.then (blind_emit (e := .submitted (.error failure)) rfl), fun m failed => ?_⟩
          simp only [endSubmission, failed]
      | ok change =>
          refine ⟨_, (shown.then (blind_follow change)).then (blind_emit (e := .submitted (.ok runId)) rfl),
            fun m begun => ?_⟩
          simp only [endSubmission, begun]

theorem blind_beginSubmission {service : Source σ} (discreet : service.Discreet) (ticket : Nat) (graph : Graph) :
    Blind fun m : Machine σ => m.beginSubmission service ticket graph := by
  by_cases valid : graph.faults = []
  · simp only [beginSubmission, valid, ne_eq, not_true_eq_false, if_false]
    refine .choosing (fun m : Machine σ => m.source) (fun _ => rfl) fun source => ?_
    have sent := blind_exchange (service.submit source graph).1 (service.submit source graph).2
      (discreet.submit source graph) (blind_endSubmission graph (service.submit source graph).1.result) timerPasses
      (.submitted ticket graph (service.submit source graph).1.result)
    refine ⟨_, sent, fun m same => ?_⟩
    simp only [same]
  · simp only [beginSubmission, valid, ne_eq, not_false_eq_true, if_true]
    exact blind_emit rfl

theorem blind_drawFrame : Blind fun m : Machine σ => m.drawFrame := by
  refine .depending (fun m : Machine σ => (m.poller.session, m.nodes)) (fun _ => rfl)
    (f := fun seen m => m.emit (.frame seen.1 seen.2)) fun seen => ?_
  exact blind_emit rfl

theorem blind_endFrames : Blind fun m : Machine σ => m.endFrames := by
  have ended : Blind fun m : Machine σ => { m with frames := { m.frames with finished := true } } :=
    ⟨fun _ => rfl, fun _ => rfl, fun _ => rfl, fun _ => rfl⟩
  exact blind_drawFrame.then ended

theorem blind_stepFrames : Blind fun m : Machine σ => m.stepFrames := by
  refine .depending (fun m : Machine σ => (m.frames.cancelled, m.poller.isActive)) (fun _ => rfl)
    (f := fun seen m =>
      if seen.1 then m.endFrames
      else if seen.2 then m.drawFrame.schedule (some refreshInterval) timerPasses .frame
      else m.drawFrame.endFrames) fun seen => ?_
  obtain ⟨cancelled, active⟩ := seen
  cases cancelled with
  | true => exact blind_endFrames
  | false =>
      cases active with
      | true => exact blind_drawFrame.then (blind_schedule (some refreshInterval) timerPasses .frame)
      | false => exact blind_drawFrame.then blind_endFrames

theorem blind_report (f : Fetch) (applied : Bool) : Blind fun m : Machine σ => m.report f applied := by
  cases requester : f.requester with
  | loop id =>
      simp only [report, requester]
      exact blind_change fun p => p.decide id
  | refresh ticket =>
      simp only [report, requester]
      exact blind_emit rfl

theorem blind_fire (timer : Timer) : Blind fun m : Machine σ => m.fire timer := by
  obtain ⟨due, passes, job⟩ := timer
  have elapsed : ∀ change : Poller → Poller, Blind fun m : Machine σ =>
      { m with now := due, timers := removeTimer due m.timers, poller := change m.poller } :=
    fun _ => ⟨fun _ => rfl, fun _ => rfl, fun _ => rfl, fun _ => rfl⟩
  cases job with
  | enter loop => exact (elapsed fun p => p.rouse loop).then (blind_push passes (.enter loop))
  | _ => exact (elapsed id).then (blind_push passes _)

end Machine

end WorkflowRuns
