import WorkflowRuns.Proofs.Polling.Moves

/-!
What a machine does.  Every command, job and timer is a list of deeds, which are moves of the poller and
graphs taken over; nothing else changes the poller or the nodes.
-/

namespace WorkflowRuns

variable {σ : Type}

namespace Machine

/-- Only what is to be done later may differ. -/
structure Deferred (m n : Machine σ) : Prop where
  poller : n.poller = m.poller
  source : n.source = m.source
  watcher : n.watcher = m.watcher
  trace : n.trace = m.trace

theorem Deferred.refl (m : Machine σ) : Deferred m m := ⟨rfl, rfl, rfl, rfl⟩

theorem Deferred.trans {m n o : Machine σ} (first : Deferred m n) (second : Deferred n o) :
    Deferred m o :=
  ⟨second.poller.trans first.poller, second.source.trans first.source,
    second.watcher.trans first.watcher, second.trace.trans first.trace⟩

theorem deferred_foldl {α : Type} {f : Machine σ → α → Machine σ}
    (each : ∀ m a, Deferred m (f m a)) (m : Machine σ) (items : List α) :
    Deferred m (items.foldl f m) := by
  induction items generalizing m with
  | nil => exact .refl m
  | cons head tail ih => exact (each m head).trans (ih (f m head))

theorem deferred_push (m : Machine σ) (passes : Nat) (job : Job) : Deferred m (m.push passes job) :=
  ⟨rfl, rfl, rfl, rfl⟩

theorem deferred_schedule (m : Machine σ) (delay : Delay) (passes : Nat) (job : Job) :
    Deferred m (m.schedule delay passes job) := by
  cases delay <;> exact ⟨rfl, rfl, rfl, rfl⟩

theorem deferred_cancelSleep (m : Machine σ) (loop : Nat) : Deferred m (m.cancelSleep loop) :=
  ⟨rfl, rfl, rfl, rfl⟩

theorem deferred_announceEnd (m : Machine σ) (loop : Nat) : Deferred m (m.announceEnd loop) := by
  have told := deferred_foldl (fun (m : Machine σ) (waiter : Nat × Nat) =>
    deferred_push m endedPasses (.waited waiter.1))
    { m with waiting := (m.waiting.partition (·.2 = loop)).2 } (m.waiting.partition (·.2 = loop)).1
  exact ⟨told.poller, told.source, told.watcher, told.trace⟩

theorem deferred_signal (m : Machine σ) (signal : Signal) : Deferred m (m.signal signal) := by
  cases signal with
  | spawned loop => exact deferred_push m 0 (.enter loop)
  | woken loop =>
      exact (deferred_cancelSleep m loop).trans (deferred_push _ wokenPasses (.enter loop))
  | calledOff loop =>
      exact (deferred_cancelSleep m loop).trans (deferred_push _ dropPasses (.drop loop))
  | ended loop => exact (deferred_cancelSleep m loop).trans (deferred_announceEnd _ loop)
  | fetching fetch =>
      exact (deferred_push m 0 (.ask fetch.id)).trans (deferred_schedule _ _ _ _)
  | sleeping loop delay => exact deferred_schedule m delay.delay sleepPasses (.enter loop)

theorem deferred_follow (m : Machine σ) (change : Poller × List Signal) :
    Deferred { m with poller := change.1 } (m.follow change) :=
  deferred_foldl deferred_signal _ change.2

theorem follow_poller (m : Machine σ) (change : Poller × List Signal) :
    (m.follow change).poller = change.1 :=
  (deferred_follow m change).poller

theorem follow_trace (m : Machine σ) (change : Poller × List Signal) :
    (m.follow change).trace = m.trace :=
  (deferred_follow m change).trace

end Machine

def Poller.change (p : Poller) : Poller.Move → Poller × List Signal
  | .start runId =>
      match p.start runId with
      | .ok change => change
      | .error _ => (p, [])
  | .stop => p.stop
  | .clear => p.clear
  | .refresh ticket =>
      match p.refresh ticket with
      | .begun begun signals => (begun, signals)
      | _ => (p, [])
  | .enter loop => p.enter loop
  | .decide loop => p.decide loop
  | .drop loop => p.drop loop
  | .cancel fetch =>
      match p.fetch? fetch with
      | some f => p.cancel f
      | none => (p, [])
  | move => (p.move move, [])

theorem Poller.change_move (p : Poller) (move : Poller.Move) : (p.change move).1 = p.move move := by
  cases move with
  | start runId => cases started : p.start runId <;> simp [Poller.change, Poller.move, started]
  | refresh ticket => cases began : p.refresh ticket <;> simp [Poller.change, Poller.move, began]
  | cancel fetch => cases found : p.fetch? fetch <;> simp [Poller.change, Poller.move, found]
  | _ => rfl

/-- A move of the poller, or a graph that was accepted under a run id. -/
inductive Deed
  | move (move : Poller.Move)
  | accept (graph : Graph) (runId : String)

namespace Deed

def toMove : Deed → Poller.Move
  | .move single => single
  | .accept _ runId => .start runId

def nodes (before : List Node) : Deed → List Node
  | .move .clear => overlayAll before none
  | .move _ => before
  | .accept graph _ => graph.nodes

end Deed

def Command.deeds : Command σ → List Deed
  | .start runId => [.move (.start runId)]
  | .stop => [.move .stop]
  | .clear => [.move .clear]
  | _ => []

namespace Machine

def tidied (m : Machine σ) : Poller.Move → Machine σ
  | .settle id _ => if (m.poller.fetch? id).isSome then m.cancelFetch id else m
  | .cancel id => if (m.poller.fetch? id).isSome then m.cancelFetch id else m
  | _ => m

def doing (m : Machine σ) : Deed → Machine σ
  | .move .clear => { m.follow m.poller.clear with nodes := overlayAll m.nodes none }
  | .move move => (m.tidied move).follow (m.poller.change move)
  | .accept graph runId => ({ m with nodes := graph.nodes } : Machine σ).follow (m.poller.change (.start runId))

/-- Only timers of loops that need none any more may be lost. -/
structure Signalled (m n : Machine σ) : Prop where
  now : n.now = m.now
  nodes : n.nodes = m.nodes
  queue : ∀ queued ∈ m.queue, queued ∈ n.queue
  timers : ∀ timer ∈ m.timers, timer ∈ n.timers ∨ ∃ loop, timer.job = .enter loop

theorem Signalled.refl (m : Machine σ) : Signalled m m :=
  ⟨rfl, rfl, fun _ member => member, fun _ member => Or.inl member⟩

theorem Signalled.trans {m n o : Machine σ} (first : Signalled m n) (second : Signalled n o) :
    Signalled m o := by
  refine ⟨second.now.trans first.now, second.nodes.trans first.nodes,
    fun q member => second.queue q (first.queue q member), ?_⟩
  intro timer member
  rcases first.timers timer member with kept | wakes
  · exact second.timers timer kept
  · exact Or.inr wakes

theorem signalled_foldl {α : Type} {f : Machine σ → α → Machine σ} (each : ∀ m a, Signalled m (f m a))
    (m : Machine σ) (items : List α) : Signalled m (items.foldl f m) := by
  induction items generalizing m with
  | nil => exact .refl m
  | cons head tail ih => exact (each m head).trans (ih (f m head))

theorem signalled_push (m : Machine σ) (passes : Nat) (job : Job) : Signalled m (m.push passes job) :=
  ⟨rfl, rfl, fun _ member => List.mem_append_left _ member, fun _ member => Or.inl member⟩

theorem signalled_schedule (m : Machine σ) (delay : Delay) (passes : Nat) (job : Job) :
    Signalled m (m.schedule delay passes job) := by
  cases delay with
  | none => exact .refl m
  | some seconds =>
      exact ⟨rfl, rfl, fun _ member => member, fun _ member => Or.inl (List.mem_append_left _ member)⟩

theorem signalled_cancelSleep (m : Machine σ) (loop : Nat) : Signalled m (m.cancelSleep loop) := by
  refine ⟨rfl, rfl, fun _ member => member, ?_⟩
  intro timer member
  by_cases wakes : timer.job.wakes loop = true
  · right
    cases job : timer.job with
    | enter other => exact ⟨other, rfl⟩
    | _ =>
        rw [job] at wakes
        cases wakes
  · exact Or.inl (List.mem_filter.mpr ⟨member, by simpa using wakes⟩)

theorem signalled_announceEnd (m : Machine σ) (loop : Nat) : Signalled m (m.announceEnd loop) := by
  have told := signalled_foldl (fun (m : Machine σ) (waiter : Nat × Nat) =>
    signalled_push m endedPasses (.waited waiter.1))
    { m with waiting := (m.waiting.partition (·.2 = loop)).2 } (m.waiting.partition (·.2 = loop)).1
  exact ⟨told.now, told.nodes, told.queue, told.timers⟩

theorem signalled_signal (m : Machine σ) (signal : Signal) : Signalled m (m.signal signal) := by
  cases signal with
  | spawned loop => exact signalled_push m 0 (.enter loop)
  | woken loop =>
      exact (signalled_cancelSleep m loop).trans (signalled_push _ wokenPasses (.enter loop))
  | calledOff loop =>
      exact (signalled_cancelSleep m loop).trans (signalled_push _ dropPasses (.drop loop))
  | ended loop => exact (signalled_cancelSleep m loop).trans (signalled_announceEnd _ loop)
  | fetching fetch =>
      exact (signalled_push m 0 (.ask fetch.id)).trans (signalled_schedule _ _ _ _)
  | sleeping loop delay => exact signalled_schedule m delay.delay sleepPasses (.enter loop)

theorem signalled_follow (m : Machine σ) (change : Poller × List Signal) : Signalled m (m.follow change) := by
  have signals := signalled_foldl signalled_signal { m with poller := change.1 } change.2
  exact ⟨signals.now, signals.nodes, signals.queue, signals.timers⟩

theorem tidied_spec (m : Machine σ) (move : Poller.Move) : ∃ timers, m.tidied move = { m with timers } := by
  have cancelled : ∀ id, ∃ timers,
      (if (m.poller.fetch? id).isSome then m.cancelFetch id else m) = { m with timers } := by
    intro id
    split
    · exact ⟨_, rfl⟩
    · exact ⟨m.timers, rfl⟩
  cases move with
  | settle id answer => exact cancelled id
  | cancel id => exact cancelled id
  | _ => exact ⟨m.timers, rfl⟩

theorem doing_follow (m : Machine σ) (deed : Deed) : ∃ before after, m.doing deed =
    { ({ m.tidied deed.toMove with nodes := before } : Machine σ).follow (m.poller.change deed.toMove) with
      nodes := after } := by
  have others : ∀ move, ∃ before after, (m.tidied move).follow (m.poller.change move) =
      { ({ m.tidied move with nodes := before } : Machine σ).follow (m.poller.change move) with nodes := after } :=
    fun move => ⟨(m.tidied move).nodes, ((m.tidied move).follow (m.poller.change move)).nodes, rfl⟩
  cases deed with
  | accept graph runId => exact ⟨graph.nodes, _, rfl⟩
  | move move =>
      cases move with
      | clear => exact ⟨m.nodes, overlayAll m.nodes none, rfl⟩
      | _ => exact others _

theorem doing_poller (m : Machine σ) (deed : Deed) : (m.doing deed).poller = m.poller.move deed.toMove := by
  obtain ⟨before, after, same⟩ := m.doing_follow deed
  rw [same, ← Poller.change_move]
  exact follow_poller _ _

theorem doing_now (m : Machine σ) (deed : Deed) : (m.doing deed).now = m.now := by
  obtain ⟨before, after, same⟩ := m.doing_follow deed
  obtain ⟨timers, tidied⟩ := m.tidied_spec deed.toMove
  have follows := signalled_follow ({ m with timers, nodes := before } : Machine σ) (m.poller.change deed.toMove)
  rw [same, tidied]
  exact follows.now

theorem doing_watcher (m : Machine σ) (deed : Deed) : (m.doing deed).watcher = m.watcher := by
  obtain ⟨before, after, same⟩ := m.doing_follow deed
  obtain ⟨timers, tidied⟩ := m.tidied_spec deed.toMove
  have follows := deferred_follow ({ m with timers, nodes := before } : Machine σ) (m.poller.change deed.toMove)
  rw [same, tidied]
  exact follows.watcher

theorem doing_queue (m : Machine σ) (deed : Deed) : ∀ queued ∈ m.queue, queued ∈ (m.doing deed).queue := by
  obtain ⟨before, after, same⟩ := m.doing_follow deed
  obtain ⟨timers, tidied⟩ := m.tidied_spec deed.toMove
  have follows := signalled_follow ({ m with timers, nodes := before } : Machine σ) (m.poller.change deed.toMove)
  rw [same, tidied]
  exact follows.queue

theorem doing_nodes (m : Machine σ) (deed : Deed) : (m.doing deed).nodes = deed.nodes m.nodes := by
  have same : ∀ move, ((m.tidied move).follow (m.poller.change move)).nodes = m.nodes := by
    intro move
    obtain ⟨timers, tidied⟩ := m.tidied_spec move
    rw [tidied]
    exact (signalled_follow _ _).nodes
  cases deed with
  | accept graph runId => exact (signalled_follow _ _).nodes
  | move move =>
      cases move with
      | clear => rfl
      | _ => exact same _

structure Beside (m n : Machine σ) : Prop where
  now : n.now = m.now
  poller : n.poller = m.poller
  nodes : n.nodes = m.nodes
  watcher : n.watcher = m.watcher
  queue : ∀ queued ∈ m.queue, queued ∈ n.queue
  timers : ∀ timer ∈ m.timers, timer ∈ n.timers

/-- The one machine becomes the other by these deeds; loops are roused by timers only. -/
inductive Does : Machine σ → List Deed → Machine σ → Prop
  | beside {m n : Machine σ} (beside : Beside m n) : Does m [] n
  | deed (m : Machine σ) (deed : Deed) (other : ∀ loop, deed ≠ .move (.rouse loop)) :
      Does m [deed] (m.doing deed)
  | trans {m n o : Machine σ} {first second : List Deed} (before : Does m first n)
      (later : Does n second o) : Does m (first ++ second) o

theorem Beside.refl (m : Machine σ) : Beside m m :=
  ⟨rfl, rfl, rfl, rfl, fun _ member => member, fun _ member => member⟩

theorem Beside.trans {m n o : Machine σ} (first : Beside m n) (second : Beside n o) : Beside m o :=
  ⟨second.now.trans first.now, second.poller.trans first.poller, second.nodes.trans first.nodes,
    second.watcher.trans first.watcher, fun q member => second.queue q (first.queue q member),
    fun t member => second.timers t (first.timers t member)⟩

theorem Does.refl (m : Machine σ) : Does m [] m := .beside (.refl m)

theorem Does.then {m n o : Machine σ} {deeds : List Deed} (does : Does m deeds n) (beside : Beside n o) :
    Does m deeds o := by
  have both := does.trans (.beside beside)
  rwa [List.append_nil] at both

theorem Does.before {m n o : Machine σ} {deeds : List Deed} (beside : Beside m n) (does : Does n deeds o) :
    Does m deeds o :=
  (Does.beside beside).trans does

theorem beside_emit (m : Machine σ) (event : Event) : Beside m (m.emit event) :=
  ⟨rfl, rfl, rfl, rfl, fun _ member => member, fun _ member => member⟩

theorem beside_complain (m : Machine σ) (runId : Option String) (fails : Bool) :
    Beside m (m.complain runId fails) := by
  obtain ⟨complaints, same⟩ := m.complain_spec runId fails
  rw [same]
  exact ⟨rfl, rfl, rfl, rfl, fun _ member => member, fun _ member => member⟩

theorem beside_emit? (m : Machine σ) (event : Option Event) : Beside m (m.emit? event) := by
  cases event with
  | none => exact .refl m
  | some event => exact beside_emit m event

theorem beside_asking (m : Machine σ) (source : σ) (event : Option Event) :
    Beside m (({ m with source } : Machine σ).emit? event) := by
  have changed : Beside m { m with source } :=
    ⟨rfl, rfl, rfl, rfl, fun _ member => member, fun _ member => member⟩
  exact changed.trans (beside_emit? { m with source } event)

theorem beside_push (m : Machine σ) (passes : Nat) (job : Job) : Beside m (m.push passes job) :=
  ⟨rfl, rfl, rfl, rfl, fun _ member => List.mem_append_left _ member, fun _ member => member⟩

theorem beside_schedule (m : Machine σ) (delay : Delay) (passes : Nat) (job : Job) :
    Beside m (m.schedule delay passes job) := by
  cases delay with
  | none => exact .refl m
  | some seconds =>
      exact ⟨rfl, rfl, rfl, rfl, fun _ member => member, fun _ member => List.mem_append_left _ member⟩

theorem start_doing (m : Machine σ) (runId : String) : m.obey (.start runId) = m.doing (.move (.start runId)) := by
  cases started : m.poller.start runId <;>
    simp [doing, tidied, obey, perform, Poller.change, started, Except.map, follow]

theorem cancel_doing (m : Machine σ) (id : Nat) : m.cancel id = m.doing (.move (.cancel id)) := by
  cases found : m.poller.fetch? id <;> simp [doing, tidied, cancel, Poller.change, found, follow]

theorem settle_doing {m : Machine σ} {id : Nat} {f : Fetch} (found : m.poller.fetch? id = some f) (answer : Answer) :
    (m.settle id fun f => m.poller.outcome f answer) =
      (if m.poller.isCurrent f.generation then (m.doing (.move (.settle id answer))).notify
        else m.doing (.move (.settle id answer))).report f
          (m.poller.isCurrent f.generation && isOk (m.poller.outcome f answer)) := by
  have same : m.doing (.move (.settle id answer)) =
      { m.cancelFetch id with poller := m.poller.settle f (m.poller.outcome f answer) } := by
    simp [doing, tidied, found, Poller.change, Poller.move, follow]
  simp only [Machine.settle, found, same]

theorem does_obey (m : Machine σ) (command : Command σ) : Does m command.deeds (m.obey command) := by
  cases command with
  | start runId =>
      rw [start_doing]
      exact .deed m (.move (.start runId)) nofun
  | stop => exact .deed m (.move .stop) nofun
  | clear => exact .deed m (.move .clear) nofun
  | supply source => exact .beside ⟨rfl, rfl, rfl, rfl, fun _ member => member, fun _ member => member⟩
  | _ =>
      exact .beside ⟨rfl, rfl, rfl, rfl, fun _ member => List.mem_append_left _ member, fun _ member => member⟩

theorem does_commands (m : Machine σ) (commands : List (Command σ)) :
    Does m (commands.flatMap Command.deeds) (commands.foldl obey m) := by
  induction commands generalizing m with
  | nil => exact .refl m
  | cons head tail ih => exact (does_obey m head).trans (ih (m.obey head))

def reactions (m : Machine σ) : List Deed :=
  match m.watcher with
  | none => []
  | some react => (react m.poller.session).commands.flatMap Command.deeds

theorem does_notify (m : Machine σ) : Does m m.reactions m.notify := by
  cases watched : m.watcher with
  | none =>
      simp only [reactions, notify, watched]
      exact .refl m
  | some react =>
      simp only [reactions, notify, watched]
      exact (Does.before (beside_emit m _) (does_commands _ _)).then (beside_complain _ _ _)

def decisions (f : Fetch) : List Deed :=
  match f.requester with
  | .loop id => [.move (.decide id)]
  | .refresh _ => []

theorem does_report (m : Machine σ) (f : Fetch) (applied : Bool) :
    Does m (decisions f) (m.report f applied) := by
  cases requester : f.requester with
  | loop id =>
      simp only [decisions, report, requester]
      exact .deed m (.move (.decide id)) nofun
  | refresh ticket =>
      simp only [decisions, report, requester]
      exact .beside (beside_emit m _)

def settling (m : Machine σ) (id : Nat) (answer : Answer) : List Deed :=
  match m.poller.fetch? id with
  | none => []
  | some f =>
      .move (.settle id answer) ::
        ((if m.poller.isCurrent f.generation then (m.doing (.move (.settle id answer))).reactions else [])
          ++ decisions f)

theorem does_settle (m : Machine σ) (id : Nat) (answer : Answer) :
    Does m (m.settling id answer) (m.settle id fun f => m.poller.outcome f answer) := by
  cases found : m.poller.fetch? id with
  | none =>
      simp only [settling, settle, found]
      exact .refl m
  | some f =>
      rw [settle_doing found]
      simp only [settling, found]
      apply (Does.deed m (.move (.settle id answer)) nofun).trans
      apply Does.trans _ (does_report _ f _)
      split
      · exact does_notify _
      · exact .refl _

theorem does_cancel (m : Machine σ) (id : Nat) : Does m [.move (.cancel id)] (m.cancel id) := by
  rw [cancel_doing]
  exact .deed m (.move (.cancel id)) nofun

theorem beside_ask (service : Source σ) (m : Machine σ) (id : Nat) : Beside m (m.ask service id) := by
  unfold ask
  split
  next => exact .refl m
  next f _ =>
    have asked := beside_asking m (service.status m.source f.runId).2 (service.status m.source f.runId).1.sent
    simp only
    split
    · exact asked.trans (beside_push _ _ _)
    · exact asked.trans (beside_schedule _ _ _ _)

theorem does_beginRefresh (m : Machine σ) (ticket : Nat) :
    Does m [.move (.refresh ticket)] (m.beginRefresh ticket) := by
  have done := Does.deed m (.move (.refresh ticket)) nofun
  unfold beginRefresh
  simp only [doing, tidied, Poller.change] at done
  split
  next failure refused =>
    rw [refused] at done
    exact done.then (beside_emit m _)
  next skipped =>
    rw [skipped] at done
    exact done.then (beside_emit m _)
  next begun =>
    rw [begun] at done
    exact done

theorem beside_beginWait (m : Machine σ) (ticket : Nat) : Beside m (m.beginWait ticket) := by
  unfold beginWait
  split
  · exact beside_emit m _
  · exact ⟨rfl, rfl, rfl, rfl, fun _ member => member, fun _ member => member⟩

def submission (graph : Graph) : Except Failure String → List Deed
  | .ok runId => [.accept graph runId]
  | .error _ => []

theorem does_endSubmission (m : Machine σ) (graph : Graph) (result : Except Failure String) :
    Does m (submission graph result) (m.endSubmission graph result) := by
  cases result with
  | error failure => exact .beside (beside_emit m _)
  | ok runId =>
      have done := Does.deed m (.accept graph runId) nofun
      cases started : m.poller.start runId with
      | error failure =>
          simp only [doing, Poller.change, started] at done
          simp only [endSubmission, started]
          exact done.then (beside_emit _ _)
      | ok change =>
          simp only [doing, Poller.change, started] at done
          simp only [endSubmission, started]
          exact done.then (beside_emit _ _)

def submitting (service : Source σ) (m : Machine σ) (graph : Graph) : List Deed :=
  if graph.faults = [] ∧ (service.submit m.source graph).1.delay = some 0 then
    submission graph (service.submit m.source graph).1.result
  else []

theorem does_beginSubmission (service : Source σ) (m : Machine σ) (ticket : Nat) (graph : Graph) :
    Does m (m.submitting service graph) (m.beginSubmission service ticket graph) := by
  unfold submitting beginSubmission
  by_cases faults : graph.faults = []
  · have sent := beside_asking m (service.submit m.source graph).2 (service.submit m.source graph).1.sent
    simp only [faults, ne_eq, not_true_eq_false, if_false, true_and]
    split
    · exact .before sent (does_endSubmission _ graph _)
    · exact .beside (sent.trans (beside_schedule _ _ _ _))
  · simp only [faults, ne_eq, not_false_eq_true, if_true, false_and, if_false]
    exact .beside (beside_emit m _)

theorem beside_stepFrames (m : Machine σ) : Beside m m.stepFrames := by
  have ends : ∀ n : Machine σ, Beside n n.endFrames := fun n =>
    ⟨rfl, rfl, rfl, rfl, fun _ member => member, fun _ member => member⟩
  unfold stepFrames
  split
  · exact ends m
  · simp only
    split
    · exact (beside_emit m _).trans (beside_schedule _ _ _ _)
    · exact (beside_emit m _).trans (ends _)

def jobDeeds (service : Source σ) (m : Machine σ) : Job → List Deed
  | .enter loop => [.move (.enter loop)]
  | .drop loop => [.move (.drop loop)]
  | .answer fetch result => m.settling fetch (.given result)
  | .expire fetch => m.settling fetch .timedOut
  | .refresh ticket => [.move (.refresh ticket)]
  | .submit _ graph => m.submitting service graph
  | .submitted _ graph result => submission graph result
  | _ => []

theorem does_runJob (service : Source σ) (m : Machine σ) (job : Job) :
    Does m (m.jobDeeds service job) (m.runJob service job) := by
  cases job with
  | enter loop => exact .deed m (.move (.enter loop)) nofun
  | drop loop => exact .deed m (.move (.drop loop)) nofun
  | ask fetch => exact .beside (beside_ask service m fetch)
  | answer fetch result => exact does_settle m fetch (.given result)
  | expire fetch => exact does_settle m fetch .timedOut
  | refresh ticket => exact does_beginRefresh m ticket
  | wait ticket => exact .beside (beside_beginWait m ticket)
  | waited ticket => exact .beside (beside_emit m _)
  | submit ticket graph => exact does_beginSubmission service m ticket graph
  | submitted ticket graph result => exact does_endSubmission m graph result
  | frame => exact .beside (beside_stepFrames m)
  | cancelFrames => exact .beside ⟨rfl, rfl, rfl, rfl, fun _ member => member, fun _ member => member⟩

def rousing : Job → List Deed
  | .enter loop => [.move (.rouse loop)]
  | _ => []

def stepDeeds (service : Source σ) (m : Machine σ) : List Deed :=
  match m.queue with
  | next :: rest =>
      match next.passes with
      | 0 => ({ m with queue := rest } : Machine σ).jobDeeds service next.job
      | _ + 1 => []
  | [] =>
      match earliest m.timers with
      | some timer => rousing timer.job
      | none => []

end Machine

end WorkflowRuns
