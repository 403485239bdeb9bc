import WorkflowRuns.Proofs.Polling.Execution
import WorkflowRuns.Proofs.Polling.Timers

/-!
The jobs of a submission.  They bear its ticket, and whatever else a machine does leaves them alone.
-/

namespace WorkflowRuns

def Job.belongs (ticket : Nat) : Job → Bool
  | .submit other _ => other = ticket
  | .submitted other _ _ => other = ticket
  | _ => false

theorem Job.belongs_elsewhere (job : Job) : ∃ ticket, job.belongs ticket = false := by
  cases job with
  | submit other graph => exact ⟨other + 1, by simp [belongs]⟩
  | submitted other graph result => exact ⟨other + 1, by simp [belongs]⟩
  | _ => exact ⟨0, rfl⟩

theorem Job.belongs_of_wakes {ticket loop : Nat} {job : Job} (own : job.belongs ticket = true) :
    job.wakes loop = false := by
  cases job with
  | enter other => cases own
  | _ => rfl

theorem Job.belongs_of_concerns {ticket fetch : Nat} {job : Job} (own : job.belongs ticket = true) :
    job.concerns fetch = false := by
  cases job with
  | answer id result => cases own
  | expire id => cases own
  | _ => rfl

namespace Machine

variable {σ : Type}

/-- What is left to do of the submission with this ticket. -/
def tasks (m : Machine σ) (ticket : Nat) : List Job :=
  (m.queue.map Queued.job ++ m.timers.map Timer.job).filter (Job.belongs ticket)

/-- Nothing is lost of the submission, and nothing is new, unless it was ticketed meanwhile. -/
structure Apart (ticket : Nat) (m n : Machine σ) : Prop where
  now : n.now = m.now
  tickets : m.tickets ≤ n.tickets
  queue : ∃ more, n.queue = m.queue ++ more ∧
    ∀ queued ∈ more, queued.job.belongs ticket = true → m.tickets ≤ ticket ∧ ticket < n.tickets
  timers : n.timers.filter (·.job.belongs ticket) = m.timers.filter (·.job.belongs ticket)

variable {ticket : Nat}

theorem Apart.trans {m n o : Machine σ} (first : Apart ticket m n) (second : Apart ticket n o) :
    Apart ticket m o := by
  obtain ⟨early, queue, former⟩ := first.queue
  obtain ⟨late, queue', latter⟩ := second.queue
  have before := first.tickets
  have behind := second.tickets
  refine ⟨second.now.trans first.now, before.trans behind, ⟨early ++ late, ?_, ?_⟩,
    second.timers.trans first.timers⟩
  · rw [queue', queue, List.append_assoc]
  · intro queued member own
    rcases List.mem_append.mp member with inside | inside
    · have ticketed := former queued inside own
      omega
    · have ticketed := latter queued inside own
      omega

theorem apart_same {m n : Machine σ} (now : n.now = m.now) (tickets : n.tickets = m.tickets)
    (queue : n.queue = m.queue) (timers : n.timers = m.timers) : Apart ticket m n := by
  refine ⟨now, by omega, ⟨[], ?_, nofun⟩, by rw [timers]⟩
  rw [queue, List.append_nil]

theorem Apart.refl (m : Machine σ) : Apart ticket m m := apart_same rfl rfl rfl rfl

theorem apart_foldl {α : Type} {f : Machine σ → α → Machine σ} (each : ∀ m a, Apart ticket m (f m a))
    (m : Machine σ) (items : List α) : Apart ticket m (items.foldl f m) := by
  induction items generalizing m with
  | nil => exact .refl m
  | cons head tail ih => exact (each m head).trans (ih (f m head))

theorem Apart.tasks {m n : Machine σ} (apart : Apart ticket m n) (ticketed : ticket < m.tickets ∨ n.tickets ≤ ticket) :
    n.tasks ticket = m.tasks ticket := by
  obtain ⟨more, queue, new⟩ := apart.queue
  have foreign : (more.map Queued.job).filter (Job.belongs ticket) = [] := by
    rw [List.filter_eq_nil_iff]
    intro job member own
    obtain ⟨queued, inside, rfl⟩ := List.mem_map.mp member
    have ticketed' := new queued inside own
    omega
  have timed : (n.timers.map Timer.job).filter (Job.belongs ticket) =
      (m.timers.map Timer.job).filter (Job.belongs ticket) := by
    rw [List.filter_map, List.filter_map]
    exact congrArg (List.map Timer.job) apart.timers
  simp only [Machine.tasks, queue, List.map_append, List.filter_append, foreign, timed, List.append_nil]

theorem apart_push (m : Machine σ) (passes : Nat) {job : Job} (foreign : job.belongs ticket = false) :
    Apart ticket m (m.push passes job) := by
  refine ⟨rfl, le_refl _, ⟨[⟨passes, job⟩], rfl, ?_⟩, rfl⟩
  intro queued member own
  rw [List.mem_singleton.mp member, foreign] at own
  cases own

theorem apart_schedule (m : Machine σ) (delay : Delay) (passes : Nat) {job : Job}
    (foreign : job.belongs ticket = false) : Apart ticket m (m.schedule delay passes job) := by
  cases delay with
  | none => exact .refl m
  | some seconds =>
      refine ⟨rfl, le_refl _, ⟨[], (List.append_nil _).symm, nofun⟩, ?_⟩
      simp [schedule, foreign]

theorem apart_filter (m : Machine σ) {kept : Timer → Bool}
    (own : ∀ timer : Timer, timer.job.belongs ticket = true → kept timer = true) :
    Apart ticket m { m with timers := m.timers.filter kept } := by
  refine ⟨rfl, le_refl _, ⟨[], (List.append_nil _).symm, nofun⟩, ?_⟩
  rw [List.filter_filter]
  apply List.filter_congr
  intro timer _
  cases belongs : timer.job.belongs ticket with
  | false => rfl
  | true => rw [own timer belongs, Bool.and_true]

theorem apart_cancelSleep (m : Machine σ) (loop : Nat) : Apart ticket m (m.cancelSleep loop) :=
  apart_filter m fun _ own => by simp [Job.belongs_of_wakes own]

theorem apart_cancelFetch (m : Machine σ) (fetch : Nat) : Apart ticket m (m.cancelFetch fetch) :=
  apart_filter m fun _ own => by simp [Job.belongs_of_concerns own]

theorem apart_announceEnd (m : Machine σ) (loop : Nat) : Apart ticket m (m.announceEnd loop) := by
  have pushed : ∀ (m : Machine σ) (waiter : Nat × Nat), Apart ticket m (m.push endedPasses (.waited waiter.1)) :=
    fun m waiter => apart_push m endedPasses rfl
  have told := apart_foldl pushed { m with waiting := (m.waiting.partition (·.2 = loop)).2 }
    (m.waiting.partition (·.2 = loop)).1
  exact ⟨told.now, told.tickets, told.queue, told.timers⟩

theorem apart_signal (m : Machine σ) (signal : Signal) : Apart ticket m (m.signal signal) := by
  cases signal with
  | spawned loop => exact apart_push m 0 rfl
  | woken loop => exact (apart_cancelSleep m loop).trans (apart_push _ wokenPasses rfl)
  | calledOff loop => exact (apart_cancelSleep m loop).trans (apart_push _ dropPasses rfl)
  | ended loop => exact (apart_cancelSleep m loop).trans (apart_announceEnd _ loop)
  | fetching fetch => exact (apart_push m 0 rfl).trans (apart_schedule _ _ _ rfl)
  | sleeping loop delay => exact apart_schedule m delay.delay sleepPasses rfl

theorem apart_follow (m : Machine σ) (change : Poller × List Signal) : Apart ticket m (m.follow change) := by
  have signals : Apart ticket { m with poller := change.1 } (m.follow change) := apart_foldl apart_signal _ change.2
  exact ⟨signals.now, signals.tickets, signals.queue, signals.timers⟩

theorem apart_emit? (m : Machine σ) (source : σ) (event : Option Event) :
    Apart ticket m (({ m with source } : Machine σ).emit? event) := by
  cases event <;> exact apart_same rfl rfl rfl rfl

theorem apart_ticketed (m : Machine σ) {job : Job} (own : job.belongs ticket = true → ticket = m.tickets) :
    Apart ticket m { m.push 0 job with tickets := m.tickets + 1 } := by
  refine ⟨rfl, Nat.le_succ _, ⟨[⟨0, job⟩], rfl, ?_⟩, rfl⟩
  intro queued member belongs
  rw [List.mem_singleton.mp member] at belongs
  rw [own belongs]
  exact ⟨le_refl _, Nat.lt_succ_self _⟩

theorem apart_obey (m : Machine σ) (command : Command σ) : Apart ticket m (m.obey command) := by
  cases command with
  | start runId =>
      cases started : m.poller.start runId with
      | error failure =>
          have refused : m.perform (.start runId) = .error failure := by
            rw [perform, started]
            rfl
          rw [obey, refused]
          exact .refl m
      | ok change =>
          have followed : m.perform (.start runId) = .ok (m.follow change) := by
            rw [perform, started]
            rfl
          rw [obey, followed]
          exact apart_follow m change
  | stop => exact apart_follow m m.poller.stop
  | clear =>
      have followed : Apart ticket m (m.follow m.poller.clear) := apart_follow m _
      exact ⟨followed.now, followed.tickets, followed.queue, followed.timers⟩
  | refresh => exact apart_ticketed m fun own => absurd own Bool.false_ne_true
  | wait => exact apart_ticketed m fun own => absurd own Bool.false_ne_true
  | run graph => exact apart_ticketed m fun own => (by simpa [Job.belongs] using own : m.tickets = ticket).symm
  | supply source => exact apart_same rfl rfl rfl rfl

theorem apart_notify (m : Machine σ) : Apart ticket m m.notify := by
  unfold notify
  split
  · exact .refl m
  next react _ =>
    have told : Apart ticket m (m.emit (.update m.poller.session)) := apart_same rfl rfl rfl rfl
    apply (told.trans (apart_foldl apart_obey _ (react m.poller.session).commands)).trans
    obtain ⟨complaints, same⟩ := complain_spec (σ := σ) _ m.poller.session.runId (react m.poller.session).fails
    rw [same]
    exact apart_same rfl rfl rfl rfl

theorem apart_report (m : Machine σ) (f : Fetch) (applied : Bool) : Apart ticket m (m.report f applied) := by
  unfold report
  split
  · exact apart_follow m _
  · exact apart_same rfl rfl rfl rfl

theorem apart_settle (m : Machine σ) (id : Nat) (outcome : Fetch → Except Failure Snapshot) :
    Apart ticket m (m.settle id outcome) := by
  unfold settle
  split
  next => exact .refl m
  next f _ =>
    have settled : Apart ticket m { m.cancelFetch id with poller := m.poller.settle f (outcome f) } :=
      (apart_cancelFetch m id).trans (apart_same rfl rfl rfl rfl)
    apply Apart.trans _ (apart_report _ f _)
    split
    · exact settled.trans (apart_notify _)
    · exact settled

theorem apart_cancel (m : Machine σ) (id : Nat) : Apart ticket m (m.cancel id) := by
  unfold cancel
  split
  · exact .refl m
  · exact (apart_cancelFetch m id).trans (apart_follow _ _)

theorem apart_ask (service : Source σ) (m : Machine σ) (id : Nat) : Apart ticket m (m.ask service id) := by
  unfold ask
  split
  next => exact .refl m
  next f _ =>
    simp only
    split
    · exact (apart_emit? m _ _).trans (apart_push _ _ rfl)
    · exact (apart_emit? m _ _).trans (apart_schedule _ _ _ rfl)

theorem apart_beginRefresh (m : Machine σ) (other : Nat) : Apart ticket m (m.beginRefresh other) := by
  unfold beginRefresh
  split
  · exact apart_same rfl rfl rfl rfl
  · exact apart_same rfl rfl rfl rfl
  · exact apart_follow m _

theorem apart_beginWait (m : Machine σ) (other : Nat) : Apart ticket m (m.beginWait other) := by
  unfold beginWait
  split <;> exact apart_same rfl rfl rfl rfl

theorem apart_stepFrames (m : Machine σ) : Apart ticket m m.stepFrames := by
  unfold stepFrames
  split
  · exact apart_same rfl rfl rfl rfl
  · simp only
    split
    · exact (apart_same rfl rfl rfl rfl : Apart ticket m m.drawFrame).trans (apart_schedule _ _ _ rfl)
    · exact apart_same rfl rfl rfl rfl

theorem apart_endSubmission (m : Machine σ) (graph : Graph) (result : Except Failure String) :
    Apart ticket m (m.endSubmission graph result) := by
  unfold endSubmission
  split
  · exact apart_same rfl rfl rfl rfl
  · simp only
    split
    next change _ =>
      have followed : Apart ticket m (({ m with nodes := graph.nodes } : Machine σ).follow change) :=
        (apart_same rfl rfl rfl rfl : Apart ticket m { m with nodes := graph.nodes }).trans (apart_follow _ change)
      exact ⟨followed.now, followed.tickets, followed.queue, followed.timers⟩
    · exact apart_same rfl rfl rfl rfl

theorem apart_beginSubmission (service : Source σ) (m : Machine σ) {other : Nat} (foreign : other ≠ ticket)
    (graph : Graph) : Apart ticket m (m.beginSubmission service other graph) := by
  unfold beginSubmission
  split
  · exact apart_same rfl rfl rfl rfl
  · simp only
    split
    · exact (apart_emit? m _ _).trans (apart_endSubmission _ graph _)
    · exact (apart_emit? m _ _).trans (apart_schedule _ _ _ (by simpa [Job.belongs] using foreign))

theorem apart_runJob (service : Source σ) (m : Machine σ) {job : Job} (foreign : job.belongs ticket = false) :
    Apart ticket m (m.runJob service job) := by
  cases job with
  | enter loop => exact apart_follow m _
  | drop loop => exact apart_follow m _
  | ask fetch => exact apart_ask service m fetch
  | answer fetch result => exact apart_settle m fetch _
  | expire fetch => exact apart_settle m fetch _
  | refresh other => exact apart_beginRefresh m other
  | wait other => exact apart_beginWait m other
  | submit other graph => exact apart_beginSubmission service m (by simpa [Job.belongs] using foreign) graph
  | submitted other graph result => exact apart_endSubmission m graph result
  | frame => exact apart_stepFrames m
  | _ => exact apart_same rfl rfl rfl rfl

theorem tasks_pop {m : Machine σ} {passes : Nat} {job : Job} {rest : List Queued}
    (queue : m.queue = ⟨passes, job⟩ :: rest) :
    m.tasks ticket = [job].filter (Job.belongs ticket) ++ ({ m with queue := rest } : Machine σ).tasks ticket := by
  simp only [tasks, queue, ← List.filter_append]
  rfl

theorem tasks_pass {m : Machine σ} {passes : Nat} {job : Job} {rest : List Queued}
    (queue : m.queue = ⟨passes + 1, job⟩ :: rest) :
    ((({ m with queue := rest } : Machine σ).push passes job).tasks ticket).Perm (m.tasks ticket) := by
  apply List.Perm.filter
  simp only [push, queue, List.map_append, List.map_cons, List.map_nil]
  exact (List.perm_append_singleton job _).append_right _

theorem tasks_fire {m : Machine σ} {timer : Timer} (queue : m.queue = []) (first : earliest m.timers = some timer) :
    ((m.fire timer).tasks ticket).Perm (m.tasks ticket) := by
  apply List.Perm.filter
  rw [fire_spec]
  simp only [queue, List.map_nil, List.nil_append, List.map_cons, List.singleton_append]
  exact (perm_removeTimer first).map Timer.job

theorem tasks_schedule (m : Machine σ) (delay : Delay) (passes : Nat) {job : Job} (own : job.belongs ticket = true) :
    (m.schedule delay passes job).tasks ticket = m.tasks ticket ++ (delay.map fun _ => job).toList := by
  cases delay with
  | none => simp [schedule]
  | some seconds => simp [schedule, tasks, own]

/-- A step that a submission takes: what was done before it, and the machine before and after. -/
structure Turn (σ : Type) where
  past : List Deed
  before : Machine σ
  after : Machine σ

def turn? (service : Source σ) (ticket : Nat) (past : List Deed) (m : Machine σ) : Act σ → Option (Turn σ)
  | .step =>
      match m.queue with
      | ⟨0, job⟩ :: rest =>
          if job.belongs ticket then some ⟨past, m, ({ m with queue := rest } : Machine σ).runJob service job⟩ else none
      | _ => none
  | _ => none

def turns (service : Source σ) (ticket : Nat) : List Deed → Machine σ → List (Act σ) → List (Turn σ)
  | _, _, [] => []
  | past, m, act :: rest =>
      (m.turn? service ticket past act).toList ++
        turns service ticket (past ++ m.actDeeds service act) (m.act service act) rest

theorem turn?_some {service : Source σ} {past : List Deed} {m : Machine σ} {act : Act σ} {turn : Turn σ}
    (taken : m.turn? service ticket past act = some turn) :
    ∃ job rest, m.queue = ⟨0, job⟩ :: rest ∧ job.belongs ticket = true ∧
      turn = ⟨past, m, ({ m with queue := rest } : Machine σ).runJob service job⟩ ∧
      m.act service act = turn.after := by
  unfold turn? at taken
  split at taken
  · split at taken
    next job rest queue =>
      split at taken
      next own =>
        cases taken
        exact ⟨job, rest, queue, own, rfl, by simp [act, step?, queue]⟩
      next => cases taken
    · cases taken
  · cases taken

def remaining (m : Machine σ) : Act σ → List Queued
  | .step => m.queue.tail
  | _ => m.queue

structure Shifts (ticket : Nat) (m n : Machine σ) : Prop where
  tickets : n.tickets = m.tickets
  tasks : (n.tasks ticket).Perm (m.tasks ticket)
  timers : ∀ timer ∈ n.timers, timer ∈ m.timers
  now : n.now = m.now ∨ m.queue = [] ∧ ∀ timer ∈ m.timers, n.now ≤ timer.due

theorem Shifts.refl (m : Machine σ) : Shifts ticket m m :=
  ⟨rfl, .refl _, fun _ member => member, Or.inl rfl⟩

theorem shifts_pass {m : Machine σ} {passes : Nat} {job : Job} {rest : List Queued}
    (queue : m.queue = ⟨passes + 1, job⟩ :: rest) :
    Shifts ticket m (({ m with queue := rest } : Machine σ).push passes job) :=
  ⟨rfl, tasks_pass queue, fun _ member => member, Or.inl rfl⟩

theorem shifts_pop {m : Machine σ} {passes : Nat} {job : Job} {rest : List Queued}
    (queue : m.queue = ⟨passes, job⟩ :: rest) (foreign : job.belongs ticket = false) :
    Shifts ticket m { m with queue := rest } := by
  refine ⟨rfl, ?_, fun _ member => member, Or.inl rfl⟩
  rw [tasks_pop queue]
  simp [foreign]

theorem shifts_fire {m : Machine σ} {timer : Timer} (queue : m.queue = []) (first : earliest m.timers = some timer) :
    Shifts ticket m (m.fire timer) := by
  refine ⟨by rw [fire_spec], tasks_fire queue first, ?_, Or.inr ⟨queue, ?_⟩⟩
  · rw [fire_spec]
    exact fun _ member => removeTimer_subset member
  · rw [fire_spec]
    exact earliest_le first

theorem shifts_rest {m : Machine σ} {instant : Instant} (idle : m.rests instant = true) :
    Shifts ticket m { m with now := instant } := by
  simp only [rests, Bool.and_eq_true, List.isEmpty_iff, List.all_eq_true, decide_eq_true_eq] at idle
  exact ⟨rfl, .refl _, fun _ member => member, Or.inr idle⟩

theorem act_apart {service : Source σ} {past : List Deed} {m : Machine σ} {act : Act σ}
    (spared : m.turn? service ticket past act = none) :
    ∃ n : Machine σ, Shifts ticket m n ∧ Apart ticket n (m.act service act) ∧
      ∃ more, n.queue = m.remaining act ++ more := by
  cases act with
  | obey command => exact ⟨m, .refl m, apart_obey m command, [], (List.append_nil _).symm⟩
  | cancel fetch => exact ⟨m, .refl m, apart_cancel m fetch, [], (List.append_nil _).symm⟩
  | rest instant =>
      simp only [Machine.act]
      split
      next idle => exact ⟨_, shifts_rest idle, .refl _, [], (List.append_nil _).symm⟩
      next => exact ⟨m, .refl m, .refl m, [], (List.append_nil _).symm⟩
  | step =>
      cases stepped : m.step? service none with
      | none =>
          have idle : m.queue = [] := by
            cases queue : m.queue with
            | nil => rfl
            | cons next rest =>
                obtain ⟨passes, job⟩ := next
                cases passes <;> simp [step?, queue] at stepped
          have stuck : m.act service .step = m := by simp [act, stepped]
          rw [stuck]
          exact ⟨m, .refl m, .refl m, [], by simp [remaining, idle]⟩
      | some n =>
          have acted : m.act service .step = n := by simp [act, stepped]
          rw [acted]
          rcases step?_cases stepped with ⟨passes, job, rest, queue, rfl⟩ | ⟨job, rest, queue, rfl⟩ |
            ⟨timer, queue, first, rfl⟩
          · exact ⟨_, shifts_pass queue, .refl _, [⟨passes, job⟩], by simp [remaining, queue, push]⟩
          · have foreign : job.belongs ticket = false := by simpa [turn?, queue] using spared
            exact ⟨_, shifts_pop queue foreign, apart_runJob service _ foreign, [], by simp [remaining, queue]⟩
          · refine ⟨_, shifts_fire queue first, .refl _, [⟨timer.passes, timer.job⟩], ?_⟩
            simp [remaining, queue, fire_spec]

theorem tickets_runJob (service : Source σ) (m : Machine σ) (job : Job) :
    m.tickets ≤ (m.runJob service job).tickets := by
  obtain ⟨ticket, foreign⟩ := job.belongs_elsewhere
  exact (apart_runJob service m foreign).tickets

theorem tickets_act (service : Source σ) (m : Machine σ) (act : Act σ) : m.tickets ≤ (m.act service act).tickets := by
  cases taken : m.turn? service 0 [] act with
  | none =>
      obtain ⟨n, shifts, apart, _⟩ := act_apart taken
      rw [← shifts.tickets]
      exact apart.tickets
  | some turn =>
      obtain ⟨job, rest, _, _, rfl, acted⟩ := turn?_some taken
      rw [acted]
      exact tickets_runJob service { m with queue := rest } job

theorem tasks_act {service : Source σ} {past : List Deed} {m : Machine σ} {act : Act σ}
    (spared : m.turn? service ticket past act = none)
    (ticketed : ticket < m.tickets ∨ (m.act service act).tickets ≤ ticket) :
    ((m.act service act).tasks ticket).Perm (m.tasks ticket) := by
  obtain ⟨n, shifts, apart, _⟩ := act_apart spared
  rw [← shifts.tickets] at ticketed
  rw [apart.tasks ticketed]
  exact shifts.tasks

/-- The time by which the submission goes on, if something is left to do of it, has not passed. -/
structure DueBy (ticket : Nat) (deadline : Instant) (m : Machine σ) : Prop where
  now : m.now ≤ deadline
  timers : ∀ timer ∈ m.timers, timer.job.belongs ticket = true → timer.due ≤ deadline

theorem DueBy.act {service : Source σ} {past : List Deed} {m : Machine σ} {act : Act σ} {deadline : Instant}
    (due : DueBy ticket deadline m) (spared : m.turn? service ticket past act = none) (busy : m.tasks ticket ≠ []) :
    DueBy ticket deadline (m.act service act) := by
  obtain ⟨n, shifts, apart, _⟩ := act_apart spared
  constructor
  · rw [apart.now]
    rcases shifts.now with same | ⟨idle, least⟩
    · rw [same]
      exact due.now
    · -- Nothing is queued, so that it is a timer that the submission waits for.
      obtain ⟨job, member⟩ := List.exists_mem_of_ne_nil _ busy
      rw [tasks, idle, List.map_nil, List.nil_append, List.mem_filter, List.mem_map] at member
      obtain ⟨⟨timer, inside, rfl⟩, own⟩ := member
      exact (least timer inside).trans (due.timers timer inside own)
  · intro timer member own
    have kept : timer ∈ n.timers.filter (·.job.belongs ticket) := by
      rw [← apart.timers]
      exact List.mem_filter.mpr ⟨member, own⟩
    exact due.timers timer (shifts.timers timer (List.mem_filter.mp kept).1) own

theorem dueBy_schedule {m : Machine σ} (free : m.tasks ticket = []) (seconds : Rat) (passes : Nat) (job : Job) :
    DueBy ticket (m.now + max seconds 0) (m.schedule (some seconds) passes job) := by
  constructor
  · exact le_add_of_nonneg_right (le_max_right seconds 0)
  · intro timer member own
    rcases List.mem_append.mp member with before | new
    · have left : timer.job ∈ m.tasks ticket :=
        List.mem_filter.mpr ⟨List.mem_append_right _ (List.mem_map_of_mem before), own⟩
      rw [free] at left
      cases left
    · rw [List.mem_singleton.mp new]
      exact add_le_add_right (le_max_left seconds 0) m.now

def Ticketed (m : Machine σ) : Prop := ∀ ticket, m.tickets ≤ ticket → m.tasks ticket = []

theorem Ticketed.act {m : Machine σ} (ticketed : Ticketed m) (service : Source σ) (act : Act σ) :
    Ticketed (m.act service act) := by
  intro ticket beyond
  have free := ticketed ticket ((tickets_act service m act).trans beyond)
  have spared : m.turn? service ticket [] act = none := by
    cases taken : m.turn? service ticket [] act with
    | none => rfl
    | some turn =>
        obtain ⟨job, rest, queue, own, _⟩ := turn?_some taken
        rw [tasks_pop queue] at free
        simp [own] at free
  have kept := tasks_act spared (Or.inr beyond)
  rw [free] at kept
  exact kept.eq_nil

theorem initial_ticketed (config : Config) (keepPolling : Bool) (nodes : List Node) (source : σ)
    (watcher : Option (Session → Reaction σ)) : Ticketed (initial config keepPolling nodes source watcher) :=
  fun _ _ => rfl

theorem Ticketed.acting {m : Machine σ} (ticketed : Ticketed m) (service : Source σ) (acts : List (Act σ)) :
    Ticketed (m.acting service acts) := by
  induction acts generalizing m with
  | nil => exact ticketed
  | cons head tail ih => exact ih (ticketed.act service head)

theorem Ticketed.run {m : Machine σ} (ticketed : Ticketed m) (graph : Graph) :
    (m.obey (.run graph)).tasks m.tickets = [.submit m.tickets graph] := by
  have free := ticketed m.tickets (le_refl _)
  simp only [tasks, List.filter_append, List.append_eq_nil_iff] at free
  simp [tasks, obey, perform, push, free, Job.belongs]

def Act.isStep : Act σ → Bool
  | .step => true
  | _ => false

/-- A job that need not wait for other turns runs after as many steps as there are jobs before it. -/
theorem turns_come (service : Source σ) {job : Job} (own : job.belongs ticket = true) (acts : List (Act σ))
    (past : List Deed) (m : Machine σ) (ahead behind : List Queued) (queue : m.queue = ahead ++ ⟨0, job⟩ :: behind)
    (steps : ahead.length < acts.countP Act.isStep) : m.turns service ticket past acts ≠ [] := by
  induction acts generalizing past m ahead behind with
  | nil => cases steps
  | cons head tail ih =>
      cases taken : m.turn? service ticket past head with
      | some turn => simp [turns, taken]
      | none =>
          obtain ⟨n, _, apart, more, remains⟩ := act_apart taken
          obtain ⟨later, joined, _⟩ := apart.queue
          rw [remains] at joined
          simp only [turns, taken, Option.toList_none, List.nil_append]
          cases stepping : head.isStep with
          | false =>
              have still : m.remaining head = m.queue := by
                cases head with
                | step => cases stepping
                | _ => rfl
              apply ih _ _ ahead (behind ++ more ++ later)
              · rw [joined, still, queue]
                simp
              · simpa [stepping] using steps
          | true =>
              obtain rfl : head = .step := by
                cases head with
                | step => rfl
                | _ => cases stepping
              cases ahead with
              | nil => simp [turn?, queue, own] at taken
              | cons next others =>
                  apply ih _ _ others (behind ++ more ++ later)
                  · rw [joined, remaining, queue]
                    simp
                  · simpa [stepping] using steps

end Machine

end WorkflowRuns
