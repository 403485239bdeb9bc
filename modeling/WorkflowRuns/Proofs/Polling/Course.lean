import WorkflowRuns.Proofs.Polling.Moves

/-!
The course of a session: how moves change what is known of the tracked run and the phase.
-/

namespace WorkflowRuns.Poller

/-- The phase tells whether a run is tracked and polled, and no run is polled without a task. -/
structure Phased (p : Poller) : Prop where
  idle : p.phase = .idle ↔ p.session.runId = none
  polling : p.phase = .polling ↔ p.session.isPolling = true
  served : p.session.isPolling = true → p.task ≠ none

theorem Phased.tracked {p : Poller} (phased : Phased p) (polling : p.session.isPolling = true) :
    p.session.runId ≠ none := by
  intro idle
  have atRest := phased.idle.mpr idle
  rw [phased.polling.mpr polling] at atRest
  cases atRest

/-- Everything a move can do to session and phase. -/
inductive Course (p q : Poller) : Prop
  | kept (session : q.session = p.session) (phase : q.phase = p.phase) (task : q.task = p.task)
  | halted (session : q.session = { p.session with isPolling := false })
      (phase : q.phase = if p.session.runId = none then .idle else .stopped)
  | begun (tracked : p.session.runId ≠ none) (session : q.session = beginPolling p.session)
      (phase : q.phase = .polling) (task : q.task ≠ none)
  | switched (runId : String) (session : q.session = beginPolling (.tracking runId))
      (phase : q.phase = .polling) (task : q.task ≠ none)
  | cleared (session : q.session = .empty) (phase : q.phase = .idle)
  | recorded (outcome : Except Failure Snapshot) (tracked : p.session.runId ≠ none)
      (session : q.session = (p.record outcome).session)
      (phase : q.phase = (p.record outcome).phase) (task : q.task = p.task)

theorem record_runId (p : Poller) (outcome : Except Failure Snapshot) :
    (p.record outcome).session.runId = p.session.runId := by
  cases outcome with
  | ok s => rw [record_ok]
  | error failure => rw [record_error]

theorem record_polling (p : Poller) (outcome : Except Failure Snapshot) :
    (p.record outcome).session.isPolling = p.session.isPolling ∧ (p.record outcome).phase = p.phase ∨
      (p.record outcome).session.isPolling = false ∧ (p.record outcome).phase = .stopped := by
  cases outcome with
  | ok s =>
      rw [record_ok]
      cases ends : p.endsOn s <;> cases polling : p.session.isPolling <;> simp
  | error failure =>
      rw [record_error]
      cases last : p.isLast <;> simp

theorem initial_phased (config : Config) (keepPolling : Bool) :
    Phased (initial config keepPolling) := by
  constructor <;> simp [initial, Session.empty]

theorem Phased.course {p q : Poller} (phased : Phased p) (course : Course p q) : Phased q := by
  cases course with
  | kept session phase task =>
      constructor
      · rw [session, phase]
        exact phased.idle
      · rw [session, phase]
        exact phased.polling
      · rw [session, task]
        exact phased.served
  | halted session phase =>
      constructor
      · rw [session, phase]
        by_cases idle : p.session.runId = none <;> simp [idle]
      · rw [session, phase]
        by_cases idle : p.session.runId = none <;> simp [idle]
      · rw [session]
        simp
  | begun tracked session phase task =>
      constructor
      · rw [session, phase]
        simp [beginPolling, tracked]
      · rw [session, phase]
        simp [beginPolling]
      · exact fun _ => task
  | switched runId session phase task =>
      constructor
      · rw [session, phase]
        simp [beginPolling, Session.tracking]
      · rw [session, phase]
        simp [beginPolling]
      · exact fun _ => task
  | cleared session phase =>
      constructor <;> simp [session, phase, Session.empty]
  | recorded outcome tracked session phase task =>
      have named : q.session.runId ≠ none := by
        rw [session, record_runId]
        exact tracked
      rcases record_polling p outcome with ⟨polling, same⟩ | ⟨ended, stopped⟩
      · constructor
        · rw [phase, same, phased.idle]
          simp [tracked, named]
        · rw [phase, session, same, polling]
          exact phased.polling
        · rw [session, polling, task]
          exact phased.served
      · constructor
        · rw [phase, stopped]
          simp [named]
        · rw [phase, session, stopped, ended]
          simp
        · rw [session, ended]
          simp

structure Aside (p q : Poller) : Prop where
  config : q.config = p.config
  keepPolling : q.keepPolling = p.keepPolling
  session : q.session = p.session
  phase : q.phase = p.phase
  task : q.task = p.task

theorem Aside.record {p q : Poller} (aside : Aside p q) (outcome : Except Failure Snapshot) :
    (q.record outcome).session = (p.record outcome).session ∧
      (q.record outcome).phase = (p.record outcome).phase := by
  obtain ⟨config, keepPolling, session, phase, _⟩ := aside
  cases outcome with
  | ok s => simp [record_ok, endsOn, keepPolling, session, phase]
  | error failure => simp [record_error, isLast, config, session, phase]

theorem Aside.course {p q r : Poller} (aside : Aside p q) (course : Course q r) : Course p r := by
  cases course with
  | kept session phase task =>
      exact .kept (session.trans aside.session) (phase.trans aside.phase) (task.trans aside.task)
  | halted session phase =>
      rw [aside.session] at session phase
      exact .halted session phase
  | begun tracked session phase task =>
      rw [aside.session] at tracked session
      exact .begun tracked session phase task
  | switched runId session phase task => exact .switched runId session phase task
  | cleared session phase => exact .cleared session phase
  | recorded outcome tracked session phase task =>
      obtain ⟨sameSession, samePhase⟩ := aside.record outcome
      rw [aside.session] at tracked
      exact .recorded outcome tracked (session.trans sameSession) (phase.trans samePhase)
        (task.trans aside.task)

theorem aside_setStage (p : Poller) (id : Nat) (stage : Stage) : Aside p (p.setStage id stage) :=
  ⟨rfl, rfl, rfl, rfl, rfl⟩

theorem aside_release (p : Poller) (f : Fetch) : Aside p (p.release f) := by
  rw [release_spec]
  exact ⟨rfl, rfl, rfl, rfl, rfl⟩

theorem course_leave {p : Poller} (phased : Phased p) (l : PollLoop) : Course p (p.leave l).1 := by
  by_cases current : l.generation = p.generation
  · rw [leave_current current]
    apply Course.halted rfl
    by_cases idle : p.session.runId = none
    · have atRest := phased.idle.mpr idle
      simp [idle, atRest]
    · have busy := mt phased.idle.mp idle
      cases phase : p.phase <;> simp_all
  · rw [leave_past current]
    exact .kept rfl rfl rfl

theorem course_resume {p : Poller} (tracked : p.session.runId ≠ none) : Course p p.resume.1 := by
  rw [resume_spec]
  split
  next active =>
    apply Course.begun tracked rfl rfl
    intro unserved
    have idle : p.task = none := unserved
    simp [isActive, idle] at active
  next => exact .begun tracked rfl rfl (by simp [spawn])

theorem course_decide {p : Poller} (phased : Phased p) (id : Nat) : Course p (p.decide id).1 := by
  rcases decide_cases p id with quiet | ⟨l, found, deciding⟩
  · rw [quiet]
    exact .kept rfl rfl rfl
  · rw [decide_spec found deciding]
    split
    · exact .kept rfl rfl rfl
    · exact course_leave phased l

theorem Phased.aside {p q : Poller} (phased : Phased p) (aside : Aside p q) : Phased q :=
  phased.course (.kept aside.session aside.phase aside.task)

theorem course_enter {p : Poller} (phased : Phased p) (id : Nat) : Course p (p.enter id).1 := by
  rcases enter_cases p id with quiet | ⟨l, found, ready⟩
  · rw [quiet]
    exact .kept rfl rfl rfl
  · rw [enter_spec found ready]
    split
    · split
      · have aside := aside_setStage p id .deciding
        exact aside.course (course_decide (phased.aside aside) id)
      · exact .kept rfl rfl rfl
    · exact course_leave phased l

theorem course_cancel {p : Poller} (phased : Phased p) (f : Fetch) : Course p (p.cancel f).1 := by
  have aside := aside_release p f
  rcases cancel_spec p f with quiet | ⟨l, _, _, left⟩
  · rw [quiet]
    exact .kept aside.session aside.phase aside.task
  · rw [left]
    exact aside.course (course_leave (phased.aside aside) l)

theorem course_drop {p : Poller} (phased : Phased p) (id : Nat) : Course p (p.drop id).1 := by
  rcases drop_cases p id with quiet | ⟨l, found, _, left | ⟨f, _, _, cancelled⟩⟩
  · rw [quiet]
    exact .kept rfl rfl rfl
  · rw [left]
    exact course_leave phased l
  · rw [cancelled]
    exact course_cancel phased f

theorem course_settle {p : Poller} (f : Fetch) (outcome : Except Failure Snapshot)
    (tracked : f.generation = p.generation → p.session.runId ≠ none) :
    Course p (p.settle f outcome) := by
  have aside := aside_release p f
  rw [settle_spec]
  split
  next current =>
    have task : ((p.release f).record outcome).task = (p.release f).task := by rw [record_frame]
    exact aside.course (.recorded outcome (by rw [aside.session]; exact tracked current) rfl rfl task)
  next => exact .kept aside.session aside.phase aside.task

theorem course_start {p : Poller} (runId : String) : Course p (p.move (.start runId)) := by
  by_cases named : runId = ""
  · rw [named, start_empty]
    exact .kept rfl rfl rfl
  · by_cases tracked : p.session.runId = some runId
    · cases polling : p.session.isPolling
      · rw [start_resumed named tracked polling]
        exact course_resume (by rw [tracked]; simp)
      · rw [start_again tracked polling]
        exact .kept rfl rfl rfl
    · rw [start_other named tracked]
      have resumed := course_resume (p := { p.supersede.1 with session := .tracking runId })
        (by simp [Session.tracking])
      rw [resume_spec] at resumed ⊢
      split
      next active => simp [isActive, supersede] at active
      next => exact .switched runId rfl rfl (by simp [spawn])

theorem course_move {p : Poller} (phased : Phased p)
    (tracked : ∀ f ∈ p.fetches, f.generation = p.generation → p.session.runId ≠ none)
    (move : Move) : Course p (p.move move) := by
  cases move with
  | start runId => exact course_start runId
  | stop =>
      apply Course.halted rfl
      by_cases idle : p.session.runId = none
      · simp [Poller.move, stop, idle, phased.idle.mpr idle]
      · simp [Poller.move, stop, idle, Option.isSome_iff_ne_none]
  | clear => exact .cleared rfl rfl
  | refresh ticket =>
      rw [refresh_spec]
      split
      · exact .kept rfl rfl rfl
      · exact .kept rfl rfl rfl
  | enter id => exact course_enter phased id
  | decide id => exact course_decide phased id
  | rouse id => exact .kept rfl rfl rfl
  | drop id => exact course_drop phased id
  | settle id answer =>
      cases found : p.fetch? id with
      | none => simpa [Poller.move, found] using Course.kept rfl rfl rfl
      | some f =>
          have settled := course_settle f (p.outcome f answer) (tracked f (fetch?_mem found).1)
          simpa [Poller.move, found] using settled
  | cancel id =>
      cases found : p.fetch? id with
      | none => simpa [Poller.move, found] using Course.kept rfl rfl rfl
      | some f => simpa [Poller.move, found] using course_cancel phased f

end WorkflowRuns.Poller
