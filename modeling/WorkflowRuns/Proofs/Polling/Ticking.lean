import WorkflowRuns.Proofs.Polling.Chronicle
import WorkflowRuns.Proofs.Polling.Timers

/-!
The steps of one tick, from the loop that begins it to the loop that sleeps or has ended.  Between two
steps either one job waits in the queue, or timers alone.
-/

namespace WorkflowRuns

variable {σ : Type}

namespace Machine

structure Calm (m : Machine σ) : Prop where
  alone : m.waiting = []
  watching : ∀ react, m.watcher = some react → ∀ s, (react s).commands = []

/-- All of a calm machine that its next steps depend on. -/
structure At (now : Instant) (p : Poller) (queue : List Queued) (timers : List Timer) (source : σ)
    (m : Machine σ) : Prop where
  calm : m.Calm
  now : m.now = now
  poller : m.poller = p
  queue : m.queue = queue
  timers : m.timers = timers
  source : m.source = source

def alarm (now : Instant) (delay : Delay) (passes : Nat) (job : Job) : List Timer :=
  (delay.map fun seconds => ⟨now + seconds, passes, job⟩).toList

theorem schedule_spec (m : Machine σ) (delay : Delay) (passes : Nat) (job : Job) :
    m.schedule delay passes job = { m with timers := m.timers ++ alarm m.now delay passes job } := by
  cases delay with
  | none => simp [schedule, alarm]
  | some seconds => rfl

theorem Calm.notify {m : Machine σ} (calm : m.Calm) :
    ∃ trace complaints, m.notify = { m with trace, complaints } := by
  unfold Machine.notify
  split
  next => exact ⟨m.trace, m.complaints, rfl⟩
  next react watched =>
    simp only [calm.watching react watched, List.foldl_nil]
    obtain ⟨complaints, same⟩ := (m.emit (.update m.poller.session)).complain_spec m.poller.session.runId
      (react m.poller.session).fails
    exact ⟨_, complaints, same⟩

theorem Calm.announceEnd {m : Machine σ} (calm : m.Calm) (loop : Nat) : m.announceEnd loop = m := by
  have alone := calm.alone
  unfold Machine.announceEnd
  rw [alone]
  show { m with waiting := [] } = m
  rw [← alone]

theorem emit?_spec (m : Machine σ) (event : Option Event) : ∃ trace, m.emit? event = { m with trace } := by
  cases event with
  | none => exact ⟨m.trace, rfl⟩
  | some event => exact ⟨_, rfl⟩

section Steps

variable (service : Source σ) {now : Instant} {p : Poller} {timers : List Timer} {source : σ}
  {c : Config} {stage : Stage} {next : Nat} {s : Session} {runId : String}

theorem At.turn {passes : Nat} {job : Job} {m : Machine σ}
    (here : m.At now p [⟨passes, job⟩] timers source) :
    ∃ n : Machine σ, Passes service passes [] m n ∧ n.At now p [⟨0, job⟩] timers source :=
  ⟨_, passes_turn service passes job here.queue,
    ⟨here.calm.alone, here.calm.watching⟩, here.now, here.poller, rfl, here.timers, here.source⟩

theorem At.enter {m : Machine σ}
    (here : m.At now (.solo c stage next [] s) [⟨0, .enter 0⟩] [] source)
    (ready : stage = .created ∨ stage = .waking) (polling : s.isPolling = true)
    (tracked : s.runId = some runId) :
    ∃ n : Machine σ, Passes service 1 [] m n ∧
      n.At now (.solo c .fetching (next + 1) [Poller.ownFetch next runId] s) [⟨0, .ask next⟩]
        (alarm now c.requestTimeout.delay timeoutPasses (.expire next)) source := by
  have entered := Poller.solo_enter c next s ready polling tracked
  have stepped := step?_job service here.queue
  simp only [runJob, here.poller, entered, follow, List.foldl_cons, List.foldl_nil, signal, push, schedule_spec]
    at stepped
  refine ⟨_, passes_step stepped (marks_unseen ?_ ?_ ?_),
    ⟨here.calm.alone, here.calm.watching⟩, here.now, rfl, rfl, ?_, here.source⟩
  · simp [asking, here.queue]
  · simp [here.poller, Poller.solo]
  · exact fun _ => Poller.solo_isActive c (next + 1) s .fetching _
  · simp [here.timers, here.now, Poller.solo, Poller.ownFetch]

def answering (now : Instant) (id : Nat) (e : Exchange Raised Payload) : List Queued × List Timer :=
  if e.delay = some 0 then ([⟨promptPasses, .answer id e.result⟩], [])
  else ([], alarm now e.delay answerPasses (.answer id e.result))

theorem At.ask {m : Machine σ} (here : m.At now p [⟨0, .ask next⟩] timers source)
    (outstanding : p.fetch? next = some (Poller.ownFetch next runId))
    {e : Exchange Raised Payload} {after : σ} (asked : service.status source runId = (e, after)) :
    ∃ n : Machine σ, Passes service 1 [.asked now runId] m n ∧
      n.At now p (answering now next e).1 (timers ++ (answering now next e).2) after := by
  rw [← here.poller] at outstanding
  have unseen : ∀ n : Machine σ, n.poller = m.poller → m.marks n = [.asked now runId] := by
    intro n same
    simp [marks, asking, here.queue, outstanding, same, here.now, Poller.ownFetch]
  have stepped := step?_job service here.queue
  simp only [runJob, Machine.ask, outstanding, here.source, Poller.ownFetch, asked] at stepped
  obtain ⟨trace, told⟩ := emit?_spec ({ m with queue := [], source := after } : Machine σ) e.sent
  rw [told] at stepped
  by_cases prompt : e.delay = some 0
  · rw [if_pos prompt] at stepped
    refine ⟨_, passes_step stepped (unseen _ rfl),
      ⟨here.calm.alone, here.calm.watching⟩, here.now, here.poller, ?_, ?_, rfl⟩
    · simp [answering, prompt, push]
    · simp [answering, prompt, push, here.timers]
  · rw [if_neg prompt, schedule_spec] at stepped
    refine ⟨_, passes_step stepped (unseen _ rfl),
      ⟨here.calm.alone, here.calm.watching⟩, here.now, here.poller, ?_, ?_, rfl⟩
    · simp [answering, prompt]
    · simp [answering, prompt, here.timers, here.now]

theorem At.fire {timer : Timer} {m : Machine σ} (here : m.At now p [] timers source)
    (first : earliest timers = some timer) (same : (roused p timer.job).session = p.session)
    (active : (roused p timer.job).isActive = true) :
    ∃ n : Machine σ, Passes service (timer.passes + 1) [] m n ∧
      n.At timer.due (roused p timer.job) [⟨0, timer.job⟩] (removeTimer timer.due timers) source := by
  have next : earliest m.timers = some timer := by rw [here.timers, first]
  have stepped := step?_timer service here.queue next
  rw [fire_spec] at stepped
  have unseen : m.asking = [] := by simp [asking, here.queue]
  have begins := passes_step stepped (marks_unseen unseen (by simp [here.poller, same])
    (fun _ => by simp [here.poller, active]))
  have fired : ({ m with
      now := timer.due
      poller := roused m.poller timer.job
      queue := m.queue ++ [⟨timer.passes, timer.job⟩]
      timers := removeTimer timer.due m.timers } : Machine σ).At timer.due (roused p timer.job)
        [⟨timer.passes, timer.job⟩] (removeTimer timer.due timers) source :=
    ⟨⟨here.calm.alone, here.calm.watching⟩, rfl, by simp [here.poller], by simp [here.queue],
      by simp [here.timers], here.source⟩
  obtain ⟨n, turns, there⟩ := fired.turn service
  exact ⟨n, begins.trans turns, there⟩

theorem At.stuck {m : Machine σ} (here : m.At now p [] [] source) : m.step? service none = none :=
  step?_stuck service here.queue here.timers

def Settles (service : Source σ) (p : Poller) (job : Job) (f : Fetch) (outcome : Except Failure Snapshot) :
    Prop :=
  (∀ id, job ≠ .ask id) ∧ ∀ m : Machine σ, m.poller = p → ∃ fate : Fetch → Except Failure Snapshot,
    m.runJob service job = m.settle f.id fate ∧ fate f = outcome

theorem readOutcome_eq (c : Config) (f : Fetch) (result : Except Raised Payload) :
    readOutcome c f result = answered c f.runId result := by
  rcases result with (failure | _) | payload <;> rfl

theorem settles_answer (result : Except Raised Payload) (f : Fetch) :
    Settles service p (.answer f.id result) f (answered p.config f.runId result) := by
  refine ⟨nofun, ?_⟩
  rintro m rfl
  exact ⟨fun f => readOutcome m.poller.config f result, rfl, readOutcome_eq ..⟩

theorem settles_expire (f : Fetch) :
    Settles service p (.expire f.id) f (.error (Poller.timeoutFailure p.config)) := by
  refine ⟨nofun, ?_⟩
  rintro m rfl
  exact ⟨fun _ => .error (Poller.timeoutFailure m.poller.config), rfl, rfl⟩

/-- The answer or the timeout, whichever is first, is about to settle the fetch. -/
def Settling (service : Source σ) (m : Machine σ) (due : Instant) (p : Poller) (f : Fetch)
    (outcome : Except Failure Snapshot) (source : σ) : Prop :=
  ∃ steps job rest, ∃ n : Machine σ, Passes service steps [] m n ∧ n.At due p [⟨0, job⟩] rest source ∧
    (∀ timer ∈ rest, timer.job.concerns f.id = true) ∧ Settles service p job f outcome

theorem At.settling {m : Machine σ} {timer : Timer} {f : Fetch} {outcome : Except Failure Snapshot}
    (here : m.At now p [] timers source) (first : earliest timers = some timer)
    (still : roused p timer.job = p) (active : p.isActive = true)
    (rest : ∀ other ∈ removeTimer timer.due timers, other.job.concerns f.id = true)
    (settles : Settles service p timer.job f outcome) :
    Settling service m timer.due p f outcome source := by
  obtain ⟨n, passes, there⟩ := here.fire service first (by rw [still]) (by rw [still, active])
  rw [still] at there
  exact ⟨_, _, _, n, passes, there, rest, settles⟩

theorem At.await_prompt (runId : String) {m : Machine σ} {e : Exchange Raised Payload} (prompt : e.delay = some 0)
    (here : m.At now p (answering now next e).1
      (alarm now p.config.requestTimeout.delay timeoutPasses (.expire next) ++ (answering now next e).2) source)
    (limited : ∀ limit, p.config.requestTimeout.delay = some limit → 0 < limit) :
    ∃ outcome, tick? p.config runId e = some (0, outcome) ∧
      Settling service m (now + 0) p (Poller.ownFetch next runId) outcome source := by
  have answers := settles_answer service (p := p) e.result (Poller.ownFetch next runId)
  simp only [answering, prompt, if_true, List.append_nil] at here
  obtain ⟨n, passes, there⟩ := here.turn service
  rw [add_zero]
  cases limit : p.config.requestTimeout.delay with
  | none =>
      refine ⟨_, by simp only [tick?, prompt, limit]; rfl, _, _, _, n, passes, there, ?_, answers⟩
      simp [alarm, limit]
  | some span =>
      have early : ¬ span < 0 := (limited span limit).le.not_gt
      refine ⟨_, by simp only [tick?, prompt, limit, if_neg early]; rfl, _, _, _, n, passes, there, ?_, answers⟩
      simp [alarm, limit, Job.concerns, Poller.ownFetch]

theorem At.await (runId : String) {m : Machine σ} {e : Exchange Raised Payload}
    (here : m.At now p (answering now next e).1
      (alarm now p.config.requestTimeout.delay timeoutPasses (.expire next) ++ (answering now next e).2) source)
    (active : p.isActive = true)
    (limited : ∀ limit, p.config.requestTimeout.delay = some limit → 0 < limit)
    (apart : ∀ delay, e.delay = some delay → p.config.requestTimeout.delay ≠ some delay) :
    match tick? p.config runId e with
    | none => m.step? service none = none
    | some (span, outcome) =>
        Settling service m (now + span) p (Poller.ownFetch next runId) outcome source := by
  -- An answer that takes no time comes before the timer of the limit, whatever the limit is.
  by_cases prompt : e.delay = some 0
  · obtain ⟨outcome, ticks, settling⟩ := here.await_prompt service runId prompt limited
    rw [ticks]
    exact settling
  have answers := settles_answer service (p := p) e.result (Poller.ownFetch next runId)
  have expires := settles_expire service (p := p) (Poller.ownFetch next runId)
  simp only [answering, prompt, if_false] at here
  cases limit : p.config.requestTimeout.delay with
  | none =>
      cases delay : e.delay with
      | none =>
          simp only [tick?, delay, limit]
          simp only [limit, delay, alarm, Option.map_none, Option.toList_none, List.append_nil] at here
          exact here.stuck service
      | some wait =>
          simp only [tick?, delay, limit]
          simp only [limit, delay, alarm, Option.map_none, Option.toList_none, List.nil_append] at here
          exact here.settling service rfl rfl active (by simp [removeTimer]) answers
  | some span =>
      cases delay : e.delay with
      | none =>
          simp only [tick?, delay, limit]
          simp only [limit, delay, alarm, Option.map_none, Option.toList_none, List.append_nil] at here
          exact here.settling service rfl rfl active (by simp [removeTimer]) expires
      | some wait =>
          have differ : span ≠ wait := by
            rintro rfl
            exact apart span delay limit
          simp only [tick?, delay, limit]
          simp only [limit, delay, alarm, Option.map_some, Option.toList_some, List.singleton_append] at here
          by_cases late : span < wait
          · have order : ¬ wait < span := late.not_gt
            rw [if_pos late]
            have first : earliest [⟨now + span, timeoutPasses, .expire next⟩,
                ⟨now + wait, answerPasses, .answer next e.result⟩] =
                  some ⟨now + span, timeoutPasses, .expire next⟩ := by
              simp [earliest, order]
            exact here.settling service first rfl active
              (by simp [removeTimer, Job.concerns, Poller.ownFetch]) expires
          · have order : wait < span := lt_of_le_of_ne (not_lt.mp late) differ.symm
            rw [if_neg late]
            have first : earliest [⟨now + span, timeoutPasses, .expire next⟩,
                ⟨now + wait, answerPasses, .answer next e.result⟩] =
                  some ⟨now + wait, answerPasses, .answer next e.result⟩ := by
              simp [earliest, order]
            exact here.settling service first rfl active
              (by simp [removeTimer, Job.concerns, differ, Poller.ownFetch]) answers

theorem Calm.settle {m : Machine σ} (calm : m.Calm) {f : Fetch}
    (outstanding : m.poller.fetch? f.id = some f) (loop : f.requester = .loop 0)
    (current : m.poller.isCurrent f.generation = true) (fate : Fetch → Except Failure Snapshot) :
    ∃ trace complaints, m.settle f.id fate =
      ({ m.cancelFetch f.id with poller := m.poller.settle f (fate f), trace, complaints } : Machine σ).follow
        ((m.poller.settle f (fate f)).decide 0) := by
  have silent : Calm ({ m.cancelFetch f.id with poller := m.poller.settle f (fate f) } : Machine σ) :=
    ⟨calm.alone, calm.watching⟩
  obtain ⟨trace, complaints, told⟩ := silent.notify
  refine ⟨trace, complaints, ?_⟩
  unfold Machine.settle
  rw [outstanding]
  simp only [current, if_true, told, report, loop]

theorem cancelled_timers {rest : List Timer} {id : Nat}
    (own : ∀ timer ∈ rest, timer.job.concerns id = true) :
    (rest.filter fun timer => !timer.job.concerns id) = [] := by
  rw [List.filter_eq_nil_iff]
  intro timer member
  simp [own timer member]

theorem At.settle {m : Machine σ} {job : Job} {rest : List Timer} {outcome : Except Failure Snapshot}
    (here : m.At now (.solo c .fetching (next + 1) [Poller.ownFetch next runId] s) [⟨0, job⟩] rest source)
    (own : ∀ timer ∈ rest, timer.job.concerns next = true)
    (settles : Settles service (.solo c .fetching (next + 1) [Poller.ownFetch next runId] s) job
      (Poller.ownFetch next runId) outcome)
    (polling : s.isPolling = true) :
    ∃ n : Machine σ, m.step? service none =
        some (n.follow ((Poller.solo c .deciding (next + 1) [] (Poller.recorded c s outcome)).decide 0)) ∧
      n.At now (.solo c .deciding (next + 1) [] (Poller.recorded c s outcome)) [] [] source ∧
      m.asking = [] := by
  obtain ⟨noQuestion, told⟩ := settles
  obtain ⟨fate, same, comes⟩ := told { m with queue := [] } here.poller
  have calm : Calm ({ m with queue := [] } : Machine σ) := ⟨here.calm.alone, here.calm.watching⟩
  have outstanding : ({ m with queue := [] } : Machine σ).poller.fetch? next =
      some (Poller.ownFetch next runId) := by
    rw [here.poller]
    exact Poller.solo_fetch? c (next + 1) s .fetching (Poller.ownFetch next runId)
  have current : ({ m with queue := [] } : Machine σ).poller.isCurrent 1 = true := by
    rw [here.poller]
    rfl
  obtain ⟨trace, complaints, settled⟩ := calm.settle (f := Poller.ownFetch next runId) outstanding rfl current fate
  have stepped := step?_job service here.queue
  rw [same, settled, here.poller, comes, Poller.solo_settle c (next + 1) s next runId outcome polling] at stepped
  refine ⟨_, stepped, ⟨⟨here.calm.alone, here.calm.watching⟩, here.now, rfl, rfl, ?_, here.source⟩, ?_⟩
  · simp only [cancelFetch, here.timers]
    exact cancelled_timers own
  · unfold asking
    rw [here.queue]
    split
    next id _ equal =>
      cases equal
      exact absurd rfl (noQuestion id)
    next => rfl

theorem At.retire {m : Machine σ} (here : m.At now (.solo c .deciding next [] s) [] [] source) :
    (m.follow (.retired c next s, [.ended 0])).At now (.retired c next s) [] [] source := by
  have calm : Calm (({ m with poller := .retired c next s } : Machine σ).cancelSleep 0) :=
    ⟨here.calm.alone, here.calm.watching⟩
  simp only [follow, List.foldl_cons, List.foldl_nil, signal]
  rw [calm.announceEnd]
  exact ⟨calm, here.now, rfl, here.queue, by simp [cancelSleep, here.timers], here.source⟩

theorem At.sleep {m : Machine σ} (here : m.At now (.solo c .deciding next [] s) [] [] source)
    (delay : Binary64) :
    (m.follow (.solo c .sleeping next [] s, [.sleeping 0 delay])).At now (.solo c .sleeping next [] s) []
      (alarm now delay.delay sleepPasses (.enter 0)) source := by
  simp only [follow, List.foldl_cons, List.foldl_nil, signal, schedule_spec]
  exact ⟨⟨here.calm.alone, here.calm.watching⟩, here.now, rfl, here.queue,
    by simp [here.timers, here.now], here.source⟩

theorem At.wake {m : Machine σ} {wait : Rat}
    (here : m.At now (.solo c .sleeping next [] s) [] (alarm now (some wait) sleepPasses (.enter 0)) source) :
    ∃ n : Machine σ, Passes service (sleepPasses + 1) [] m n ∧
      n.At (now + wait) (.solo c .waking next [] s) [⟨0, .enter 0⟩] [] source := by
  have roused := Poller.solo_rouse c next s
  obtain ⟨n, passes, there⟩ := here.fire service rfl
    (by rw [Machine.roused, roused]; rfl) (by rw [Machine.roused, roused]; exact Poller.solo_isActive ..)
  refine ⟨n, passes, ?_⟩
  rw [Machine.roused, roused] at there
  simpa [removeTimer, alarm] using there

end Steps

end Machine

end WorkflowRuns
