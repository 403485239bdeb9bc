import WorkflowRuns.Proofs.Config.Backoff
import WorkflowRuns.Proofs.Polling.Ticking
import WorkflowRuns.Script

/-!
A run that nobody disturbs, from its start to its end: whatever can be seen of the machine is what the
recursion over the answers says, at the times it says.
-/

namespace WorkflowRuns

variable {σ : Type}

namespace Machine

/-- These marks are shown and then nothing happens any more. -/
def Ends (service : Source σ) (seen : List Mark) (m : Machine σ) : Prop :=
  ∃ steps, ∃ n : Machine σ, Passes service steps seen m n ∧ n.step? service none = none

theorem Passes.ends {service : Source σ} {m n : Machine σ} {steps : Nat} {seen more : List Mark}
    (passes : Passes service steps seen m n) (ends : Ends service more n) :
    Ends service (seen ++ more) m := by
  obtain ⟨last, o, rest, stuck⟩ := ends
  exact ⟨_, o, passes.trans rest, stuck⟩

/-- What settings have to do for ticks to follow each other. -/
structure Workable (c : Config) : Prop where
  maxFailures : 1 ≤ c.maxFailures
  limited : ∀ limit, c.requestTimeout.delay = some limit → 0 < limit
  interval : ∀ failures : Nat, failures < c.maxFailures →
    ∃ delay, c.retryDelay? failures = some delay ∧ delay.le .zero = false

/-- A tick is about to begin, after others that came to these outcomes. -/
def Ready (service : Source σ) (c : Config) (runId : String) (first : σ) (outcomes : Outcomes) (now : Instant)
    (m : Machine σ) : Prop :=
  ∃ stage, (stage = .created ∨ stage = .waking) ∧
    m.At now (.solo c stage outcomes.length [] (outcomes.known c runId)) [⟨0, .enter 0⟩] []
      (service.asked runId first outcomes.length)

section Ticks

variable {service : Source σ} {c : Config} {runId : String} {first : σ} {outcomes : Outcomes} {now : Instant}

abbrev fetching (c : Config) (runId : String) (outcomes : Outcomes) : Poller :=
  .solo c .fetching (outcomes.length + 1) [Poller.ownFetch outcomes.length runId] (outcomes.known c runId)

theorem Ready.begin {m : Machine σ} (ready : m.Ready service c runId first outcomes now)
    (ongoing : outcomes.Ongoing c) (workable : Workable c)
    (apart : ∀ delay, (service.exchange runId first outcomes.length).delay = some delay →
      c.requestTimeout.delay ≠ some delay) :
    ∃ n : Machine σ, Passes service 2 [.asked now runId] m n ∧
      match tick? c runId (service.exchange runId first outcomes.length) with
      | none => n.step? service none = none
      | some (span, outcome) =>
          Settling service n (now + span) (fetching c runId outcomes)
            (Poller.ownFetch outcomes.length runId) outcome (service.asked runId first (outcomes.length + 1)) := by
  obtain ⟨stage, about, here⟩ := ready
  obtain ⟨entered, enters, there⟩ := here.enter service about ongoing.polling rfl
  have asked : service.status (service.asked runId first outcomes.length) runId =
      (service.exchange runId first outcomes.length, service.asked runId first (outcomes.length + 1)) := rfl
  obtain ⟨n, asks, waiting⟩ := there.ask service (Poller.solo_fetch? c _ _ _ (Poller.ownFetch _ runId)) asked
  refine ⟨n, enters.trans asks, ?_⟩
  exact waiting.await service runId (Poller.solo_isActive ..) workable.limited apart

theorem marks_settled {m n : Machine σ} {outcome : Except Failure Snapshot} (silent : m.asking = [])
    (before : m.poller = fetching c runId outcomes)
    (after : n.poller.session = Outcomes.known c runId (outcome :: outcomes)) :
    m.marks n = .settled n.now (Outcomes.known c runId (outcome :: outcomes)) ::
      if n.poller.isActive then [] else [.ended n.now] := by
  have active : m.poller.isActive = true := by
    rw [before]
    exact Poller.solo_isActive ..
  have counted : n.poller.session.fetchCount ≠ m.poller.session.fetchCount := by
    rw [after, before]
    exact Nat.succ_ne_self _
  rw [marks, if_neg counted, after]
  cases still : n.poller.isActive <;> simp [silent, active]

theorem Settling.conclude {m : Machine σ} {outcome : Except Failure Snapshot} {after : σ}
    (settling : m.Settling service now (fetching c runId outcomes) (Poller.ownFetch outcomes.length runId)
      outcome after)
    (ongoing : outcomes.Ongoing c) (workable : Workable c) :
    let outcomes' : Outcomes := outcome :: outcomes
    if outcomes'.isOver c then Ends service [.settled now (outcomes'.known c runId), .ended now] m
    else ∃ delay, c.retryDelay? outcomes'.streak = some delay ∧
      ∃ steps, ∃ n : Machine σ, Passes service steps [.settled now (outcomes'.known c runId)] m n ∧
        n.At now (.solo c .sleeping outcomes'.length [] (outcomes'.known c runId)) []
          (alarm now delay.delay sleepPasses (.enter 0)) after := by
  intro outcomes'
  obtain ⟨steps, job, rest, n, waits, here, own, settles⟩ := settling
  obtain ⟨o, stepped, there, silent⟩ := here.settle service own settles ongoing.polling
  rw [ongoing.known_cons workable.maxFailures] at stepped there
  split
  next last =>
    have halted : (outcomes'.known c runId).isPolling = false := by simp [Outcomes.known, last]
    rw [Poller.solo_decide_halted c _ _ halted] at stepped
    have retired := there.retire
    have same : { outcomes'.known c runId with isPolling := false } = outcomes'.known c runId := by
      rw [← halted]
    have shown := marks_settled silent here.poller (by rw [retired.poller]; exact same)
    rw [retired.now, retired.poller, Poller.retired_isActive] at shown
    exact ⟨_, _, waits.trans (passes_step stepped shown), retired.stuck service⟩
  next going =>
    have onward := ongoing.cons (Bool.eq_false_iff.mpr going)
    obtain ⟨delay, computed, positive⟩ := workable.interval _ onward.connected
    rw [Poller.solo_decide_going c _ _ onward.polling onward.going computed positive] at stepped
    have asleep := there.sleep delay
    have shown := marks_settled silent here.poller (by rw [asleep.poller]; rfl)
    rw [asleep.now, asleep.poller, Poller.solo_isActive] at shown
    exact ⟨delay, computed, _, _, waits.trans (passes_step stepped shown), asleep⟩

theorem Ready.tick {m : Machine σ} (ready : m.Ready service c runId first outcomes now)
    (ongoing : outcomes.Ongoing c) (workable : Workable c)
    (apart : ∀ n delay, (service.exchange runId first n).delay = some delay →
      c.requestTimeout.delay ≠ some delay) (ticks : Nat) :
    Ends service (expected c runId (service.exchange runId first) (ticks + 1) now outcomes) m ∨
      ∃ steps seen outcome, ∃ n : Machine σ, ∃ later, Passes service (steps + 1) seen m n ∧
        n.Ready service c runId first (outcome :: outcomes) later ∧ Outcomes.Ongoing c (outcome :: outcomes) ∧
        expected c runId (service.exchange runId first) (ticks + 1) now outcomes =
          seen ++ expected c runId (service.exchange runId first) ticks later (outcome :: outcomes) := by
  obtain ⟨n, begins, waiting⟩ := ready.begin ongoing workable (apart _)
  rw [expected]
  cases answered : tick? c runId (service.exchange runId first outcomes.length) with
  | none =>
      rw [answered] at waiting
      exact Or.inl ⟨_, n, begins, waiting⟩
  | some settled =>
      obtain ⟨span, outcome⟩ := settled
      rw [answered] at waiting
      have concluded := waiting.conclude ongoing workable
      simp only at concluded ⊢
      by_cases last : Outcomes.isOver c (outcome :: outcomes) = true
      · rw [if_pos last] at concluded ⊢
        exact Or.inl (begins.ends concluded)
      · rw [if_neg last] at concluded ⊢
        obtain ⟨delay, computed, steps, o, settles, asleep⟩ := concluded
        rw [computed, Option.bind_some]
        have onward := ongoing.cons (Bool.eq_false_iff.mpr last)
        cases wait : delay.delay with
        | none =>
            rw [wait] at asleep
            exact Or.inl ⟨_, o, begins.trans settles, asleep.stuck service⟩
        | some seconds =>
            rw [wait] at asleep
            obtain ⟨awake, wakes, there⟩ := asleep.wake service
            refine Or.inr ⟨_, _, outcome, awake, _, (begins.trans settles).trans wakes, ⟨.waking, Or.inr rfl, there⟩,
              onward, ?_⟩
            simp

/-- After enough steps any number of ticks was seen, or all that ever will be. -/
theorem Ready.chronicle {m : Machine σ} (ready : m.Ready service c runId first outcomes now)
    (ongoing : outcomes.Ongoing c) (workable : Workable c)
    (apart : ∀ n delay, (service.exchange runId first n).delay = some delay →
      c.requestTimeout.delay ≠ some delay) (ticks : Nat) :
    ∃ steps, m.chronicle service steps = expected c runId (service.exchange runId first) ticks now outcomes ∧
      (ticks ≤ steps ∨ ∀ more, m.chronicle service (more + steps) = m.chronicle service steps) := by
  induction ticks generalizing m outcomes now with
  | zero => exact ⟨0, rfl, Or.inl le_rfl⟩
  | succ ticks ih =>
      rcases ready.tick ongoing workable apart ticks with
        ⟨steps, n, passes, stuck⟩ | ⟨steps, seen, outcome, n, later, passes, readyAgain, onward, same⟩
      · have all : ∀ more, m.chronicle service (more + steps) =
            expected c runId (service.exchange runId first) (ticks + 1) now outcomes := by
          intro more
          rw [passes, chronicle_stuck stuck, List.append_nil]
        have whole := all 0
        rw [Nat.zero_add] at whole
        exact ⟨steps, whole, Or.inr fun more => by rw [all, whole]⟩
      · obtain ⟨rest, shown, settled⟩ := ih readyAgain onward
        refine ⟨rest + (steps + 1), by rw [passes, shown, same], ?_⟩
        rcases settled with le | still
        · exact Or.inl (by omega)
        · refine Or.inr fun more => ?_
          rw [← Nat.add_assoc, passes, passes, still]

end Ticks

structure Fresh (c : Config) (m : Machine σ) : Prop where
  calm : m.Calm
  poller : m.poller = .initial c false
  queue : m.queue = []
  timers : m.timers = []

theorem workable_of_accepted {fields : Fields} {c : Config} (accepted : Config.ofFields fields = .accepted c)
    (doubles : ∀ key value, (key, value) ∈ fields → value.IsDouble)
    (computed : ∀ failures : Nat, failures < c.maxFailures → c.retryDelay? failures ≠ none) : Workable c := by
  have valid := Config.valid_of_accepted accepted
  have double := Config.pollInterval_isDouble accepted doubles
  refine ⟨valid.maxFailures, ?_, ?_⟩
  · intro limit finite
    obtain ⟨q, positive, infinite | ⟨v, value, above⟩⟩ :=
      Binary64.atLeast_of_zero_lt (Config.requestTimeout_positive accepted)
    · rw [infinite] at finite
      cases finite
    · have same : some v = some limit := value.symm.trans finite
      cases same
      exact positive.trans_le above
  · intro failures few
    obtain ⟨delay, some⟩ := Option.ne_none_iff_exists'.mp (computed failures few)
    exact ⟨delay, some, Config.retryDelay_positive valid double some⟩

theorem Fresh.start {c : Config} {m : Machine σ} (fresh : m.Fresh c) (positive : 1 ≤ c.maxFailures)
    {runId : String} (named : runId ≠ "") (service : Source σ) :
    ∃ n : Machine σ, m.perform (.start runId) = .ok n ∧ n.Ready service c runId m.source [] m.now := by
  have started := Poller.solo_start c named
  rw [Outcomes.known_nil positive] at started
  have performed : m.perform (.start runId) =
      .ok (m.follow (.solo c .created 0 [] (Outcomes.known c runId []), [.spawned 0])) := by
    simp [perform, fresh.poller, started, Except.map]
  refine ⟨_, performed, .created, Or.inl rfl, ⟨fresh.calm.alone, fresh.calm.watching⟩, rfl, rfl, ?_, ?_, rfl⟩
  · simp [follow, signal, push, fresh.queue]
  · simp [follow, signal, push, fresh.timers]

/-- A run that is started on a fresh machine and then left alone shows exactly the ticks of the
recursion, all of them and nothing else.  Settings are accepted and their delays can be computed; the
source answers anything, never at the very moment of a timeout. -/
theorem chronicle_started {fields : Fields} {c : Config} (accepted : Config.ofFields fields = .accepted c)
    (doubles : ∀ key value, (key, value) ∈ fields → value.IsDouble)
    (computed : ∀ failures : Nat, failures < c.maxFailures → c.retryDelay? failures ≠ none)
    {runId : String} (named : runId ≠ "") (service : Source σ) {first : Machine σ} (fresh : first.Fresh c)
    (apart : ∀ n delay, (service.exchange runId first.source n).delay = some delay →
      c.requestTimeout.delay ≠ some delay) :
    ∃ m : Machine σ, first.perform (.start runId) = .ok m ∧
      (∀ ticks, ∃ steps, m.chronicle service steps =
        expected c runId (service.exchange runId first.source) ticks first.now []) ∧
      ∀ steps, ∃ ticks, m.chronicle service steps <+:
        expected c runId (service.exchange runId first.source) ticks first.now [] := by
  have workable := workable_of_accepted accepted doubles computed
  have none := Outcomes.ongoing_nil workable.maxFailures
  obtain ⟨m, started, ready⟩ := fresh.start workable.maxFailures named service
  refine ⟨m, started, ?_, ?_⟩
  · intro ticks
    obtain ⟨steps, shown, _⟩ := ready.chronicle none workable apart ticks
    exact ⟨steps, shown⟩
  · intro steps
    obtain ⟨enough, shown, le | still⟩ := ready.chronicle none workable apart steps
    · exact ⟨steps, shown ▸ chronicle_grows service m le⟩
    · refine ⟨steps, ?_⟩
      rw [← shown, ← still steps]
      exact chronicle_grows service m (by omega)

end Machine

theorem Source.asked_raising {ε : Type} (raise : ε → Raised) {script : List (Reply (Except ε Payload))}
    (nonempty : script ≠ []) (runId : String) (n : Nat) :
    ∃ reply rest, (raising raise).asked runId script n = reply :: rest ∧
      ∀ other ∈ reply :: rest, other ∈ script := by
  induction n with
  | zero =>
      obtain ⟨reply, rest, rfl⟩ := List.exists_cons_of_ne_nil nonempty
      exact ⟨reply, rest, rfl, fun _ member => member⟩
  | succ n ih =>
      obtain ⟨reply, rest, state, inside⟩ := ih
      cases rest with
      | nil => exact ⟨reply, [], by rw [asked, state]; rfl, inside⟩
      | cons next rest =>
          refine ⟨next, rest, by rw [asked, state]; rfl, ?_⟩
          exact fun other member => inside other (List.mem_cons_of_mem _ member)

theorem Source.delay_raising {ε : Type} (raise : ε → Raised) {script : List (Reply (Except ε Payload))}
    (nonempty : script ≠ []) (runId : String) (n : Nat) :
    ∃ reply ∈ script, ((raising raise).exchange runId script n).delay = reply.delay := by
  obtain ⟨reply, rest, state, inside⟩ := asked_raising raise nonempty runId n
  refine ⟨reply, inside reply List.mem_cons_self, ?_⟩
  rw [exchange, state]
  cases rest <;> rfl

def recovery : List (Reply (Except Raised Payload)) :=
  [⟨some 1, .error (.failure (.transport "down" none))⟩,
    ⟨some 1, .error .timeout⟩,
    ⟨some 2, .ok (.value (.record [("status", .text "success"), ("nodes", .list [])]))⟩]

theorem Machine.chronicle_recovery :
    Config.ofFields [("max_consecutive_failures", .int 5)] = .accepted .standard ∧
      (∀ failures : Nat, failures < Config.standard.maxFailures →
        Config.standard.retryDelay? failures ≠ none) ∧
      "run-1" ≠ "" ∧ (Machine.initial .standard false [] recovery none).Fresh .standard ∧
      (∀ n delay, ((Source.raising id).exchange "run-1" recovery n).delay = some delay →
        Config.standard.requestTimeout.delay ≠ some delay) ∧
      ∃ m : Machine _, (Machine.initial .standard false [] recovery none).perform (.start "run-1") = .ok m ∧
        (∀ ticks, ∃ steps, m.chronicle (.raising id) steps =
          expected .standard "run-1" ((Source.raising id).exchange "run-1" recovery) ticks 0 []) ∧
        ∀ steps, ∃ ticks, m.chronicle (.raising id) steps <+:
          expected .standard "run-1" ((Source.raising id).exchange "run-1" recovery) ticks 0 [] := by
  have accepted : Config.ofFields [("max_consecutive_failures", .int 5)] = .accepted .standard := by
    decide +kernel
  have computed : ∀ failures : Nat, failures < Config.standard.maxFailures →
      Config.standard.retryDelay? failures ≠ none := by
    have few : ∀ failures < 5, Config.standard.retryDelay? (failures : Nat) ≠ none := by decide +kernel
    intro failures below
    have limit : Config.standard.maxFailures = 5 := rfl
    exact few failures (by omega)
  have fresh : (Machine.initial .standard false [] recovery none).Fresh .standard :=
    ⟨⟨rfl, nofun⟩, rfl, rfl, rfl⟩
  have apart : ∀ n delay, ((Source.raising id).exchange "run-1" recovery n).delay = some delay →
      Config.standard.requestTimeout.delay ≠ some delay := by
    intro n delay answered
    have nonempty : recovery ≠ [] := List.cons_ne_nil _ _
    obtain ⟨reply, member, same⟩ := Source.delay_raising id nonempty "run-1" n
    have others : ∀ reply ∈ recovery, Config.standard.requestTimeout.delay ≠ reply.delay := by
      simp only [recovery, List.mem_cons, List.not_mem_nil, or_false, forall_eq_or_imp, forall_eq]
      exact ⟨by decide +kernel, by decide +kernel, by decide +kernel⟩
    rw [← answered, same]
    exact others reply member
  exact ⟨accepted, computed, by decide, fresh, apart,
    Machine.chronicle_started accepted (by simp [Value.IsDouble]) computed (by decide) (.raising id) fresh
      apart⟩

end WorkflowRuns
