import WorkflowRuns.Proofs.Polling.Onlookers
import WorkflowRuns.Proofs.Polling.Submitting

/-!
What onlookers notice of a run that is followed.  As long as the loop runs nothing changes for them; when it
ends, those who wait for it are told.  After that there is nothing left to do but for them.
-/

namespace WorkflowRuns

namespace Poller

variable {c : Config} {runId : String} {p : Poller}

/-- The loop is active as before and nobody is told that it ended, or it has ended and everybody is told. -/
def Heralds (p : Poller) (change : Poller × List Signal) : Prop :=
  change.1.isActive = p.isActive ∧ (∀ loop, .ended loop ∉ change.2) ∨
    change.1.isActive = false ∧ change.2 = [.ended 0]

theorem heralds_still (p : Poller) : Heralds p (p, []) := Or.inl ⟨rfl, fun _ => List.not_mem_nil⟩

theorem Follows.heralds_enter (follows : Follows c runId p) (id : Nat) : Heralds p (p.enter id) := by
  have still := heralds_still p
  cases follows with
  | @resting stage next s stands underway =>
      by_cases ready : id = 0 ∧ (stage = .created ∨ stage = .waking)
      · obtain ⟨rfl, ready⟩ := ready
        rw [solo_enter c next s ready underway.polling underway.tracked]
        exact Or.inl ⟨by rw [solo_isActive, solo_isActive], by simp⟩
      · rw [solo_enter_other]
        · exact still
        · exact fun first => not_or.mp fun either => ready ⟨first, either⟩
  | fetching next fetch underway =>
      rw [solo_enter_other _ _ _ fun _ => ⟨by decide, by decide⟩]
      exact still
  | deciding next either =>
      rw [solo_enter_other _ _ _ fun _ => ⟨by decide, by decide⟩]
      exact still
  | retired next ended => exact still

theorem Follows.heralds_drop (follows : Follows c runId p) (id : Nat) : Heralds p (p.drop id) := by
  have still := heralds_still p
  cases follows with
  | retired next ended => exact still
  | _ =>
      rw [solo_drop]
      exact still

theorem heralds_decide (paces : Paces c) (next : Nat) {s : Session} (either : Underway runId s ∨ Ended c runId s) :
    Heralds (solo c .deciding next [] s) ((solo c .deciding next [] s).decide 0) := by
  rcases either with underway | ended
  · cases computed : c.retryDelay? s.consecutiveFailures with
    | none =>
        rw [solo_decide_stuck c next s underway.polling underway.unsettled computed]
        exact Or.inr ⟨retired_isActive .., rfl⟩
    | some delay =>
        rw [solo_decide_going c next s underway.polling underway.unsettled computed (paces _ _ computed)]
        exact Or.inl ⟨by rw [solo_isActive, solo_isActive], by simp⟩
  · rw [solo_decide_halted c next s ended.halted]
    exact Or.inr ⟨retired_isActive .., rfl⟩

theorem Follows.heralds_decide (follows : Follows c runId p) (paces : Paces c) (id : Nat) :
    Heralds p (p.decide id) := by
  have still := heralds_still p
  cases follows with
  | resting next stands underway =>
      rw [solo_decide_other]
      · exact still
      · rintro _ rfl
        simp at stands
  | fetching next fetch underway =>
      rw [solo_decide_other _ _ _ fun _ => by decide]
      exact still
  | deciding next either =>
      by_cases first : id = 0
      · rw [first]
        exact Poller.heralds_decide paces next either
      · rw [solo_decide_other _ _ _ fun same => absurd same first]
        exact still
  | retired next ended => exact still

theorem Follows.settle_isActive (follows : Follows c runId p) {id : Nat} {f : Fetch}
    (outstanding : p.fetch? id = some f) (outcome : Except Failure Snapshot) :
    (p.settle f outcome).isActive = p.isActive := by
  cases follows with
  | fetching next fetch underway =>
      obtain ⟨member, _⟩ := fetch?_mem outstanding
      obtain rfl : f = ownFetch fetch runId := List.mem_singleton.mp member
      rw [solo_settle c next _ fetch runId outcome underway.polling, solo_isActive, solo_isActive]
  | _ => cases outstanding

theorem Follows.rouse_isActive (follows : Follows c runId p) (id : Nat) :
    (p.rouse id).isActive = p.isActive := by
  cases follows with
  | @resting stage next s stands underway =>
      by_cases asleep : id = 0 ∧ stage = .sleeping
      · obtain ⟨rfl, rfl⟩ := asleep
        rw [solo_rouse, solo_isActive, solo_isActive]
      · rw [solo_rouse_other _ _ _ fun first sleeping => asleep ⟨first, sleeping⟩]
  | fetching next fetch underway => rw [solo_rouse_other _ _ _ fun _ => by decide]
  | deciding next either => rw [solo_rouse_other _ _ _ fun _ => by decide]
  | retired next ended => rfl

end Poller

namespace Machine

open Poller (Heralds Paces)

variable {σ : Type} {c : Config} {runId : String}

structure Onlookers where
  queue : List Queued
  timers : List Timer
  waiting : List (Nat × Nat)
  frames : Frames

def onlookers (m : Machine σ) : Onlookers :=
  ⟨m.queue.filter (·.job.looksOn), m.timers.filter (·.job.looksOn), m.waiting, m.frames⟩

section

variable (m : Machine σ)

theorem onlookers_emit? (sent : Option Event) : (m.emit? sent).onlookers = m.onlookers := by
  cases sent <;> rfl

theorem onlookers_push (passes : Nat) {job : Job} (other : job.looksOn = false) :
    (m.push passes job).onlookers = m.onlookers := by
  simp [onlookers, push, other]

theorem onlookers_schedule (delay : Delay) (passes : Nat) {job : Job} (other : job.looksOn = false) :
    (m.schedule delay passes job).onlookers = m.onlookers := by
  cases delay with
  | none => rfl
  | some seconds => simp [onlookers, schedule, other]

theorem onlookers_pop {m : Machine σ} {queued : Queued} {rest : List Queued} (queue : m.queue = queued :: rest)
    (other : queued.job.looksOn = false) : ({ m with queue := rest } : Machine σ).onlookers = m.onlookers := by
  simp [onlookers, queue, other]

theorem onlookers_fire {m : Machine σ} {timer : Timer} (first : earliest m.timers = some timer)
    (other : timer.job.looksOn = false) : (m.fire timer).onlookers = m.onlookers := by
  have kept := removeTimer_filter first (·.job.looksOn) other
  rw [fire_spec]
  simp [onlookers, other, kept]

theorem filter_onlookers (timers : List Timer) {drop : Job → Bool}
    (others : ∀ job, drop job = true → job.looksOn = false) :
    (timers.filter fun timer => !drop timer.job).filter (·.job.looksOn) = timers.filter (·.job.looksOn) := by
  rw [List.filter_filter]
  refine List.filter_congr fun timer _ => ?_
  cases dropped : drop timer.job with
  | true => rw [others _ dropped, Bool.false_and]
  | false => rw [Bool.not_false, Bool.and_true]

theorem onlookers_cancelSleep (loop : Nat) : (m.cancelSleep loop).onlookers = m.onlookers := by
  have others : ∀ job : Job, job.wakes loop = true → job.looksOn = false := by
    intro job wakes
    cases job <;> first | rfl | cases wakes
  simp only [onlookers, cancelSleep, filter_onlookers m.timers others]

theorem onlookers_cancelFetch (fetch : Nat) : (m.cancelFetch fetch).onlookers = m.onlookers := by
  have others : ∀ job : Job, job.concerns fetch = true → job.looksOn = false := by
    intro job concerns
    cases job <;> first | rfl | cases concerns
  simp only [onlookers, cancelFetch, filter_onlookers m.timers others]

theorem announceEnd_spec (loop : Nat) :
    m.announceEnd loop = { m with
      waiting := m.waiting.filter (¬ ·.2 = loop)
      queue := m.queue ++ (m.waiting.filter (·.2 = loop)).map fun waiter => ⟨endedPasses, .waited waiter.1⟩ } := by
  have told : ∀ (waiters : List (Nat × Nat)) (n : Machine σ),
      waiters.foldl (fun m waiter => m.push endedPasses (.waited waiter.1)) n =
        { n with queue := n.queue ++ waiters.map fun waiter => ⟨endedPasses, .waited waiter.1⟩ } := by
    intro waiters
    induction waiters with
    | nil => intro n; simp
    | cons waiter rest ih =>
        intro n
        rw [List.foldl_cons, ih]
        simp [push]
  unfold announceEnd
  rw [List.partition_eq_filter_filter]
  simp only [told]
  congr 2
  funext waiter
  simp

theorem onlookers_signal {signal : Signal} (silent : ∀ loop, signal ≠ .ended loop) :
    (m.signal signal).onlookers = m.onlookers := by
  cases signal with
  | spawned loop => exact m.onlookers_push 0 rfl
  | woken loop => rw [Machine.signal, onlookers_push _ _ rfl, onlookers_cancelSleep]
  | calledOff loop => rw [Machine.signal, onlookers_push _ _ rfl, onlookers_cancelSleep]
  | ended loop => exact absurd rfl (silent loop)
  | fetching fetch => rw [Machine.signal, onlookers_schedule _ _ _ rfl, onlookers_push _ _ rfl]
  | sleeping loop delay => exact m.onlookers_schedule delay.delay sleepPasses rfl

theorem onlookers_follow {change : Poller × List Signal} (silent : ∀ loop, .ended loop ∉ change.2) :
    (m.follow change).onlookers = m.onlookers := by
  have signalled : ∀ (signals : List Signal) (n : Machine σ), (∀ loop, .ended loop ∉ signals) →
      (signals.foldl Machine.signal n).onlookers = n.onlookers := by
    intro signals
    induction signals with
    | nil => exact fun _ _ => rfl
    | cons first rest ih =>
        intro n silent
        rw [List.foldl_cons, ih _ fun loop member => silent loop (List.mem_cons_of_mem _ member)]
        exact n.onlookers_signal fun loop same => silent loop (same ▸ List.mem_cons_self)
  exact signalled change.2 { m with poller := change.1 } silent

end

inductive Notices (m n : Machine σ) : Prop
  | nothing (same : n.onlookers = m.onlookers) (active : n.poller.isActive = m.poller.isActive)
  | theEnd (inactive : n.poller.isActive = false)
      (told : n.onlookers = { m.onlookers with
        queue := m.onlookers.queue ++
          (m.waiting.filter (·.2 = 0)).map fun waiter => ⟨endedPasses, .waited waiter.1⟩
        waiting := m.waiting.filter (¬ ·.2 = 0) })

theorem notices_follow (m : Machine σ) {change : Poller × List Signal} (heralds : Heralds m.poller change) :
    Notices m (m.follow change) := by
  rcases heralds with ⟨active, silent⟩ | ⟨inactive, last⟩
  · exact .nothing (m.onlookers_follow silent) (by rw [follow_poller]; exact active)
  · refine .theEnd (by rw [follow_poller]; exact inactive) ?_
    have told : m.follow change = (({ m with poller := change.1 } : Machine σ).cancelSleep 0).announceEnd 0 := by
      rw [follow, last]
      rfl
    have slept := onlookers_cancelSleep ({ m with poller := change.1 } : Machine σ) 0
    have queue := congrArg Onlookers.queue slept
    have timers := congrArg Onlookers.timers slept
    have looks : ∀ waiters : List (Nat × Nat), (waiters.map fun waiter =>
        (⟨endedPasses, .waited waiter.1⟩ : Queued)).filter (·.job.looksOn) =
        waiters.map fun waiter => ⟨endedPasses, .waited waiter.1⟩ := by
      intro waiters
      exact List.filter_eq_self.mpr fun queued member => by
        obtain ⟨waiter, _, rfl⟩ := List.mem_map.mp member
        rfl
    rw [told, announceEnd_spec]
    simp only [onlookers] at queue timers ⊢
    rw [List.filter_append, looks, queue, timers]
    rfl

theorem Notices.after {m n o : Machine σ} (notices : Notices n o) (same : n.onlookers = m.onlookers)
    (active : n.poller.isActive = m.poller.isActive) : Notices m o := by
  cases notices with
  | nothing kept still => exact .nothing (kept.trans same) (still.trans active)
  | theEnd inactive told =>
      have waiting : n.waiting = m.waiting := congrArg Onlookers.waiting same
      rw [same, waiting] at told
      exact .theEnd inactive told

theorem service_unseen : Source.service.Unseen where
  status := by
    intro s runId event member
    simp only [Source.service, Option.mem_def] at member
    unfold Service.fetch at member
    split at member
    · cases member
    · split at member <;> cases member
      rfl
  submit := by
    intro s graph event member
    have sent : (s.post graph none).1.sent = some event := member
    rcases service_posted s graph with nothing | ⟨request, posted⟩
    · rw [nothing] at sent
      cases sent
    · rw [posted] at sent
      cases sent
      rfl

theorem notices_ask (m : Machine Service) (id : Nat) : Notices m (m.ask Source.service id) := by
  refine .nothing ?_ (by rw [(beside_ask Source.service m id).poller])
  unfold ask
  split
  next => rfl
  next f _ =>
    simp only
    split
    · rw [onlookers_push _ _ rfl, onlookers_emit?]
      rfl
    · rw [onlookers_schedule _ _ _ rfl, onlookers_emit?]
      rfl

namespace Attends

variable {m n : Machine Service}

theorem notices_settle (attends : Attends c runId m) (paces : Paces c) (id : Nat)
    (outcome : Fetch → Except Failure Snapshot) : Notices m (m.settle id outcome) := by
  cases found : m.poller.fetch? id with
  | none =>
      simp only [Machine.settle, found]
      exact .nothing rfl rfl
  | some f =>
      obtain ⟨own, follows⟩ := attends.follows.settle found (outcome f)
      rw [settle_unwatched attends.unwatched found]
      simp only [report, own]
      have settled := notices_follow
        ({ m.cancelFetch id with poller := m.poller.settle f (outcome f) } : Machine Service)
        (follows.heralds_decide paces 0)
      exact settled.after (m.onlookers_cancelFetch id) (attends.follows.settle_isActive found (outcome f))

theorem notices (attends : Attends c runId m) (paces : Paces c) {job : Job} (suits : Suits m.poller job)
    (other : job.looksOn = false) : Notices m (m.runJob Source.service job) := by
  cases job with
  | enter loop => exact m.notices_follow (attends.follows.heralds_enter loop)
  | drop loop => exact m.notices_follow (attends.follows.heralds_drop loop)
  | ask fetch => exact notices_ask m fetch
  | answer fetch result => exact attends.notices_settle paces fetch _
  | expire fetch => exact attends.notices_settle paces fetch _
  | wait | waited | frame | cancelFrames => cases other
  | _ => exact suits.elim

theorem roused_isActive (attends : Attends c runId m) (job : Job) :
    (roused m.poller job).isActive = m.poller.isActive := by
  cases job with
  | enter loop => exact attends.follows.rouse_isActive loop
  | _ => rfl

theorem suits_queued (attends : Attends c runId m) {passes : Nat} {job : Job} {rest : List Queued}
    (queue : m.queue = ⟨passes, job⟩ :: rest) :
    Suits m.poller job ∧ Attends c runId { m with queue := rest } :=
  ⟨attends.queue ⟨passes, job⟩ (queue ▸ List.mem_cons_self),
    attends.fewer (fun _ member => queue ▸ List.mem_cons_of_mem _ member) fun _ member => member⟩

theorem notices_step (attends : Attends c runId m) (paces : Paces c) (stepped : m.step? Source.service none = some n)
    {job : Job} (upcoming : m.upcoming = some job) (other : job.looksOn = false) : Notices m n := by
  rcases step?_upcoming stepped upcoming with ⟨passes, rest, queue, rfl⟩ | ⟨rest, queue, rfl⟩ |
    ⟨timer, rfl, queue, first, rfl⟩
  · exact .nothing ((onlookers_push _ _ other).trans (onlookers_pop queue other)) rfl
  · obtain ⟨suits, popped⟩ := attends.suits_queued queue
    exact (popped.notices paces suits other).after (onlookers_pop queue other) rfl
  · refine .nothing (onlookers_fire first other) ?_
    rw [fire_spec]
    exact attends.roused_isActive timer.job

theorem runJob_inactive (attends : Attends c runId m) (inactive : m.poller.isActive = false) {job : Job}
    (suits : Suits m.poller job) (other : job.looksOn = false) : m.runJob Source.service job = m := by
  obtain ⟨next, s, rested, _⟩ := attends.follows.atRest inactive
  have settled : ∀ fetch, m.poller.fetch? fetch = none := by
    rw [rested]
    exact fun _ => rfl
  cases job with
  | enter loop =>
      have still : m.poller.enter loop = (m.poller, []) := by
        rw [rested]
        rfl
      rw [Machine.runJob, still]
      rfl
  | drop loop =>
      have still : m.poller.drop loop = (m.poller, []) := by
        rw [rested]
        rfl
      rw [Machine.runJob, still]
      rfl
  | ask fetch => simp only [Machine.runJob, Machine.ask, settled]
  | answer fetch result => simp only [Machine.runJob, Machine.settle, settled]
  | expire fetch => simp only [Machine.runJob, Machine.settle, settled]
  | wait | waited | frame | cancelFrames => cases other
  | _ => exact suits.elim

theorem roused_inactive (attends : Attends c runId m) (inactive : m.poller.isActive = false) (job : Job) :
    roused m.poller job = m.poller := by
  obtain ⟨next, s, rested, _⟩ := attends.follows.atRest inactive
  rw [rested]
  cases job <;> rfl

end Attends

end Machine

end WorkflowRuns
