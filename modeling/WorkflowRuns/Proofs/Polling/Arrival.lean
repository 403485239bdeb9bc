import WorkflowRuns.Proofs.Polling.Accord

/-!
Those who look on learn of the end of the loop.  What is to be done for them gets its turn, and while
frames are drawn the machine does all that it does without them.
-/

namespace WorkflowRuns.Machine

open Poller (Paces)

variable {σ : Type} {c : Config} {runId : String}

def Reaches (service : Source σ) (goal : Machine σ → Bool) (m : Machine σ) : Prop :=
  ∃ fuel, goal (m.run service none goal fuel) = true

theorem reaches_goal (service : Source σ) {goal : Machine σ → Bool} {m : Machine σ} (reached : goal m = true) :
    Reaches service goal m := ⟨0, reached⟩

theorem Reaches.step {service : Source σ} {goal : Machine σ → Bool} {m n : Machine σ}
    (reaches : Reaches service goal n) (stepped : m.step? service none = some n) : Reaches service goal m := by
  by_cases reached : goal m = true
  · exact reaches_goal service reached
  · obtain ⟨fuel, later⟩ := reaches
    refine ⟨fuel + 1, ?_⟩
    rw [Machine.run, if_neg reached, stepped]
    exact later

inductive Onlookers.Pending (job : Job) : Onlookers → Prop
  | queued (passes : Nat) (waiting : List (Nat × Nat)) (frames : Frames) :
      Onlookers.Pending job ⟨[⟨passes, job⟩], [], waiting, frames⟩
  | timed (due : Instant) (passes : Nat) (waiting : List (Nat × Nat)) (frames : Frames) :
      Onlookers.Pending job ⟨[], [⟨due, passes, job⟩], waiting, frames⟩

/-- How many steps are needed for all that is to be done, if nothing comes of it. -/
def toil (m : Machine σ) : Nat :=
  (m.queue.map (·.passes + 1)).sum + (m.timers.map (·.passes + 2)).sum

theorem toil_pass {m : Machine σ} {passes : Nat} {job : Job} {rest : List Queued}
    (queue : m.queue = ⟨passes + 1, job⟩ :: rest) :
    (({ m with queue := rest } : Machine σ).push passes job).toil < m.toil := by
  simp only [toil, push, queue, List.map_cons, List.map_append, List.map_nil, List.sum_cons, List.sum_append,
    List.sum_nil]
  omega

theorem toil_pop {m : Machine σ} {queued : Queued} {rest : List Queued} (queue : m.queue = queued :: rest) :
    ({ m with queue := rest } : Machine σ).toil < m.toil := by
  simp only [toil, queue, List.map_cons, List.sum_cons]
  omega

theorem toil_fire {m : Machine σ} {timer : Timer} (first : earliest m.timers = some timer) :
    (m.fire timer).toil < m.toil := by
  have left := ((perm_removeTimer first).map (·.passes + 2)).sum_eq
  rw [fire_spec]
  simp only [toil, List.map_cons, List.map_append, List.map_nil, List.sum_cons, List.sum_append,
    List.sum_nil] at left ⊢
  omega

section

variable {job next : Job} {m n b after : Machine Service}

theorem Onlookers.Pending.queue (pending : m.onlookers.Pending job) {passes : Nat} {rest : List Queued}
    (queue : m.queue = ⟨passes, next⟩ :: rest) (looksOn : next.looksOn = true) :
    next = job ∧ rest.filter (·.job.looksOn) = [] ∧ m.onlookers.timers = [] := by
  have only : m.onlookers.queue = ⟨passes, next⟩ :: rest.filter (·.job.looksOn) := by
    simp [onlookers, queue, looksOn]
  generalize m.onlookers = o at pending only
  cases pending with
  | queued passes waiting frames =>
      simp only [List.cons.injEq, Queued.mk.injEq] at only
      exact ⟨only.1.2.symm, only.2.symm, rfl⟩
  | timed due passes waiting frames => cases only

theorem Onlookers.Pending.timer (pending : m.onlookers.Pending job) {timer : Timer}
    (first : earliest m.timers = some timer) (looksOn : timer.job.looksOn = true) :
    timer.job = job ∧ m.queue.filter (·.job.looksOn) = [] ∧
      (removeTimer timer.due m.timers).filter (·.job.looksOn) = [] := by
  have only := (earliest_filter first (·.job.looksOn) looksOn).2
  have member : timer ∈ m.onlookers.timers := List.mem_filter.mpr ⟨earliest_mem first, looksOn⟩
  have same : m.onlookers.timers = m.timers.filter (·.job.looksOn) := rfl
  rw [← same] at only
  have idle : m.queue.filter (·.job.looksOn) = m.onlookers.queue := rfl
  generalize m.onlookers = o at pending only member idle
  cases pending with
  | queued passes waiting frames => cases member
  | timed due passes waiting frames =>
      obtain rfl := List.mem_singleton.mp member
      exact ⟨rfl, idle, by rw [← only, removeTimer, if_pos rfl]⟩

theorem Onlookers.Pending.upcoming (pending : m.onlookers.Pending job) : ∃ next, m.upcoming = some next := by
  refine Option.ne_none_iff_exists'.mp fun none => ?_
  obtain ⟨queue, timers⟩ := upcoming_eq_none_iff.mp none
  have nobody : m.onlookers = ⟨[], [], m.waiting, m.frames⟩ := by simp [onlookers, queue, timers]
  rw [nobody] at pending
  cases pending

theorem Onlookers.Pending.pass (pending : m.onlookers.Pending job) {passes : Nat} {rest : List Queued}
    (queue : m.queue = ⟨passes + 1, next⟩ :: rest) :
    (({ m with queue := rest } : Machine Service).push passes next).onlookers.Pending job := by
  cases looksOn : next.looksOn with
  | true =>
      obtain ⟨rfl, others, timers⟩ := pending.queue queue looksOn
      have left : (({ m with queue := rest } : Machine Service).push passes next).onlookers =
          ⟨[⟨passes, next⟩], [], m.waiting, m.frames⟩ := by
        rw [← timers]
        simp [onlookers, push, looksOn, others]
      rw [left]
      exact .queued ..
  | false =>
      rw [onlookers_push _ _ looksOn, onlookers_pop queue looksOn]
      exact pending

theorem Onlookers.Pending.fire (pending : m.onlookers.Pending job) {timer : Timer}
    (first : earliest m.timers = some timer) : (m.fire timer).onlookers.Pending job := by
  cases looksOn : timer.job.looksOn with
  | true =>
      obtain ⟨rfl, queue, timers⟩ := pending.timer first looksOn
      have left : (m.fire timer).onlookers = ⟨[⟨timer.passes, timer.job⟩], [], m.waiting, m.frames⟩ := by
        rw [fire_spec]
        simp [onlookers, List.filter_append, queue, looksOn, timers]
      rw [left]
      exact .queued ..
  | false =>
      rw [onlookers_fire first looksOn]
      exact pending

theorem Attends.pending_step (attends : Attends c runId m) (inactive : m.poller.isActive = false)
    (pending : m.onlookers.Pending job) :
    ∃ n, m.step? Source.service none = some n ∧
      (n.poller.isActive = false ∧ n.onlookers.Pending job ∧ n.toil < m.toil ∨
        ∃ rest, m.queue = ⟨0, job⟩ :: rest ∧
          n = ({ m with queue := rest } : Machine Service).runJob Source.service job) := by
  obtain ⟨upcoming, coming⟩ := pending.upcoming
  obtain ⟨n, stepped⟩ := step?_of_upcoming Source.service coming
  refine ⟨n, stepped, ?_⟩
  rcases step?_cases stepped with ⟨passes, next, rest, queue, rfl⟩ | ⟨next, rest, queue, rfl⟩ |
    ⟨timer, queue, first, rfl⟩
  · exact Or.inl ⟨inactive, pending.pass queue, toil_pass queue⟩
  · cases looksOn : next.looksOn with
    | true =>
        obtain ⟨rfl, _⟩ := pending.queue queue looksOn
        exact Or.inr ⟨rest, queue, rfl⟩
    | false =>
        obtain ⟨suits, popped⟩ := attends.suits_queued queue
        rw [popped.runJob_inactive inactive suits looksOn, onlookers_pop queue looksOn]
        exact Or.inl ⟨inactive, pending, toil_pop queue⟩
  · refine Or.inl ⟨?_, pending.fire first, toil_fire first⟩
    rw [fire_spec]
    exact (attends.roused_isActive timer.job).trans inactive

theorem Attends.reaches (attends : Attends c runId m) (paces : Paces c) (inactive : m.poller.isActive = false)
    (pending : m.onlookers.Pending job) {goal : Machine Service → Bool}
    (last : ∀ n : Machine Service, Attends c runId n → n.poller.isActive = false →
      goal (n.runJob Source.service job) = true) : Reaches Source.service goal m := by
  induction toil : m.toil using Nat.strong_induction_on generalizing m with
  | _ toil ih =>
      obtain ⟨n, stepped, ⟨rests, still, less⟩ | ⟨rest, queue, rfl⟩⟩ := attends.pending_step inactive pending
      · exact (ih n.toil (toil ▸ less) (attends.step paces stepped) rests still rfl).step stepped
      · obtain ⟨_, popped⟩ := attends.suits_queued queue
        exact (reaches_goal Source.service (last _ popped inactive)).step stepped

/-- Somebody waits for the loop, which is still active. -/
structure Awaiting (c : Config) (runId : String) (m b : Machine Service) : Prop extends Attends c runId m where
  crowded : Crowded m b
  active : m.poller.isActive = true
  waiting : ∃ ticket, m.onlookers = ⟨[], [], [(ticket, 0)], m.frames⟩

theorem Awaiting.other (awaiting : Awaiting c runId m b) (upcoming : m.upcoming = some next) :
    next.looksOn = false := by
  obtain ⟨ticket, nothing⟩ := awaiting.waiting
  by_contra looksOn
  have looks : next.looksOn = true := by simpa using looksOn
  rcases mem_of_upcoming upcoming with ⟨passes, rest, queue⟩ | ⟨timer, _, first, rfl⟩
  · have queued := congrArg Onlookers.queue nothing
    simp [onlookers, queue, looks] at queued
  · have timed : timer ∈ m.onlookers.timers := List.mem_filter.mpr ⟨earliest_mem first, looks⟩
    rw [nothing] at timed
    cases timed

theorem Awaiting.advance (awaiting : Awaiting c runId m b) (paces : Paces c)
    (advanced : b.step? Source.service none = some after) :
    ∃ n, m.step? Source.service none = some n ∧
      (Awaiting c runId n after ∨
        ∃ ticket, Attends c runId n ∧ n.poller.isActive = false ∧ n.onlookers.Pending (.waited ticket)) := by
  obtain ⟨upcoming, coming⟩ := awaiting.crowded.upcoming_of_step advanced
  have other := awaiting.other coming
  obtain ⟨n, stepped⟩ := step?_of_upcoming Source.service coming
  have ahead := awaiting.crowded.along service_unseen awaiting.unwatched stepped advanced coming other
  have attends := awaiting.toAttends.step paces stepped
  obtain ⟨ticket, alone⟩ := awaiting.waiting
  refine ⟨n, stepped, ?_⟩
  cases awaiting.notices_step paces stepped coming other with
  | nothing same active =>
      have frames : n.frames = m.frames := congrArg Onlookers.frames same
      exact Or.inl ⟨attends, ahead, active.trans awaiting.active, ticket, by rw [same, alone, frames]⟩
  | theEnd inactive told =>
      have waiting : m.waiting = [(ticket, 0)] := congrArg Onlookers.waiting alone
      refine Or.inr ⟨ticket, attends, inactive, ?_⟩
      rw [told, alone, waiting]
      exact .queued endedPasses [] m.frames

theorem Awaiting.reaches (awaiting : Awaiting c runId m b) (paces : Paces c) (steps : Steps Source.service b after)
    (ended : after.poller.isActive = false) : Reaches Source.service hasWaited m := by
  induction steps using Relation.ReflTransGen.head_induction_on generalizing m with
  | refl =>
      have active := awaiting.active
      rw [← awaiting.crowded.poller, ended] at active
      cases active
  | head advanced _ ih =>
      obtain ⟨n, stepped, still | ⟨ticket, attends, inactive, pending⟩⟩ := awaiting.advance paces advanced
      · exact (ih still).step stepped
      · exact (attends.reaches paces inactive pending fun _ _ _ => rfl).step stepped

theorem stepFrames_active (uncancelled : m.frames.cancelled = false) (active : m.poller.isActive = true) :
    m.stepFrames = m.drawFrame.schedule (some refreshInterval) timerPasses .frame := by
  have same : m.drawFrame.poller = m.poller := rfl
  simp [stepFrames, uncancelled, same, active]

theorem stepFrames_queue (m : Machine Service) : m.stepFrames.queue = m.queue := by
  unfold stepFrames
  split
  · rfl
  · simp only
    split <;> rfl

theorem stepFrames_inactive (uncancelled : m.frames.cancelled = false) (inactive : m.poller.isActive = false) :
    m.stepFrames = m.drawFrame.endFrames := by
  have same : m.drawFrame.poller = m.poller := rfl
  simp [stepFrames, uncancelled, same, inactive]

theorem onlookers_stepFrames (uncancelled : m.frames.cancelled = false) (active : m.poller.isActive = true) :
    m.stepFrames.onlookers = { m.onlookers with
      timers := m.onlookers.timers ++ [⟨m.now + refreshInterval, timerPasses, .frame⟩] } := by
  have looksOn : Job.frame.looksOn = true := rfl
  rw [stepFrames_active uncancelled active]
  simp [onlookers, schedule, drawFrame, emit, looksOn]

structure Drawing (c : Config) (runId : String) (m b : Machine Service) : Prop extends Attends c runId m where
  crowded : Crowded m b
  unawaited : m.waiting = []
  pending : m.onlookers.Pending .frame

namespace Drawing

theorem advance (drawing : Drawing c runId m b) (paces : Paces c) (advanced : b.step? Source.service none = some after)
    (coming : m.upcoming = some next) (other : next.looksOn = false) :
    ∃ n, m.step? Source.service none = some n ∧ Drawing c runId n after := by
  obtain ⟨n, stepped⟩ := step?_of_upcoming Source.service coming
  have ahead := drawing.crowded.along service_unseen drawing.unwatched stepped advanced coming other
  have same : n.onlookers = m.onlookers := by
    cases drawing.notices_step paces stepped coming other with
    | nothing same => exact same
    | theEnd _ told =>
        rw [told, drawing.unawaited]
        simp [onlookers, drawing.unawaited]
  refine ⟨n, stepped, drawing.toAttends.step paces stepped, ahead, ?_, ?_⟩
  · exact (congrArg Onlookers.waiting same).trans drawing.unawaited
  · rw [same]
    exact drawing.pending

theorem stay (drawing : Drawing c runId m b) (paces : Paces c) (active : b.poller.isActive = true)
    (stepped : m.step? Source.service none = some n) (coming : m.upcoming = some next)
    (looksOn : next.looksOn = true) : Drawing c runId n b := by
  have attends := drawing.toAttends.step paces stepped
  have crowded := drawing.crowded.stay stepped coming looksOn
  rcases step?_upcoming stepped coming with ⟨passes, rest, queue, rfl⟩ | ⟨rest, queue, rfl⟩ |
    ⟨timer, rfl, queue, first, rfl⟩
  · exact ⟨attends, crowded, drawing.unawaited, drawing.pending.pass queue⟩
  · obtain ⟨rfl, others, timers⟩ := drawing.pending.queue queue looksOn
    have going : m.poller.isActive = true := by rw [← drawing.crowded.poller, active]
    have left : (({ m with queue := rest } : Machine Service).runJob Source.service .frame).onlookers =
        ⟨[], [⟨m.now + refreshInterval, timerPasses, .frame⟩], m.waiting, m.frames⟩ := by
      have popped : ({ m with queue := rest } : Machine Service).onlookers = ⟨[], [], m.waiting, m.frames⟩ := by
        rw [← timers, ← others]
        rfl
      have drawn := onlookers_stepFrames (m := { m with queue := rest }) drawing.uncancelled going
      rw [popped] at drawn
      exact drawn
    refine ⟨attends, crowded, (congrArg Onlookers.waiting left).trans drawing.unawaited, ?_⟩
    rw [left]
    exact .timed ..
  · refine ⟨attends, crowded, ?_, drawing.pending.fire first⟩
    rw [fire_spec]
    exact drawing.unawaited

theorem turn (drawing : Drawing c runId m b) (paces : Paces c) (active : b.poller.isActive = true)
    (busy : b.queue ≠ []) : ∃ n, (n = m ∨ m.step? Source.service none = some n) ∧ Drawing c runId n b ∧
      ∃ next, n.upcoming = some next ∧ next.looksOn = false := by
  cases queue : m.queue with
  | nil => exact absurd (by simp [drawing.crowded.queue, queue]) busy
  | cons queued rest =>
      obtain ⟨passes, job⟩ := queued
      have coming : m.upcoming = some job := by simp [Machine.upcoming, queue]
      cases looksOn : job.looksOn with
      | false => exact ⟨m, Or.inl rfl, drawing, job, coming, looksOn⟩
      | true =>
          obtain ⟨rfl, others, _⟩ := drawing.pending.queue queue looksOn
          obtain ⟨n, stepped⟩ := step?_of_upcoming Source.service coming
          have stays := drawing.stay paces active stepped coming looksOn
          refine ⟨n, Or.inr stepped, stays, ?_⟩
          -- What is queued behind the frame is queued for both machines, and comes first after the step.
          have others : ∀ queued ∈ rest, queued.job.looksOn = false :=
            fun queued member => Bool.eq_false_iff.mpr (List.filter_eq_nil_iff.mp others queued member)
          have both : b.queue = rest := by
            rw [drawing.crowded.queue, queue, List.filter_cons_of_neg (by simp [looksOn])]
            exact List.filter_eq_self.mpr fun queued member => by simp [others queued member]
          have behind : ∃ more, n.queue = rest ++ more := by
            cases passes with
            | zero =>
                rw [step?_job Source.service queue] at stepped
                cases stepped
                exact ⟨[], (stepFrames_queue { m with queue := rest }).trans (List.append_nil rest).symm⟩
            | succ passes =>
                rw [step?_pass Source.service queue] at stepped
                cases stepped
                exact ⟨_, rfl⟩
          obtain ⟨more, behind⟩ := behind
          cases rest with
          | nil => exact absurd both busy
          | cons first rest =>
              exact ⟨first.job, by simp [Machine.upcoming, behind], others first List.mem_cons_self⟩

theorem draws (drawing : Drawing c runId m b) (paces : Paces c) (active : b.poller.isActive = true)
    {goal : Machine Service → Bool} {passes : Nat} (queue : m.queue = [⟨passes, .frame⟩])
    (later : ∀ n, Drawing c runId n b → n.queue = [] →
      n.onlookers.timers = [⟨m.now + refreshInterval, timerPasses, .frame⟩] → Reaches Source.service goal n) :
    Reaches Source.service goal m := by
  have looksOn : Job.frame.looksOn = true := rfl
  induction passes generalizing m with
  | zero =>
      have stepped := step?_job Source.service queue
      have stays := drawing.stay paces active stepped (by simp [Machine.upcoming, queue]) looksOn
      obtain ⟨_, _, timers⟩ := drawing.pending.queue queue looksOn
      have going : m.poller.isActive = true := drawing.crowded.poller ▸ active
      have drawn := onlookers_stepFrames (m := { m with queue := [] }) drawing.uncancelled going
      refine (later _ stays (stepFrames_queue { m with queue := [] }) ?_).step stepped
      have same : ({ m with queue := [] } : Machine Service).onlookers.timers = [] := timers
      refine (congrArg Onlookers.timers drawn).trans ?_
      simp only [same, List.nil_append]
  | succ passes ih =>
      have stepped := step?_pass Source.service queue
      have stays := drawing.stay paces active stepped (by simp [Machine.upcoming, queue]) looksOn
      exact (ih stays rfl later).step stepped

theorem ticks (drawing : Drawing c runId m b) (paces : Paces c) (active : b.poller.isActive = true)
    {goal : Machine Service → Bool} {timer : Timer} (first : earliest b.timers = some timer)
    (advanced : b.step? Source.service none = some after)
    (later : ∀ n, Drawing c runId n after → Reaches Source.service goal n) {k : Nat} {due : Instant} {passes : Nat}
    (idle : m.queue = []) (timed : m.onlookers.timers = [⟨due, passes, .frame⟩])
    (near : timer.due < due + k * refreshInterval) : Reaches Source.service goal m := by
  induction k using Nat.strong_induction_on generalizing m due passes with
  | _ k ih =>
      obtain ⟨next, coming⟩ := drawing.crowded.upcoming_of_step advanced
      cases looksOn : next.looksOn with
      | false =>
          obtain ⟨n, stepped, ahead⟩ := drawing.advance paces advanced coming looksOn
          exact (later n ahead).step stepped
      | true =>
          rcases mem_of_upcoming coming with ⟨_, _, queue⟩ | ⟨frame, _, sooner, rfl⟩
          · rw [idle] at queue
            cases queue
          · have own : frame ∈ m.onlookers.timers := List.mem_filter.mpr ⟨earliest_mem sooner, looksOn⟩
            rw [timed] at own
            obtain rfl := List.mem_singleton.mp own
            have ahead : due ≤ timer.due := by
              have member := earliest_mem first
              rw [drawing.crowded.timers] at member
              exact earliest_le sooner timer (List.mem_filter.mp member).1
            have stepped := step?_timer Source.service idle sooner
            have stays := drawing.stay paces active stepped coming looksOn
            -- The frame is not due after the timer, so that there is one less to draw until then.
            obtain ⟨k, rfl⟩ : ∃ less, k = less + 1 := by
              refine Nat.exists_eq_succ_of_ne_zero ?_
              rintro rfl
              rw [Nat.cast_zero, zero_mul, add_zero] at near
              exact absurd near (not_lt.mpr ahead)
            have queued : (m.fire ⟨due, passes, .frame⟩).queue = [⟨passes, .frame⟩] := by simp [fire_spec, idle]
            refine (stays.draws paces active queued ?_).step stepped
            intro n drawn rests next
            refine ih k (Nat.lt_succ_self k) drawn rests next ?_
            rw [fire_spec]
            push_cast at near
            linarith

/-- Frames do not keep up the machine for ever. -/
theorem catch_up (drawing : Drawing c runId m b) (paces : Paces c) (active : b.poller.isActive = true)
    {goal : Machine Service → Bool} (advanced : b.step? Source.service none = some after)
    (later : ∀ n, Drawing c runId n after → Reaches Source.service goal n) : Reaches Source.service goal m := by
  by_cases idle : b.queue = []
  · obtain ⟨timer, first⟩ : ∃ timer, earliest b.timers = some timer := by
      rcases step?_cases advanced with ⟨_, _, _, queue, _⟩ | ⟨_, _, queue, _⟩ | ⟨timer, _, first, _⟩
      · rw [idle] at queue
        cases queue
      · rw [idle] at queue
        cases queue
      · exact ⟨timer, first⟩
    have alone : m.queue = m.onlookers.queue := by
      refine (List.filter_eq_self.mpr fun queued member => ?_).symm
      have others := drawing.crowded.queue.symm.trans idle
      simpa using List.filter_eq_nil_iff.mp others queued member
    have near : ∀ due : Instant, ∃ k : Nat, timer.due < due + k * refreshInterval := by
      intro due
      obtain ⟨k, above⟩ := exists_nat_gt ((timer.due - due) / refreshInterval)
      have positive : 0 < refreshInterval := by decide +kernel
      exact ⟨k, by linarith [(div_lt_iff₀ positive).mp above]⟩
    have pending := drawing.pending
    generalize known : m.onlookers = o at pending alone
    cases pending with
    | queued passes waiting frames =>
        refine drawing.draws paces active alone fun n drawn rests timed => ?_
        obtain ⟨k, near⟩ := near (m.now + refreshInterval)
        exact drawn.ticks paces active first advanced later rests timed near
    | timed due passes waiting frames =>
        obtain ⟨k, near⟩ := near due
        exact drawing.ticks paces active first advanced later alone (congrArg Onlookers.timers known) near
  · obtain ⟨n, either, stays, next, coming, other⟩ := drawing.turn paces active idle
    obtain ⟨o, stepped, ahead⟩ := stays.advance paces advanced coming other
    have reaches := (later o ahead).step stepped
    rcases either with rfl | before
    · exact reaches
    · exact reaches.step before

theorem reaches (drawing : Drawing c runId m b) (paces : Paces c) (steps : Steps Source.service b after)
    (ended : after.poller.isActive = false) : Reaches Source.service (·.frames.finished) m := by
  have last : ∀ {m b : Machine Service}, Drawing c runId m b → b.poller.isActive = false →
      Reaches Source.service (·.frames.finished) m := by
    intro m b drawing inactive
    have rested : m.poller.isActive = false := drawing.crowded.poller ▸ inactive
    refine drawing.toAttends.reaches paces rested drawing.pending fun n attends rests => ?_
    rw [Machine.runJob, stepFrames_inactive attends.uncancelled rests]
    rfl
  -- Frames may go on for a while after each step of the other machine, but they do not hold up the next one.
  induction steps using Relation.ReflTransGen.head_induction_on generalizing m with
  | refl => exact last drawing ended
  | @head b _ advanced _ ih =>
      cases active : b.poller.isActive with
      | true => exact drawing.catch_up paces active advanced fun n ahead => ih ahead
      | false => exact last drawing active

end Drawing

end

end WorkflowRuns.Machine
