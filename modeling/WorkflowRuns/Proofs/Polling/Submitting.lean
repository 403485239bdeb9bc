import WorkflowRuns.Proofs.Polling.Concluding

/-!
How a run comes to be followed: it is watched under its id, or a graph is submitted and accepted.
-/

namespace WorkflowRuns.Machine

variable {σ : Type} {c : Config} {runId : String}

structure Blank (c : Config) (m : Machine Service) : Prop where
  poller : m.poller = .initial c false
  unwatched : m.watcher = none
  trace : ∀ entry ∈ m.trace, ∃ request, entry.2 = .request request
  frames : m.frames = ⟨false, false⟩

structure Idle (c : Config) (m : Machine Service) : Prop extends Blank c m where
  queue : m.queue = []
  timers : m.timers = []

/-- The outcome of a submission is on its way, or will never come. -/
inductive Submitting (c : Config) (m : Machine Service) : Prop
  | queued (blank : Blank c m) (passes ticket : Nat) (graph : Graph) (result : Except Failure String)
      (queue : m.queue = [⟨passes, .submitted ticket graph result⟩]) (timers : m.timers = [])
  | timed (blank : Blank c m) (due : Instant) (passes ticket : Nat) (graph : Graph)
      (result : Except Failure String) (queue : m.queue = [])
      (timers : m.timers = [⟨due, passes, .submitted ticket graph result⟩])
  | stuck (idle : Idle c m)

def Submitted (c : Config) (m : Machine Service) : Prop :=
  ∃ result, m.outcome? = some result ∧ ∀ runId, result = .ok runId → Attends c runId m

variable {m n : Machine Service}

theorem initial_idle (c : Config) (nodes : List Node) (service : Service) :
    Idle c (.initial c false nodes service none) :=
  ⟨⟨rfl, rfl, fun _ member => absurd member List.not_mem_nil, rfl⟩, rfl, rfl⟩

namespace Idle

theorem start (idle : Idle c m) {change : Poller × List Signal} (started : m.poller.start runId = .ok change) :
    Attends c runId (m.follow change) := by
  have named : runId ≠ "" := by
    rintro rfl
    cases started
  rw [idle.poller, Poller.solo_start c named] at started
  cases started
  have begun : Attends c runId
      ({ m with poller := .solo c .created 0 [] (Poller.beginPolling (.tracking runId)) } : Machine Service) := by
    refine ⟨.resting 0 (Or.inl rfl) (Poller.underway_tracking runId), idle.unwatched, ?_, ?_, ?_, ?_, ?_⟩
    · simp [idle.queue]
    · simp [idle.timers]
    · intro entry member told
      obtain ⟨request, sent⟩ := idle.trace entry member
      rw [sent] at told
      cases told
    · rw [idle.frames]
    · intro finished
      rw [idle.frames] at finished
      cases finished
  exact begun.push 0 trivial

theorem watch (idle : Idle c m) (watched : m.perform (.start runId) = .ok n) : Attends c runId n := by
  unfold perform at watched
  simp only at watched
  cases started : m.poller.start runId with
  | error failure =>
      rw [started] at watched
      cases watched
  | ok change =>
      rw [started] at watched
      cases watched
      exact idle.start started

theorem submitted_emit (result : Except Failure String)
    (attends : ∀ runId, result = .ok runId → Attends c runId m) : Submitted c (m.emit (.submitted result)) :=
  ⟨result, rfl, fun runId accepted => (attends runId accepted).emit nofun⟩

theorem endSubmission (idle : Idle c m) (graph : Graph) (result : Except Failure String) :
    Submitted c (m.endSubmission graph result) := by
  cases result with
  | error failure => exact submitted_emit (.error failure) nofun
  | ok accepted =>
      have taken : Idle c { m with nodes := graph.nodes } := { idle with }
      cases started : m.poller.start accepted with
      | error failure =>
          have same : m.endSubmission graph (.ok accepted) =
              ({ m with nodes := graph.nodes } : Machine Service).emit (.submitted (.error failure)) := by
            simp only [Machine.endSubmission, started]
          rw [same]
          exact submitted_emit (.error failure) nofun
      | ok change =>
          have same : m.endSubmission graph (.ok accepted) =
              (({ m with nodes := graph.nodes } : Machine Service).follow change).emit (.submitted (.ok accepted)) := by
            simp only [Machine.endSubmission, started]
          rw [same]
          refine submitted_emit (.ok accepted) ?_
          rintro _ ⟨⟩
          exact taken.start started

theorem schedule (idle : Idle c m) (delay : Delay) (passes ticket : Nat) (graph : Graph)
    (result : Except Failure String) : Submitting c (m.schedule delay passes (.submitted ticket graph result)) := by
  cases delay with
  | none => exact .stuck idle
  | some seconds =>
      refine .timed { idle with } (m.now + seconds) passes ticket graph result idle.queue ?_
      simp [Machine.schedule, idle.timers]

theorem emit? (idle : Idle c m) (source : Service) {event : Option Event}
    (sent : event = none ∨ ∃ request, event = some (.request request)) :
    Idle c (({ m with source } : Machine Service).emit? event) := by
  rcases sent with rfl | ⟨request, rfl⟩
  · exact { idle with }
  · refine { idle with trace := ?_ }
    intro entry member
    rcases List.mem_cons.mp member with rfl | before
    · exact ⟨request, rfl⟩
    · exact idle.trace entry before

end Idle

theorem service_posted (s : Service) (graph : Graph) :
    (s.post graph none).1.sent = none ∨ ∃ request, (s.post graph none).1.sent = some (.request request) := by
  unfold Service.post
  simp only
  split
  next => exact Or.inl rfl
  next => exact Or.inr ⟨_, rfl⟩

theorem Idle.beginSubmission (idle : Idle c m) (ticket : Nat) (graph : Graph) :
    Submitting c (m.beginSubmission Source.service ticket graph) ∨
      Submitted c (m.beginSubmission Source.service ticket graph) := by
  have asked := idle.emit? (Source.service.submit m.source graph).2 (service_posted m.source graph)
  unfold Machine.beginSubmission
  split
  next => exact Or.inr (Idle.submitted_emit _ nofun)
  next =>
    simp only
    split
    · exact Or.inr (asked.endSubmission graph _)
    · exact Or.inl (asked.schedule _ timerPasses ticket graph _)

theorem Submitting.step (submitting : Submitting c m) (stepped : m.step? Source.service none = some n) :
    Submitting c n ∨ Submitted c n := by
  cases submitting with
  | queued blank passes ticket graph result queue timers =>
      cases passes with
      | zero =>
          rw [step?_job Source.service queue] at stepped
          cases stepped
          have popped : Idle c { m with queue := [] } := { blank with queue := rfl, timers := timers }
          exact Or.inr (popped.endSubmission graph result)
      | succ passes =>
          rw [step?_pass Source.service queue] at stepped
          cases stepped
          exact Or.inl (.queued { blank with } passes ticket graph result rfl timers)
  | timed blank due passes ticket graph result queue timers =>
      rw [step?_timer Source.service queue (by rw [timers]; rfl), fire_spec] at stepped
      cases stepped
      refine Or.inl (.queued { blank with } passes ticket graph result ?_ ?_)
      · simp [queue]
      · simp [timers, removeTimer]
  | stuck idle =>
      rw [step?_stuck Source.service idle.queue idle.timers] at stepped
      cases stepped

theorem run_reached (service : Source σ) (horizon : Option Instant) {goal : Machine σ → Bool} {m : Machine σ}
    (reached : goal m = true) (fuel : Nat) : m.run service horizon goal fuel = m := by
  cases fuel with
  | zero => rfl
  | succ fuel => rw [Machine.run, if_pos reached]

theorem run_grows {service : Source σ} {horizon : Option Instant} {goal : Machine σ → Bool} {m : Machine σ}
    {few many : Nat} (le : few ≤ many) (reached : goal (m.run service horizon goal few) = true) :
    m.run service horizon goal many = m.run service horizon goal few := by
  induction few generalizing m many with
  | zero => exact run_reached service horizon reached many
  | succ few ih =>
      obtain ⟨many, rfl⟩ : ∃ rest, many = rest + 1 := ⟨many - 1, by omega⟩
      unfold Machine.run at reached ⊢
      split at reached
      next now => rw [if_pos now, if_pos now]
      next later =>
        rw [if_neg later, if_neg later]
        split at reached
        next n stepped => exact ih (Nat.le_of_succ_le_succ le) reached
        next => rfl

theorem Submitted.run (submitted : Submitted c m) (fuel : Nat) :
    Submitted c (m.run Source.service none (fun m => m.outcome?.isSome) fuel) := by
  have decided : m.outcome?.isSome = true := by
    obtain ⟨result, decided, _⟩ := submitted
    rw [decided]
    rfl
  rw [run_reached Source.service none decided fuel]
  exact submitted

theorem Submitting.run (submitting : Submitting c m) (fuel : Nat) :
    Submitting c (m.run Source.service none (fun m => m.outcome?.isSome) fuel) ∨
      Submitted c (m.run Source.service none (fun m => m.outcome?.isSome) fuel) := by
  induction fuel generalizing m with
  | zero => exact Or.inl submitting
  | succ fuel ih =>
      unfold Machine.run
      split
      · exact Or.inl submitting
      · split
        next stepped =>
          rcases submitting.step stepped with still | submitted
          · exact ih still
          · exact Or.inr (submitted.run fuel)
        next => exact Or.inl submitting

theorem Submitting.blank (submitting : Submitting c m) : Blank c m := by
  cases submitting with
  | queued blank => exact blank
  | timed blank => exact blank
  | stuck idle => exact idle.toBlank

theorem Blank.undecided (blank : Blank c m) : m.outcome? = none := by
  unfold outcome? latest
  cases trace : m.trace with
  | nil => rfl
  | cons entry rest =>
      obtain ⟨time, event⟩ := entry
      obtain ⟨request, sent⟩ := blank.trace (time, event) (trace ▸ List.mem_cons_self)
      obtain rfl : event = .request request := sent
      rfl

theorem Idle.submitGraph (idle : Idle c m) {fuel : Nat} {graph : Graph}
    (accepted : (m.submitGraph Source.service fuel graph).outcome? = some (.ok runId)) :
    Attends c runId (m.submitGraph Source.service fuel graph) := by
  have submitted : ∀ {n : Machine Service}, Submitting c n ∨ Submitted c n → n.outcome? = some (.ok runId) →
      Attends c runId n := by
    rintro n (submitting | ⟨result, decided, attends⟩) accepted
    · rw [submitting.blank.undecided] at accepted
      cases accepted
    · rw [decided] at accepted
      exact attends runId (Option.some.inj accepted)
  refine submitted ?_ accepted
  rcases idle.beginSubmission m.tickets graph with submitting | done
  · exact submitting.run fuel
  · exact Or.inr (done.run fuel)

end WorkflowRuns.Machine
