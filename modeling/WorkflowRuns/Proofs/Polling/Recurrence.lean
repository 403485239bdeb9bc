import WorkflowRuns.Proofs.Polling.Solo

/-!
What is to be seen of a run that nobody disturbs, by a plain recursion over the answers of the source.
-/

namespace WorkflowRuns

variable {σ : Type}

namespace Source

def asked (service : Source σ) (runId : String) (state : σ) : Nat → σ
  | 0 => state
  | n + 1 => (service.status (service.asked runId state n) runId).2

def exchange (service : Source σ) (runId : String) (state : σ) (n : Nat) : Exchange Raised Payload :=
  (service.status (service.asked runId state n) runId).1

end Source

/-- What can be seen of polling: the source is asked, what is known after a fetch, the end. -/
inductive Mark
  | asked (time : Instant) (runId : String)
  | settled (time : Instant) (session : Session)
  | ended (time : Instant)

abbrev Outcomes := List (Except Failure Snapshot)

namespace Outcomes

/-- Failures in a row up to the last tick. -/
def streak (outcomes : Outcomes) : Nat := (outcomes.takeWhile (!Machine.isOk ·)).length

def failure? : Except Failure Snapshot → Option Failure
  | .ok _ => none
  | .error failure => some failure

def isOver (c : Config) (outcomes : Outcomes) : Bool :=
  (outcomes.head?.bind Except.toOption).any (·.isTerminal) || c.maxFailures ≤ outcomes.streak

/-- What is known of a run after its ticks. -/
def known (c : Config) (runId : String) (outcomes : Outcomes) : Session where
  runId := some runId
  isPolling := !outcomes.isOver c
  snapshot := outcomes.findSome? Except.toOption
  failure := outcomes.head?.bind failure?
  consecutiveFailures := outcomes.streak
  connectionLost := c.maxFailures ≤ outcomes.streak
  fetchCount := outcomes.length

end Outcomes

def answered (c : Config) (runId : String) : Except Raised Payload → Except Failure Snapshot
  | .ok payload => (Snapshot.read (some runId) payload).mapError SnapshotFault.failure
  | .error (.failure failure) => .error failure
  | .error .timeout => .error (Poller.timeoutFailure c)

def tick? (c : Config) (runId : String) (e : Exchange Raised Payload) : Option (Rat × Except Failure Snapshot) :=
  match e.delay, c.requestTimeout.delay with
  | none, none => none
  | some delay, none => some (delay, answered c runId e.result)
  | none, some limit => some (limit, .error (Poller.timeoutFailure c))
  | some delay, some limit =>
      if limit < delay then some (limit, .error (Poller.timeoutFailure c))
      else some (delay, answered c runId e.result)

/-- What is seen of at most so many ticks, of which the first begins now. -/
def expected (c : Config) (runId : String) (exchanges : Nat → Exchange Raised Payload) :
    Nat → Instant → Outcomes → List Mark
  | 0, _, _ => []
  | ticks + 1, now, outcomes =>
      .asked now runId ::
        match tick? c runId (exchanges outcomes.length) with
        | none => []
        | some (span, outcome) =>
            let outcomes : Outcomes := outcome :: outcomes
            .settled (now + span) (outcomes.known c runId) ::
              if outcomes.isOver c then [.ended (now + span)]
              else match (c.retryDelay? outcomes.streak).bind Binary64.delay with
                | none => []
                | some delay => expected c runId exchanges ticks (now + span + delay) outcomes

namespace Outcomes

variable {c : Config} {runId : String}

theorem known_nil (positive : 1 ≤ c.maxFailures) :
    Poller.beginPolling (.tracking runId) = known c runId [] := by
  have connected : ¬ c.maxFailures ≤ 0 := by omega
  simp [known, isOver, streak, Poller.beginPolling, Session.tracking, Session.empty, connected]

structure Ongoing (c : Config) (outcomes : Outcomes) : Prop where
  running : ∀ s, Except.ok s ∈ outcomes → s.isTerminal = false
  connected : outcomes.streak < c.maxFailures

theorem ongoing_nil (positive : 1 ≤ c.maxFailures) : Ongoing c [] := by
  refine ⟨fun _ member => absurd member List.not_mem_nil, ?_⟩
  simp only [streak, List.takeWhile_nil, List.length_nil]
  omega

theorem streak_ok (s : Snapshot) (outcomes : Outcomes) : streak (.ok s :: outcomes) = 0 := rfl

theorem streak_error (failure : Failure) (outcomes : Outcomes) :
    streak (.error failure :: outcomes) = streak outcomes + 1 := rfl

theorem Ongoing.cons {outcomes : Outcomes} {outcome : Except Failure Snapshot}
    (ongoing : Ongoing c outcomes) (goes : isOver c (outcome :: outcomes) = false) :
    Ongoing c (outcome :: outcomes) := by
  simp only [isOver, List.head?_cons, Option.bind_some, Bool.or_eq_false_iff, decide_eq_false_iff_not] at goes
  obtain ⟨running, connected⟩ := goes
  refine ⟨?_, by omega⟩
  intro s member
  rcases List.mem_cons.mp member with first | before
  · subst first
    simpa [Except.toOption] using running
  · exact ongoing.running s before

theorem Ongoing.polling {outcomes : Outcomes} (ongoing : Ongoing c outcomes) :
    (known c runId outcomes).isPolling = true := by
  have connected : ¬ c.maxFailures ≤ outcomes.streak := by
    have below := ongoing.connected
    omega
  cases outcomes with
  | nil => simp [known, isOver, connected]
  | cons outcome before =>
      cases outcome with
      | error failure => simp [known, isOver, connected, Except.toOption]
      | ok s =>
          have running := ongoing.running s (by simp)
          simp [known, isOver, connected, Except.toOption, running]

theorem Ongoing.going {outcomes : Outcomes} (ongoing : Ongoing c outcomes) (s : Snapshot)
    (seen : (known c runId outcomes).snapshot = some s) : s.isTerminal = false := by
  obtain ⟨outcome, member, succeeded⟩ := List.exists_of_findSome?_eq_some seen
  cases outcome with
  | error failure => cases succeeded
  | ok other =>
      cases succeeded
      exact ongoing.running s member

theorem Ongoing.known_cons {outcomes : Outcomes} (positive : 1 ≤ c.maxFailures)
    (ongoing : Ongoing c outcomes) (outcome : Except Failure Snapshot) :
    Poller.recorded c (known c runId outcomes) outcome = known c runId (outcome :: outcomes) := by
  have polling : (known c runId outcomes).isPolling = true := ongoing.polling
  cases outcome with
  | ok s =>
      have connected : ¬ c.maxFailures ≤ 0 := by omega
      simp only [Poller.recorded, polling]
      simp [known, isOver, streak_ok, connected, Except.toOption, failure?, List.findSome?_cons]
  | error failure =>
      have connected : ¬ c.maxFailures ≤ outcomes.streak := by
        have below := ongoing.connected
        omega
      simp only [Poller.recorded, polling]
      by_cases last : c.maxFailures ≤ (outcomes.streak : Int) + 1 <;>
        simp [known, isOver, streak_error, connected, last, Except.toOption, failure?, List.findSome?_cons]

end Outcomes

end WorkflowRuns
