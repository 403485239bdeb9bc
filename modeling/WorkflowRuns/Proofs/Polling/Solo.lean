import WorkflowRuns.Proofs.Polling.Moves

/-!
Pollers that nobody disturbs: one run is tracked, its first loop does all the fetching, and nothing
else is called.  Every step of such a poller leads to another one, or to the end of its loop.
-/

namespace WorkflowRuns.Poller

/-- The loop of the first session at a stage, with the fetches it has outstanding. -/
def solo (c : Config) (stage : Stage) (next : Nat) (fetches : List Fetch) (s : Session) : Poller where
  config := c
  keepPolling := false
  session := s
  phase := if s.isPolling then .polling else .stopped
  generation := 1
  task := some 0
  loops := [⟨0, 1, stage⟩]
  inFlight := if fetches = [] then none else some 1
  fetches
  nextLoop := 1
  nextFetch := next

def retired (c : Config) (next : Nat) (s : Session) : Poller :=
  { solo c .created next [] { s with isPolling := false } with phase := .stopped, task := none, loops := [] }

def ownFetch (id : Nat) (runId : String) : Fetch := ⟨id, 1, runId, .loop 0⟩

def recorded (c : Config) (s : Session) : Except Failure Snapshot → Session
  | .ok snapshot =>
      { s with
        isPolling := s.isPolling && !snapshot.isTerminal
        snapshot := some snapshot, failure := none, consecutiveFailures := 0, connectionLost := false
        fetchCount := s.fetchCount + 1 }
  | .error failure =>
      let last : Bool := c.maxFailures ≤ s.consecutiveFailures + 1
      { s with
        isPolling := s.isPolling && !last
        failure := some failure, consecutiveFailures := s.consecutiveFailures + 1
        connectionLost := s.connectionLost || last
        fetchCount := s.fetchCount + 1 }

variable (c : Config) (next : Nat) (s : Session)

theorem solo_loop? (stage : Stage) (fetches : List Fetch) (id : Nat) :
    (solo c stage next fetches s).loop? id = if id = 0 then some ⟨0, 1, stage⟩ else none := by
  by_cases first : id = 0
  · simp [solo, loop?, first]
  · simp [solo, loop?, first, Ne.symm first]

theorem solo_isActive (stage : Stage) (fetches : List Fetch) :
    (solo c stage next fetches s).isActive = true := by
  simp [isActive, solo, loop?]

theorem retired_isActive : (retired c next s).isActive = false := rfl

theorem solo_start {runId : String} (named : runId ≠ "") :
    (initial c false).start runId =
      .ok (solo c .created 0 [] (beginPolling (.tracking runId)), [.spawned 0]) := by
  simp [start, named, initial, Session.empty, supersede, resume, isActive, spawn, solo, beginPolling]

theorem solo_setStage (before stage : Stage) (fetches : List Fetch) :
    (solo c before next fetches s).setStage 0 stage = solo c stage next fetches s := by
  simp [setStage, solo]

theorem solo_enter {stage : Stage} (ready : stage = .created ∨ stage = .waking)
    (polling : s.isPolling = true) {runId : String} (tracked : s.runId = some runId) :
    (solo c stage next [] s).enter 0 =
      (solo c .fetching (next + 1) [ownFetch next runId] s, [.fetching (ownFetch next runId)]) := by
  have current : (solo c stage next [] s).isCurrent 1 = true := rfl
  have free : (solo c stage next [] s).inFlight ≠ some 1 := by simp [solo]
  have going : (solo c stage next [] s).session.isPolling = true := polling
  rw [enter, solo_loop?]
  simp only [if_true, ready, current, going, Bool.not_true, Bool.or_self, Bool.false_eq_true, if_false, free,
    solo_setStage]
  simp [solo, beginFetch, ownFetch, tracked]

theorem solo_record (stage : Stage) (outcome : Except Failure Snapshot)
    (polling : s.isPolling = true) :
    (solo c stage next [] s).record outcome = solo c stage next [] (recorded c s outcome) := by
  cases outcome with
  | ok snapshot =>
      rw [record_ok]
      cases terminal : snapshot.isTerminal <;> simp [solo, endsOn, recorded, polling, terminal]
  | error failure =>
      rw [record_error]
      by_cases last : c.maxFailures ≤ s.consecutiveFailures + 1 <;>
        simp [solo, isLast, recorded, polling, last]

theorem solo_fetch? (stage : Stage) (fetch : Fetch) :
    (solo c stage next [fetch] s).fetch? fetch.id = some fetch := by
  simp [solo, fetch?]

theorem solo_settle (id : Nat) (runId : String) (outcome : Except Failure Snapshot)
    (polling : s.isPolling = true) :
    (solo c .fetching next [ownFetch id runId] s).settle (ownFetch id runId) outcome =
      solo c .deciding next [] (recorded c s outcome) := by
  have released : (solo c .fetching next [ownFetch id runId] s).release (ownFetch id runId) =
      solo c .deciding next [] s := by
    simp [release_spec, solo, onward, ownFetch]
  rw [settle_spec, released]
  exact (if_pos rfl).trans (solo_record c next s .deciding outcome polling)

theorem solo_leave (stage : Stage) :
    (solo c stage next [] s).leave ⟨0, 1, stage⟩ = (retired c next s, [.ended 0]) := by
  cases polling : s.isPolling <;> simp [leave, isCurrent, solo, retired, polling]

theorem solo_decide_halted (halted : s.isPolling = false) :
    (solo c .deciding next [] s).decide 0 = (retired c next s, [.ended 0]) := by
  have current : (solo c .deciding next [] s).isCurrent 1 = true := rfl
  have interval : (solo c .deciding next [] s).nextInterval? = some .zero := by
    simp [nextInterval?, solo, halted]
  have short : Binary64.zero.le .zero = true := by decide +kernel
  rw [decide, solo_loop?]
  simp only [if_true, ne_eq, not_true_eq_false, if_false, current, Bool.not_true, Bool.false_eq_true, interval,
    short, solo_leave]

theorem solo_interval (stage : Stage) (polling : s.isPolling = true)
    (going : ∀ snapshot, s.snapshot = some snapshot → snapshot.isTerminal = false) :
    (solo c stage next [] s).nextInterval? = c.retryDelay? s.consecutiveFailures := by
  have noneEnds : s.snapshot.any (solo c stage next [] s).endsOn = false := by
    cases seen : s.snapshot with
    | none => rfl
    | some snapshot => simp [endsOn, going snapshot seen]
  have interval : (solo c stage next [] s).nextInterval? =
      if s.snapshot.any (solo c stage next [] s).endsOn then some .zero
      else c.retryDelay? s.consecutiveFailures := by
    simp [nextInterval?, solo, polling]
  simp [interval, noneEnds]

theorem solo_decide_going (polling : s.isPolling = true)
    (going : ∀ snapshot, s.snapshot = some snapshot → snapshot.isTerminal = false) {delay : Binary64}
    (computed : c.retryDelay? s.consecutiveFailures = some delay) (positive : delay.le .zero = false) :
    (solo c .deciding next [] s).decide 0 = (solo c .sleeping next [] s, [.sleeping 0 delay]) := by
  have current : (solo c .deciding next [] s).isCurrent 1 = true := rfl
  rw [decide, solo_loop?]
  simp only [if_true, ne_eq, not_true_eq_false, if_false, current, Bool.not_true, Bool.false_eq_true,
    solo_interval c next s .deciding polling going, computed, positive, solo_setStage]

theorem solo_decide_stuck (polling : s.isPolling = true)
    (going : ∀ snapshot, s.snapshot = some snapshot → snapshot.isTerminal = false)
    (overflow : c.retryDelay? s.consecutiveFailures = none) :
    (solo c .deciding next [] s).decide 0 = (retired c next s, [.ended 0]) := by
  have current : (solo c .deciding next [] s).isCurrent 1 = true := rfl
  rw [decide, solo_loop?]
  simp only [if_true, ne_eq, not_true_eq_false, if_false, current, Bool.not_true, Bool.false_eq_true,
    solo_interval c next s .deciding polling going, overflow, solo_leave]

theorem solo_rouse : (solo c .sleeping next [] s).rouse 0 = solo c .waking next [] s := by
  simp [rouse, solo, isAsleep]

end WorkflowRuns.Poller
