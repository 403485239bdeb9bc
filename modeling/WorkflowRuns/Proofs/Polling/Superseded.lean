import WorkflowRuns.Proofs.Polling.Execution
import WorkflowRuns.Proofs.Polling.Lifecycle

/-!
Sessions that have passed.  What was requested for one of them never lands, whichever runs are
tracked next.
-/

namespace WorkflowRuns

namespace Poller

inductive Supersession (p : Poller) : Move → Prop
  | clear : Supersession p .clear
  | start {runId : String} (named : runId ≠ "") (other : p.session.runId ≠ some runId) :
      Supersession p (.start runId)

theorem Supersession.supersedes {p : Poller} {move : Move} (passes : Supersession p move) :
    Supersedes p (p.move move) := by
  cases passes with
  | clear => exact supersedes_clear p
  | start named other => exact supersedes_start named other

/-- Of the outstanding fetches, those that began before `next` are of sessions before
`generation`. -/
structure Outdated (next generation : Nat) (p : Poller) : Prop where
  later : next ≤ p.nextFetch
  newer : generation ≤ p.generation
  fetches : ∀ f ∈ p.fetches, f.id < next → f.generation < generation

theorem Outdated.traffic {next generation : Nat} {p q : Poller} {settled : Option Settlement}
    (outdated : Outdated next generation p) (traffic : Traffic p q settled) :
    Outdated next generation q := by
  obtain ⟨later, newer, fetches⟩ := outdated
  have ended : ∀ {f : Fetch}, Ends f p q → Outdated next generation q := by
    intro f ends
    rw [← ends.next] at later
    rw [← ends.generation] at newer
    refine ⟨later, newer, ?_⟩
    intro g member
    exact fetches g (ends.mem.mp member).1
  cases traffic with
  | quiet quiet =>
      rw [← quiet.next] at later
      rw [← quiet.generation] at newer
      rw [← quiet.fetches] at fetches
      exact ⟨later, newer, fetches⟩
  | superseded supersedes =>
      rw [← supersedes.next] at later
      rw [← supersedes.fetches] at fetches
      refine ⟨later, ?_, fetches⟩
      rw [supersedes.generation]
      exact Nat.le_succ_of_le newer
  | began f begins =>
      refine ⟨?_, by rw [begins.generation]; exact newer, ?_⟩
      · rw [begins.next]
        exact Nat.le_succ_of_le later
      · intro g member old
        rw [begins.fetches, List.mem_append, List.mem_singleton] at member
        rcases member with before | rfl
        · exact fetches g before old
        · have new := begins.id
          omega
  | cancelled f ends _ => exact ended ends
  | settled f outcome ends _ => exact ended ends

theorem Sound.outdated_after {next generation : Nat} {p : Poller} (sound : Sound p)
    (outdated : Outdated next generation p) (moves : List Move) :
    Outdated next generation (p.after moves) := by
  have kept := holds_after (fun q => Sound q ∧ Outdated next generation q)
    ⟨sound, outdated⟩
    (fun q move before => ⟨before.1.move move, before.2.traffic (before.1.traffic move)⟩) moves
  exact kept.2

/-- Once a session was superseded, what it had requested belongs to a session of the past for ever,
whichever runs are tracked next. -/
theorem Sound.superseded_past {p : Poller} (sound : Sound p) {move : Move}
    (passes : Supersession p move) (later : List Move) {f : Fetch}
    (outstanding : f ∈ (p.after (move :: later)).fetches) (older : f.id < p.nextFetch) :
    f.generation < (p.after (move :: later)).generation := by
  have supersedes := passes.supersedes
  have first : Outdated p.nextFetch (p.generation + 1) (p.move move) := by
    refine ⟨Nat.le_of_eq supersedes.next.symm, Nat.le_of_eq supersedes.generation.symm, ?_⟩
    intro g member _
    rw [supersedes.fetches] at member
    exact Nat.lt_succ_of_le (sound.flight.past g member)
  have outdated := (sound.move move).outdated_after first later
  exact Nat.lt_of_lt_of_le (outdated.fetches f outstanding older) outdated.newer

/-- What is known of the run, the phase and the flight stay the same. -/
structure Untouched (p q : Poller) : Prop where
  session : q.session = p.session
  phase : q.phase = p.phase
  inFlight : q.inFlight = p.inFlight
  generation : q.generation = p.generation

theorem Untouched.trans {p q r : Poller} (first : Untouched p q) (second : Untouched q r) :
    Untouched p r :=
  ⟨second.session.trans first.session, second.phase.trans first.phase,
    second.inFlight.trans first.inFlight, second.generation.trans first.generation⟩

theorem untouched_leave {p : Poller} {l : PollLoop} (past : l.generation ≠ p.generation) :
    Untouched p (p.leave l).1 := by
  rw [leave_past past]
  exact ⟨rfl, rfl, rfl, rfl⟩

theorem untouched_decide {p : Poller} {id : Nat}
    (past : ∀ l ∈ p.loops, l.id = id → l.generation ≠ p.generation) :
    Untouched p (p.decide id).1 := by
  rcases decide_cases p id with quiet | ⟨l, found, deciding⟩
  · rw [quiet]
    exact ⟨rfl, rfl, rfl, rfl⟩
  · obtain ⟨member, same⟩ := loop?_mem found
    have old := past l member same
    rw [decide_spec found deciding, if_neg (fun going => old going.1)]
    exact untouched_leave old

theorem untouched_release {p : Poller} (one : OneFlight p) {f : Fetch}
    (past : f.generation ≠ p.generation) : Untouched p (p.release f) := by
  have notHeld : p.inFlight ≠ some f.generation := by
    intro held
    rcases one.holder with free | current
    · rw [free] at held
      cases held
    · rw [current, Option.some.injEq] at held
      exact past held.symm
  rw [release_spec]
  exact ⟨rfl, rfl, if_neg notHeld, rfl⟩

theorem Owned.loop_past {p : Poller} (owned : Owned p) {f : Fetch} (outstanding : f ∈ p.fetches)
    (past : f.generation ≠ p.generation) {l : PollLoop} (member : l ∈ (p.release f).loops)
    (own : f.requester = .loop l.id) : l.generation ≠ (p.release f).generation := by
  obtain ⟨k, origin, id, generation⟩ := (narrowed_release p f).loops l member
  rw [← id] at own
  rw [← generation, owned.same f outstanding k origin own, release_spec]
  exact past

theorem untouched_cancel {p : Poller} (one : OneFlight p) (owned : Owned p) {f : Fetch}
    (outstanding : f ∈ p.fetches) (past : f.generation ≠ p.generation) :
    Untouched p (p.cancel f).1 := by
  have released := untouched_release one past
  rcases cancel_spec p f with quiet | ⟨l, member, own, left⟩
  · rw [quiet]
    exact released
  · rw [left]
    exact released.trans (untouched_leave (owned.loop_past outstanding past member own))

theorem untouched_drop {p : Poller} (one : OneFlight p) (owned : Owned p) (id : Nat) :
    Untouched p (p.drop id).1 := by
  rcases drop_cases p id with quiet | ⟨l, found, past, left | ⟨f, outstanding, own, cancelled⟩⟩
  · rw [quiet]
    exact ⟨rfl, rfl, rfl, rfl⟩
  · rw [left]
    exact untouched_leave past
  · obtain ⟨member, same⟩ := loop?_mem found
    rw [← same] at own
    rw [owned.same f outstanding l member own] at past
    rw [cancelled]
    exact untouched_cancel one owned outstanding past

/-- Nothing was recorded and the watcher was not told. -/
structure Undisturbed {σ : Type} (m n : Machine σ) : Prop where
  poller : Untouched m.poller n.poller
  trace : ∀ entry ∈ n.trace, entry ∈ m.trace ∨ entry.2 = .refreshed (.ok false)

theorem undisturbed_follow {σ : Type} {m : Machine σ} {change : Poller × List Signal}
    (untouched : Untouched m.poller change.1) : Undisturbed m (m.follow change) := by
  constructor
  · rw [Machine.follow_poller]
    exact untouched
  · intro entry member
    rw [Machine.follow_trace] at member
    exact Or.inl member

theorem undisturbed_settle {σ : Type} {m : Machine σ} (one : OneFlight m.poller)
    (owned : Owned m.poller) {f : Fetch} (outstanding : f ∈ m.poller.fetches)
    (past : f.generation ≠ m.poller.generation) (outcome : Fetch → Except Failure Snapshot) :
    Undisturbed m (m.settle f.id outcome) := by
  have found := one.fetch?_of_mem outstanding
  have discarded : m.poller.settle f (outcome f) = m.poller.release f := by
    rw [settle_spec, if_neg past]
  have notCurrent : m.poller.isCurrent f.generation = false := by
    rw [← Bool.not_eq_true, isCurrent_iff]
    exact past
  have released := untouched_release one past
  cases requester : f.requester with
  | refresh ticket =>
      have settled : m.settle f.id outcome =
          ({ m.cancelFetch f.id with poller := m.poller.release f } : Machine σ).emit
            (.refreshed (.ok false)) := by
        simp [Machine.settle, Machine.report, found, discarded, notCurrent, requester]
      rw [settled]
      refine ⟨released, ?_⟩
      intro entry member
      rcases List.mem_cons.mp member with rfl | before
      · exact Or.inr rfl
      · exact Or.inl before
  | loop id =>
      have settled : m.settle f.id outcome =
          ({ m.cancelFetch f.id with poller := m.poller.release f } : Machine σ).follow
            ((m.poller.release f).decide id) := by
        simp [Machine.settle, Machine.report, found, discarded, notCurrent, requester]
      have left : Untouched (m.poller.release f) ((m.poller.release f).decide id).1 := by
        apply untouched_decide
        intro l member same
        rw [← same] at requester
        exact owned.loop_past outstanding past member requester
      have followed := undisturbed_follow
        (m := { m.cancelFetch f.id with poller := m.poller.release f }) left
      rw [settled]
      exact ⟨released.trans followed.poller, followed.trace⟩

theorem undisturbed_cancel {σ : Type} {m : Machine σ} (one : OneFlight m.poller)
    (owned : Owned m.poller) {f : Fetch} (outstanding : f ∈ m.poller.fetches)
    (past : f.generation ≠ m.poller.generation) : Undisturbed m (m.cancel f.id) := by
  have cancelled : m.cancel f.id = (m.cancelFetch f.id).follow (m.poller.cancel f) := by
    simp [Machine.cancel, one.fetch?_of_mem outstanding]
  have untouched := undisturbed_follow (m := m.cancelFetch f.id)
    (untouched_cancel one owned outstanding past)
  rw [cancelled]
  exact ⟨untouched.poller, untouched.trace⟩

/-- Whichever way a fetch ends, nothing comes of it. -/
structure Discarded (p : Poller) (f : Fetch) : Prop where
  settled : ∀ {σ : Type} (m : Machine σ) (outcome : Fetch → Except Failure Snapshot),
    m.poller = p → Undisturbed m (m.settle f.id outcome)
  cancelled : ∀ {σ : Type} (m : Machine σ), m.poller = p → Undisturbed m (m.cancel f.id)
  dropped : ∀ {σ : Type} (service : Source σ) (m : Machine σ) (loop : Nat), m.poller = p →
    f.requester = .loop loop → Undisturbed m (m.runJob service (.drop loop))

theorem Sound.discarded {p : Poller} (sound : Sound p) {f : Fetch} (outstanding : f ∈ p.fetches)
    (past : f.generation ≠ p.generation) : Discarded p f := by
  constructor
  · rintro σ m outcome rfl
    exact undisturbed_settle sound.flight sound.owned outstanding past outcome
  · rintro σ m rfl
    exact undisturbed_cancel sound.flight sound.owned outstanding past
  · rintro σ service m loop rfl _
    exact undisturbed_follow (untouched_drop sound.flight sound.owned loop)

end Poller

end WorkflowRuns
