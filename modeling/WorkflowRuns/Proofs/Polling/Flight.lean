import WorkflowRuns.Proofs.Polling.Execution
import WorkflowRuns.Proofs.Polling.Lifecycle

/-!
The flag of the flight: it tells whether a fetch of the current session is outstanding, and an
attempt to fetch while it is raised comes to nothing.
-/

namespace WorkflowRuns

namespace Machine

variable {σ : Type}

def asks (m : Machine σ) : List Nat :=
  m.queue.filterMap fun entry =>
    match entry.job with
    | .ask fetch => some fetch
    | _ => none

theorem asks_schedule (m : Machine σ) (delay : Delay) (passes : Nat) (job : Job) :
    (m.schedule delay passes job).asks = m.asks := by
  cases delay <;> rfl

theorem asks_announceEnd (m : Machine σ) (loop : Nat) : (m.announceEnd loop).asks = m.asks := by
  have told : ∀ (waiters : List (Nat × Nat)) (n : Machine σ),
      (waiters.foldl (fun m waiter => m.push endedPasses (.waited waiter.1)) n).asks = n.asks := by
    intro waiters
    induction waiters with
    | nil => intro n; rfl
    | cons head tail ih =>
        intro n
        rw [List.foldl_cons, ih]
        simp [asks, push]
  exact told _ _

theorem asks_signal (m : Machine σ) {signal : Signal} (quiet : ∀ f, signal ≠ .fetching f) :
    (m.signal signal).asks = m.asks := by
  cases signal with
  | spawned loop => simp [Machine.signal, asks, push]
  | woken loop => simp [Machine.signal, asks, push, cancelSleep]
  | calledOff loop => simp [Machine.signal, asks, push, cancelSleep]
  | ended loop => exact asks_announceEnd (m.cancelSleep loop) loop
  | fetching fetch => exact absurd rfl (quiet fetch)
  | sleeping loop delay => exact asks_schedule m delay.delay sleepPasses (.enter loop)

theorem asks_follow (m : Machine σ) {change : Poller × List Signal}
    (quiet : ∀ f, Signal.fetching f ∉ change.2) : (m.follow change).asks = m.asks := by
  obtain ⟨poller, signals⟩ := change
  have each : ∀ n : Machine σ, (signals.foldl signal n).asks = n.asks := by
    induction signals with
    | nil => intro n; rfl
    | cons head tail ih =>
        intro n
        simp only [List.mem_cons, not_or] at quiet
        rw [List.foldl_cons, ih (fun f => (quiet f).2)]
        exact asks_signal n (fun f same => (quiet f).1 same.symm)
  exact each { m with poller }

end Machine

namespace Poller

/-- The fetches of the current session that have not ended. -/
def outstanding (p : Poller) : List Fetch := p.fetches.filter (·.generation = p.generation)

theorem mem_outstanding {p : Poller} {f : Fetch} :
    f ∈ p.outstanding ↔ f ∈ p.fetches ∧ f.generation = p.generation := by
  simp [outstanding]

theorem isInFlight_iff (p : Poller) : p.isInFlight = true ↔ p.inFlight = some p.generation := by
  simp [isInFlight]

theorem OneFlight.outstanding_le {p : Poller} (one : OneFlight p) : p.outstanding.length ≤ 1 := by
  have distinct : p.outstanding.Nodup := (List.Nodup.of_map _ one.ids).filter _
  rcases members : p.outstanding with _ | ⟨f, _ | ⟨g, rest⟩⟩
  · simp
  · simp
  · have left := mem_outstanding.mp (by rw [members]; simp : f ∈ p.outstanding)
    have right := mem_outstanding.mp (by rw [members]; simp : g ∈ p.outstanding)
    have equal := one.alone f left.1 g right.1 left.2 right.2
    rw [members] at distinct
    simp [equal] at distinct

theorem OneFlight.raised_iff {p : Poller} (one : OneFlight p) :
    p.isInFlight = true ↔ p.outstanding ≠ [] := by
  rw [isInFlight_iff]
  constructor
  · intro held
    obtain ⟨f, member, current⟩ := one.held held
    exact List.ne_nil_of_mem (mem_outstanding.mpr ⟨member, current⟩)
  · intro busy
    obtain ⟨f, member⟩ := List.exists_mem_of_ne_nil _ busy
    obtain ⟨inside, current⟩ := mem_outstanding.mp member
    exact one.flying f inside current

theorem OneFlight.raised_iff_one {p : Poller} (one : OneFlight p) :
    p.isInFlight = true ↔ p.outstanding.length = 1 := by
  rw [one.raised_iff, ← List.length_pos_iff]
  have bound := one.outstanding_le
  omega

theorem OneFlight.lowered_iff {p : Poller} (one : OneFlight p) :
    p.isInFlight = false ↔ p.outstanding = [] := by
  rw [← Bool.not_eq_true, one.raised_iff, not_not]

/-- What becomes of the flag when a fetch ends or begins. -/
structure Hold (p q : Poller) : Prop where
  released : ∀ f ∈ p.outstanding, f ∉ q.outstanding → q.isInFlight = false
  past : ∀ f ∈ p.fetches, f.generation ≠ p.generation → f ∉ q.fetches →
    q.inFlight = p.inFlight ∧ q.generation = p.generation
  begun : ∀ f ∈ q.fetches, f ∉ p.fetches →
    f.generation = q.generation ∧ p.isInFlight = false ∧ q.isInFlight = true

theorem hold_same {p q : Poller} (fetches : q.fetches = p.fetches)
    (generation : q.generation = p.generation) : Hold p q := by
  have same : q.outstanding = p.outstanding := by rw [outstanding, outstanding, fetches, generation]
  constructor
  · intro f member gone
    rw [same] at gone
    exact absurd member gone
  · intro f member _ gone
    rw [fetches] at gone
    exact absurd member gone
  · intro f member new
    rw [fetches] at member
    exact absurd member new

theorem hold_supersedes {p q : Poller} (supersedes : Supersedes p q) : Hold p q := by
  obtain ⟨_, fetches, inFlight, _, _, _⟩ := supersedes
  constructor
  · intro f _ _
    simp [isInFlight, inFlight]
  · intro f member _ gone
    rw [fetches] at gone
    exact absurd member gone
  · intro f member new
    rw [fetches] at member
    exact absurd member new

theorem hold_begins {p q : Poller} {f : Fetch} (begins : Begins f p q) : Hold p q := by
  have kept : ∀ g ∈ p.fetches, g ∈ q.fetches := by
    intro g member
    rw [begins.fetches]
    exact List.mem_append_left [f] member
  constructor
  · intro g member gone
    obtain ⟨inside, current⟩ := mem_outstanding.mp member
    exact absurd (mem_outstanding.mpr ⟨kept g inside, current.trans begins.generation.symm⟩) gone
  · intro g member _ gone
    exact absurd (kept g member) gone
  · intro g member new
    rw [begins.fetches] at member
    have equal : g = f := by simpa [new] using member
    refine ⟨?_, ?_, ?_⟩
    · rw [equal, begins.generation]
      exact begins.current
    · rw [← Bool.not_eq_true, isInFlight_iff]
      exact begins.free
    · rw [isInFlight_iff, begins.generation]
      exact begins.inFlight

theorem hold_ends {p q : Poller} {f : Fetch} (one : OneFlight p) (ends : Ends f p q) :
    Hold p q := by
  have same : ∀ g ∈ p.fetches, g ∉ q.fetches → g = f := by
    intro g member gone
    have equal : g.id = f.id := by
      by_cases different : g.id = f.id
      · exact different
      · exact absurd (ends.mem.mpr ⟨member, different⟩) gone
    exact one.same_fetch member ends.outstanding equal
  constructor
  · intro g member gone
    obtain ⟨inside, current⟩ := mem_outstanding.mp member
    have missing : g ∉ q.fetches := by
      intro kept
      exact gone (mem_outstanding.mpr ⟨kept, current.trans ends.generation.symm⟩)
    have equal := same g inside missing
    rw [equal] at current
    have free : q.inFlight = none := by
      rw [ends.inFlight, current, one.flying f ends.outstanding current]
      simp
    simp [isInFlight, free]
  · intro g member past gone
    have equal := same g member gone
    rw [equal] at past
    refine ⟨?_, ends.generation⟩
    rw [ends.inFlight]
    split
    -- The flight is never held for a session that has passed.
    next held =>
      rcases one.holder with free | current
      · rw [free] at held
        cases held
      · rw [current, Option.some.injEq] at held
        exact absurd held.symm past
    next => rfl
  · intro g member new
    exact absurd (ends.mem.mp member).1 new

theorem Sound.hold {p : Poller} (sound : Sound p) (move : Move) : Hold p (p.move move) := by
  have traffic := sound.traffic move
  revert traffic
  generalize p.settlement? move = settled
  intro traffic
  cases traffic with
  | quiet quiet => exact hold_same quiet.fetches quiet.generation
  | superseded supersedes => exact hold_supersedes supersedes
  | began f begins => exact hold_begins begins
  | cancelled f ends _ => exact hold_ends sound.flight ends
  | settled f outcome ends _ => exact hold_ends sound.flight ends

theorem Sound.lowered_of_ends {p q : Poller} {f : Fetch} (sound : Sound p) (ends : Ends f p q)
    (current : f.generation = p.generation) : q.isInFlight = false := by
  apply (hold_ends sound.flight ends).released f (mem_outstanding.mpr ⟨ends.outstanding, current⟩)
  intro kept
  exact (ends.mem.mp (mem_outstanding.mp kept).1).2 rfl

structure Ticks (p : Poller) (l : PollLoop) : Prop where
  found : p.loop? l.id = some l
  ready : l.stage = .created ∨ l.stage = .waking
  current : l.generation = p.generation
  polling : p.session.isPolling = true

theorem enter_skipped {p : Poller} {l : PollLoop} (ticks : Ticks p l) (flying : p.isInFlight = true) :
    p.enter l.id = (p.setStage l.id .deciding).decide l.id := by
  obtain ⟨found, ready, current, polling⟩ := ticks
  have held := (isInFlight_iff p).mp flying
  simp [enter, found, ready, isCurrent, current, polling, held]

theorem leave_signals (p : Poller) (l : PollLoop) : (p.leave l).2 = [.ended l.id] := by
  simp only [leave]
  split <;> rfl

theorem decide_quiet (p : Poller) (id : Nat) (f : Fetch) : Signal.fetching f ∉ (p.decide id).2 := by
  unfold decide
  split
  · simp
  · split
    · simp
    · split
      · simp [leave_signals]
      · split
        · simp [leave_signals]
        · split
          · simp [leave_signals]
          · simp

theorem refresh_skipped {p : Poller} (tracked : p.session.runId ≠ none)
    (flying : p.isInFlight = true) (ticket : Nat) : p.refresh ticket = .skipped := by
  have held := (isInFlight_iff p).mp flying
  simp [refresh, tracked, held]

theorem Sound.tracked_of_flying {p : Poller} (sound : Sound p) (flying : p.isInFlight = true) :
    p.session.runId ≠ none := by
  obtain ⟨f, member, current⟩ := sound.flight.held ((isInFlight_iff p).mp flying)
  rw [sound.flight.tracked f member current]
  simp

/-- An attempt that comes to nothing asks no source, sends nothing later and reports nothing; the
loop goes on as after any tick. -/
structure Skipped {σ : Type} (m n : Machine σ) (l : PollLoop) : Prop where
  onward : n = ({ m with poller := m.poller.setStage l.id .deciding } : Machine σ).follow
    ((m.poller.setStage l.id .deciding).decide l.id)
  source : n.source = m.source
  asks : n.asks = m.asks
  trace : n.trace = m.trace
  fetches : n.poller.fetches = m.poller.fetches
  flying : n.poller.isInFlight = m.poller.isInFlight

theorem skipped_tick {σ : Type} (service : Source σ) (m : Machine σ) {l : PollLoop}
    (ticks : Ticks m.poller l) (flying : m.poller.isInFlight = true) :
    Skipped m (m.runJob service (.enter l.id)) l := by
  have attempted := enter_skipped ticks flying
  have quiet := (quiet_setStage m.poller l.id .deciding).trans (quiet_decide _ l.id)
  have deferred := Machine.deferred_follow m ((m.poller.setStage l.id .deciding).decide l.id)
  have run : m.runJob service (.enter l.id) =
      m.follow ((m.poller.setStage l.id .deciding).decide l.id) := by
    rw [← attempted]
    rfl
  rw [run]
  constructor
  · rfl
  · exact deferred.source
  · exact Machine.asks_follow m (decide_quiet _ l.id)
  · exact deferred.trace
  · rw [deferred.poller]
    exact quiet.fetches
  · rw [deferred.poller]
    simp only [isInFlight, quiet.inFlight, quiet.generation]

structure FlightExact (p : Poller) : Prop where
  raised : p.isInFlight = true ↔ p.outstanding.length = 1
  lowered : p.isInFlight = false ↔ p.outstanding = []
  hold : ∀ move, Hold p (p.move move)
  settled : ∀ f ∈ p.outstanding, ∀ answer, (p.move (.settle f.id answer)).isInFlight = false
  cancelled : ∀ f ∈ p.outstanding, (p.move (.cancel f.id)).isInFlight = false
  refreshed : p.isInFlight = true → ∀ {σ : Type} (service : Source σ) (m : Machine σ) (ticket : Nat),
    m.poller = p → m.runJob service (.refresh ticket) = m.emit (.refreshed (.ok false))
  ticked : p.isInFlight = true → ∀ {σ : Type} (service : Source σ) (m : Machine σ) (l : PollLoop),
    m.poller = p → Ticks p l → Skipped m (m.runJob service (.enter l.id)) l

/-- The flag is raised exactly while one fetch of the current session is outstanding.  Every end of
that fetch releases it, a fetch of a session that has passed leaves it alone, and an attempt made
meanwhile does nothing. -/
theorem inFlight_exact (config : Config) (keepPolling : Bool) (moves : List Move) :
    FlightExact ((initial config keepPolling).after moves) := by
  have sound := (initial_sound config keepPolling).after moves
  generalize (initial config keepPolling).after moves = p at sound
  constructor
  · exact sound.flight.raised_iff_one
  · exact sound.flight.lowered_iff
  · exact sound.hold
  · intro f member answer
    obtain ⟨inside, current⟩ := mem_outstanding.mp member
    have ends := ends_settle inside (p.outcome f answer)
    simpa [move, sound.flight.fetch?_of_mem inside] using sound.lowered_of_ends ends current
  · intro f member
    obtain ⟨inside, current⟩ := mem_outstanding.mp member
    have ends := ends_cancel inside
    simpa [move, sound.flight.fetch?_of_mem inside] using sound.lowered_of_ends ends current
  · intro flying σ service m ticket same
    have skipped := refresh_skipped (sound.tracked_of_flying flying) flying ticket
    simp only [Machine.runJob, Machine.beginRefresh, same, skipped]
  · intro flying σ service m l same ticks
    rw [← same] at ticks flying
    exact skipped_tick service m ticks flying

end Poller

end WorkflowRuns
