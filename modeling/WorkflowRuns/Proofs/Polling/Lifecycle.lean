import WorkflowRuns.Proofs.Config.Settings
import WorkflowRuns.Proofs.Polling.Ownership

/-!
The lifecycle of polling: what holds of a poller between any two moves.
-/

namespace WorkflowRuns

/-- The counts and flags of a session agree with one another and with the limit of failures. -/
structure Session.Accounted (limit : Int) (s : Session) : Prop where
  lost : s.connectionLost = true ↔ limit ≤ s.consecutiveFailures
  halted : s.connectionLost = true → s.isPolling = false
  unfetched : s.fetchCount = 0 ↔ s.snapshot = none ∧ s.failure = none
  failing : 0 < s.consecutiveFailures → s.failure ≠ none
  counted : s.consecutiveFailures ≤ s.fetchCount

namespace Poller

structure Sound (p : Poller) : Prop where
  loops : OneLoop p
  flight : OneFlight p
  owned : Owned p
  phased : Phased p

theorem initial_sound (config : Config) (keepPolling : Bool) :
    Sound (initial config keepPolling) :=
  ⟨initial_oneLoop config keepPolling, initial_oneFlight config keepPolling,
    initial_owned config keepPolling, initial_phased config keepPolling⟩

theorem Sound.traffic {p : Poller} (sound : Sound p) (move : Move) :
    Traffic p (p.move move) (p.settlement? move) :=
  traffic_move sound.phased move

theorem Sound.course {p : Poller} (sound : Sound p) (move : Move) : Course p (p.move move) := by
  apply course_move sound.phased
  intro f member current
  rw [sound.flight.tracked f member current]
  simp

theorem Sound.move {p : Poller} (sound : Sound p) (move : Move) : Sound (p.move move) :=
  ⟨sound.loops.move move, sound.flight.traffic (sound.traffic move),
    sound.owned.move sound.loops move, sound.phased.course (sound.course move)⟩

theorem Sound.after {p : Poller} (sound : Sound p) (moves : List Move) : Sound (p.after moves) :=
  holds_after Sound sound (fun _ move kept => kept.move move) moves

theorem Sound.settings_after {p : Poller} (sound : Sound p) (moves : List Move) :
    (p.after moves).settings = p.settings := by
  have kept := holds_after (fun q => Sound q ∧ q.settings = p.settings) ⟨sound, rfl⟩
    (fun q move before => ⟨before.1.move move, (before.1.traffic move).settings.trans before.2⟩)
    moves
  exact kept.2

theorem config_after (config : Config) (keepPolling : Bool) (moves : List Move) :
    ((initial config keepPolling).after moves).config = config :=
  congrArg Prod.fst ((initial_sound config keepPolling).settings_after moves)

theorem empty_accounted {limit : Int} (positive : 1 ≤ limit) : Session.empty.Accounted limit := by
  constructor <;> simp [Session.empty]
  omega

theorem beginPolling_accounted {limit : Int} (positive : 1 ≤ limit) {s : Session}
    (accounted : s.Accounted limit) : (beginPolling s).Accounted limit := by
  constructor
  · simp only [beginPolling, Bool.false_eq_true, false_iff]
    omega
  · simp [beginPolling]
  · exact accounted.unfetched
  · simp [beginPolling]
  · exact Nat.zero_le _

theorem tracking_accounted {limit : Int} (positive : 1 ≤ limit) (runId : String) :
    (Session.tracking runId).Accounted limit := by
  obtain ⟨lost, halted, unfetched, failing, counted⟩ := empty_accounted positive
  exact ⟨lost, halted, unfetched, failing, counted⟩

theorem record_accounted {p : Poller} (positive : 1 ≤ p.config.maxFailures)
    (accounted : p.session.Accounted p.config.maxFailures) (outcome : Except Failure Snapshot) :
    (p.record outcome).session.Accounted p.config.maxFailures := by
  cases outcome with
  | ok s =>
      rw [record_ok]
      constructor <;> simp
      omega
  | error failure =>
      have last : p.isLast = true ↔ p.config.maxFailures ≤ p.session.consecutiveFailures + 1 := by
        simp [isLast]
      rw [record_error]
      constructor
      · simp only [Bool.or_eq_true, accounted.lost, last]
        omega
      · simp only [Bool.or_eq_true, Bool.and_eq_false_iff, Bool.not_eq_false']
        rintro (lost | isLast)
        · exact Or.inl (accounted.halted lost)
        · exact Or.inr isLast
      · simp
      · simp
      · simpa using accounted.counted

theorem Course.accounted {p q : Poller} (positive : 1 ≤ p.config.maxFailures)
    (accounted : p.session.Accounted p.config.maxFailures) (course : Course p q) :
    q.session.Accounted p.config.maxFailures := by
  cases course with
  | kept session _ _ =>
      rw [session]
      exact accounted
  | halted session _ =>
      rw [session]
      exact ⟨accounted.lost, fun _ => rfl, accounted.unfetched, accounted.failing, accounted.counted⟩
  | begun _ session _ _ =>
      rw [session]
      exact beginPolling_accounted positive accounted
  | switched runId session _ _ =>
      rw [session]
      exact beginPolling_accounted positive (tracking_accounted positive runId)
  | cleared session _ =>
      rw [session]
      exact empty_accounted positive
  | recorded outcome _ session _ _ =>
      rw [session]
      exact record_accounted positive accounted outcome

theorem accounted_after {config : Config} (positive : 1 ≤ config.maxFailures) (keepPolling : Bool)
    (moves : List Move) :
    ((initial config keepPolling).after moves).session.Accounted config.maxFailures := by
  have kept := holds_after
    (fun q => Sound q ∧ q.config = config ∧ q.session.Accounted config.maxFailures)
    ⟨initial_sound config keepPolling, rfl, empty_accounted positive⟩
    (fun q move before => by
      obtain ⟨sound, same, accounted⟩ := before
      have settings := (sound.traffic move).settings
      refine ⟨sound.move move, (congrArg Prod.fst settings).trans same, ?_⟩
      rw [← same] at positive accounted ⊢
      exact (sound.course move).accounted positive accounted) moves
  exact kept.2.2

/-- The loops that serve the current session.  A loop is called off when its session passes, so
that one that serves has neither ended nor been called off. -/
def serving (p : Poller) : List PollLoop := p.loops.filter (·.generation = p.generation)

theorem OneLoop.serving_le {p : Poller} (one : OneLoop p) : p.serving.length ≤ 1 := by
  have same : ∀ l ∈ p.serving, ∀ k ∈ p.serving, l = k := by
    intro l left k right
    simp only [Poller.serving, List.mem_filter, decide_eq_true_eq] at left right
    have first := (one.serving l left.1).mp left.2
    have second := (one.serving k right.1).mp right.2
    rw [first, Option.some.injEq] at second
    exact one.same_loop left.1 right.1 second
  have distinct : p.serving.Nodup := (List.Nodup.of_map _ one.ids).filter _
  rcases members : p.serving with _ | ⟨l, _ | ⟨k, rest⟩⟩
  · simp
  · simp
  · rw [members] at same distinct
    have equal := same l (by simp) k (by simp)
    simp [equal] at distinct

theorem OneLoop.serving_task {p : Poller} (one : OneLoop p) (task : p.task ≠ none) :
    ∃ l, p.serving = [l] ∧ p.task = some l.id := by
  obtain ⟨id, set⟩ := Option.ne_none_iff_exists'.mp task
  obtain ⟨l, member, rfl⟩ := one.live id set
  have serves : l ∈ p.serving := by
    simp only [Poller.serving, List.mem_filter, decide_eq_true_eq]
    exact ⟨member, (one.serving l member).mpr set⟩
  have bound := one.serving_le
  rcases members : p.serving with _ | ⟨k, _ | ⟨other, rest⟩⟩
  · rw [members] at serves
    cases serves
  · rw [members, List.mem_singleton] at serves
    exact ⟨k, rfl, by rw [← serves]; exact set⟩
  · rw [members] at bound
    simp at bound

structure Lifecycle (p : Poller) : Prop where
  idle : p.phase = .idle ↔ p.session.runId = none
  polling : p.phase = .polling ↔ p.session.isPolling = true
  served : p.session.isPolling = true → ∃ l, p.serving = [l] ∧ p.task = some l.id
  alone : p.serving.length ≤ 1
  accounted : p.session.Accounted p.config.maxFailures

/-- Whatever calls, steps, answers and timeouts come, and in whatever order, the phase, the flags
and the counts agree, and a run that is polled is polled by exactly one loop. -/
theorem lifecycle_after {fields : Fields} {config : Config}
    (accepted : Config.ofFields fields = .accepted config) (keepPolling : Bool) (moves : List Move) :
    Lifecycle ((initial config keepPolling).after moves) := by
  have sound := (initial_sound config keepPolling).after moves
  have positive := (Config.valid_of_accepted accepted).maxFailures
  constructor
  · exact sound.phased.idle
  · exact sound.phased.polling
  · intro polling
    exact sound.loops.serving_task (sound.phased.served polling)
  · exact sound.loops.serving_le
  · rw [config_after]
    exact accounted_after positive keepPolling moves

theorem lifecycle_resumed :
    Config.ofFields [] = .accepted .standard ∧
      Lifecycle ((initial .standard false).after
        [.start "run-1", .enter 0, .refresh 0, .stop, .start "run-1", .settle 0 .timedOut,
          .decide 0]) :=
  ⟨rfl, lifecycle_after (show Config.ofFields [] = .accepted .standard from rfl) false _⟩

end Poller

end WorkflowRuns
