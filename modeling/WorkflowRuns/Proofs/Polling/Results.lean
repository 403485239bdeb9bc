import WorkflowRuns.Following
import WorkflowRuns.Proofs.Polling.Superseded

/-!
The order of results: they land in the order of their requests, and the last one that succeeded is
what is known of the run.
-/

namespace WorkflowRuns

namespace Poller

/-- The fetch of the current session that succeeded last, in the order of requests. -/
structure Latest (p : Poller) (log : List Settlement) (f : Fetch) (s : Snapshot) : Prop where
  settled : ⟨f, .ok s, true⟩ ∈ log
  current : f.generation = p.generation
  last : ∀ t ∈ log, t.fetch.generation = p.generation → Machine.isOk t.outcome = true →
    t.fetch.id ≤ f.id

/-- What a log of all settled fetches says of the poller. -/
structure Logged (p : Poller) (log : List Settlement) : Prop where
  known : ∀ t ∈ log, t.fetch.id < p.nextFetch
  past : ∀ t ∈ log, t.fetch.generation ≤ p.generation
  landed : ∀ t ∈ log, t.fetch.generation = p.generation → t.landed = true
  ahead : ∀ t ∈ log, t.landed = true → ∀ f ∈ p.fetches, f.generation = p.generation →
    t.fetch.id < f.id
  tracked : ∀ t ∈ log, t.fetch.generation = p.generation → p.session.runId = some t.fetch.runId
  ordered : ((log.filter (·.landed)).map (·.fetch.id)).Pairwise (· < ·)
  latest : ∀ s, p.session.snapshot = some s → ∃ f, Latest p log f s
  unseen : p.session.snapshot = none →
    ∀ t ∈ log, t.fetch.generation = p.generation → Machine.isOk t.outcome = false

theorem initial_logged (config : Config) (keepPolling : Bool) :
    Logged (initial config keepPolling) [] := by
  constructor <;> simp [initial, Session.empty]

theorem Latest.same {p q : Poller} {log : List Settlement} {f : Fetch} {s : Snapshot}
    (latest : Latest p log f s) (generation : q.generation = p.generation) : Latest q log f s := by
  obtain ⟨settled, current, last⟩ := latest
  rw [← generation] at current last
  exact ⟨settled, current, last⟩

theorem Latest.concat {p : Poller} {log : List Settlement} {f : Fetch} {s : Snapshot}
    (latest : Latest p log f s) {t : Settlement}
    (failed : t.fetch.generation = p.generation → Machine.isOk t.outcome = false) :
    Latest p (log ++ [t]) f s := by
  refine ⟨List.mem_append_left _ latest.settled, latest.current, ?_⟩
  intro u member current succeeded
  rcases List.mem_append.mp member with before | last
  · exact latest.last u before current succeeded
  · rw [List.mem_singleton.mp last] at current succeeded
    rw [failed current] at succeeded
    cases succeeded

theorem latest_concat {p : Poller} {log : List Settlement} {f : Fetch} {s : Snapshot}
    (current : f.generation = p.generation)
    (older : ∀ t ∈ log, t.fetch.generation = p.generation → t.fetch.id < f.id) :
    Latest p (log ++ [⟨f, .ok s, true⟩]) f s := by
  refine ⟨by simp, current, ?_⟩
  intro t member now _
  rcases List.mem_append.mp member with before | last
  · exact Nat.le_of_lt (older t before now)
  · have equal := List.mem_singleton.mp last
    subst equal
    exact Nat.le_refl f.id

theorem ordered_concat {log : List Settlement} {t : Settlement}
    (ordered : ((log.filter (·.landed)).map (·.fetch.id)).Pairwise (· < ·))
    (older : t.landed = true → ∀ u ∈ log, u.landed = true → u.fetch.id < t.fetch.id) :
    (((log ++ [t]).filter (·.landed)).map (·.fetch.id)).Pairwise (· < ·) := by
  rw [List.filter_append, List.map_append]
  refine List.pairwise_append.mpr ⟨ordered, ?_, ?_⟩
  · cases landed : t.landed <;> simp [landed]
  · intro id member other last
    obtain ⟨u, inside, rfl⟩ := List.mem_map.mp member
    obtain ⟨before, landed⟩ := List.mem_filter.mp inside
    have own : t.landed = true ∧ t.fetch.id = other := by
      simpa using last
    rw [← own.2]
    exact older own.1 u before landed

theorem Logged.same {p q : Poller} {log : List Settlement} (logged : Logged p log)
    (fetches : ∀ f ∈ q.fetches, f ∈ p.fetches) (generation : q.generation = p.generation)
    (next : q.nextFetch = p.nextFetch) (runId : q.session.runId = p.session.runId)
    (snapshot : q.session.snapshot = p.session.snapshot) : Logged q log := by
  constructor
  · rw [next]
    exact logged.known
  · rw [generation]
    exact logged.past
  · rw [generation]
    exact logged.landed
  · intro t member landed f outstanding
    rw [generation]
    exact logged.ahead t member landed f (fetches f outstanding)
  · rw [generation, runId]
    exact logged.tracked
  · exact logged.ordered
  · intro s seen
    rw [snapshot] at seen
    obtain ⟨f, latest⟩ := logged.latest s seen
    exact ⟨f, latest.same generation⟩
  · rw [snapshot, generation]
    exact logged.unseen

theorem Logged.supersedes {p q : Poller} {log : List Settlement} (one : OneFlight p)
    (logged : Logged p log) (supersedes : Supersedes p q) : Logged q log := by
  obtain ⟨_, fetches, _, generation, next, snapshot⟩ := supersedes
  have old : ∀ t ∈ log, t.fetch.generation ≠ q.generation := by
    intro t member
    have bound := logged.past t member
    omega
  constructor
  · rw [next]
    exact logged.known
  · intro t member
    have bound := logged.past t member
    omega
  · intro t member current
    exact absurd current (old t member)
  · intro t _ _ f outstanding current
    rw [fetches] at outstanding
    have bound := one.past f outstanding
    omega
  · intro t member current
    exact absurd current (old t member)
  · exact logged.ordered
  · intro s seen
    rw [snapshot] at seen
    cases seen
  · intro _ t member current
    exact absurd current (old t member)

theorem Logged.begins {p q : Poller} {log : List Settlement} {f : Fetch} (logged : Logged p log)
    (begins : Begins f p q) : Logged q log := by
  constructor
  · intro t member
    rw [begins.next]
    exact Nat.lt_succ_of_lt (logged.known t member)
  · rw [begins.generation]
    exact logged.past
  · rw [begins.generation]
    exact logged.landed
  · intro t member landed g outstanding current
    rw [begins.generation] at current
    rw [begins.fetches, List.mem_append, List.mem_singleton] at outstanding
    rcases outstanding with before | rfl
    · exact logged.ahead t member landed g before current
    · rw [begins.id]
      exact logged.known t member
  · rw [begins.generation, begins.session]
    exact logged.tracked
  · exact logged.ordered
  · intro s seen
    rw [begins.session] at seen
    obtain ⟨g, latest⟩ := logged.latest s seen
    exact ⟨g, latest.same begins.generation⟩
  · rw [begins.session, begins.generation]
    exact logged.unseen

theorem settled_snapshot {p q : Poller} {f : Fetch} {outcome : Except Failure Snapshot}
    (session : q.session = if f.generation = p.generation then (p.record outcome).session
      else p.session) :
    (q.session.snapshot = p.session.snapshot ∧
        (f.generation = p.generation → Machine.isOk outcome = false)) ∨
      ∃ s, outcome = .ok s ∧ f.generation = p.generation ∧ q.session.snapshot = some s := by
  by_cases current : f.generation = p.generation
  · rw [if_pos current] at session
    cases outcome with
    | ok s =>
        rw [record_ok] at session
        exact Or.inr ⟨s, rfl, current, by rw [session]⟩
    | error failure =>
        rw [record_error] at session
        exact Or.inl ⟨by rw [session], fun _ => rfl⟩
  · rw [if_neg current] at session
    exact Or.inl ⟨by rw [session], fun same => absurd same current⟩

theorem Logged.settles {p q : Poller} {log : List Settlement} {f : Fetch}
    {outcome : Except Failure Snapshot} (one : OneFlight p) (logged : Logged p log)
    (ends : Ends f p q)
    (session : q.session = if f.generation = p.generation then (p.record outcome).session
      else p.session) : Logged q (log ++ [⟨f, outcome, p.isCurrent f.generation⟩]) := by
  have split : ∀ t ∈ log ++ [⟨f, outcome, p.isCurrent f.generation⟩],
      t ∈ log ∨ t = ⟨f, outcome, p.isCurrent f.generation⟩ := by
    intro t member
    simpa using member
  -- What landed before was requested before, since the fetch was alone in its session.
  have older : ∀ t ∈ log, t.landed = true → f.generation = p.generation → t.fetch.id < f.id := by
    intro t member landed current
    exact logged.ahead t member landed f ends.outstanding current
  constructor
  · intro t member
    rw [ends.next]
    rcases split t member with before | rfl
    · exact logged.known t before
    · exact one.known f ends.outstanding
  · intro t member
    rw [ends.generation]
    rcases split t member with before | rfl
    · exact logged.past t before
    · exact one.past f ends.outstanding
  · intro t member current
    rw [ends.generation] at current
    rcases split t member with before | rfl
    · exact logged.landed t before current
    · exact (isCurrent_iff p _).mpr current
  · intro t member landed g outstanding current
    rw [ends.generation] at current
    have kept := ends.mem.mp outstanding
    rcases split t member with before | rfl
    · exact logged.ahead t before landed g kept.1 current
    · have own := (isCurrent_iff p _).mp landed
      exact absurd (congrArg Fetch.id (one.alone g kept.1 f ends.outstanding current own)) kept.2
  · intro t member current
    rw [ends.generation] at current
    rw [ends.runId]
    rcases split t member with before | rfl
    · exact logged.tracked t before current
    · exact one.tracked f ends.outstanding current
  · apply ordered_concat logged.ordered
    intro landed t before own
    exact older t before own ((isCurrent_iff p _).mp landed)
  · intro s seen
    rcases settled_snapshot session with ⟨same, failed⟩ | ⟨new, rfl, current, brought⟩
    · rw [same] at seen
      obtain ⟨g, latest⟩ := logged.latest s seen
      exact ⟨g, (latest.concat failed).same ends.generation⟩
    · rw [brought, Option.some.injEq] at seen
      subst seen
      have new := latest_concat (s := new) current
        (fun t before now => older t before (logged.landed t before now) current)
      rw [(isCurrent_iff p _).mpr current]
      exact ⟨f, new.same ends.generation⟩
  · intro unseen t member now
    rw [ends.generation] at now
    rcases settled_snapshot session with ⟨same, failed⟩ | ⟨new, _, _, brought⟩
    · rw [same] at unseen
      rcases split t member with before | rfl
      · exact logged.unseen unseen t before now
      · exact failed now
    · rw [brought] at unseen
      cases unseen

theorem Logged.traffic {p q : Poller} {log : List Settlement} {settled : Option Settlement}
    (one : OneFlight p) (logged : Logged p log) (traffic : Traffic p q settled) :
    Logged q (log ++ settled.toList) := by
  cases traffic with
  | quiet quiet =>
      rw [Option.toList_none, List.append_nil]
      apply logged.same _ quiet.generation quiet.next quiet.runId quiet.snapshot
      rw [quiet.fetches]
      exact fun _ member => member
  | superseded supersedes =>
      rw [Option.toList_none, List.append_nil]
      exact logged.supersedes one supersedes
  | began f begins =>
      rw [Option.toList_none, List.append_nil]
      exact logged.begins begins
  | cancelled f ends snapshot =>
      rw [Option.toList_none, List.append_nil]
      apply logged.same _ ends.generation ends.next ends.runId snapshot
      exact fun g member => (ends.mem.mp member).1
  | settled f outcome ends session => exact logged.settles one ends session

theorem Sound.logged_after {p : Poller} {log : List Settlement} (sound : Sound p)
    (logged : Logged p log) (moves : List Move) :
    Logged (p.after moves) (log ++ p.settlements moves) := by
  induction moves generalizing p log with
  | nil =>
      rw [settlements, List.append_nil]
      exact logged
  | cons move rest ih =>
      have next := logged.traffic sound.flight (sound.traffic move)
      have later := ih (sound.move move) next
      rw [List.append_assoc] at later
      exact later

theorem settled_parsed {p : Poller} {moves : List Move} {t : Settlement} {s : Snapshot}
    (member : t ∈ p.settlements moves) (succeeded : t.outcome = .ok s) :
    ∃ payload, Snapshot.read (some t.fetch.runId) payload = .ok s := by
  induction moves generalizing p with
  | nil => cases member
  | cons move rest ih =>
      rcases List.mem_append.mp member with first | later
      · cases move with
        | settle id answer =>
            rw [Option.mem_toList] at first
            obtain ⟨f, _, rfl⟩ := Option.map_eq_some_iff.mp first
            cases answer with
            | timedOut => cases succeeded
            | given result =>
                cases result with
                | error raised => cases succeeded
                | ok payload =>
                    refine ⟨payload, ?_⟩
                    cases parsed : Snapshot.read (some f.runId) payload with
                    | ok other =>
                        simp only [outcome, Machine.readOutcome, Except.bind, parsed,
                          Except.mapError] at succeeded
                        rw [Except.ok.inj succeeded]
                    | error fault =>
                        simp [outcome, Machine.readOutcome, Except.bind, parsed,
                          Except.mapError] at succeeded
        | _ => cases first
      · exact ih later

/-- The result of a fetch was recorded, and it is a success. -/
structure Applied (p q : Poller) (outcome : Except Failure Snapshot) : Prop where
  recorded : q.session.fetchCount = p.session.fetchCount + 1
  succeeded : ∃ s, outcome = .ok s ∧ q.session.snapshot = some s

theorem applied_settle (p : Poller) (f : Fetch) (outcome : Except Failure Snapshot) :
    Applied p (p.settle f outcome) outcome ↔
      (p.isCurrent f.generation && Machine.isOk outcome) = true := by
  have aside := aside_release p f
  rw [settle_spec, Bool.and_eq_true, isCurrent_iff]
  by_cases current : f.generation = p.generation
  · rw [if_pos current]
    cases outcome with
    | ok s =>
        rw [record_ok]
        refine ⟨fun _ => ⟨current, rfl⟩, fun _ => ⟨?_, s, rfl, rfl⟩⟩
        rw [aside.session]
    | error failure =>
        constructor
        · rintro ⟨_, _, impossible, _⟩
          cases impossible
        · rintro ⟨_, impossible⟩
          cases impossible
  · rw [if_neg current]
    constructor
    · rintro ⟨recorded, _⟩
      rw [aside.session] at recorded
      omega
    · exact fun both => absurd both.1 current

theorem report_refreshed {σ : Type} (m : Machine σ) {f : Fetch} {ticket : Nat}
    (requester : f.requester = .refresh ticket) (applied : Bool) :
    (m.report f applied).latest = some (.refreshed (.ok applied)) := by
  simp [Machine.report, requester, Machine.latest, Machine.emit]

/-- A refresh learns whether its own fetch was applied. -/
theorem settle_refreshed {σ : Type} {m : Machine σ} {f : Fetch} {ticket : Nat}
    (found : m.poller.fetch? f.id = some f) (requester : f.requester = .refresh ticket)
    (outcome : Fetch → Except Failure Snapshot) :
    ∃ applied, (m.settle f.id outcome).latest = some (.refreshed (.ok applied)) ∧
      (applied = true ↔
        Applied m.poller (m.poller.settle f (outcome f)) (outcome f)) := by
  refine ⟨m.poller.isCurrent f.generation && Machine.isOk (outcome f), ?_, ?_⟩
  · unfold Machine.settle
    rw [found]
    exact report_refreshed _ requester _
  · exact (applied_settle m.poller f (outcome f)).symm

theorem beginRefresh_trace {σ : Type} (m : Machine σ) (ticket : Nat) :
    (m.beginRefresh ticket).trace = m.trace ∨ ∃ result, result ≠ .ok true ∧
      (m.beginRefresh ticket).trace = (m.now, .refreshed result) :: m.trace := by
  unfold Machine.beginRefresh
  split
  next failure _ => exact Or.inr ⟨.error failure, by simp, rfl⟩
  next => exact Or.inr ⟨.ok false, by simp, rfl⟩
  next => exact Or.inl (Machine.follow_trace m _)

/-- Results of sessions that have passed are discarded, all others land in the order of their
requests, and a refresh succeeds exactly if its own result does. -/
structure InOrder (first : Poller) (moves : List Move) : Prop where
  discarded : ∀ before move later, moves = before ++ move :: later →
    Supersession (first.after before) move → ∀ f ∈ (first.after moves).fetches,
      f.id < (first.after before).nextFetch → Discarded (first.after moves) f
  ordered : (((first.settlements moves).filter (·.landed)).map (·.fetch.id)).Pairwise (· < ·)
  latest : ∀ s, (first.after moves).session.snapshot = some s →
    ∃ f, Latest (first.after moves) (first.settlements moves) f s ∧
      (first.after moves).session.runId = some f.runId ∧
      ∃ payload, Snapshot.read (some f.runId) payload = .ok s
  unseen : (first.after moves).session.snapshot = none → ∀ t ∈ first.settlements moves,
    t.fetch.generation = (first.after moves).generation → Machine.isOk t.outcome = false
  refreshed : ∀ {σ : Type} (m : Machine σ) (outcome : Fetch → Except Failure Snapshot) (f : Fetch)
    (ticket : Nat), m.poller = first.after moves → f ∈ m.poller.fetches →
    f.requester = .refresh ticket →
    ∃ applied, (m.settle f.id outcome).latest = some (.refreshed (.ok applied)) ∧
      (applied = true ↔ Applied m.poller (m.poller.settle f (outcome f)) (outcome f))
  begun : ∀ {σ : Type} (m : Machine σ) (ticket : Nat), m.poller = first.after moves →
    (m.beginRefresh ticket).trace = m.trace ∨ ∃ result, result ≠ .ok true ∧
      (m.beginRefresh ticket).trace = (m.now, .refreshed result) :: m.trace

theorem results_in_order (config : Config) (keepPolling : Bool) (moves : List Move) :
    InOrder (initial config keepPolling) moves := by
  have first := initial_sound config keepPolling
  have sound := first.after moves
  have logged := first.logged_after (initial_logged config keepPolling) moves
  rw [List.nil_append] at logged
  constructor
  · rintro before move later rfl passes f outstanding older
    apply sound.discarded outstanding
    rw [after_append] at outstanding ⊢
    exact Nat.ne_of_lt ((first.after before).superseded_past passes later outstanding older)
  · exact logged.ordered
  · intro s seen
    obtain ⟨f, latest⟩ := logged.latest s seen
    obtain ⟨payload, parsed⟩ := settled_parsed latest.settled rfl
    exact ⟨f, latest, logged.tracked _ latest.settled latest.current, payload, parsed⟩
  · exact logged.unseen
  · intro σ m outcome f ticket same member requester
    rw [← same] at sound
    exact settle_refreshed (sound.flight.fetch?_of_mem member) requester outcome
  · intro σ m ticket _
    exact beginRefresh_trace m ticket

-- The run is tracked once more while its first fetch, two sessions ago, is still outstanding.
example : ((initial .standard false).after
    [.start "a", .enter 0, .start "b", .start "a"]).fetches = [⟨0, 1, "a", .loop 0⟩] := by
  decide

end Poller

end WorkflowRuns
