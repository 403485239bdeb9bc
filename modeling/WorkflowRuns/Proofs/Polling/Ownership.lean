import WorkflowRuns.Proofs.Polling.Loops
import WorkflowRuns.Proofs.Polling.Requests

/-!
Who owns a fetch: one that a loop began is of the loop's own session.
-/

namespace WorkflowRuns.Poller

structure Owned (p : Poller) : Prop where
  known : ∀ f ∈ p.fetches, ∀ id, f.requester = .loop id → id < p.nextLoop
  same : ∀ f ∈ p.fetches, ∀ l ∈ p.loops, f.requester = .loop l.id → l.generation = f.generation

/-- No loop and no fetch is new, and no loop has passed to another session. -/
structure Narrowed (p q : Poller) : Prop where
  loops : ∀ l ∈ q.loops, ∃ k ∈ p.loops, k.id = l.id ∧ k.generation = l.generation
  fetches : ∀ f ∈ q.fetches, f ∈ p.fetches
  next : q.nextLoop = p.nextLoop

theorem Narrowed.refl (p : Poller) : Narrowed p p :=
  ⟨fun l member => ⟨l, member, rfl, rfl⟩, fun _ member => member, rfl⟩

theorem Narrowed.trans {p q r : Poller} (first : Narrowed p q) (second : Narrowed q r) :
    Narrowed p r := by
  constructor
  · intro l member
    obtain ⟨k, inside, id, generation⟩ := second.loops l member
    obtain ⟨j, origin, sameId, sameGeneration⟩ := first.loops k inside
    exact ⟨j, origin, sameId.trans id, sameGeneration.trans generation⟩
  · intro f member
    exact first.fetches f (second.fetches f member)
  · exact second.next.trans first.next

theorem narrowed_restaged {p q : Poller} (restaged : Restaged p q)
    (fetches : ∀ f ∈ q.fetches, f ∈ p.fetches) : Narrowed p q :=
  ⟨restaged.origin, fetches, restaged.next⟩

theorem narrowed_setStage (p : Poller) (id : Nat) (stage : Stage) :
    Narrowed p (p.setStage id stage) :=
  narrowed_restaged (restaged_setStage p id stage) fun _ member => member

theorem narrowed_release (p : Poller) (f : Fetch) : Narrowed p (p.release f) := by
  apply narrowed_restaged (restaged_release p f)
  intro g member
  rw [release_spec] at member
  exact (List.mem_filter.mp member).1

theorem narrowed_leave (p : Poller) (l : PollLoop) : Narrowed p (p.leave l).1 := by
  have kept : ∀ k ∈ p.loops.filter (·.id ≠ l.id), ∃ j ∈ p.loops, j.id = k.id ∧
      j.generation = k.generation := by
    intro k member
    exact ⟨k, (List.mem_filter.mp member).1, rfl, rfl⟩
  by_cases current : l.generation = p.generation
  · rw [leave_current current]
    exact ⟨kept, fun _ member => member, rfl⟩
  · rw [leave_past current]
    exact ⟨kept, fun _ member => member, rfl⟩

theorem narrowed_decide (p : Poller) (id : Nat) : Narrowed p (p.decide id).1 := by
  rcases decide_cases p id with quiet | ⟨l, found, deciding⟩
  · rw [quiet]
    exact .refl p
  · rw [decide_spec found deciding]
    split
    · exact narrowed_setStage p id .sleeping
    · exact narrowed_leave p l

theorem narrowed_cancel (p : Poller) (f : Fetch) : Narrowed p (p.cancel f).1 := by
  rcases cancel_spec p f with quiet | ⟨l, _, _, left⟩
  · rw [quiet]
    exact narrowed_release p f
  · rw [left]
    exact (narrowed_release p f).trans (narrowed_leave _ l)

theorem narrowed_settle (p : Poller) (f : Fetch) (outcome : Except Failure Snapshot) :
    Narrowed p (p.settle f outcome) := by
  have released := narrowed_release p f
  rw [settle_spec]
  split
  · rw [record_frame]
    exact ⟨released.loops, released.fetches, released.next⟩
  · exact released

theorem narrowed_drop (p : Poller) (id : Nat) : Narrowed p (p.drop id).1 := by
  rcases drop_cases p id with quiet | ⟨l, _, _, left | ⟨f, _, _, cancelled⟩⟩
  · rw [quiet]
    exact .refl p
  · rw [left]
    exact narrowed_leave p l
  · rw [cancelled]
    exact narrowed_cancel p f

theorem narrowed_stop (p : Poller) : Narrowed p p.stop.1 :=
  narrowed_restaged (restaged_stop p) fun _ member => member

theorem Owned.narrowed {p q : Poller} (owned : Owned p) (narrowed : Narrowed p q) : Owned q := by
  constructor
  · intro f member id requester
    rw [narrowed.next]
    exact owned.known f (narrowed.fetches f member) id requester
  · intro f member l inside requester
    obtain ⟨k, origin, id, generation⟩ := narrowed.loops l inside
    rw [← id] at requester
    rw [← generation]
    exact owned.same f (narrowed.fetches f member) k origin requester

theorem Owned.spawn {p : Poller} (owned : Owned p) : Owned p.spawn.1 := by
  constructor
  · intro f member id requester
    exact Nat.lt_succ_of_lt (owned.known f member id requester)
  · intro f member l inside requester
    simp only [Poller.spawn, List.mem_append, List.mem_singleton] at inside
    rcases inside with before | rfl
    · exact owned.same f member l before requester
    · exact absurd (owned.known f member _ requester) (Nat.lt_irrefl _)

theorem Owned.resume {p : Poller} (owned : Owned p) : Owned p.resume.1 := by
  have begun : Owned { p with session := beginPolling p.session, phase := .polling } :=
    ⟨owned.known, owned.same⟩
  rw [resume_spec]
  split
  · exact begun
  · exact begun.spawn

theorem Owned.beginFetch {p : Poller} (owned : Owned p) (one : OneLoop p) {generation : Nat}
    {requester : Requester} (own : ∀ id, requester = .loop id →
      ∃ l ∈ p.loops, l.id = id ∧ l.generation = generation) :
    Owned (p.beginFetch generation requester).1 := by
  have split : ∀ f ∈ (p.beginFetch generation requester).1.fetches,
      f ∈ p.fetches ∨ f.requester = requester ∧ f.generation = generation := by
    intro f member
    simp only [Poller.beginFetch, List.mem_append, List.mem_singleton] at member
    rcases member with before | rfl
    · exact Or.inl before
    · exact Or.inr ⟨rfl, rfl⟩
  constructor
  · intro f member id isLoop
    rcases split f member with before | ⟨same, _⟩
    · exact owned.known f before id isLoop
    · obtain ⟨l, inside, rfl, _⟩ := own id (same.symm.trans isLoop)
      exact one.known l inside
  · intro f member l inside isLoop
    rcases split f member with before | ⟨same, generations⟩
    · exact owned.same f before l inside isLoop
    · obtain ⟨k, origin, id, generation⟩ := own l.id (same.symm.trans isLoop)
      rw [one.same_loop inside origin id.symm, generation, generations]

theorem Owned.enter {p : Poller} (owned : Owned p) (one : OneLoop p) (id : Nat) :
    Owned (p.enter id).1 := by
  rcases enter_cases p id with quiet | ⟨l, found, ready⟩
  · rw [quiet]
    exact owned
  · rw [enter_spec found ready]
    split
    · split
      · exact owned.narrowed ((narrowed_setStage p id .deciding).trans (narrowed_decide _ id))
      -- The only place where a loop begins a fetch, and it is one of its own session.
      · have staged := owned.narrowed (narrowed_setStage p id .fetching)
        have fetching := setStage_loop? found .fetching
        obtain ⟨member, same⟩ := loop?_mem fetching
        apply staged.beginFetch (one.setStage id .fetching)
        intro other equal
        cases equal
        exact ⟨_, member, same, rfl⟩
    · exact owned.narrowed (narrowed_leave p l)

theorem Owned.start {p : Poller} (owned : Owned p) (runId : String) :
    Owned (p.move (.start runId)) := by
  by_cases named : runId = ""
  · rw [named, start_empty]
    exact owned
  · by_cases tracked : p.session.runId = some runId
    · cases polling : p.session.isPolling
      · rw [start_resumed named tracked polling]
        exact owned.resume
      · rw [start_again tracked polling]
        exact owned
    · rw [start_other named tracked]
      exact Owned.resume ⟨owned.known, owned.same⟩

theorem initial_owned (config : Config) (keepPolling : Bool) :
    Owned (initial config keepPolling) := by
  constructor <;> simp [initial]

theorem Owned.move {p : Poller} (owned : Owned p) (one : OneLoop p) (move : Move) :
    Owned (p.move move) := by
  cases move with
  | start runId => exact owned.start runId
  | stop => exact owned.narrowed (narrowed_stop p)
  | clear =>
      have stopped := narrowed_stop p
      exact owned.narrowed ⟨stopped.loops, stopped.fetches, stopped.next⟩
  | refresh ticket =>
      rw [refresh_spec]
      split
      · exact owned
      · exact owned.beginFetch one (by simp)
  | enter id => exact owned.enter one id
  | decide id => exact owned.narrowed (narrowed_decide p id)
  | rouse id =>
      exact owned.narrowed (narrowed_restaged (restaged_rouse p id) fun _ member => member)
  | drop id => exact owned.narrowed (narrowed_drop p id)
  | settle id answer =>
      cases found : p.fetch? id with
      | none => simpa [Poller.move, found] using owned
      | some f =>
          simpa [Poller.move, found] using owned.narrowed (narrowed_settle p f (p.outcome f answer))
  | cancel id =>
      cases found : p.fetch? id with
      | none => simpa [Poller.move, found] using owned
      | some f => simpa [Poller.move, found] using owned.narrowed (narrowed_cancel p f)

end WorkflowRuns.Poller
