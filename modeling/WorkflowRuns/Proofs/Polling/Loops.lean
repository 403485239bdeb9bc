import Mathlib.Data.List.Nodup
import WorkflowRuns.Proofs.Polling.Moves

/-!
The loops of a poller.  Loops of superseded sessions may linger, but at most one loop serves the
current session, and that one is the task.
-/

namespace WorkflowRuns.Poller

structure OneLoop (p : Poller) : Prop where
  ids : (p.loops.map (·.id)).Nodup
  known : ∀ l ∈ p.loops, l.id < p.nextLoop
  past : ∀ l ∈ p.loops, l.generation ≤ p.generation
  serving : ∀ l ∈ p.loops, l.generation = p.generation ↔ p.task = some l.id
  live : ∀ id, p.task = some id → ∃ l ∈ p.loops, l.id = id

theorem OneLoop.same_loop {p : Poller} (one : OneLoop p) {l k : PollLoop} (left : l ∈ p.loops)
    (right : k ∈ p.loops) (ids : l.id = k.id) : l = k :=
  List.inj_on_of_nodup_map one.ids left right ids

theorem initial_oneLoop (config : Config) (keepPolling : Bool) :
    OneLoop (initial config keepPolling) := by
  constructor <;> simp [initial]

structure Restaged (p q : Poller) : Prop where
  loops : ∃ g : PollLoop → PollLoop, (∀ l, (g l).id = l.id) ∧
    (∀ l, (g l).generation = l.generation) ∧ q.loops = p.loops.map g
  task : q.task = p.task
  generation : q.generation = p.generation
  next : q.nextLoop = p.nextLoop

theorem restaged_same {p q : Poller} (loops : q.loops = p.loops) (task : q.task = p.task)
    (generation : q.generation = p.generation) (next : q.nextLoop = p.nextLoop) : Restaged p q :=
  ⟨⟨id, fun _ => rfl, fun _ => rfl, by simp [loops]⟩, task, generation, next⟩

theorem restaged_where {p q : Poller} (chosen : PollLoop → Prop) [DecidablePred chosen]
    (stage : Stage) (loops : q.loops = p.loops.map fun l => if chosen l then { l with stage } else l)
    (task : q.task = p.task) (generation : q.generation = p.generation)
    (next : q.nextLoop = p.nextLoop) : Restaged p q := by
  refine ⟨⟨_, ?_, ?_, loops⟩, task, generation, next⟩
  · intro l
    by_cases picked : chosen l <;> simp [picked]
  · intro l
    by_cases picked : chosen l <;> simp [picked]

theorem restaged_setStage (p : Poller) (id : Nat) (stage : Stage) :
    Restaged p (p.setStage id stage) :=
  restaged_where (fun l => l.id = id) stage rfl rfl rfl rfl

theorem restaged_stop (p : Poller) : Restaged p p.stop.1 :=
  restaged_where (fun l => isAsleep l = true) .waking rfl rfl rfl rfl

theorem restaged_rouse (p : Poller) (id : Nat) : Restaged p (p.rouse id) :=
  restaged_where (fun l => l.id = id ∧ isAsleep l = true) .waking rfl rfl rfl rfl

theorem restaged_release (p : Poller) (f : Fetch) : Restaged p (p.release f) := by
  rw [release_spec]
  exact ⟨⟨onward f, onward_id f, onward_generation f, rfl⟩, rfl, rfl, rfl⟩

theorem Restaged.origin {p q : Poller} (restaged : Restaged p q) :
    ∀ l ∈ q.loops, ∃ k ∈ p.loops, k.id = l.id ∧ k.generation = l.generation := by
  obtain ⟨g, ids, generations, loops⟩ := restaged.loops
  intro l member
  rw [loops] at member
  obtain ⟨k, inside, rfl⟩ := List.mem_map.mp member
  exact ⟨k, inside, (ids k).symm, (generations k).symm⟩

theorem OneLoop.restaged {p q : Poller} (one : OneLoop p) (restaged : Restaged p q) :
    OneLoop q := by
  have origin := restaged.origin
  obtain ⟨⟨g, ids, _, loops⟩, task, generation, next⟩ := restaged
  constructor
  · have same : ((p.loops.map g).map (·.id)) = p.loops.map (·.id) := by
      rw [List.map_map]
      exact List.map_congr_left fun l _ => ids l
    rw [loops, same]
    exact one.ids
  · intro l member
    obtain ⟨k, inside, id, _⟩ := origin l member
    rw [← id, next]
    exact one.known k inside
  · intro l member
    obtain ⟨k, inside, _, at_⟩ := origin l member
    rw [← at_, generation]
    exact one.past k inside
  · intro l member
    obtain ⟨k, inside, id, at_⟩ := origin l member
    rw [← at_, ← id, generation, task]
    exact one.serving k inside
  · intro id set
    rw [task] at set
    obtain ⟨k, inside, rfl⟩ := one.live id set
    exact ⟨g k, by rw [loops]; exact List.mem_map_of_mem inside, ids k⟩

theorem OneLoop.unchanged {p q : Poller} (one : OneLoop p) (loops : q.loops = p.loops)
    (task : q.task = p.task) (generation : q.generation = p.generation)
    (next : q.nextLoop = p.nextLoop) : OneLoop q :=
  one.restaged (restaged_same loops task generation next)

theorem OneLoop.setStage {p : Poller} (one : OneLoop p) (id : Nat) (stage : Stage) :
    OneLoop (p.setStage id stage) :=
  one.restaged (restaged_setStage p id stage)

theorem OneLoop.isActive {p : Poller} (one : OneLoop p) : p.isActive = p.task.isSome := by
  cases task : p.task with
  | none => simp [Poller.isActive, task]
  | some id =>
      obtain ⟨l, member, same⟩ := one.live id task
      have found : (p.loop? id).isSome = true := by
        rw [loop?, List.find?_isSome]
        exact ⟨l, member, by simpa using same⟩
      simp [Poller.isActive, task, found]

theorem OneLoop.supersede {p : Poller} (one : OneLoop p) : OneLoop p.supersede.1 := by
  have past : ∀ l ∈ p.loops, l.generation < p.generation + 1 := by
    intro l member
    exact Nat.lt_succ_of_le (one.past l member)
  constructor
  · exact one.ids
  · exact one.known
  · intro l member
    exact Nat.le_of_lt (past l member)
  · intro l member
    have below := past l member
    simp only [Poller.supersede, reduceCtorEq, iff_false]
    omega
  · intro id set
    cases set

theorem OneLoop.spawn {p : Poller} (one : OneLoop p) (unserved : p.task = none) :
    OneLoop p.spawn.1 := by
  have fresh : ∀ l ∈ p.loops, l.id < p.nextLoop := one.known
  constructor
  · simp only [Poller.spawn, List.map_append, List.map_cons, List.map_nil]
    refine List.nodup_append.mpr ⟨one.ids, by simp, ?_⟩
    intro id member other last
    obtain ⟨l, inside, rfl⟩ := List.mem_map.mp member
    have below := fresh l inside
    simp only [List.mem_singleton] at last
    omega
  · intro l member
    simp only [Poller.spawn, List.mem_append, List.mem_singleton] at member ⊢
    rcases member with inside | rfl
    · exact Nat.lt_succ_of_lt (fresh l inside)
    · exact Nat.lt_succ_self _
  · intro l member
    simp only [Poller.spawn, List.mem_append, List.mem_singleton] at member ⊢
    rcases member with inside | rfl
    · exact one.past l inside
    · exact Nat.le_refl _
  · intro l member
    simp only [Poller.spawn, List.mem_append, List.mem_singleton] at member ⊢
    rcases member with inside | rfl
    · have serving := one.serving l inside
      have below := fresh l inside
      rw [unserved] at serving
      simp only [reduceCtorEq, iff_false] at serving
      simp only [serving, Option.some.injEq, false_iff]
      omega
    · simp
  · intro id set
    simp only [Poller.spawn, Option.some.injEq] at set
    subst id
    exact ⟨⟨p.nextLoop, p.generation, .created⟩, by simp [Poller.spawn], rfl⟩

theorem OneLoop.leave {p : Poller} (one : OneLoop p) {l : PollLoop} (member : l ∈ p.loops) :
    OneLoop (p.leave l).1 := by
  have kept : ∀ k ∈ p.loops.filter (·.id ≠ l.id), k ∈ p.loops ∧ k.id ≠ l.id := by
    intro k inside
    simpa using List.mem_filter.mp inside
  have ids : ((p.loops.filter (·.id ≠ l.id)).map (·.id)).Nodup :=
    List.Nodup.sublist (List.filter_sublist.map _) one.ids
  have serves := one.serving l member
  by_cases current : l.generation = p.generation
  · rw [leave_current current]
    constructor
    · exact ids
    · intro k inside
      exact one.known k (kept k inside).1
    · intro k inside
      exact one.past k (kept k inside).1
    -- The loop that left was the task, so that none of the others serves the session.
    · intro k inside
      obtain ⟨before, other⟩ := kept k inside
      have served := one.serving k before
      rw [serves.mp current, Option.some.injEq] at served
      simp only [reduceCtorEq, iff_false]
      intro same
      exact other (served.mp same).symm
    · intro id set
      cases set
  · rw [leave_past current]
    constructor
    · exact ids
    · intro k inside
      exact one.known k (kept k inside).1
    · intro k inside
      exact one.past k (kept k inside).1
    · intro k inside
      exact one.serving k (kept k inside).1
    · intro id set
      obtain ⟨k, inside, rfl⟩ := one.live id set
      have other : k.id ≠ l.id := by
        intro same
        rw [same] at set
        exact current (serves.mpr set)
      exact ⟨k, by simpa using ⟨inside, other⟩, rfl⟩

theorem OneLoop.resume {p : Poller} (one : OneLoop p) : OneLoop p.resume.1 := by
  have begun : OneLoop { p with session := beginPolling p.session, phase := .polling } :=
    one.unchanged rfl rfl rfl rfl
  rw [resume_spec]
  split
  next => exact begun
  next unserved =>
    rw [one.isActive] at unserved
    exact begun.spawn (by simpa using unserved)

theorem OneLoop.decide {p : Poller} (one : OneLoop p) (id : Nat) : OneLoop (p.decide id).1 := by
  rcases decide_cases p id with quiet | ⟨l, found, deciding⟩
  · rw [quiet]
    exact one
  · rw [decide_spec found deciding]
    split
    · exact one.setStage id .sleeping
    · exact one.leave (loop?_mem found).1

theorem OneLoop.enter {p : Poller} (one : OneLoop p) (id : Nat) : OneLoop (p.enter id).1 := by
  rcases enter_cases p id with quiet | ⟨l, found, ready⟩
  · rw [quiet]
    exact one
  · rw [enter_spec found ready]
    split
    · split
      · exact (one.setStage id .deciding).decide id
      · exact (one.setStage id .fetching).unchanged rfl rfl rfl rfl
    · exact one.leave (loop?_mem found).1

theorem OneLoop.cancel {p : Poller} (one : OneLoop p) (f : Fetch) : OneLoop (p.cancel f).1 := by
  have released := one.restaged (restaged_release p f)
  rcases cancel_spec p f with quiet | ⟨l, member, _, left⟩
  · rw [quiet]
    exact released
  · rw [left]
    exact released.leave member

theorem OneLoop.settle {p : Poller} (one : OneLoop p) (f : Fetch)
    (outcome : Except Failure Snapshot) : OneLoop (p.settle f outcome) := by
  have released := one.restaged (restaged_release p f)
  rw [settle_spec]
  split
  · rw [record_frame]
    exact released.unchanged rfl rfl rfl rfl
  · exact released

theorem OneLoop.drop {p : Poller} (one : OneLoop p) (id : Nat) : OneLoop (p.drop id).1 := by
  rcases drop_cases p id with quiet | ⟨l, found, _, left | ⟨f, _, _, cancelled⟩⟩
  · rw [quiet]
    exact one
  · rw [left]
    exact one.leave (loop?_mem found).1
  · rw [cancelled]
    exact one.cancel f

theorem OneLoop.start {p : Poller} (one : OneLoop p) (runId : String) :
    OneLoop (p.move (.start runId)) := by
  by_cases named : runId = ""
  · rw [named, start_empty]
    exact one
  · by_cases tracked : p.session.runId = some runId
    · cases polling : p.session.isPolling
      · rw [start_resumed named tracked polling]
        exact one.resume
      · rw [start_again tracked polling]
        exact one
    · rw [start_other named tracked]
      exact OneLoop.resume (one.supersede.unchanged rfl rfl rfl rfl)

theorem OneLoop.move {p : Poller} (one : OneLoop p) (move : Move) : OneLoop (p.move move) := by
  cases move with
  | start runId => exact one.start runId
  | stop => exact one.restaged (restaged_stop p)
  | clear =>
      have stopped := one.restaged (restaged_stop p)
      exact stopped.supersede.unchanged rfl rfl rfl rfl
  | refresh ticket =>
      rw [refresh_spec]
      split
      · exact one
      · exact one.unchanged rfl rfl rfl rfl
  | enter id => exact one.enter id
  | decide id => exact one.decide id
  | rouse id => exact one.restaged (restaged_rouse p id)
  | drop id => exact one.drop id
  | settle id answer =>
      cases found : p.fetch? id with
      | none => simpa [Poller.move, found] using one
      | some f => simpa [Poller.move, found] using one.settle f (p.outcome f answer)
  | cancel id =>
      cases found : p.fetch? id with
      | none => simpa [Poller.move, found] using one
      | some f => simpa [Poller.move, found] using one.cancel f

end WorkflowRuns.Poller
