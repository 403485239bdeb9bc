import Mathlib.Data.List.Nodup
import WorkflowRuns.Proofs.Polling.Course

/-!
The requests of a poller: what moves do to them, and that the current session never has more than
one outstanding.
-/

namespace WorkflowRuns.Poller

def settings (p : Poller) : Config × Bool := (p.config, p.keepPolling)

structure Quiet (p q : Poller) : Prop where
  settings : q.settings = p.settings
  fetches : q.fetches = p.fetches
  inFlight : q.inFlight = p.inFlight
  generation : q.generation = p.generation
  next : q.nextFetch = p.nextFetch
  runId : q.session.runId = p.session.runId
  snapshot : q.session.snapshot = p.session.snapshot

structure Ends (f : Fetch) (p q : Poller) : Prop where
  settings : q.settings = p.settings
  outstanding : f ∈ p.fetches
  fetches : q.fetches = p.fetches.filter (·.id ≠ f.id)
  inFlight : q.inFlight = if p.inFlight = some f.generation then none else p.inFlight
  generation : q.generation = p.generation
  next : q.nextFetch = p.nextFetch
  runId : q.session.runId = p.session.runId

structure Begins (f : Fetch) (p q : Poller) : Prop where
  settings : q.settings = p.settings
  free : p.inFlight ≠ some p.generation
  id : f.id = p.nextFetch
  current : f.generation = p.generation
  tracked : p.session.runId = some f.runId
  fetches : q.fetches = p.fetches ++ [f]
  inFlight : q.inFlight = some p.generation
  generation : q.generation = p.generation
  next : q.nextFetch = p.nextFetch + 1
  session : q.session = p.session

/-- The session passes with all its fetches, and the new one has seen nothing yet. -/
structure Supersedes (p q : Poller) : Prop where
  settings : q.settings = p.settings
  fetches : q.fetches = p.fetches
  inFlight : q.inFlight = none
  generation : q.generation = p.generation + 1
  next : q.nextFetch = p.nextFetch
  snapshot : q.session.snapshot = none

inductive Traffic (p q : Poller) : Option Settlement → Prop
  | quiet (quiet : Quiet p q) : Traffic p q none
  | superseded (supersedes : Supersedes p q) : Traffic p q none
  | began (f : Fetch) (begins : Begins f p q) : Traffic p q none
  | cancelled (f : Fetch) (ends : Ends f p q)
      (snapshot : q.session.snapshot = p.session.snapshot) : Traffic p q none
  | settled (f : Fetch) (outcome : Except Failure Snapshot) (ends : Ends f p q)
      (session : q.session = if f.generation = p.generation then (p.record outcome).session
        else p.session) : Traffic p q (some ⟨f, outcome, p.isCurrent f.generation⟩)

theorem Quiet.refl (p : Poller) : Quiet p p := ⟨rfl, rfl, rfl, rfl, rfl, rfl, rfl⟩

theorem Quiet.trans {p q r : Poller} (first : Quiet p q) (second : Quiet q r) : Quiet p r :=
  ⟨second.settings.trans first.settings, second.fetches.trans first.fetches,
    second.inFlight.trans first.inFlight, second.generation.trans first.generation,
    second.next.trans first.next, second.runId.trans first.runId,
    second.snapshot.trans first.snapshot⟩

theorem Ends.quiet {f : Fetch} {p q r : Poller} (ends : Ends f p q) (quiet : Quiet q r) :
    Ends f p r :=
  ⟨quiet.settings.trans ends.settings, ends.outstanding, quiet.fetches.trans ends.fetches,
    quiet.inFlight.trans ends.inFlight, quiet.generation.trans ends.generation,
    quiet.next.trans ends.next, quiet.runId.trans ends.runId⟩

theorem Ends.mem {f g : Fetch} {p q : Poller} (ends : Ends f p q) :
    g ∈ q.fetches ↔ g ∈ p.fetches ∧ g.id ≠ f.id := by
  rw [ends.fetches]
  simp

theorem quiet_leave (p : Poller) (l : PollLoop) : Quiet p (p.leave l).1 := by
  by_cases current : l.generation = p.generation
  · rw [leave_current current]
    exact ⟨rfl, rfl, rfl, rfl, rfl, rfl, rfl⟩
  · rw [leave_past current]
    exact ⟨rfl, rfl, rfl, rfl, rfl, rfl, rfl⟩

theorem quiet_setStage (p : Poller) (id : Nat) (stage : Stage) : Quiet p (p.setStage id stage) :=
  ⟨rfl, rfl, rfl, rfl, rfl, rfl, rfl⟩

theorem quiet_decide (p : Poller) (id : Nat) : Quiet p (p.decide id).1 := by
  rcases decide_cases p id with quiet | ⟨l, found, deciding⟩
  · rw [quiet]
    exact .refl p
  · rw [decide_spec found deciding]
    split
    · exact quiet_setStage p id .sleeping
    · exact quiet_leave p l

theorem quiet_resume (p : Poller) : Quiet p p.resume.1 := by
  rw [resume_spec]
  split <;> exact ⟨rfl, rfl, rfl, rfl, rfl, rfl, rfl⟩

theorem supersedes_clear (p : Poller) : Supersedes p p.clear.1 :=
  ⟨rfl, rfl, rfl, rfl, rfl, rfl⟩

theorem supersedes_start {p : Poller} {runId : String} (named : runId ≠ "")
    (other : p.session.runId ≠ some runId) : Supersedes p (p.move (.start runId)) := by
  rw [start_other named other]
  have resumed := quiet_resume ({ p.supersede.1 with session := .tracking runId })
  exact ⟨resumed.settings, resumed.fetches, resumed.inFlight, resumed.generation, resumed.next,
    resumed.snapshot⟩

theorem ends_release {p : Poller} {f : Fetch} (outstanding : f ∈ p.fetches) :
    Ends f p (p.release f) := by
  rw [release_spec]
  exact ⟨rfl, outstanding, rfl, rfl, rfl, rfl, rfl⟩

theorem begins_fetch {p : Poller} (free : p.inFlight ≠ some p.generation)
    (tracked : p.session.runId ≠ none) (requester : Requester) :
    ∃ f, Begins f p (p.beginFetch p.generation requester).1 := by
  obtain ⟨runId, named⟩ := Option.ne_none_iff_exists'.mp tracked
  exact ⟨⟨p.nextFetch, p.generation, p.session.runId.getD "", requester⟩,
    rfl, free, rfl, rfl, by simp [named], rfl, rfl, rfl, rfl, rfl⟩

theorem ends_cancel {p : Poller} {f : Fetch} (outstanding : f ∈ p.fetches) :
    Ends f p (p.cancel f).1 := by
  have ends := ends_release outstanding
  rcases cancel_spec p f with quiet | ⟨l, _, _, left⟩
  · rw [quiet]
    exact ends
  · rw [left]
    exact ends.quiet (quiet_leave (p.release f) l)

theorem ends_settle {p : Poller} {f : Fetch} (outstanding : f ∈ p.fetches)
    (outcome : Except Failure Snapshot) : Ends f p (p.settle f outcome) := by
  have ends := ends_release outstanding
  rw [settle_spec]
  split
  · rw [record_frame]
    exact ⟨ends.settings, ends.outstanding, ends.fetches, ends.inFlight, ends.generation,
      ends.next, (record_runId _ outcome).trans ends.runId⟩
  · exact ends

theorem cancel_snapshot (p : Poller) (f : Fetch) :
    (p.cancel f).1.session.snapshot = p.session.snapshot := by
  have snapshot := congrArg Session.snapshot (aside_release p f).session
  rcases cancel_spec p f with quiet | ⟨l, _, _, left⟩
  · rw [quiet]
    exact snapshot
  · rw [left]
    exact (quiet_leave (p.release f) l).snapshot.trans snapshot

theorem traffic_cancel {p : Poller} {f : Fetch} (outstanding : f ∈ p.fetches) :
    Traffic p (p.cancel f).1 none :=
  .cancelled f (ends_cancel outstanding) (cancel_snapshot p f)

theorem traffic_settle {p : Poller} {f : Fetch} (outstanding : f ∈ p.fetches)
    (outcome : Except Failure Snapshot) :
    Traffic p (p.settle f outcome) (some ⟨f, outcome, p.isCurrent f.generation⟩) := by
  apply Traffic.settled f outcome (ends_settle outstanding outcome)
  rw [settle_spec]
  split
  · exact ((aside_release p f).record outcome).1
  · exact (aside_release p f).session

theorem traffic_enter {p : Poller} (phased : Phased p) (id : Nat) :
    Traffic p (p.enter id).1 none := by
  rcases enter_cases p id with quiet | ⟨l, found, ready⟩
  · rw [quiet]
    exact .quiet (.refl p)
  · rw [enter_spec found ready]
    split
    next going =>
      split
      next => exact .quiet ((quiet_setStage p id .deciding).trans (quiet_decide _ id))
      next free =>
        rw [going.1] at free ⊢
        obtain ⟨f, begins⟩ := begins_fetch (p := p.setStage id .fetching) free
          (phased.tracked going.2) (.loop id)
        exact .began f ⟨begins.settings, begins.free, begins.id, begins.current, begins.tracked,
          begins.fetches, begins.inFlight, begins.generation, begins.next, begins.session⟩
    next => exact .quiet (quiet_leave p l)

theorem traffic_start (p : Poller) (runId : String) :
    Traffic p (p.move (.start runId)) none := by
  by_cases named : runId = ""
  · rw [named, start_empty]
    exact .quiet (.refl p)
  · by_cases tracked : p.session.runId = some runId
    · cases polling : p.session.isPolling
      · rw [start_resumed named tracked polling]
        exact .quiet (quiet_resume p)
      · rw [start_again tracked polling]
        exact .quiet (.refl p)
    · exact .superseded (supersedes_start named tracked)

theorem traffic_move {p : Poller} (phased : Phased p) (move : Move) :
    Traffic p (p.move move) (p.settlement? move) := by
  cases move with
  | start runId => exact traffic_start p runId
  | stop => exact .quiet ⟨rfl, rfl, rfl, rfl, rfl, rfl, rfl⟩
  | clear => exact .superseded (supersedes_clear p)
  | refresh ticket =>
      rw [refresh_spec]
      split
      next => exact .quiet (.refl p)
      next free =>
        rw [not_or] at free
        obtain ⟨f, begins⟩ := begins_fetch free.2 free.1 (.refresh ticket)
        exact .began f begins
  | enter id => exact traffic_enter phased id
  | decide id => exact .quiet (quiet_decide p id)
  | rouse id => exact .quiet ⟨rfl, rfl, rfl, rfl, rfl, rfl, rfl⟩
  | drop id =>
      rcases drop_cases p id with quiet | ⟨l, _, _, left | ⟨f, outstanding, _, cancelled⟩⟩
      · simpa [Poller.move, settlement?, quiet] using Traffic.quiet (.refl p)
      · simpa [Poller.move, settlement?, left] using Traffic.quiet (quiet_leave p l)
      · simpa [Poller.move, settlement?, cancelled] using traffic_cancel outstanding
  | settle id answer =>
      cases found : p.fetch? id with
      | none => simpa [Poller.move, settlement?, found] using Traffic.quiet (.refl p)
      | some f =>
          have settled := traffic_settle (fetch?_mem found).1 (p.outcome f answer)
          simpa [Poller.move, settlement?, found] using settled
  | cancel id =>
      cases found : p.fetch? id with
      | none => simpa [Poller.move, settlement?, found] using Traffic.quiet (.refl p)
      | some f =>
          simpa [Poller.move, settlement?, found] using traffic_cancel (fetch?_mem found).1

theorem Traffic.settings {p q : Poller} {settled : Option Settlement}
    (traffic : Traffic p q settled) : q.settings = p.settings := by
  cases traffic with
  | quiet quiet => exact quiet.settings
  | superseded supersedes => exact supersedes.settings
  | began f begins => exact begins.settings
  | cancelled f ends _ => exact ends.settings
  | settled f outcome ends _ => exact ends.settings

/-- The flight is held exactly while a fetch of the current session is outstanding, and no second
one is. -/
structure OneFlight (p : Poller) : Prop where
  ids : (p.fetches.map (·.id)).Nodup
  known : ∀ f ∈ p.fetches, f.id < p.nextFetch
  past : ∀ f ∈ p.fetches, f.generation ≤ p.generation
  holder : p.inFlight = none ∨ p.inFlight = some p.generation
  held : p.inFlight = some p.generation → ∃ f ∈ p.fetches, f.generation = p.generation
  flying : ∀ f ∈ p.fetches, f.generation = p.generation → p.inFlight = some p.generation
  alone : ∀ f ∈ p.fetches, ∀ g ∈ p.fetches,
    f.generation = p.generation → g.generation = p.generation → f = g
  tracked : ∀ f ∈ p.fetches, f.generation = p.generation → p.session.runId = some f.runId

theorem initial_oneFlight (config : Config) (keepPolling : Bool) :
    OneFlight (initial config keepPolling) := by
  constructor <;> simp [initial]

theorem OneFlight.same_fetch {p : Poller} (one : OneFlight p) {f g : Fetch}
    (left : f ∈ p.fetches) (right : g ∈ p.fetches) (ids : f.id = g.id) : f = g :=
  List.inj_on_of_nodup_map one.ids left right ids

theorem OneFlight.fetch?_of_mem {p : Poller} (one : OneFlight p) {f : Fetch}
    (member : f ∈ p.fetches) : p.fetch? f.id = some f := by
  cases found : p.fetch? f.id with
  | none => simpa using List.find?_eq_none.mp found f member
  | some g =>
      obtain ⟨inside, same⟩ := fetch?_mem found
      rw [one.same_fetch inside member same]

theorem OneFlight.quiet {p q : Poller} (one : OneFlight p) (quiet : Quiet p q) : OneFlight q := by
  obtain ⟨_, fetches, inFlight, generation, next, runId, _⟩ := quiet
  constructor
  · rw [fetches]
    exact one.ids
  · rw [fetches, next]
    exact one.known
  · rw [fetches, generation]
    exact one.past
  · rw [inFlight, generation]
    exact one.holder
  · rw [fetches, inFlight, generation]
    exact one.held
  · rw [fetches, inFlight, generation]
    exact one.flying
  · rw [fetches, generation]
    exact one.alone
  · rw [fetches, generation, runId]
    exact one.tracked

theorem OneFlight.supersedes {p q : Poller} (one : OneFlight p) (supersedes : Supersedes p q) :
    OneFlight q := by
  obtain ⟨_, fetches, inFlight, generation, next, _⟩ := supersedes
  have old : ∀ f ∈ q.fetches, f.generation ≠ q.generation := by
    intro f member
    rw [fetches] at member
    have bound := one.past f member
    omega
  constructor
  · rw [fetches]
    exact one.ids
  · rw [fetches, next]
    exact one.known
  · intro f member
    rw [fetches] at member
    have bound := one.past f member
    omega
  · exact Or.inl inFlight
  · intro held
    rw [inFlight] at held
    cases held
  · intro f member current
    exact absurd current (old f member)
  · intro f member g _ current
    exact absurd current (old f member)
  · intro f member current
    exact absurd current (old f member)

theorem OneFlight.begins {p q : Poller} {f : Fetch} (one : OneFlight p) (begins : Begins f p q) :
    OneFlight q := by
  -- The flight was free, and would have been held for any fetch of the current session.
  have grounded : ∀ g ∈ p.fetches, g.generation ≠ p.generation := by
    intro g member current
    exact begins.free (one.flying g member current)
  have split : ∀ g ∈ q.fetches, g ∈ p.fetches ∨ g = f := by
    intro g member
    rw [begins.fetches] at member
    simpa using member
  have only : ∀ g ∈ q.fetches, g.generation = q.generation → g = f := by
    intro g member current
    rcases split g member with before | new
    · rw [begins.generation] at current
      exact absurd current (grounded g before)
    · exact new
  constructor
  · rw [begins.fetches, List.map_append, List.map_cons, List.map_nil]
    refine List.nodup_append.mpr ⟨one.ids, by simp, ?_⟩
    intro id member other last
    obtain ⟨g, inside, rfl⟩ := List.mem_map.mp member
    have below := one.known g inside
    have new := begins.id
    simp only [List.mem_singleton] at last
    omega
  · intro g member
    have new := begins.id
    rw [begins.next]
    rcases split g member with before | rfl
    · exact Nat.lt_succ_of_lt (one.known g before)
    · omega
  · intro g member
    rw [begins.generation]
    rcases split g member with before | rfl
    · exact one.past g before
    · exact Nat.le_of_eq begins.current
  · exact Or.inr (by rw [begins.inFlight, begins.generation])
  · intro _
    exact ⟨f, by rw [begins.fetches]; simp, by rw [begins.generation]; exact begins.current⟩
  · intro g _ _
    rw [begins.inFlight, begins.generation]
  · intro g left h right first second
    rw [only g left first, only h right second]
  · intro g member current
    rw [only g member current, begins.session]
    exact begins.tracked

theorem OneFlight.ends {p q : Poller} {f : Fetch} (one : OneFlight p) (ends : Ends f p q) :
    OneFlight q := by
  have kept : ∀ g ∈ q.fetches, g ∈ p.fetches ∧ g.id ≠ f.id := fun g => ends.mem.mp
  -- Two fetches of the current session are one, so that what stays is not of the one that ended.
  have other : ∀ g ∈ q.fetches, g.generation = p.generation → f.generation ≠ p.generation := by
    intro g member current own
    obtain ⟨before, different⟩ := kept g member
    exact different (congrArg Fetch.id (one.alone g before f ends.outstanding current own))
  constructor
  · rw [ends.fetches]
    exact List.Nodup.sublist (List.filter_sublist.map _) one.ids
  · intro g member
    rw [ends.next]
    exact one.known g (kept g member).1
  · intro g member
    rw [ends.generation]
    exact one.past g (kept g member).1
  · rw [ends.inFlight, ends.generation]
    split
    · exact Or.inl rfl
    · exact one.holder
  · intro held
    rw [ends.inFlight, ends.generation] at held
    split at held
    next => cases held
    next notHeld =>
      obtain ⟨g, member, current⟩ := one.held held
      have different : g.id ≠ f.id := by
        intro same
        have equal := one.same_fetch member ends.outstanding same
        rw [← equal, current] at notHeld
        exact notHeld held
      exact ⟨g, ends.mem.mpr ⟨member, different⟩, current.trans ends.generation.symm⟩
  · intro g member current
    rw [ends.generation] at current
    have notOwn := other g member current
    have held := one.flying g (kept g member).1 current
    have notHeld : ¬ p.inFlight = some f.generation := by
      intro heldByIt
      rw [held, Option.some.injEq] at heldByIt
      exact notOwn heldByIt.symm
    rw [ends.inFlight, ends.generation, if_neg notHeld]
    exact held
  · intro g left h right first second
    rw [ends.generation] at first second
    exact one.alone g (kept g left).1 h (kept h right).1 first second
  · intro g member current
    rw [ends.generation] at current
    rw [ends.runId]
    exact one.tracked g (kept g member).1 current

theorem OneFlight.traffic {p q : Poller} {settled : Option Settlement} (one : OneFlight p)
    (traffic : Traffic p q settled) : OneFlight q := by
  cases traffic with
  | quiet quiet => exact one.quiet quiet
  | superseded supersedes => exact one.supersedes supersedes
  | began f begins => exact one.begins begins
  | cancelled f ends _ => exact one.ends ends
  | settled f outcome ends _ => exact one.ends ends

end WorkflowRuns.Poller
