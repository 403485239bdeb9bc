import Mathlib.Data.List.Pairwise
import WorkflowRuns.Proofs.Polling.Agenda
import WorkflowRuns.Proofs.Polling.Flight
import WorkflowRuns.Script

/-!
How many requests for one run there are.  Of one session there is at most one.  A second one can join
the first only in a later session, and then a refresh began the first one, or the loop that did is being
called off: the loop of a session that has passed is called off, but a refresh of it is not.
-/

namespace WorkflowRuns

namespace Poller

def Ascending (p : Poller) : Prop := p.fetches.Pairwise fun f g => f.id < g.id ∧ f.generation < g.generation

theorem Ascending.traffic {p q : Poller} {settled : Option Settlement} (ascending : Ascending p)
    (one : OneFlight p) (traffic : Traffic p q settled) : Ascending q := by
  have ended : ∀ {f : Fetch}, Ends f p q → Ascending q := by
    intro f ends
    unfold Ascending
    rw [ends.fetches]
    exact ascending.filter _
  cases traffic with
  | quiet quiet =>
      unfold Ascending
      rwa [quiet.fetches]
  | superseded supersedes =>
      unfold Ascending
      rwa [supersedes.fetches]
  | began f begins =>
      unfold Ascending
      rw [begins.fetches, List.pairwise_append]
      refine ⟨ascending, List.pairwise_singleton _ _, ?_⟩
      intro g member other new
      rw [List.mem_singleton.mp new, begins.id, begins.current]
      -- The flight is free, so that no request of the current session is outstanding.
      have past : g.generation ≠ p.generation := fun current => begins.free (one.flying g member current)
      have bound := one.past g member
      exact ⟨one.known g member, by omega⟩
  | cancelled f ends _ => exact ended ends
  | settled f outcome ends _ => exact ended ends

theorem Sound.ascending_after {p : Poller} (sound : Sound p) (ascending : Ascending p) (moves : List Move) :
    Ascending (p.after moves) := by
  have kept := holds_after (fun q => Sound q ∧ Ascending q) ⟨sound, ascending⟩
    (fun q move before => ⟨before.1.move move, before.2.traffic before.1.flight (before.1.traffic move)⟩) moves
  exact kept.2

/-- The requests are the same one, or the later of them is of a later session. -/
def Compared (f g : Fetch) : Prop :=
  f = g ∨ (f.id < g.id ∧ f.generation < g.generation) ∨ (g.id < f.id ∧ g.generation < f.generation)

instance : Std.Symm Compared where
  symm f g compared := by
    rcases compared with same | before | after
    · exact Or.inl same.symm
    · exact Or.inr (Or.inr before)
    · exact Or.inr (Or.inl after)

theorem Ascending.compare {p : Poller} (ascending : Ascending p) {f g : Fetch} (left : f ∈ p.fetches)
    (right : g ∈ p.fetches) : Compared f g := by
  have compared : p.fetches.Pairwise Compared := List.Pairwise.imp (fun before => Or.inr (Or.inl before)) ascending
  have itself : ∀ f ∈ p.fetches, Compared f f := fun f _ => Or.inl rfl
  exact List.Pairwise.forall_of_forall itself compared left right

theorem Ascending.alone {p : Poller} (ascending : Ascending p) {f g : Fetch} (left : f ∈ p.fetches)
    (right : g ∈ p.fetches) (session : f.generation = g.generation) : f = g := by
  rcases ascending.compare left right with same | ⟨_, before⟩ | ⟨_, after⟩
  · exact same
  · omega
  · omega

theorem Ascending.later {p : Poller} (ascending : Ascending p) {f g : Fetch} (left : f ∈ p.fetches)
    (right : g ∈ p.fetches) (earlier : f.id < g.id) : f.generation < g.generation := by
  rcases ascending.compare left right with same | ⟨_, before⟩ | ⟨after, _⟩
  · rw [same] at earlier
    omega
  · exact before
  · omega

/-- A request that a loop began has its loop waiting for it. -/
def Manned (p : Poller) : Prop :=
  ∀ f ∈ p.fetches, ∀ id, f.requester = .loop id → ∃ l ∈ p.loops, l.id = id ∧ l.stage = .fetching

theorem Manned.kept {p q : Poller} (manned : Manned p) (fetches : ∀ f ∈ q.fetches, f ∈ p.fetches)
    (loops : ∀ l ∈ p.loops, l.stage = .fetching → (∃ f ∈ q.fetches, f.requester = .loop l.id) →
      ∃ k ∈ q.loops, k.id = l.id ∧ k.stage = .fetching) : Manned q := by
  intro f member id requester
  obtain ⟨l, inside, rfl, fetching⟩ := manned f (fetches f member) id requester
  exact loops l inside fetching ⟨f, member, requester⟩

theorem Manned.restaged {p q : Poller} (manned : Manned p) (chosen : PollLoop → Prop) [DecidablePred chosen]
    (stage : Stage) (idle : ∀ l ∈ p.loops, chosen l → l.stage ≠ .fetching)
    (loops : q.loops = p.loops.map fun l => if chosen l then { l with stage } else l)
    (fetches : q.fetches = p.fetches) : Manned q := by
  apply manned.kept
  · rw [fetches]
    exact fun _ member => member
  · intro l member fetching _
    have left : ¬ chosen l := fun picked => idle l member picked fetching
    refine ⟨l, ?_, rfl, fetching⟩
    rw [loops]
    exact List.mem_map.mpr ⟨l, member, if_neg left⟩

theorem Manned.same {p q : Poller} (manned : Manned p) (loops : q.loops = p.loops)
    (fetches : q.fetches = p.fetches) : Manned q := by
  unfold Manned
  rw [loops, fetches]
  exact manned

theorem Manned.leave {p : Poller} (manned : Manned p) (l : PollLoop)
    (free : ∀ f ∈ p.fetches, f.requester ≠ .loop l.id) : Manned (p.leave l).1 := by
  have loops : ∀ k ∈ p.loops, k.id ≠ l.id → k ∈ (p.leave l).1.loops := by
    intro k member other
    by_cases current : l.generation = p.generation
    · rw [leave_current current]
      exact List.mem_filter.mpr ⟨member, by simpa using other⟩
    · rw [leave_past current]
      exact List.mem_filter.mpr ⟨member, by simpa using other⟩
  rw [Manned, (quiet_leave p l).fetches]
  intro f member id requester
  obtain ⟨k, inside, rfl, fetching⟩ := manned f member id requester
  refine ⟨k, loops k inside fun same => ?_, rfl, fetching⟩
  rw [same] at requester
  exact free f member requester

theorem Manned.free {p : Poller} (manned : Manned p) (one : OneLoop p) {l : PollLoop} (member : l ∈ p.loops)
    (idle : l.stage ≠ .fetching) : ∀ f ∈ p.fetches, f.requester ≠ .loop l.id := by
  intro f outstanding requester
  obtain ⟨k, inside, same, fetching⟩ := manned f outstanding l.id requester
  rw [one.same_loop inside member same] at fetching
  exact idle fetching

theorem Manned.decide {p : Poller} (manned : Manned p) (one : OneLoop p) (id : Nat) : Manned (p.decide id).1 := by
  rcases decide_cases p id with quiet | ⟨l, found, deciding⟩
  · rwa [quiet]
  · obtain ⟨member, same⟩ := loop?_mem found
    have idle : l.stage ≠ .fetching := by
      rw [deciding]
      nofun
    rw [decide_spec found deciding]
    split
    · refine manned.restaged (fun k => k.id = id) .sleeping ?_ rfl rfl
      intro k inside picked
      rwa [one.same_loop inside member (picked.trans same.symm)]
    · exact manned.leave l (manned.free one member idle)

theorem Owned.single {p : Poller} (owned : Owned p) (manned : Manned p) (ascending : Ascending p) {f g : Fetch}
    (left : f ∈ p.fetches) (right : g ∈ p.fetches) {id : Nat} (first : f.requester = .loop id)
    (second : g.requester = .loop id) : f = g := by
  obtain ⟨l, member, rfl, _⟩ := manned f left id first
  exact ascending.alone left right ((owned.same f left l member first).symm.trans (owned.same g right l member second))

theorem Manned.release {p : Poller} (manned : Manned p) (owned : Owned p) (ascending : Ascending p) {f : Fetch}
    (outstanding : f ∈ p.fetches) : Manned (p.release f) := by
  have ends := ends_release outstanding
  apply manned.kept
  · exact fun g member => (ends.mem.mp member).1
  · rintro l member fetching ⟨g, remains, requester⟩
    obtain ⟨inside, other⟩ := ends.mem.mp remains
    have unreleased : f.requester ≠ .loop l.id := fun own =>
      other (congrArg Fetch.id (owned.single manned ascending inside outstanding requester own))
    refine ⟨l, ?_, rfl, fetching⟩
    rw [release_spec]
    exact List.mem_map.mpr ⟨l, member, by simp [onward, unreleased]⟩

theorem Manned.settle {p : Poller} (manned : Manned p) (owned : Owned p) (ascending : Ascending p) {f : Fetch}
    (outstanding : f ∈ p.fetches) (outcome : Except Failure Snapshot) : Manned (p.settle f outcome) := by
  have released := manned.release owned ascending outstanding
  rw [settle_spec]
  split
  · rw [record_frame]
    exact released.same rfl rfl
  · exact released

theorem Manned.cancel {p : Poller} (manned : Manned p) (owned : Owned p) (ascending : Ascending p) {f : Fetch}
    (outstanding : f ∈ p.fetches) : Manned (p.cancel f).1 := by
  have released := manned.release owned ascending outstanding
  rcases cancel_spec p f with same | ⟨l, member, own, left⟩
  · rwa [same]
  · rw [left]
    refine released.leave l ?_
    intro g remains requester
    obtain ⟨inside, other⟩ := (ends_release outstanding).mem.mp remains
    exact other (congrArg Fetch.id (owned.single manned ascending inside outstanding requester own))

theorem Manned.drop {p : Poller} (manned : Manned p) (owned : Owned p) (ascending : Ascending p) (id : Nat) :
    Manned (p.drop id).1 := by
  cases found : p.loop? id with
  | none => simpa [Poller.drop, found] using manned
  | some l =>
      by_cases current : l.generation = p.generation
      · simpa [Poller.drop, found, isCurrent, current] using manned
      · cases fetching : p.fetches.find? (·.requester = .loop id) with
        | none =>
            have free : ∀ f ∈ p.fetches, f.requester ≠ .loop l.id := by
              rw [(loop?_mem found).2]
              simpa using List.find?_eq_none.mp fetching
            simpa [Poller.drop, found, isCurrent, current, fetching] using manned.leave l free
        | some f =>
            have cancelled := manned.cancel owned ascending (List.mem_of_find?_eq_some fetching)
            simpa [Poller.drop, found, isCurrent, current, fetching] using cancelled

theorem Manned.resume {p : Poller} (manned : Manned p) : Manned p.resume.1 := by
  rw [resume_spec]
  split
  · exact manned.same rfl rfl
  · apply manned.kept
    · exact fun _ member => member
    · exact fun l member fetching _ => ⟨l, List.mem_append_left _ member, rfl, fetching⟩

theorem Manned.enter {p : Poller} (manned : Manned p) (one : OneLoop p) (id : Nat) : Manned (p.enter id).1 := by
  rcases enter_cases p id with quiet | ⟨l, found, ready⟩
  · rwa [quiet]
  · obtain ⟨member, same⟩ := loop?_mem found
    have idle : l.stage ≠ .fetching := by
      rcases ready with created | waking
      · rw [created]
        nofun
      · rw [waking]
        nofun
    have only : ∀ k ∈ p.loops, k.id = id → k.stage ≠ .fetching := by
      intro k inside picked
      rwa [one.same_loop inside member (picked.trans same.symm)]
    rw [enter_spec found ready]
    split
    · split
      · have deciding : Manned (p.setStage id .deciding) :=
          manned.restaged (fun k => k.id = id) .deciding only rfl rfl
        exact deciding.decide (one.setStage id .deciding) id
      · intro f begun id' requester
        rcases List.mem_append.mp begun with before | new
        · obtain ⟨k, inside, rfl, fetching⟩ := manned f before id' requester
          refine ⟨k, List.mem_map.mpr ⟨k, inside, if_neg fun picked => only k inside picked fetching⟩, rfl, fetching⟩
        · rw [List.mem_singleton.mp new] at requester
          cases requester
          exact ⟨{ l with stage := .fetching }, List.mem_map.mpr ⟨l, member, if_pos same⟩, same, rfl⟩
    · exact manned.leave l (manned.free one member idle)

theorem Manned.move {p : Poller} (manned : Manned p) (sound : Sound p) (ascending : Ascending p) (move : Move) :
    Manned (p.move move) := by
  have awake : ∀ l : PollLoop, isAsleep l = true → l.stage ≠ .fetching := by
    intro l asleep fetching
    simp [isAsleep, fetching] at asleep
  cases move with
  | start runId =>
      by_cases named : runId = ""
      · rwa [named, start_empty]
      · by_cases tracked : p.session.runId = some runId
        · cases polling : p.session.isPolling
          · rw [start_resumed named tracked polling]
            exact manned.resume
          · rwa [start_again tracked polling]
        · rw [start_other named tracked]
          exact Manned.resume (manned.same rfl rfl)
  | stop => exact manned.restaged (fun l => isAsleep l = true) .waking (fun l _ => awake l) rfl rfl
  | clear => exact manned.restaged (fun l => isAsleep l = true) .waking (fun l _ => awake l) rfl rfl
  | refresh ticket =>
      rw [refresh_spec]
      split
      · exact manned
      · intro f begun id requester
        rcases List.mem_append.mp begun with before | new
        · exact manned f before id requester
        · rw [List.mem_singleton.mp new] at requester
          cases requester
  | enter id => exact manned.enter sound.loops id
  | decide id => exact manned.decide sound.loops id
  | rouse id =>
      exact manned.restaged (fun l => l.id = id ∧ isAsleep l = true) .waking (fun l _ both => awake l both.2) rfl rfl
  | drop id => exact manned.drop sound.owned ascending id
  | settle id answer =>
      cases found : p.fetch? id with
      | none => simpa only [Poller.move, found] using manned
      | some f => simpa only [Poller.move, found] using manned.settle sound.owned ascending (fetch?_mem found).1 _
  | cancel id =>
      cases found : p.fetch? id with
      | none => simpa only [Poller.move, found] using manned
      | some f => simpa only [Poller.move, found] using manned.cancel sound.owned ascending (fetch?_mem found).1

theorem Sound.manned_after {p : Poller} (sound : Sound p) (ascending : Ascending p) (manned : Manned p)
    (moves : List Move) : Manned (p.after moves) := by
  have kept := holds_after (fun q => Sound q ∧ Ascending q ∧ Manned q) ⟨sound, ascending, manned⟩
    (fun q move before => by
      obtain ⟨sound, ascending, manned⟩ := before
      exact ⟨sound.move move, ascending.traffic sound.flight (sound.traffic move),
        manned.move sound ascending move⟩) moves
  exact kept.2.2

theorem drop_ends {p : Poller} (owned : Owned p) (manned : Manned p) (ascending : Ascending p) {f : Fetch}
    (outstanding : f ∈ p.fetches) {id : Nat} (requester : f.requester = .loop id)
    (past : f.generation ≠ p.generation) : ∀ g ∈ (p.drop id).1.fetches, g.id ≠ f.id := by
  cases found : p.loop? id with
  | none =>
      obtain ⟨l, member, same, _⟩ := manned f outstanding id requester
      exact absurd same (loop?_none found l member)
  | some l =>
      obtain ⟨member, rfl⟩ := loop?_mem found
      have left : l.generation ≠ p.generation := by rwa [owned.same f outstanding l member requester]
      cases fetching : p.fetches.find? (·.requester = .loop l.id) with
      | none => exact absurd requester (by simpa using List.find?_eq_none.mp fetching f outstanding)
      | some g =>
          have inside := List.mem_of_find?_eq_some fetching
          have own : g.requester = .loop l.id := by simpa using List.find?_some fetching
          obtain rfl := owned.single manned ascending inside outstanding own requester
          have cancelled : (p.drop l.id).1 = (p.cancel g).1 := by simp [drop, found, isCurrent, left, fetching]
          rw [cancelled]
          exact fun h remains => ((ends_cancel inside).mem.mp remains).2

end Poller

namespace Machine

variable {σ : Type}

def Cancelling (m : Machine σ) (f : Fetch) : Prop := ∃ loop, f.requester = .loop loop ∧ m.InQueue (.drop loop)

/-- Which requests can be outstanding together. -/
structure Exclusive (service : Source σ) (m : Machine σ) : Prop where
  session : ∀ f ∈ m.poller.fetches, ∀ g ∈ m.poller.fetches, f.generation = g.generation → f = g
  repeated : ∀ f ∈ m.poller.fetches, ∀ g ∈ m.poller.fetches, f.runId = g.runId → f.id < g.id →
    f.generation < g.generation ∧ ((∃ ticket, f.requester = .refresh ticket) ∨ m.Cancelling f)
  cancelled : ∀ f ∈ m.poller.fetches, f.generation ≠ m.poller.generation → ∀ loop, f.requester = .loop loop →
    m.Cancelling f ∧ ∀ g ∈ (m.runJob service (.drop loop)).poller.fetches, g.id ≠ f.id

/-- Whatever calls, answers and delays come: two requests are of two sessions, and if they are for one run
then a refresh began the first, or its cancellation is under way. -/
theorem requests_exclusive (service : Source σ) (config : Config) (keepPolling : Bool) (nodes : List Node)
    (source : σ) (watcher : Option (Session → Reaction σ)) (acts : List (Act σ)) :
    Exclusive service ((initial config keepPolling nodes source watcher).acting service acts) := by
  have provident := (initial_provident service config keepPolling nodes source watcher).acting acts
  have same := acting_poller service (initial config keepPolling nodes source watcher) acts
  have first := Poller.initial_sound config keepPolling
  generalize (initial config keepPolling nodes source watcher).acting service acts = m at provident same ⊢
  have ascending : m.poller.Ascending := by
    rw [same]
    exact first.ascending_after List.Pairwise.nil _
  have manned : m.poller.Manned := by
    rw [same]
    exact first.manned_after List.Pairwise.nil nofun _
  have sound := provident.sound
  have calledOff : ∀ f ∈ m.poller.fetches, f.generation ≠ m.poller.generation → ∀ loop, f.requester = .loop loop →
      m.Cancelling f := by
    intro f outstanding past loop requester
    obtain ⟨l, member, rfl, _⟩ := manned f outstanding loop requester
    rw [← sound.owned.same f outstanding l member requester] at past
    exact ⟨l.id, requester, (provident.provided _ (.drop member past)).resolve_right id⟩
  constructor
  · exact fun f left g right => ascending.alone left right
  · intro f left g right _ earlier
    have older := ascending.later left right earlier
    have past : f.generation ≠ m.poller.generation := by
      have bound := sound.flight.past g right
      omega
    refine ⟨older, ?_⟩
    cases requester : f.requester with
    | refresh ticket => exact Or.inl ⟨ticket, rfl⟩
    | loop id => exact Or.inr (calledOff f left past id requester)
  · intro f outstanding past loop requester
    refine ⟨calledOff f outstanding past loop requester, ?_⟩
    simp only [runJob, follow_poller]
    exact Poller.drop_ends sound.owned manned ascending outstanding requester past

/-- The request was sent, and nothing calls it off. -/
structure Underway (m : Machine σ) (f : Fetch) : Prop where
  outstanding : f ∈ m.poller.fetches
  sent : f.id ∉ m.asks
  kept : ¬ m.Cancelling f

def reopening : List (Act (List (Reply (Except Failure Payload)))) :=
  [.obey (.start "run-1"), .obey .stop, .obey .refresh, .step, .step, .step, .obey .clear,
    .obey (.start "run-1"), .step, .step]

theorem twice_underway : ¬ ∀ (acts : List (Act (List (Reply (Except Failure Payload))))) (f g : Fetch),
    ((initial .standard false [] [] none).acting .scripted acts).Underway f →
    ((initial .standard false [] [] none).acting .scripted acts).Underway g → f.runId = g.runId → f = g := by
  intro single
  have fetches : ((initial .standard false [] [] none).acting .scripted reopening).poller.fetches =
      [⟨0, 1, "run-1", .refresh 0⟩, ⟨1, 3, "run-1", .loop 1⟩] := by decide +kernel
  have asked : ((initial .standard false [] [] none).acting .scripted reopening).asks = [] := by decide +kernel
  have done : ((initial .standard false [] [] none).acting .scripted reopening).queue.length = 0 := by
    decide +kernel
  have underway : ∀ f ∈ [⟨0, 1, "run-1", .refresh 0⟩, ⟨1, 3, "run-1", .loop 1⟩],
      ((initial .standard false [] [] none).acting .scripted reopening).Underway f := by
    intro f member
    refine ⟨by rwa [fetches], by simp [asked], ?_⟩
    rintro ⟨loop, _, passes, queued⟩
    rw [List.length_eq_zero_iff.mp done] at queued
    cases queued
  have same := single reopening _ _ (underway _ List.mem_cons_self)
    (underway _ (List.mem_cons_of_mem _ List.mem_cons_self)) rfl
  cases same

end Machine

end WorkflowRuns
