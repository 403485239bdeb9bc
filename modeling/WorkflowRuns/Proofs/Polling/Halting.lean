import WorkflowRuns.Proofs.Polling.Needs

/-!
Polling that has stopped.  No loop begins another fetch, and before long every loop that is left waits
for the fetch it had begun.
-/

namespace WorkflowRuns.Poller

theorem leave_halted (p : Poller) (l : PollLoop) (halted : p.session.isPolling = false) :
    (p.leave l).1.session.isPolling = false := by
  by_cases current : l.generation = p.generation
  · rw [leave_current current]
  · rw [leave_past current]
    exact halted

theorem cancel_halted (p : Poller) (f : Fetch) (halted : p.session.isPolling = false) :
    (p.cancel f).1.session.isPolling = false := by
  have released : (p.release f).session.isPolling = false := by
    rw [(aside_release p f).session]
    exact halted
  rcases cancel_spec p f with same | ⟨l, _, _, left⟩
  · rw [same]
    exact released
  · rw [left]
    exact leave_halted _ l released

theorem settle_halted (p : Poller) (f : Fetch) (outcome : Except Failure Snapshot)
    (halted : p.session.isPolling = false) : (p.settle f outcome).session.isPolling = false := by
  have released : (p.release f).session.isPolling = false := by
    rw [(aside_release p f).session]
    exact halted
  rw [settle_spec]
  split
  · rcases record_polling (p.release f) outcome with ⟨same, _⟩ | ⟨ended, _⟩
    · exact same.trans released
    · exact ended
  · exact released

theorem halts_of_halted {p : Poller} (halted : p.session.isPolling = false) : p.halts = true := by
  have short : Binary64.zero.le .zero = true := by decide +kernel
  simp [halts, nextInterval?, halted, short]

theorem decide_left {p : Poller} (halted : p.session.isPolling = false) (id : Nat) :
    (p.decide id).1 = p ∨ ∃ l, (p.decide id).1 = (p.leave l).1 := by
  rcases decide_cases p id with quiet | ⟨l, found, deciding⟩
  · exact Or.inl quiet
  · rw [decide_spec found deciding, if_neg (by simp [halts_of_halted halted])]
    exact Or.inr ⟨l, rfl⟩

theorem enter_left {p : Poller} (halted : p.session.isPolling = false) (id : Nat) :
    (p.enter id).1 = p ∨ ∃ l, (p.enter id).1 = (p.leave l).1 := by
  rcases enter_cases p id with quiet | ⟨l, found, ready⟩
  · exact Or.inl quiet
  · rw [enter_spec found ready, if_neg (by simp [halted])]
    exact Or.inr ⟨l, rfl⟩

theorem move_halted {p : Poller} (halted : p.session.isPolling = false) {move : Move}
    (other : ∀ runId, move ≠ .start runId) : (p.move move).session.isPolling = false := by
  cases move with
  | start runId => exact absurd rfl (other runId)
  | stop => rfl
  | clear => rfl
  | refresh ticket =>
      rw [refresh_spec]
      split <;> exact halted
  | enter id =>
      rcases enter_left halted id with quiet | ⟨l, left⟩
      · simpa only [Poller.move, quiet] using halted
      · simpa only [Poller.move, left] using leave_halted p l halted
  | decide id =>
      rcases decide_left halted id with quiet | ⟨l, left⟩
      · simpa only [Poller.move, quiet] using halted
      · simpa only [Poller.move, left] using leave_halted p l halted
  | rouse id => exact halted
  | drop id =>
      rcases drop_cases p id with quiet | ⟨l, _, _, left | ⟨f, _, _, cancelled⟩⟩
      · simpa only [Poller.move, quiet] using halted
      · simpa only [Poller.move, left] using leave_halted p l halted
      · simpa only [Poller.move, cancelled] using cancel_halted p f halted
  | settle id answer =>
      cases found : p.fetch? id with
      | none => simpa only [Poller.move, found] using halted
      | some f => simpa only [Poller.move, found] using settle_halted p f _ halted
  | cancel id =>
      cases found : p.fetch? id with
      | none => simpa only [Poller.move, found] using halted
      | some f => simpa only [Poller.move, found] using cancel_halted p f halted

/-- What every move but a start keeps holds until the next start. -/
theorem holds_unstarted (holds : Poller → Prop) {p : Poller} (first : holds p)
    (kept : ∀ q move, holds q → (∀ runId, move ≠ .start runId) → holds (q.move move)) {moves : List Move}
    (other : ∀ runId, .start runId ∉ moves) : holds (p.after moves) := by
  induction moves generalizing p with
  | nil => exact first
  | cons head tail ih =>
      have next := kept p head first fun runId same => other runId (by rw [same]; exact List.mem_cons_self)
      exact ih next fun runId member => other runId (List.mem_cons_of_mem _ member)

theorem after_halted {p : Poller} (halted : p.session.isPolling = false) {moves : List Move}
    (other : ∀ runId, .start runId ∉ moves) : (p.after moves).session.isPolling = false :=
  holds_unstarted (fun q => q.session.isPolling = false) halted (fun _ _ before => move_halted before) other

theorem start_fetches (p : Poller) (runId : String) : (p.move (.start runId)).fetches = p.fetches := by
  by_cases named : runId = ""
  · rw [named, start_empty]
  · by_cases tracked : p.session.runId = some runId
    · cases polling : p.session.isPolling
      · rw [start_resumed named tracked polling]
        exact (quiet_resume p).fetches
      · rw [start_again tracked polling]
    · exact (supersedes_start named tracked).fetches

theorem move_begun {p : Poller} (halted : p.session.isPolling = false) (move : Move) {f : Fetch}
    (begun : f ∈ (p.move move).fetches) :
    f ∈ p.fetches ∨ ∃ ticket, move = .refresh ticket ∧ f.requester = .refresh ticket := by
  cases move with
  | start runId =>
      rw [start_fetches] at begun
      exact Or.inl begun
  | stop => exact Or.inl begun
  | clear => exact Or.inl begun
  | refresh ticket =>
      rw [refresh_spec] at begun
      split at begun
      · exact Or.inl begun
      · simp only [beginFetch, List.mem_append, List.mem_singleton] at begun
        rcases begun with before | rfl
        · exact Or.inl before
        · exact Or.inr ⟨ticket, rfl, rfl⟩
  | enter id =>
      left
      rcases enter_left halted id with quiet | ⟨l, left⟩
      · simpa only [Poller.move, quiet] using begun
      · simp only [Poller.move, left] at begun
        exact (narrowed_leave p l).fetches f begun
  | decide id => exact Or.inl ((narrowed_decide p id).fetches f begun)
  | rouse id => exact Or.inl begun
  | drop id => exact Or.inl ((narrowed_drop p id).fetches f begun)
  | settle id answer =>
      left
      cases found : p.fetch? id with
      | none => simpa only [Poller.move, found] using begun
      | some g =>
          simp only [Poller.move, found] at begun
          exact (narrowed_settle p g _).fetches f begun
  | cancel id =>
      left
      cases found : p.fetch? id with
      | none => simpa only [Poller.move, found] using begun
      | some g =>
          simp only [Poller.move, found] at begun
          exact (narrowed_cancel p g).fetches f begun

/-- Nothing is polled, and no loop waits for the end of its delay. -/
structure Halted (p : Poller) : Prop where
  halted : p.session.isPolling = false
  awake : ∀ l ∈ p.loops, l.stage ≠ .sleeping

def Calmer (p q : Poller) : Prop :=
  ∀ l ∈ q.loops, ∃ k ∈ p.loops, k.id = l.id ∧ (l.stage = k.stage ∨ l.stage = .deciding)

theorem calmer_of_subset {p q : Poller} (loops : ∀ l ∈ q.loops, l ∈ p.loops) : Calmer p q :=
  fun l member => ⟨l, loops l member, rfl, Or.inl rfl⟩

theorem Calmer.trans {p q r : Poller} (first : Calmer p q) (second : Calmer q r) : Calmer p r := by
  intro l member
  obtain ⟨k, inside, id, same | decided⟩ := second l member
  · obtain ⟨j, origin, first, stage⟩ := first k inside
    exact ⟨j, origin, first.trans id, by rw [same]; exact stage⟩
  · obtain ⟨j, origin, first, _⟩ := first k inside
    exact ⟨j, origin, first.trans id, Or.inr decided⟩

theorem calmer_leave (p : Poller) (l : PollLoop) : Calmer p (p.leave l).1 := by
  apply calmer_of_subset
  intro k member
  by_cases current : l.generation = p.generation
  · rw [leave_current current] at member
    exact (List.mem_filter.mp member).1
  · rw [leave_past current] at member
    exact (List.mem_filter.mp member).1

theorem calmer_release (p : Poller) (f : Fetch) : Calmer p (p.release f) := by
  intro l member
  rw [release_spec] at member
  obtain ⟨k, inside, rfl⟩ := List.mem_map.mp member
  refine ⟨k, inside, (onward_id f k).symm, ?_⟩
  unfold onward
  split
  · exact Or.inr rfl
  · exact Or.inl rfl

theorem calmer_cancel (p : Poller) (f : Fetch) : Calmer p (p.cancel f).1 := by
  rcases cancel_spec p f with same | ⟨l, _, _, left⟩
  · rw [same]
    exact calmer_release p f
  · rw [left]
    exact (calmer_release p f).trans (calmer_leave _ l)

theorem calmer_settle (p : Poller) (f : Fetch) (outcome : Except Failure Snapshot) :
    Calmer p (p.settle f outcome) := by
  rw [settle_spec]
  split
  · rw [record_frame]
    exact calmer_release p f
  · exact calmer_release p f

theorem Halted.waken {p : Poller} (halted : Halted p) (chosen : PollLoop → Prop) [DecidablePred chosen]
    (asleep : ∀ l, chosen l → isAsleep l = true) :
    (p.loops.map fun l => if chosen l then { l with stage := .waking } else l) = p.loops := by
  have each : ∀ l ∈ p.loops, (if chosen l then { l with stage := .waking } else l) = id l := by
    intro l member
    apply if_neg
    intro picked
    exact halted.awake l member (by simpa [isAsleep] using asleep l picked)
  rw [List.map_congr_left each, List.map_id]

theorem Halted.calmer {p : Poller} (halted : Halted p) {move : Move} (other : ∀ runId, move ≠ .start runId) :
    Calmer p (p.move move) := by
  have woken : (p.loops.map fun l => if isAsleep l then { l with stage := .waking } else l) = p.loops :=
    halted.waken (fun l => isAsleep l = true) fun _ asleep => asleep
  have same : ∀ {q : Poller}, q.loops = p.loops → Calmer p q := by
    intro q loops
    apply calmer_of_subset
    intro l member
    rwa [loops] at member
  cases move with
  | start runId => exact absurd rfl (other runId)
  | stop => exact same woken
  | clear => exact same woken
  | refresh ticket =>
      rw [refresh_spec]
      split <;> exact same rfl
  | enter id =>
      rcases enter_left halted.halted id with quiet | ⟨l, left⟩
      · exact same (by simp only [Poller.move, quiet])
      · simpa only [Poller.move, left] using calmer_leave p l
  | decide id =>
      rcases decide_left halted.halted id with quiet | ⟨l, left⟩
      · exact same (by simp only [Poller.move, quiet])
      · simpa only [Poller.move, left] using calmer_leave p l
  | rouse id => exact same (halted.waken (fun l => l.id = id ∧ isAsleep l = true) fun _ both => both.2)
  | drop id =>
      rcases drop_cases p id with quiet | ⟨l, _, _, left | ⟨f, _, _, cancelled⟩⟩
      · exact same (by simp only [Poller.move, quiet])
      · simpa only [Poller.move, left] using calmer_leave p l
      · simpa only [Poller.move, cancelled] using calmer_cancel p f
  | settle id answer =>
      cases found : p.fetch? id with
      | none => exact same (by simp only [Poller.move, found])
      | some f => simpa only [Poller.move, found] using calmer_settle p f _
  | cancel id =>
      cases found : p.fetch? id with
      | none => exact same (by simp only [Poller.move, found])
      | some f => simpa only [Poller.move, found] using calmer_cancel p f

theorem halted_stop (p : Poller) : Halted (p.move .stop) := by
  refine ⟨rfl, ?_⟩
  intro l member
  obtain ⟨k, _, rfl⟩ := List.mem_map.mp member
  by_cases asleep : isAsleep k = true
  · simp [asleep]
  · rw [if_neg asleep]
    simpa [isAsleep] using asleep

theorem Halted.move {p : Poller} (halted : Halted p) {move : Move} (other : ∀ runId, move ≠ .start runId) :
    Halted (p.move move) := by
  refine ⟨move_halted halted.halted other, ?_⟩
  intro l member
  obtain ⟨k, inside, _, same | decided⟩ := halted.calmer other l member
  · rw [same]
    exact halted.awake k inside
  · rw [decided]
    nofun

theorem Halted.after {p : Poller} (halted : Halted p) {moves : List Move} (other : ∀ runId, .start runId ∉ moves) :
    Halted (p.after moves) :=
  holds_unstarted Halted halted (fun _ _ before => before.move) other

theorem Halted.enter_gone {p : Poller} (halted : Halted p) (one : OneLoop p) {l : PollLoop} (member : l ∈ p.loops)
    (ready : IsReady l) : ∀ k ∈ (p.move (.enter l.id)).loops, k.id ≠ l.id := by
  have found : p.loop? l.id = some l := by
    cases found : p.loop? l.id with
    | none => exact absurd rfl (loop?_none found l member)
    | some k =>
        obtain ⟨inside, same⟩ := loop?_mem found
        rw [one.same_loop inside member same]
  simp only [Poller.move, enter_spec found ready, halted.halted, Bool.false_eq_true, and_false, if_false]
  exact leave_gone p l

/-- Nothing is polled, and every loop that is left waits for its fetch or has just done so. -/
structure Still (p : Poller) : Prop extends Halted p where
  unready : ∀ l ∈ p.loops, ¬ IsReady l

theorem Still.move {p : Poller} (still : Still p) {move : Move} (other : ∀ runId, move ≠ .start runId) :
    Still (p.move move) := by
  refine ⟨still.toHalted.move other, ?_⟩
  intro l member ready
  obtain ⟨k, inside, _, same | decided⟩ := still.toHalted.calmer other l member
  · unfold IsReady at ready
    rw [same] at ready
    exact still.unready k inside ready
  · unfold IsReady at ready
    rw [decided] at ready
    rcases ready with never | never <;> cases never

theorem Still.after {p : Poller} (still : Still p) {moves : List Move} (other : ∀ runId, .start runId ∉ moves) :
    Still (p.after moves) :=
  holds_unstarted Still still (fun _ _ before => before.move) other

def Attended (p : Poller) : Prop :=
  ∀ l ∈ p.loops, l.stage = .fetching → ∃ f ∈ p.fetches, f.requester = .loop l.id

theorem Attended.kept {p q : Poller} (attended : Attended p)
    (loops : ∀ l ∈ q.loops, l.stage = .fetching → ∃ k ∈ p.loops, k.id = l.id ∧ k.stage = .fetching)
    (fetches : ∀ f ∈ p.fetches, f ∈ q.fetches) : Attended q := by
  intro l member fetching
  obtain ⟨k, inside, id, before⟩ := loops l member fetching
  obtain ⟨f, outstanding, requester⟩ := attended k inside before
  exact ⟨f, fetches f outstanding, by rw [requester, id]⟩

theorem Attended.same {p q : Poller} (attended : Attended p) (loops : q.loops = p.loops)
    (fetches : q.fetches = p.fetches) : Attended q := by
  unfold Attended
  rw [loops, fetches]
  exact attended

theorem Attended.restaged {p q : Poller} (attended : Attended p) (chosen : PollLoop → Prop)
    [DecidablePred chosen] (stage : Stage) (other : stage ≠ .fetching)
    (loops : q.loops = p.loops.map fun l => if chosen l then { l with stage } else l)
    (fetches : q.fetches = p.fetches) : Attended q := by
  apply attended.kept
  · intro l member fetching
    rw [loops] at member
    obtain ⟨k, inside, rfl⟩ := List.mem_map.mp member
    by_cases picked : chosen k
    · rw [if_pos picked] at fetching
      exact absurd fetching other
    · rw [if_neg picked] at fetching ⊢
      exact ⟨k, inside, rfl, fetching⟩
  · intro f member
    rwa [fetches]

theorem Attended.leave {p : Poller} (attended : Attended p) (l : PollLoop) : Attended (p.leave l).1 := by
  apply attended.kept
  · intro k member fetching
    by_cases current : l.generation = p.generation
    · rw [leave_current current] at member
      exact ⟨k, (List.mem_filter.mp member).1, rfl, fetching⟩
    · rw [leave_past current] at member
      exact ⟨k, (List.mem_filter.mp member).1, rfl, fetching⟩
  · intro f member
    rw [(quiet_leave p l).fetches]
    exact member

theorem Attended.release {p : Poller} (attended : Attended p) (one : OneFlight p) {f : Fetch}
    (outstanding : f ∈ p.fetches) : Attended (p.release f) := by
  intro l member fetching
  have ends := ends_release outstanding
  rw [release_spec] at member
  obtain ⟨k, inside, rfl⟩ := List.mem_map.mp member
  unfold onward at fetching ⊢
  by_cases own : f.requester = .loop k.id
  · rw [if_pos own] at fetching
    cases fetching
  · rw [if_neg own] at fetching ⊢
    obtain ⟨g, other, requester⟩ := attended k inside fetching
    refine ⟨g, ends.mem.mpr ⟨other, ?_⟩, requester⟩
    intro equal
    rw [one.same_fetch other outstanding equal] at requester
    exact own requester

theorem Attended.decide {p : Poller} (attended : Attended p) (id : Nat) : Attended (p.decide id).1 := by
  rcases decide_cases p id with quiet | ⟨l, found, deciding⟩
  · rwa [quiet]
  · rw [decide_spec found deciding]
    split
    · exact attended.restaged (fun l => l.id = id) .sleeping nofun rfl rfl
    · exact attended.leave l

theorem Attended.cancel {p : Poller} (attended : Attended p) (one : OneFlight p) {f : Fetch}
    (outstanding : f ∈ p.fetches) : Attended (p.cancel f).1 := by
  have released := attended.release one outstanding
  rcases cancel_spec p f with same | ⟨l, _, _, left⟩
  · rwa [same]
  · rw [left]
    exact released.leave l

theorem Attended.settle {p : Poller} (attended : Attended p) (one : OneFlight p) {f : Fetch}
    (outstanding : f ∈ p.fetches) (outcome : Except Failure Snapshot) : Attended (p.settle f outcome) := by
  have released := attended.release one outstanding
  rw [settle_spec]
  split
  · rw [record_frame]
    exact released.same rfl rfl
  · exact released

theorem Attended.resume {p : Poller} (attended : Attended p) : Attended p.resume.1 := by
  rw [resume_spec]
  split
  · exact attended.same rfl rfl
  · apply attended.kept
    · intro l member fetching
      simp only [Poller.spawn, List.mem_append, List.mem_singleton] at member
      rcases member with before | rfl
      · exact ⟨l, before, rfl, fetching⟩
      · cases fetching
    · exact fun _ member => member

theorem Attended.enter {p : Poller} (attended : Attended p) (id : Nat) : Attended (p.enter id).1 := by
  rcases enter_cases p id with quiet | ⟨l, found, ready⟩
  · rwa [quiet]
  · rw [enter_spec found ready]
    split
    · split
      · exact (attended.restaged (fun l => l.id = id) .deciding (q := p.setStage id .deciding) nofun
          rfl rfl).decide id
      · intro k member fetching
        obtain ⟨j, inside, rfl⟩ := List.mem_map.mp member
        by_cases here : j.id = id
        · rw [if_pos here]
          exact ⟨_, List.mem_append_right _ (List.mem_singleton_self _), by simp [here]⟩
        · rw [if_neg here] at fetching ⊢
          obtain ⟨f, outstanding, requester⟩ := attended j inside fetching
          exact ⟨f, List.mem_append_left _ outstanding, requester⟩
    · exact attended.leave l

theorem Attended.move {p : Poller} (attended : Attended p) (sound : Sound p) (move : Move) :
    Attended (p.move move) := by
  have one := sound.flight
  cases move with
  | start runId =>
      by_cases named : runId = ""
      · rwa [named, start_empty]
      · by_cases tracked : p.session.runId = some runId
        · cases polling : p.session.isPolling
          · rw [start_resumed named tracked polling]
            exact attended.resume
          · rwa [start_again tracked polling]
        · rw [start_other named tracked]
          exact Attended.resume (attended.same rfl rfl)
  | stop => exact attended.restaged (fun l => isAsleep l = true) .waking nofun rfl rfl
  | clear => exact attended.restaged (fun l => isAsleep l = true) .waking nofun rfl rfl
  | refresh ticket =>
      rw [refresh_spec]
      split
      · exact attended
      · exact attended.kept (fun l member fetching => ⟨l, member, rfl, fetching⟩)
          fun _ member => List.mem_append_left _ member
  | enter id => exact attended.enter id
  | decide id => exact attended.decide id
  | rouse id => exact attended.restaged (fun l => l.id = id ∧ isAsleep l = true) .waking nofun rfl rfl
  | drop id =>
      rcases drop_cases p id with quiet | ⟨l, _, _, left | ⟨f, outstanding, _, cancelled⟩⟩
      · simpa only [Poller.move, quiet] using attended
      · simpa only [Poller.move, left] using attended.leave l
      · simpa only [Poller.move, cancelled] using attended.cancel one outstanding
  | settle id answer =>
      cases found : p.fetch? id with
      | none => simpa only [Poller.move, found] using attended
      | some f => simpa only [Poller.move, found] using attended.settle one (fetch?_mem found).1 _
  | cancel id =>
      cases found : p.fetch? id with
      | none => simpa only [Poller.move, found] using attended
      | some f => simpa only [Poller.move, found] using attended.cancel one (fetch?_mem found).1

theorem Attended.after {p : Poller} (attended : Attended p) (sound : Sound p) (moves : List Move) :
    Attended (p.after moves) := by
  have kept := holds_after (fun q => Sound q ∧ Attended q) ⟨sound, attended⟩
    (fun q move before => ⟨before.1.move move, before.2.move before.1 move⟩) moves
  exact kept.2

theorem initial_attended (config : Config) (keepPolling : Bool) : Attended (initial config keepPolling) := nofun

end WorkflowRuns.Poller
