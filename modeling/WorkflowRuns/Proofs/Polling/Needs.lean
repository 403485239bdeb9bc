import WorkflowRuns.Proofs.Polling.Lifecycle
import WorkflowRuns.Proofs.Polling.Deeds

/-!
What a poller waits for: loops that are to be entered, called off or to decide, and fetches that are
to settle.  Whatever a move newly needs, its signals ask for.
-/

namespace WorkflowRuns.Poller

inductive Need
  | enter (loop : Nat)
  | drop (loop : Nat)
  | decide (loop : Nat)
  | settle (fetch : Nat)

def IsReady (l : PollLoop) : Prop := l.stage = .created ∨ l.stage = .waking

inductive Needs (p : Poller) : Need → Prop
  | enter {l : PollLoop} (member : l ∈ p.loops) (ready : IsReady l) : Needs p (.enter l.id)
  | drop {l : PollLoop} (member : l ∈ p.loops) (past : l.generation ≠ p.generation) : Needs p (.drop l.id)
  | decide {l : PollLoop} (member : l ∈ p.loops) (deciding : l.stage = .deciding) : Needs p (.decide l.id)
  | settle {f : Fetch} (member : f ∈ p.fetches) : Needs p (.settle f.id)

inductive Meets : Signal → Need → Prop
  | spawned (loop : Nat) : Meets (.spawned loop) (.enter loop)
  | woken (loop : Nat) : Meets (.woken loop) (.enter loop)
  | calledOff (loop : Nat) : Meets (.calledOff loop) (.drop loop)
  | fetching (f : Fetch) : Meets (.fetching f) (.settle f.id)

def Met (signals : List Signal) (need : Need) : Prop := ∃ signal ∈ signals, Meets signal need

/-- Beyond what was needed before, only such needs are new. -/
def Adds (p q : Poller) (new : Need → Prop) : Prop := ∀ need, Needs q need → Needs p need ∨ new need

theorem Adds.refl (p : Poller) (new : Need → Prop) : Adds p p new := fun _ needed => Or.inl needed

theorem Adds.trans {p q r : Poller} {new : Need → Prop} (first : Adds p q new) (second : Adds q r new) :
    Adds p r new := by
  intro need needed
  rcases second need needed with before | added
  · exact first need before
  · exact Or.inr added

theorem Adds.weaken {p q : Poller} {new more : Need → Prop} (adds : Adds p q new)
    (weaker : ∀ need, new need → more need) : Adds p q more :=
  fun need needed => (adds need needed).imp_right (weaker need)

/-- The stage of a loop is as it was, or what it now needs is among the new needs. -/
structure Staged (new : Need → Prop) (k l : PollLoop) : Prop where
  id : k.id = l.id
  generation : k.generation = l.generation
  ready : IsReady l → IsReady k ∨ new (.enter l.id)
  deciding : l.stage = .deciding → k.stage = .deciding ∨ new (.decide l.id)

theorem Staged.refl (new : Need → Prop) (l : PollLoop) : Staged new l l :=
  ⟨rfl, rfl, Or.inl, Or.inl⟩

theorem adds_of_staged {p q : Poller} {new : Need → Prop} (generation : q.generation = p.generation)
    (loops : ∀ l ∈ q.loops, ∃ k ∈ p.loops, Staged new k l) (fetches : ∀ f ∈ q.fetches, f ∈ p.fetches) :
    Adds p q new := by
  intro need needed
  cases needed with
  | @enter l member ready =>
      obtain ⟨k, inside, staged⟩ := loops l member
      rcases staged.ready ready with before | added
      · rw [← staged.id]
        exact Or.inl (.enter inside before)
      · exact Or.inr added
  | @drop l member past =>
      obtain ⟨k, inside, staged⟩ := loops l member
      rw [← staged.id]
      exact Or.inl (.drop inside (by rw [staged.generation, ← generation]; exact past))
  | @decide l member deciding =>
      obtain ⟨k, inside, staged⟩ := loops l member
      rcases staged.deciding deciding with before | added
      · rw [← staged.id]
        exact Or.inl (.decide inside before)
      · exact Or.inr added
  | @settle f member => exact Or.inl (.settle (fetches f member))

variable (new : Need → Prop)

theorem adds_same {p q : Poller} (loops : q.loops = p.loops) (generation : q.generation = p.generation)
    (fetches : q.fetches = p.fetches) : Adds p q new := by
  apply adds_of_staged generation
  · intro l member
    rw [loops] at member
    exact ⟨l, member, .refl new l⟩
  · intro f member
    rwa [fetches] at member

theorem adds_leave (p : Poller) (l : PollLoop) : Adds p (p.leave l).1 new := by
  have kept : ∀ k ∈ p.loops.filter (·.id ≠ l.id), ∃ j ∈ p.loops, Staged new j k :=
    fun k member => ⟨k, (List.mem_filter.mp member).1, .refl new k⟩
  by_cases current : l.generation = p.generation
  · rw [leave_current current]
    exact adds_of_staged rfl kept fun _ member => member
  · rw [leave_past current]
    exact adds_of_staged rfl kept fun _ member => member

theorem adds_setStage (p : Poller) (id : Nat) (stage : Stage)
    (ready : stage = .created ∨ stage = .waking → new (.enter id))
    (deciding : stage = .deciding → new (.decide id)) : Adds p (p.setStage id stage) new := by
  refine adds_of_staged rfl ?_ ?_
  · intro l member
    obtain ⟨k, inside, rfl⟩ := List.mem_map.mp member
    refine ⟨k, inside, ?_⟩
    by_cases here : k.id = id
    · rw [if_pos here]
      exact ⟨rfl, rfl, fun now => Or.inr (here ▸ ready now), fun now => Or.inr (here ▸ deciding now)⟩
    · rw [if_neg here]
      exact .refl new k
  · exact fun _ member => member

theorem adds_decide (p : Poller) (id : Nat) : Adds p (p.decide id).1 new := by
  rcases decide_cases p id with quiet | ⟨l, found, deciding⟩
  · rw [quiet]
    exact .refl p new
  · rw [decide_spec found deciding]
    split
    · exact adds_setStage new p id .sleeping (by simp) (by simp)
    · exact adds_leave new p l

theorem adds_release (p : Poller) (f : Fetch)
    (own : ∀ id, f.requester = .loop id → new (.decide id)) : Adds p (p.release f) new := by
  rw [release_spec]
  refine adds_of_staged rfl ?_ ?_
  · intro l member
    obtain ⟨k, inside, rfl⟩ := List.mem_map.mp member
    refine ⟨k, inside, ?_⟩
    unfold onward
    split
    next requester => exact ⟨rfl, rfl, fun ready => absurd ready (by simp [IsReady]), fun _ => Or.inr (own _ requester)⟩
    next => exact .refl new k
  · exact fun g member => (List.mem_filter.mp member).1

theorem adds_settle (p : Poller) (f : Fetch) (outcome : Except Failure Snapshot)
    (own : ∀ id, f.requester = .loop id → new (.decide id)) : Adds p (p.settle f outcome) new := by
  have released := adds_release new p f own
  rw [settle_spec]
  split
  · rw [record_frame]
    exact released.trans (adds_same new rfl rfl rfl)
  · exact released

theorem leave_gone (p : Poller) (l : PollLoop) : ∀ k ∈ (p.leave l).1.loops, k.id ≠ l.id := by
  intro k member
  by_cases current : l.generation = p.generation
  · rw [leave_current current] at member
    simpa using (List.mem_filter.mp member).2
  · rw [leave_past current] at member
    simpa using (List.mem_filter.mp member).2

theorem loop?_none {p : Poller} {id : Nat} (absent : p.loop? id = none) : ∀ l ∈ p.loops, l.id ≠ id := by
  intro l member same
  have none := List.find?_eq_none.mp absent l member
  exact none (by simpa using same)

theorem cancel_gone (p : Poller) {f : Fetch} {id : Nat} (requester : f.requester = .loop id) :
    ∀ k ∈ (p.cancel f).1.loops, k.id ≠ id := by
  cases found : (p.release f).loop? id with
  | none =>
      simp only [cancel, requester, found]
      exact loop?_none found
  | some l =>
      simp only [cancel, requester, found]
      rw [← (loop?_mem found).2]
      exact leave_gone (p.release f) l

theorem adds_cancel (p : Poller) (f : Fetch) : Adds p (p.cancel f).1 new := by
  have left : Adds p (p.cancel f).1 fun need => ∃ id, f.requester = .loop id ∧ need = .decide id := by
    have released := adds_release (fun need => ∃ id, f.requester = .loop id ∧ need = .decide id) p f
      fun id requester => ⟨id, requester, rfl⟩
    rcases cancel_spec p f with same | ⟨l, _, _, same⟩
    · rw [same]
      exact released
    · rw [same]
      exact released.trans (adds_leave _ (p.release f) l)
  intro need needed
  rcases left need needed with before | ⟨id, requester, rfl⟩
  · exact Or.inl before
  · cases needed with
    | decide member _ => exact absurd rfl (cancel_gone p requester _ member)

theorem adds_drop (p : Poller) (id : Nat) : Adds p (p.drop id).1 new := by
  rcases drop_cases p id with quiet | ⟨l, _, _, left | ⟨f, _, _, cancelled⟩⟩
  · rw [quiet]
    exact .refl p new
  · rw [left]
    exact adds_leave new p l
  · rw [cancelled]
    exact adds_cancel new p f

theorem adds_beginFetch (p : Poller) (generation : Nat) (requester : Requester) :
    Adds p (p.beginFetch generation requester).1 (Met (p.beginFetch generation requester).2) := by
  intro need needed
  cases needed with
  | enter member ready => exact Or.inl (.enter member ready)
  | drop member past => exact Or.inl (.drop member past)
  | decide member deciding => exact Or.inl (.decide member deciding)
  | @settle f member =>
      simp only [beginFetch, List.mem_append, List.mem_singleton] at member
      rcases member with before | rfl
      · exact Or.inl (.settle before)
      · exact Or.inr ⟨_, List.mem_singleton_self _, .fetching _⟩

theorem adds_spawn (p : Poller) : Adds p p.spawn.1 (Met p.spawn.2) := by
  intro need needed
  have split : ∀ l ∈ p.spawn.1.loops, l ∈ p.loops ∨ l = ⟨p.nextLoop, p.generation, .created⟩ := by
    intro l member
    simpa [spawn] using member
  cases needed with
  | @enter l member ready =>
      rcases split l member with before | rfl
      · exact Or.inl (.enter before ready)
      · exact Or.inr ⟨_, List.mem_singleton_self _, .spawned _⟩
  | @drop l member past =>
      rcases split l member with before | rfl
      · exact Or.inl (.drop before past)
      · exact absurd rfl past
  | @decide l member deciding =>
      rcases split l member with before | rfl
      · exact Or.inl (.decide before deciding)
      · cases deciding
  | settle member => exact Or.inl (.settle member)

theorem adds_resume (p : Poller) : Adds p p.resume.1 (Met p.resume.2) := by
  have begun : ∀ new, Adds p { p with session := beginPolling p.session, phase := .polling } new :=
    fun new => adds_same new rfl rfl rfl
  unfold resume
  simp only
  split
  · exact begun _
  · exact (begun _).trans (adds_spawn _)

theorem adds_supersede {p : Poller} (one : OneLoop p) : Adds p p.supersede.1 (Met p.supersede.2) := by
  intro need needed
  cases needed with
  | enter member ready => exact Or.inl (.enter member ready)
  | @drop l member past =>
      by_cases current : l.generation = p.generation
      · have task := (one.serving l member).mp current
        refine Or.inr ⟨.calledOff l.id, ?_, .calledOff l.id⟩
        simp [supersede, task]
      · exact Or.inl (.drop member current)
  | decide member deciding => exact Or.inl (.decide member deciding)
  | settle member => exact Or.inl (.settle member)

theorem adds_stop (p : Poller) : Adds p p.stop.1 (Met p.stop.2) := by
  refine adds_of_staged rfl ?_ ?_
  · intro l member
    obtain ⟨k, inside, rfl⟩ := List.mem_map.mp member
    refine ⟨k, inside, ?_⟩
    by_cases asleep : isAsleep k = true
    · rw [if_pos asleep]
      refine ⟨rfl, rfl, fun _ => Or.inr ⟨.woken k.id, ?_, .woken k.id⟩, nofun⟩
      exact List.mem_map.mpr ⟨k, List.mem_filter.mpr ⟨inside, asleep⟩, rfl⟩
    · rw [if_neg asleep]
      exact .refl _ k
  · exact fun _ member => member

theorem Met.left {first : List Signal} {need : Need} (second : List Signal) (met : Met first need) :
    Met (first ++ second) need := by
  obtain ⟨signal, member, meets⟩ := met
  exact ⟨signal, List.mem_append_left _ member, meets⟩

theorem Met.right {second : List Signal} {need : Need} (first : List Signal) (met : Met second need) :
    Met (first ++ second) need := by
  obtain ⟨signal, member, meets⟩ := met
  exact ⟨signal, List.mem_append_right _ member, meets⟩

theorem adds_clear {p : Poller} (one : OneLoop p) : Adds p p.clear.1 (Met p.clear.2) := by
  have stopped := (adds_stop p).weaken (fun _ => Met.left p.stop.1.supersede.2)
  have superseded := (adds_supersede (one.restaged (restaged_stop p))).weaken
    (fun _ => Met.right p.stop.2)
  exact (stopped.trans superseded).trans (adds_same _ rfl rfl rfl)

theorem adds_start {p : Poller} (one : OneLoop p) (runId : String) :
    Adds p (p.change (.start runId)).1 (Met (p.change (.start runId)).2) := by
  by_cases named : runId = ""
  · simp only [change, start, named, if_true]
    exact .refl p _
  · by_cases tracked : p.session.runId = some runId
    · cases polling : p.session.isPolling
      · simp only [change, start, named, tracked, polling]
        exact adds_resume p
      · simp only [change, start, named, tracked, polling]
        exact .refl p _
    · simp only [change, start, named, tracked, false_and, if_false]
      have superseded := (adds_supersede one).weaken (fun _ =>
        Met.left ({ p.supersede.1 with session := .tracking runId } : Poller).resume.2)
      have tracking : ∀ new, Adds p.supersede.1 { p.supersede.1 with session := .tracking runId } new :=
        fun new => adds_same new rfl rfl rfl
      have resumed := (adds_resume { p.supersede.1 with session := .tracking runId }).weaken
        (fun _ => Met.right p.supersede.2)
      exact (superseded.trans (tracking _)).trans resumed

theorem adds_rouse (p : Poller) (id : Nat) : Adds p (p.rouse id) (· = .enter id) := by
  refine adds_of_staged rfl ?_ ?_
  · intro l member
    obtain ⟨k, inside, rfl⟩ := List.mem_map.mp member
    refine ⟨k, inside, ?_⟩
    by_cases asleep : k.id = id ∧ isAsleep k = true
    · rw [if_pos asleep]
      exact ⟨rfl, rfl, fun _ => Or.inr (by rw [asleep.1]), nofun⟩
    · rw [if_neg asleep]
      exact .refl _ k
  · exact fun _ member => member

inductive Leaves (p : Poller) : Move → Need → Prop
  | settle {id : Nat} {answer : Answer} {f : Fetch} {loop : Nat} (found : p.fetch? id = some f)
      (requester : f.requester = .loop loop) : Leaves p (.settle id answer) (.decide loop)
  | rouse (loop : Nat) : Leaves p (.rouse loop) (.enter loop)

theorem setStage_stage {p : Poller} {id : Nat} {stage : Stage} :
    ∀ l ∈ (p.setStage id stage).loops, l.id = id → l.stage = stage := by
  intro l member same
  obtain ⟨k, _, rfl⟩ := List.mem_map.mp member
  by_cases here : k.id = id
  · rw [if_pos here]
  · rw [if_neg here] at same
    exact absurd same here

theorem unneeded_loop {p : Poller} {id : Nat} (absent : p.loop? id = none) {need : Need}
    (concerns : need ∈ [.enter id, .drop id, .decide id]) : ¬ Needs p need := by
  have gone := loop?_none absent
  intro needed
  cases needed with
  | settle member => simp at concerns
  | _ member => simp [gone _ member] at concerns

theorem served_decide {p : Poller} (one : OneLoop p) (id : Nat) : ¬ Needs (p.decide id).1 (.decide id) := by
  intro needed
  cases found : p.loop? id with
  | none =>
      have quiet : (p.decide id).1 = p := by simp [Poller.decide, found]
      rw [quiet] at needed
      exact unneeded_loop found (by simp) needed
  | some l =>
      obtain ⟨inside, same⟩ := loop?_mem found
      by_cases deciding : l.stage = .deciding
      · rw [decide_spec found deciding] at needed
        split at needed
        · cases needed with
          | decide member still => cases (setStage_stage _ member rfl).symm.trans still
        · generalize equal : Need.decide id = need at needed
          cases needed with
          | decide member _ =>
              cases equal
              exact leave_gone p l _ member same.symm
          | _ => cases equal
      · have quiet : (p.decide id).1 = p := by simp [Poller.decide, found, deciding]
        rw [quiet] at needed
        cases needed with
        | decide member still =>
            rw [one.same_loop inside member same] at deciding
            exact deciding still

theorem adds_enter {p : Poller} (one : OneLoop p) (id : Nat) : Adds p (p.enter id).1 (Met (p.enter id).2) := by
  cases found : p.loop? id with
  | none =>
      simp only [enter, found]
      exact .refl p _
  | some l =>
      by_cases ready : l.stage = .created ∨ l.stage = .waking
      · by_cases going : (!p.isCurrent l.generation || !p.session.isPolling) = true
        · simp only [enter, found, ready, going, if_true]
          exact adds_leave _ p l
        · by_cases flying : p.inFlight = some l.generation
          -- A tick that is skipped decides at once.
          · simp only [enter, found, ready, going, flying, if_true, if_false, Bool.false_eq_true]
            have decided : Adds p ((p.setStage id .deciding).decide id).1 (· = .decide id) :=
              (adds_setStage _ p id .deciding (by simp) (by simp)).trans (adds_decide _ _ id)
            intro need needed
            rcases decided need needed with before | rfl
            · exact Or.inl before
            · exact absurd needed (served_decide (one.setStage id .deciding) id)
          · simp only [enter, found, ready, going, flying, if_true, if_false, Bool.false_eq_true]
            exact (adds_setStage _ p id .fetching (by simp) (by simp)).trans
              (adds_beginFetch (p.setStage id .fetching) l.generation (.loop id))
      · simp only [enter, found, ready, if_false]
        exact .refl p _

theorem served_enter {p : Poller} (one : OneLoop p) (id : Nat) : ¬ Needs (p.enter id).1 (.enter id) := by
  intro needed
  cases found : p.loop? id with
  | none =>
      have quiet : (p.enter id).1 = p := by simp [enter, found]
      rw [quiet] at needed
      exact unneeded_loop found (by simp) needed
  | some l =>
      obtain ⟨inside, same⟩ := loop?_mem found
      by_cases ready : l.stage = .created ∨ l.stage = .waking
      · rw [enter_spec found ready] at needed
        have staged : ∀ stage, ¬ (stage = .created ∨ stage = .waking) →
            ¬ Needs (p.setStage id stage) (.enter id) := by
          intro stage other needed
          cases needed with
          | enter member still =>
              unfold IsReady at still
              rw [setStage_stage _ member rfl] at still
              exact other still
        split at needed
        · split at needed
          · rcases adds_decide (fun _ => False) _ id _ needed with before | never
            · exact staged .deciding (by simp) before
            · exact never
          · cases needed with
            | enter member still => exact staged .fetching (by simp) (.enter member still)
        · cases needed with
          | enter member _ => exact leave_gone p l _ member same.symm
      · have quiet : (p.enter id).1 = p := by simp [enter, found, ready]
        rw [quiet] at needed
        cases needed with
        | enter member still =>
            rw [one.same_loop inside member same] at ready
            exact ready still

theorem served_drop {p : Poller} (one : OneLoop p) (id : Nat) : ¬ Needs (p.drop id).1 (.drop id) := by
  intro needed
  cases found : p.loop? id with
  | none =>
      have quiet : (p.drop id).1 = p := by simp [drop, found]
      rw [quiet] at needed
      exact unneeded_loop found (by simp) needed
  | some l =>
      obtain ⟨inside, same⟩ := loop?_mem found
      by_cases current : l.generation = p.generation
      · have quiet : (p.drop id).1 = p := by simp [drop, found, isCurrent, current]
        rw [quiet] at needed
        cases needed with
        | drop member past =>
            rw [one.same_loop inside member same] at current
            exact past current
      · cases fetching : p.fetches.find? (·.requester = .loop id) with
        | none =>
            have left : (p.drop id).1 = (p.leave l).1 := by
              simp [drop, found, isCurrent, current, fetching]
            rw [left] at needed
            cases needed with
            | drop member _ => exact leave_gone p l _ member same.symm
        | some f =>
            have requester : f.requester = .loop id := by simpa using List.find?_some fetching
            have cancelled : (p.drop id).1 = (p.cancel f).1 := by
              simp [drop, found, isCurrent, current, fetching]
            rw [cancelled] at needed
            cases needed with
            | drop member _ => exact cancel_gone p requester _ member rfl

/-- Whatever a move newly needs, its signals ask for, apart from what it leaves behind. -/
theorem adds_change {p : Poller} (one : OneLoop p) (move : Move) :
    Adds p (p.change move).1 fun need => Met (p.change move).2 need ∨ Leaves p move need := by
  have signalled : ∀ {q : Poller} {signals : List Signal}, Adds p q (Met signals) →
      Adds p q fun need => Met signals need ∨ Leaves p move need :=
    fun adds => adds.weaken fun _ => Or.inl
  cases move with
  | start runId => exact signalled (adds_start one runId)
  | stop => exact signalled (adds_stop p)
  | clear => exact signalled (adds_clear one)
  | refresh ticket =>
      cases began : p.refresh ticket with
      | begun q signals =>
          have begun : (q, signals) = p.beginFetch p.generation (.refresh ticket) := by
            unfold refresh at began
            split at began
            · cases began
            · split at began
              · cases began
              · cases began
                rfl
          have adds := adds_beginFetch p p.generation (.refresh ticket)
          rw [← begun] at adds
          simp only [change, began]
          exact signalled adds
      | refused failure =>
          simp only [change, began]
          exact .refl p _
      | skipped =>
          simp only [change, began]
          exact .refl p _
  | enter id => exact signalled (adds_enter one id)
  | decide id => exact adds_decide _ p id
  | rouse id =>
      refine (adds_rouse p id).weaken ?_
      rintro need rfl
      exact Or.inr (.rouse id)
  | drop id => exact adds_drop _ p id
  | settle id answer =>
      cases found : p.fetch? id with
      | none =>
          simp only [change, Poller.move, found]
          exact .refl p _
      | some f =>
          simp only [change, Poller.move, found]
          exact adds_settle _ p f _ fun loop requester => Or.inr (.settle found requester)
  | cancel id =>
      cases found : p.fetch? id with
      | none =>
          simp only [change, found]
          exact .refl p _
      | some f =>
          simp only [change, found]
          exact adds_cancel _ p f

inductive Serves : Move → Need → Prop
  | enter (loop : Nat) : Serves (.enter loop) (.enter loop)
  | drop (loop : Nat) : Serves (.drop loop) (.drop loop)
  | decide (loop : Nat) : Serves (.decide loop) (.decide loop)
  | settle (fetch : Nat) (answer : Answer) : Serves (.settle fetch answer) (.settle fetch)
  | cancel (fetch : Nat) : Serves (.cancel fetch) (.settle fetch)

theorem fetch?_none {p : Poller} {id : Nat} (absent : p.fetch? id = none) : ∀ f ∈ p.fetches, f.id ≠ id := by
  intro f member same
  have none := List.find?_eq_none.mp absent f member
  exact none (by simpa using same)

theorem Ends.served {p q : Poller} {f : Fetch} (ends : Ends f p q) : ¬ Needs q (.settle f.id) := by
  intro needed
  generalize equal : Need.settle f.id = need at needed
  cases needed with
  | settle member =>
      rw [Need.settle.injEq] at equal
      exact (ends.mem.mp member).2 equal.symm
  | _ => cases equal

theorem unneeded_settle {p : Poller} {id : Nat} (absent : p.fetch? id = none) : ¬ Needs p (.settle id) := by
  intro needed
  cases needed with
  | settle member => exact fetch?_none absent _ member rfl

theorem served_move {p : Poller} (one : OneLoop p) {move : Move} {need : Need} (serves : Serves move need) :
    ¬ Needs (p.move move) need := by
  cases serves with
  | enter id => exact served_enter one id
  | drop id => exact served_drop one id
  | decide id => exact served_decide one id
  | settle id answer =>
      cases found : p.fetch? id with
      | none =>
          simp only [Poller.move, found]
          exact unneeded_settle found
      | some f =>
          obtain ⟨member, rfl⟩ := fetch?_mem found
          simp only [Poller.move, found]
          exact (ends_settle member _).served
  | cancel id =>
      cases found : p.fetch? id with
      | none =>
          simp only [Poller.move, found]
          exact unneeded_settle found
      | some f =>
          obtain ⟨member, rfl⟩ := fetch?_mem found
          simp only [Poller.move, found]
          exact (ends_cancel member).served

def owes (p : Poller) (owed : Need → Prop) : List Move → Need → Prop
  | [] => owed
  | move :: rest => (p.move move).owes (fun need => (owed need ∨ Leaves p move need) ∧ ¬ Serves move need) rest

theorem owes_append (p : Poller) (owed : Need → Prop) (first second : List Move) :
    p.owes owed (first ++ second) = (p.after first).owes (p.owes owed first) second := by
  induction first generalizing p owed with
  | nil => rfl
  | cons head tail ih => exact ih (p.move head) _

/-- Only fetches that settle and loops that are roused leave something to be done. -/
theorem owes_tame {p : Poller} {owed : Need → Prop} {moves : List Move}
    (tame : ∀ move ∈ moves, ∀ q need, ¬ Leaves q move need) {need : Need} (owing : p.owes owed moves need) :
    owed need := by
  induction moves generalizing p owed with
  | nil => exact owing
  | cons head tail ih =>
      obtain ⟨before | left, _⟩ := ih (fun move member => tame move (List.mem_cons_of_mem _ member)) owing
      · exact before
      · exact absurd left (tame head List.mem_cons_self p need)

end WorkflowRuns.Poller
