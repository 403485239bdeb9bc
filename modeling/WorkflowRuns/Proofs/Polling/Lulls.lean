import WorkflowRuns.Proofs.Polling.Exclusion

/-!
Ticks of loops and what is between them.  Each move takes few loops to another stage, and only the end of a tick
puts a loop to sleep.  It then waits for an event that is not set, so that a stop during the tick does not shorten
the delay.
-/

namespace WorkflowRuns

def Signal.sleeps : Signal → Bool
  | .sleeping _ _ => true
  | _ => false

namespace Poller

/-- A loop begins a tick, which may be skipped. -/
inductive BeginsTick (p : Poller) : Nat → Move → Prop
  | enter {l : PollLoop} (ticks : Ticks p l) : BeginsTick p l.id (.enter l.id)

/-- A tick ends once its fetch has settled, or at once if another fetch is in flight. -/
inductive EndsTick (p : Poller) : Nat → Move → Prop
  | settled {l : PollLoop} (found : p.loop? l.id = some l) (deciding : l.stage = .deciding) :
      EndsTick p l.id (.decide l.id)
  | skipped {l : PollLoop} (ticks : Ticks p l) (flying : p.isInFlight = true) : EndsTick p l.id (.enter l.id)

/-- The move takes the loop from its stage to another one. -/
inductive Stirs (p : Poller) (l k : PollLoop) (move : Move) : Prop
  | wakes (asleep : isAsleep l = true) (waking : k.stage = .waking)
      (called : move = .stop ∨ move = .clear ∨ move = .rouse l.id)
  | begins (ticks : Ticks p l) (begun : move = .enter l.id) (fetching : k.stage = .fetching ∨ EndsTick p l.id move)
  | ends (found : p.loop? l.id = some l) (deciding : l.stage = .deciding) (decided : move = .decide l.id)
  | lands (fetching : l.stage = .fetching) (deciding : k.stage = .deciding)

def Moved (p : Poller) (move : Move) (k : PollLoop) : Prop := ∃ l ∈ p.loops, l.id = k.id ∧ Stirs p l k move

structure Origins (moved : PollLoop → Prop) (p q : Poller) : Prop where
  next : p.nextLoop ≤ q.nextLoop
  loops : ∀ k ∈ q.loops, k ∈ p.loops ∨ (p.nextLoop ≤ k.id ∧ k.stage = .created) ∨ moved k

section

variable {moved : PollLoop → Prop} {p q r : Poller}

theorem Origins.trans (first : Origins moved p q) (second : Origins moved q r) : Origins moved p r := by
  refine ⟨first.next.trans second.next, ?_⟩
  intro k member
  rcases second.loops k member with before | ⟨new, created⟩ | stirred
  · exact first.loops k before
  · exact Or.inr (Or.inl ⟨first.next.trans new, created⟩)
  · exact Or.inr (Or.inr stirred)

theorem origins_same (loops : q.loops = p.loops) (next : q.nextLoop = p.nextLoop) : Origins moved p q := by
  refine ⟨next.ge, ?_⟩
  rw [loops]
  exact fun k member => Or.inl member

theorem origins_where (chosen : PollLoop → Prop) [DecidablePred chosen] {stage : Stage}
    (loops : q.loops = p.loops.map fun l => if chosen l then { l with stage } else l)
    (next : q.nextLoop = p.nextLoop) (moves : ∀ l ∈ p.loops, chosen l → moved { l with stage }) :
    Origins moved p q := by
  refine ⟨next.ge, ?_⟩
  rw [loops]
  intro k member
  obtain ⟨l, inside, rfl⟩ := List.mem_map.mp member
  by_cases picked : chosen l
  · rw [if_pos picked]
    exact Or.inr (Or.inr (moves l inside picked))
  · rw [if_neg picked]
    exact Or.inl inside

theorem leave_loops (p : Poller) (l : PollLoop) :
    (p.leave l).1.loops = p.loops.filter (·.id ≠ l.id) ∧ (p.leave l).1.nextLoop = p.nextLoop := by
  by_cases current : l.generation = p.generation
  · rw [leave_current current]
    exact ⟨rfl, rfl⟩
  · rw [leave_past current]
    exact ⟨rfl, rfl⟩

theorem origins_leave (p : Poller) (l : PollLoop) : Origins moved p (p.leave l).1 := by
  obtain ⟨loops, next⟩ := leave_loops p l
  refine ⟨next.ge, ?_⟩
  rw [loops]
  exact fun k member => Or.inl (List.mem_filter.mp member).1

theorem origins_resume (p : Poller) : Origins moved p p.resume.1 := by
  rw [resume_spec]
  split
  · exact origins_same rfl rfl
  · refine ⟨Nat.le_succ _, ?_⟩
    intro k member
    rcases List.mem_append.mp member with before | new
    · exact Or.inl before
    · rw [List.mem_singleton.mp new]
      exact Or.inr (Or.inl ⟨Nat.le_refl _, rfl⟩)

theorem origins_start (p : Poller) (runId : String) : Origins moved p (p.move (.start runId)) := by
  by_cases named : runId = ""
  · rw [named, start_empty]
    exact origins_same rfl rfl
  · by_cases tracked : p.session.runId = some runId
    · cases polling : p.session.isPolling
      · rw [start_resumed named tracked polling]
        exact origins_resume p
      · rw [start_again tracked polling]
        exact origins_same rfl rfl
    · rw [start_other named tracked]
      have superseded : Origins moved p { p.supersede.1 with session := .tracking runId } := origins_same rfl rfl
      exact superseded.trans (origins_resume _)

theorem origins_decide (p : Poller) {id : Nat} (own : ∀ k : PollLoop, k.id = id → moved k) :
    Origins moved p (p.decide id).1 := by
  rcases decide_cases p id with quiet | ⟨l, found, deciding⟩
  · rw [quiet]
    exact origins_same rfl rfl
  · rw [decide_spec found deciding]
    split
    · exact origins_where (fun k => k.id = id) rfl rfl fun l _ same => own _ same
    · exact origins_leave p l

theorem origins_enter (p : Poller) {id : Nat} (own : ∀ l, Ticks p l → l.id = id → ∀ k : PollLoop, k.id = id →
    k.stage = .fetching ∨ EndsTick p id (.enter id) → moved k) : Origins moved p (p.enter id).1 := by
  rcases enter_cases p id with quiet | ⟨l, found, ready⟩
  · rw [quiet]
    exact origins_same rfl rfl
  · rw [enter_spec found ready]
    obtain ⟨member, rfl⟩ := loop?_mem found
    split
    next serves =>
      have ticks : Ticks p l := ⟨found, ready, serves.1, serves.2⟩
      split
      next flying =>
        have ended : EndsTick p l.id (.enter l.id) := by
          rw [serves.1] at flying
          exact .skipped ticks (decide_eq_true flying)
        have picked : ∀ k : PollLoop, k.id = l.id → moved k := fun k same => own l ticks rfl k same (Or.inr ended)
        have skipped : Origins moved p (p.setStage l.id .deciding) :=
          origins_where (fun k => k.id = l.id) rfl rfl fun k _ same => picked _ same
        exact skipped.trans (origins_decide _ picked)
      next =>
        have begun : Origins moved p (p.setStage l.id .fetching) :=
          origins_where (fun k => k.id = l.id) rfl rfl fun k _ same => own l ticks rfl _ same (Or.inl rfl)
        exact begun.trans (origins_same rfl rfl)
    next => exact origins_leave p l

theorem origins_release (one : OneLoop p) (manned : Manned p) {f : Fetch} (outstanding : f ∈ p.fetches)
    (lands : ∀ l ∈ p.loops, l.stage = .fetching → moved { l with stage := .deciding }) :
    Origins moved p (p.release f) := by
  rw [release_spec]
  refine ⟨Nat.le_refl _, ?_⟩
  intro k member
  obtain ⟨l, inside, rfl⟩ := List.mem_map.mp member
  unfold onward
  split
  next requester =>
    obtain ⟨own, there, same, fetching⟩ := manned f outstanding l.id requester
    rw [one.same_loop there inside same] at fetching
    exact Or.inr (Or.inr (lands l inside fetching))
  next => exact Or.inl inside

theorem origins_cancel (one : OneLoop p) (manned : Manned p) {f : Fetch} (outstanding : f ∈ p.fetches)
    (lands : ∀ l ∈ p.loops, l.stage = .fetching → moved { l with stage := .deciding }) :
    Origins moved p (p.cancel f).1 := by
  have released := origins_release one manned outstanding lands
  rcases cancel_spec p f with same | ⟨l, _, _, left⟩
  · rwa [same]
  · rw [left]
    exact released.trans (origins_leave _ l)

end

theorem origins_move {p : Poller} (one : OneLoop p) (manned : Manned p) (move : Move) :
    Origins (Moved p move) p (p.move move) := by
  have lands : ∀ l ∈ p.loops, l.stage = .fetching → Moved p move { l with stage := .deciding } :=
    fun l member fetching => ⟨l, member, rfl, .lands fetching rfl⟩
  cases move with
  | start runId => exact origins_start p runId
  | stop =>
      exact origins_where (fun l => isAsleep l = true) rfl rfl fun l member asleep =>
        ⟨l, member, rfl, .wakes asleep rfl (by simp)⟩
  | clear =>
      exact origins_where (fun l => isAsleep l = true) rfl rfl fun l member asleep =>
        ⟨l, member, rfl, .wakes asleep rfl (by simp)⟩
  | refresh ticket =>
      rw [refresh_spec]
      split <;> exact origins_same rfl rfl
  | enter id =>
      apply origins_enter
      rintro l ticks rfl k same fetching
      exact ⟨l, (loop?_mem ticks.found).1, same.symm, .begins ticks rfl fetching⟩
  | decide id =>
      rcases decide_cases p id with quiet | ⟨l, found, deciding⟩
      · rw [Poller.move, quiet]
        exact origins_same rfl rfl
      · obtain ⟨member, rfl⟩ := loop?_mem found
        exact origins_decide p fun k same => ⟨l, member, same.symm, .ends found deciding rfl⟩
  | rouse id =>
      have roused : ∀ l ∈ p.loops, l.id = id ∧ isAsleep l = true → Moved p (.rouse id) { l with stage := .waking } := by
        rintro l member ⟨rfl, asleep⟩
        exact ⟨l, member, rfl, .wakes asleep rfl (by simp)⟩
      exact origins_where (fun l => l.id = id ∧ isAsleep l = true) rfl rfl roused
  | drop id =>
      rcases drop_cases p id with quiet | ⟨l, found, _, left | ⟨f, outstanding, _, cancelled⟩⟩
      · rw [Poller.move, quiet]
        exact origins_same rfl rfl
      · rw [Poller.move, left]
        exact origins_leave p l
      · rw [Poller.move, cancelled]
        -- A loop that is cancelled while it fetches takes its fetch with it.
        exact origins_cancel one manned outstanding lands
  | settle id answer =>
      cases found : p.fetch? id with
      | none =>
          simp only [Poller.move, found]
          exact origins_same rfl rfl
      | some f =>
          have released := origins_release one manned (fetch?_mem found).1 lands
          simp only [Poller.move, found]
          rw [settle_spec]
          split
          · rw [record_frame]
            exact released.trans (origins_same rfl rfl)
          · exact released
  | cancel id =>
      cases found : p.fetch? id with
      | none =>
          simp only [Poller.move, found]
          exact origins_same rfl rfl
      | some f =>
          simp only [Poller.move, found]
          exact origins_cancel one manned (fetch?_mem found).1 lands

section

variable {p : Poller} {loop : Nat} {move : Move}

theorem Ticks.stage {l : PollLoop} (ticks : Ticks p l) :
    l.stage ≠ .sleeping ∧ l.stage ≠ .fetching ∧ l.stage ≠ .deciding := by
  rcases ticks.ready with created | waking
  · simp [created]
  · simp [waking]

theorem BeginsTick.entered (begins : BeginsTick p loop move) : move = .enter loop := by
  cases begins with
  | enter ticks => rfl

theorem EndsTick.unroused (ends : EndsTick p loop move) : ∀ id, move ≠ .rouse id := by
  cases ends with
  | settled found deciding => exact fun id => by simp
  | skipped ticks flying => exact fun id => by simp

theorem BeginsTick.skips (begins : BeginsTick p loop move) (flying : p.isInFlight = true) : EndsTick p loop move := by
  cases begins with
  | enter ticks => exact .skipped ticks flying

theorem EndsTick.begun (ends : EndsTick p loop move) :
    BeginsTick p loop move ∨ ∃ l ∈ p.loops, l.id = loop ∧ l.stage = .deciding := by
  cases ends with
  | @settled l found deciding => exact Or.inr ⟨l, (loop?_mem found).1, rfl, deciding⟩
  | skipped ticks flying => exact Or.inl (.enter ticks)

theorem EndsTick.awake (ends : EndsTick p loop move) : ∃ l ∈ p.loops, l.id = loop ∧ l.stage ≠ .sleeping := by
  cases ends with
  | @settled l found deciding => exact ⟨l, (loop?_mem found).1, rfl, by simp [deciding]⟩
  | @skipped l ticks flying => exact ⟨l, (loop?_mem ticks.found).1, rfl, ticks.stage.1⟩

def Silent (signals : List Signal) : Prop := ∀ id delay, Signal.sleeping id delay ∉ signals

theorem Silent.append {first second : List Signal} (left : Silent first) (right : Silent second) :
    Silent (first ++ second) := by
  intro id delay member
  rcases List.mem_append.mp member with before | after
  · exact left id delay before
  · exact right id delay after

theorem silent_leave (p : Poller) (l : PollLoop) : Silent (p.leave l).2 := by simp [Silent, leave_signals]

theorem silent_cancel (p : Poller) (f : Fetch) : Silent (p.cancel f).2 := by
  cases requester : f.requester with
  | refresh ticket => simp [Silent, Poller.cancel, requester]
  | loop id =>
      cases found : (p.release f).loop? id with
      | none => simp [Silent, Poller.cancel, requester, found]
      | some l =>
          simp only [Poller.cancel, requester, found]
          exact silent_leave _ l

theorem silent_resume (p : Poller) : Silent p.resume.2 := by
  simp only [Poller.resume]
  split <;> simp [Silent, spawn]

theorem silent_supersede (p : Poller) : Silent p.supersede.2 := by
  cases task : p.task <;> simp [Silent, Poller.supersede, task]

theorem silent_stop (p : Poller) : Silent p.stop.2 := by simp [Silent, Poller.stop]

theorem silent_start (p : Poller) (runId : String) : Silent (p.change (.start runId)).2 := by
  by_cases named : runId = ""
  · simp [Silent, Poller.change, Poller.start, named]
  · by_cases tracked : p.session.runId = some runId
    · cases polling : p.session.isPolling with
      | true => simp [Silent, Poller.change, Poller.start, named, tracked, polling]
      | false => simpa [Poller.change, Poller.start, named, tracked, polling] using silent_resume p
    · have both := (silent_supersede p).append (silent_resume { p.supersede.1 with session := .tracking runId })
      simpa only [Poller.change, Poller.start, named, tracked, if_false, false_and] using both

theorem enter_silent (p : Poller) (id : Nat) : Silent (p.enter id).2 ∨ ∃ loop, EndsTick p loop (.enter id) := by
  cases found : p.loop? id with
  | none => simp [Poller.enter, found, Silent]
  | some l =>
      obtain ⟨member, rfl⟩ := loop?_mem found
      by_cases ready : l.stage = .created ∨ l.stage = .waking
      · by_cases serves : l.generation = p.generation ∧ p.session.isPolling = true
        · cases flying : p.isInFlight with
          | true => exact Or.inr ⟨l.id, .skipped ⟨found, ready, serves.1, serves.2⟩ flying⟩
          | false =>
              have free : p.inFlight ≠ some p.generation := of_decide_eq_false flying
              simp [Silent, Poller.enter, found, ready, isCurrent, serves.1, serves.2, free, beginFetch]
        · left
          have passed : (!p.isCurrent l.generation || !p.session.isPolling) = true := by
            simpa [isCurrent, imp_iff_not_or] using serves
          simp only [Poller.enter, found, ready, passed, if_true]
          exact silent_leave p l
      · simp [Poller.enter, found, ready, Silent]

theorem decide_silent (p : Poller) (id : Nat) : Silent (p.decide id).2 ∨ ∃ loop, EndsTick p loop (.decide id) := by
  cases found : p.loop? id with
  | none => simp [Poller.decide, found, Silent]
  | some l =>
      obtain ⟨member, rfl⟩ := loop?_mem found
      by_cases deciding : l.stage = .deciding
      · exact Or.inr ⟨l.id, .settled found deciding⟩
      · simp [Poller.decide, found, deciding, Silent]

theorem change_silent (p : Poller) (move : Move) : Silent (p.change move).2 ∨ ∃ loop, EndsTick p loop move := by
  cases move with
  | start runId => exact Or.inl (silent_start p runId)
  | stop => exact Or.inl (silent_stop p)
  | clear => exact Or.inl ((silent_stop p).append (silent_supersede _))
  | refresh ticket =>
      left
      by_cases idle : p.session.runId = none
      · simp [Silent, Poller.change, Poller.refresh, idle]
      · by_cases flying : p.inFlight = some p.generation <;>
          simp [Silent, Poller.change, Poller.refresh, idle, flying, beginFetch]
  | enter id => exact enter_silent p id
  | decide id => exact decide_silent p id
  | drop id =>
      left
      simp only [Poller.change, Poller.drop]
      split
      · simp [Silent]
      · split
        · simp [Silent]
        · split
          · exact silent_cancel p _
          · exact silent_leave p _
  | cancel id =>
      left
      simp only [Poller.change]
      split
      · exact silent_cancel p _
      · simp [Silent]
  | _ => simp [Silent, Poller.change]

/-- A loop whose tick has ended is gone, or it sleeps for the next interval. -/
inductive Lulls (p : Poller) (loop : Nat) (change : Poller × List Signal) : Prop
  | gone (absent : ∀ k ∈ change.1.loops, k.id ≠ loop) (silent : Silent change.2)
  | asleep (delay : Binary64) (onward : p.halts = false) (interval : p.nextInterval? = some delay)
      (stages : ∀ k ∈ change.1.loops, k.id = loop → k.stage = .sleeping) (signals : change.2 = [.sleeping loop delay])

theorem lulls_decide {l : PollLoop} (found : p.loop? loop = some l) (deciding : l.stage = .deciding) :
    Lulls p loop (p.decide loop) := by
  have same := (loop?_mem found).2
  have gone : Lulls p loop (p.leave l) := .gone (fun k member => same ▸ leave_gone p l k member) (silent_leave p l)
  by_cases current : l.generation = p.generation
  · cases interval : p.nextInterval? with
    | none => simpa [Poller.decide, found, deciding, isCurrent, current, interval] using gone
    | some delay =>
        cases short : delay.le .zero with
        | true => simpa [Poller.decide, found, deciding, isCurrent, current, interval, short] using gone
        | false =>
            have sleeps : p.decide loop = (p.setStage loop .sleeping, [.sleeping loop delay]) := by
              simp [Poller.decide, found, deciding, isCurrent, current, interval, short]
            rw [sleeps]
            exact .asleep delay (by simp [halts, interval, short]) interval setStage_stage rfl
  · simpa [Poller.decide, found, deciding, isCurrent, current] using gone

theorem EndsTick.lulls (ends : EndsTick p loop move) : Lulls p loop (p.change move) := by
  cases ends with
  | @settled l found deciding => exact lulls_decide found deciding
  | @skipped l ticks flying =>
      have skips : p.change (.enter l.id) = (p.setStage l.id .deciding).decide l.id := enter_skipped ticks flying
      rw [skips]
      have decided := lulls_decide (setStage_loop? ticks.found .deciding) rfl
      cases decided with
      | gone absent silent => exact .gone absent silent
      | asleep delay onward interval stages signals => exact .asleep delay onward interval stages signals

theorem EndsTick.stages (ends : EndsTick p loop move) : ∀ k ∈ (p.move move).loops, k.id = loop → k.stage = .sleeping := by
  rw [← change_move]
  cases ends.lulls with
  | gone absent silent => exact fun k member own => absurd own (absent k member)
  | asleep delay onward interval stages signals => exact stages

theorem BeginsTick.fetches (begins : BeginsTick p loop move) (free : p.isInFlight = false) :
    ∀ k ∈ (p.move move).loops, k.id = loop → k.stage = .fetching := by
  cases begins with
  | @enter l ticks =>
      obtain ⟨found, ready, current, polling⟩ := ticks
      have unheld : p.inFlight ≠ some l.generation := by
        rw [current]
        exact of_decide_eq_false free
      rw [Poller.move, enter_spec found ready, if_pos ⟨current, polling⟩, if_neg unheld]
      exact setStage_stage

theorem woken_stop {l : PollLoop} (member : l ∈ p.loops) (asleep : isAsleep l = true) : .woken l.id ∈ p.stop.2 :=
  List.mem_map_of_mem (List.mem_filter.mpr ⟨member, asleep⟩)

end

section

variable {p : Poller} {l k : PollLoop} {move : Move}

theorem Stirs.of_asleep (stirs : Stirs p l k move) (member : l ∈ p.loops) (asleep : l.stage = .sleeping) :
    .woken l.id ∈ (p.change move).2 ∨ move = .rouse l.id := by
  cases stirs with
  | wakes dormant waking called =>
      rcases called with rfl | rfl | roused
      · exact Or.inl (woken_stop member dormant)
      · exact Or.inl (List.mem_append_left _ (woken_stop member dormant))
      · exact Or.inr roused
  | begins ticks begun fetching => exact absurd asleep ticks.stage.1
  | ends found deciding decided => cases asleep.symm.trans deciding
  | lands fetching deciding => cases asleep.symm.trans fetching

theorem Stirs.of_resting (stirs : Stirs p l k move) (resting : l.stage = .sleeping ∨ l.stage = .waking) :
    (move = .stop ∨ move = .clear ∨ move = .rouse l.id) ∨ BeginsTick p l.id move := by
  cases stirs with
  | wakes dormant waking called => exact Or.inl called
  | begins ticks begun fetching =>
      rw [begun]
      exact Or.inr (.enter ticks)
  | ends found deciding decided => simp [deciding] at resting
  | lands fetching deciding => simp [fetching] at resting

theorem Stirs.of_ticking (stirs : Stirs p l k move) (ticking : l.stage = .fetching ∨ l.stage = .deciding) :
    k.stage = .deciding ∨ EndsTick p l.id move := by
  cases stirs with
  | wakes dormant waking called =>
      rcases ticking with fetching | deciding
      · simp [isAsleep, fetching] at dormant
      · simp [isAsleep, deciding] at dormant
  | begins ticks begun fetching =>
      rcases ticking with fetching | deciding
      · exact absurd fetching ticks.stage.2.1
      · exact absurd deciding ticks.stage.2.2
  | ends found deciding decided =>
      rw [decided]
      exact Or.inr (.settled found deciding)
  | lands fetching deciding => exact Or.inl deciding

theorem Stirs.ends_asleep (stirs : Stirs p l k move) (asleep : k.stage = .sleeping) : EndsTick p l.id move := by
  cases stirs with
  | wakes dormant waking called => cases asleep.symm.trans waking
  | begins ticks begun fetching => exact fetching.resolve_left fun fetches => by cases asleep.symm.trans fetches
  | ends found deciding decided =>
      rw [decided]
      exact .settled found deciding
  | lands fetching deciding => cases asleep.symm.trans deciding

end

section

variable {p : Poller} {loop : Nat}

structure InTick (loop : Nat) (p : Poller) : Prop where
  known : loop < p.nextLoop
  stages : ∀ l ∈ p.loops, l.id = loop → l.stage = .fetching ∨ l.stage = .deciding

theorem inTick_begin (one : OneLoop p) {move : Move} (begins : BeginsTick p loop move) (manned : Manned p)
    (free : p.isInFlight = false) : InTick loop (p.move move) := by
  refine ⟨?_, fun l inside own => Or.inl (begins.fetches free l inside own)⟩
  have next := (origins_move one manned move).next
  obtain ⟨found, _, _, _⟩ := begins
  exact (one.known _ (loop?_mem found).1).trans_le next

theorem InTick.move (within : InTick loop p) (one : OneLoop p) (manned : Manned p) (move : Move) :
    InTick loop (p.move move) ∨ EndsTick p loop move := by
  by_cases ends : EndsTick p loop move
  · exact Or.inr ends
  · left
    have origins := origins_move one manned move
    refine ⟨within.known.trans_le origins.next, ?_⟩
    intro k member own
    rcases origins.loops k member with before | ⟨new, _⟩ | ⟨l, inside, same, stirs⟩
    · exact within.stages k before own
    · have old := within.known
      omega
    · rcases stirs.of_ticking (within.stages l inside (same.trans own)) with decides | ended
      · exact Or.inr decides
      · rw [same, own] at ended
        exact absurd ended ends

theorem InTick.after (within : InTick loop p) (sound : Sound p) (ascending : Ascending p) (manned : Manned p)
    (log : List (Instant × Deed)) : InTick loop (p.after (Machine.moves log)) ∨
      ∃ early ended late, log = early ++ ended :: late ∧
        EndsTick (p.after (Machine.moves early)) loop ended.2.toMove := by
  induction log generalizing p with
  | nil => exact Or.inl within
  | cons entry log ih =>
      rcases within.move sound.loops manned entry.2.toMove with onward | ends
      · have next := ascending.traffic sound.flight (sound.traffic entry.2.toMove)
        rcases ih onward (sound.move _) next (manned.move sound ascending _) with still | ⟨early, ended, late, rfl, ends⟩
        · exact Or.inl still
        · exact Or.inr ⟨entry :: early, ended, late, rfl, ends⟩
      · exact Or.inr ⟨[], entry, log, rfl, ends⟩

theorem InTick.idle (within : InTick loop p) {move : Move} : ¬ BeginsTick p loop move := by
  intro begins
  cases begins with
  | enter ticks =>
      rcases within.stages _ (loop?_mem ticks.found).1 rfl with fetching | deciding
      · exact ticks.stage.2.1 fetching
      · exact ticks.stage.2.2 deciding

end

/-- Whether the event is set that loops wait for between ticks.  A stop sets it, and a loop that goes to sleep
clears it before it waits. -/
def isSet (p : Poller) (before : Bool) : Move → Bool
  | .stop => true
  | .clear => true
  | move => before && !(p.change move).2.any Signal.sleeps

def isSetAfter (p : Poller) (before : Bool) : List Move → Bool
  | [] => before
  | move :: rest => (p.move move).isSetAfter (p.isSet before move) rest

theorem stop_rouses (p : Poller) : ∀ k ∈ p.stop.1.loops, k.stage ≠ .sleeping := by
  intro k member
  obtain ⟨l, _, rfl⟩ := List.mem_map.mp member
  split
  next => simp
  next awake => simpa [isAsleep] using awake

theorem isSet_move {p : Poller} (one : OneLoop p) (manned : Manned p) {before : Bool}
    (awake : before = true → ∀ l ∈ p.loops, l.stage ≠ .sleeping) (move : Move) (set : p.isSet before move = true) :
    ∀ k ∈ (p.move move).loops, k.stage ≠ .sleeping := by
  have others : before = true → (p.change move).2.any Signal.sleeps = false →
      ∀ k ∈ (p.move move).loops, k.stage ≠ .sleeping := by
    intro earlier unasked k member asleep
    rcases (origins_move one manned move).loops k member with inside | ⟨_, created⟩ | ⟨l, inside, same, stirs⟩
    · exact awake earlier k inside asleep
    · cases asleep.symm.trans created
    · rw [← change_move] at member
      cases (stirs.ends_asleep asleep).lulls with
      | gone absent silent => exact absent k member same.symm
      | asleep delay onward interval stages signals => simp [signals, Signal.sleeps] at unasked
  cases move with
  | stop => exact stop_rouses p
  | clear => exact stop_rouses p
  | _ =>
      simp only [isSet, Bool.and_eq_true, Bool.not_eq_true'] at set
      exact others set.1 set.2

/-- A loop that sleeps waits for an event that is not set, whatever was called before it went to sleep, so that
the event itself need not be kept. -/
theorem asleep_unset (config : Config) (keepPolling : Bool) (moves : List Move) :
    ∀ l ∈ ((initial config keepPolling).after moves).loops, l.stage = .sleeping →
      (initial config keepPolling).isSetAfter false moves = false := by
  have kept : ∀ (p : Poller) (before : Bool), Sound p → Ascending p → Manned p →
      (before = true → ∀ l ∈ p.loops, l.stage ≠ .sleeping) → p.isSetAfter before moves = true →
        ∀ l ∈ (p.after moves).loops, l.stage ≠ .sleeping := by
    induction moves with
    | nil => exact fun p before sound ascending manned awake set => awake set
    | cons move rest ih =>
        intro p before sound ascending manned awake set
        have next := ascending.traffic sound.flight (sound.traffic move)
        exact ih _ _ (sound.move move) next (manned.move sound ascending move)
          (isSet_move sound.loops manned awake move) set
  intro l member asleep
  cases set : (initial config keepPolling).isSetAfter false moves with
  | false => rfl
  | true => exact absurd asleep (kept _ false (initial_sound config keepPolling) .nil nofun nofun set l member)

end Poller

end WorkflowRuns
