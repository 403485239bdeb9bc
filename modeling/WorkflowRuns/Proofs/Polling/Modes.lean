import WorkflowRuns.Proofs.Polling.Arrival

/-!
The two ways to follow a run, with frames and without.  Both come to an end if and only if the loop does,
and they end with the same poller, the same nodes and the same requests at the same times.  What the last
frame shows is what is known at the end.
-/

namespace WorkflowRuns

namespace Poller

variable {c : Config} {runId : String} {p : Poller}

theorem Follows.task (follows : Follows c runId p) : p.task = if p.isActive then some 0 else none := by
  cases follows with
  | retired next ended => rfl
  | _ =>
      rw [solo_isActive]
      rfl

end Poller

namespace Machine

open Poller (Paces)

variable {c : Config} {runId : String} {m n o : Machine Service}

namespace Alone

theorem onlookers (alone : Alone c runId m) : m.onlookers = ⟨[], [], [], ⟨false, false⟩⟩ := by
  have queue := List.filter_eq_self.mp (congrArg Machine.queue alone.deserted)
  have timers := List.filter_eq_self.mp (congrArg Machine.timers alone.deserted)
  have nothing : m.queue.filter (·.job.looksOn) = [] :=
    List.filter_eq_nil_iff.mpr fun queued member => by simpa using queue queued member
  have never : m.timers.filter (·.job.looksOn) = [] :=
    List.filter_eq_nil_iff.mpr fun timer member => by simpa using timers timer member
  rw [Machine.onlookers, nothing, never, ← alone.deserted]
  rfl

theorem follow? (alone : Alone c runId m) (paces : Paces c) {fuel : Nat} {live : Bool}
    (followed : m.follow? Source.service fuel live = some n) :
    n.poller.isActive = false ∧ ∃ after, Steps Source.service m after ∧ Crowded n after := by
  have rests : n.poller.isActive = false := by
    obtain ⟨next, s, rested, _⟩ := alone.toAttends.follow? paces followed
    rw [rested]
    rfl
  refine ⟨rests, ?_⟩
  unfold Machine.follow? at followed
  cases live with
  | true =>
      have crowded : Crowded m.stepFrames m := .of_deserted ((deserted_stepFrames m).trans alone.deserted)
      simp only [if_true, Option.ite_none_right_eq_some, Option.some.injEq] at followed
      rw [← followed.2]
      exact alone.stepFrames.crowded_run paces crowded _ fuel
  | false =>
      have crowded : Crowded (m.beginWait m.tickets) m :=
        .of_deserted ((deserted_beginWait m.tickets).trans alone.deserted)
      simp only [Bool.false_eq_true, if_false, Option.ite_none_right_eq_some, Option.some.injEq] at followed
      rw [← followed.2]
      exact (alone.beginWait m.tickets).crowded_run paces crowded _ fuel

theorem watchFrames (alone : Alone c runId m) (paces : Paces c) {after : Machine Service}
    (steps : Steps Source.service m after) (ended : after.poller.isActive = false) :
    Reaches Source.service (·.frames.finished) m.stepFrames := by
  cases active : m.poller.isActive with
  | false =>
      refine reaches_goal Source.service ?_
      rw [stepFrames_inactive alone.uncancelled active]
      rfl
  | true =>
      have drawn := onlookers_stepFrames alone.uncancelled active
      rw [alone.onlookers] at drawn
      have drawing : Drawing c runId m.stepFrames m :=
        ⟨alone.stepFrames, .of_deserted ((deserted_stepFrames m).trans alone.deserted),
          congrArg Onlookers.waiting drawn, drawn ▸ .timed ..⟩
      exact drawing.reaches paces steps ended

theorem await (alone : Alone c runId m) (paces : Paces c) {after : Machine Service}
    (steps : Steps Source.service m after) (ended : after.poller.isActive = false) :
    Reaches Source.service hasWaited (m.beginWait m.tickets) := by
  have task := alone.follows.task
  cases active : m.poller.isActive with
  | false =>
      rw [active] at task
      refine reaches_goal Source.service ?_
      simp only [Machine.beginWait, task, Bool.false_eq_true, if_false]
      rfl
  | true =>
      rw [active] at task
      have begun : m.beginWait m.tickets = { m with waiting := m.waiting ++ [(m.tickets, 0)] } := by
        simp only [Machine.beginWait, task, if_true]
      have awaiting : Awaiting c runId (m.beginWait m.tickets) m := by
        refine ⟨alone.beginWait m.tickets, .of_deserted ((deserted_beginWait m.tickets).trans alone.deserted), ?_,
          m.tickets, ?_⟩
        · rw [begun]
          exact active
        · have before := alone.onlookers
          simp only [Machine.onlookers, Onlookers.mk.injEq] at before
          obtain ⟨queue, timers, waiting, _⟩ := before
          rw [begun]
          simp only [Machine.onlookers, queue, timers, waiting, List.nil_append]
      exact awaiting.reaches paces steps ended

theorem follows_iff (alone : Alone c runId m) (paces : Paces c) (live : Bool) :
    (∃ fuel n, m.follow? Source.service fuel live = some n) ↔
      ∃ after, Steps Source.service m after ∧ after.poller.isActive = false := by
  constructor
  · rintro ⟨fuel, n, followed⟩
    obtain ⟨rests, after, steps, crowded⟩ := alone.follow? paces followed
    exact ⟨after, steps, crowded.poller ▸ rests⟩
  · rintro ⟨after, steps, ended⟩
    cases live with
    | true =>
        obtain ⟨fuel, finished⟩ := alone.watchFrames paces steps ended
        exact ⟨fuel, _, if_pos finished⟩
    | false =>
        obtain ⟨fuel, told⟩ := alone.await paces steps ended
        exact ⟨fuel, _, if_pos told⟩

theorem modes_agree (alone : Alone c runId m) (paces : Paces c) {first second : Nat} {live plain : Bool}
    (one : m.follow? Source.service first live = some n) (other : m.follow? Source.service second plain = some o) :
    Agree n o := by
  obtain ⟨ended, after, steps, crowded⟩ := alone.follow? paces one
  obtain ⟨rests, later, onward, around⟩ := alone.follow? paces other
  exact alone.agree paces steps onward crowded around ended rests

end Alone

theorem follow?_grows {few many : Nat} {live : Bool} (le : few ≤ many)
    (followed : m.follow? Source.service few live = some n) : m.follow? Source.service many live = some n := by
  unfold Machine.follow? at followed ⊢
  cases live with
  | true =>
      simp only [if_true, Option.ite_none_right_eq_some, Option.some.injEq] at followed ⊢
      obtain ⟨finished, rfl⟩ := followed
      have same : m.watchFrames Source.service many = m.watchFrames Source.service few := run_grows le finished
      rw [same]
      exact ⟨finished, rfl⟩
  | false =>
      simp only [Bool.false_eq_true, if_false, Option.ite_none_right_eq_some, Option.some.injEq] at followed ⊢
      obtain ⟨told, rfl⟩ := followed
      have same : m.await Source.service many = m.await Source.service few := run_grows le told
      rw [same]
      exact ⟨told, rfl⟩

/-- What is known was drawn just now. -/
def UpToDate (m : Machine Service) : Prop :=
  ∃ before, m.trace = (m.now, .frame m.poller.session m.nodes) :: before

theorem upToDate_stepFrames (uncancelled : m.frames.cancelled = false) (unfinished : m.frames.finished = false)
    (finished : m.stepFrames.frames.finished = true) : m.stepFrames.UpToDate := by
  cases active : m.poller.isActive with
  | true =>
      rw [stepFrames_active uncancelled active] at finished
      have same : m.frames.finished = true := finished
      rw [unfinished] at same
      cases same
  | false =>
      rw [stepFrames_inactive uncancelled active]
      exact ⟨_, rfl⟩

namespace Attends

theorem upToDate_step (attends : Attends c runId m) (paces : Paces c) (unfinished : m.frames.finished = false)
    (stepped : m.step? Source.service none = some n) (finished : n.frames.finished = true) : n.UpToDate := by
  have changed : n.frames ≠ m.frames := by
    intro same
    rw [same, unfinished] at finished
    cases finished
  rcases step?_cases stepped with ⟨passes, next, rest, queue, rfl⟩ | ⟨next, rest, queue, rfl⟩ |
    ⟨timer, queue, first, rfl⟩
  · exact absurd rfl changed
  · obtain ⟨suits, popped⟩ := attends.suits_queued queue
    cases looksOn : next.looksOn with
    | true =>
        cases next with
        | frame => exact upToDate_stepFrames (m := { m with queue := rest }) popped.uncancelled unfinished finished
        | waited ticket => exact absurd rfl changed
        | wait | cancelFrames => exact suits.elim
        | _ => cases looksOn
    | false =>
        refine absurd ?_ changed
        cases popped.notices paces suits looksOn with
        | nothing same => exact congrArg Onlookers.frames same
        | theEnd _ told => exact congrArg Onlookers.frames told
  · refine absurd ?_ changed
    rw [fire_spec]

theorem upToDate_run (attends : Attends c runId m) (paces : Paces c)
    (shown : m.frames.finished = true → m.UpToDate) (fuel : Nat)
    (finished : (m.run Source.service none (·.frames.finished) fuel).frames.finished = true) :
    (m.run Source.service none (·.frames.finished) fuel).UpToDate := by
  induction fuel generalizing m with
  | zero => exact shown finished
  | succ fuel ih =>
      unfold Machine.run at finished ⊢
      split at finished
      next done =>
        rw [if_pos done]
        exact shown done
      next undone =>
        rw [if_neg undone]
        split at finished
        next n stepped =>
          exact ih (attends.step paces stepped)
            (attends.upToDate_step paces (Bool.eq_false_iff.mpr undone) stepped) finished
        next => exact shown finished

end Attends

theorem Alone.upToDate (alone : Alone c runId m) (paces : Paces c) {fuel : Nat}
    (followed : m.follow? Source.service fuel true = some n) : n.UpToDate := by
  have unfinished : m.frames.finished = false := by rw [← alone.deserted]; rfl
  unfold Machine.follow? at followed
  simp only [if_true, Option.ite_none_right_eq_some, Option.some.injEq] at followed
  obtain ⟨finished, rfl⟩ := followed
  exact alone.stepFrames.upToDate_run paces (upToDate_stepFrames alone.uncancelled unfinished) fuel finished

end Machine

namespace Showing

/-- Where every frame can be drawn, the last one is the layout of the last one that was to be drawn. -/
theorem last_ofHistory (graph : Option Graph) (filter : String) (history : List (Instant × Event)) (time : Instant)
    (session : Session) (nodes : List Node)
    (whole : (ofHistory graph filter (history ++ [(time, .frame session nodes)])).broken = false) :
    ∃ layout, Display.layout graph (.build session nodes filter) = .ok layout ∧
      (ofHistory graph filter (history ++ [(time, .frame session nodes)])).frames.getLast? = some (time, layout) := by
  induction history with
  | nil =>
      simp only [List.nil_append, ofHistory] at whole ⊢
      split at whole
      next layout drawn => exact ⟨layout, drawn, by simp⟩
      next => cases whole
  | cons entry rest ih =>
      obtain ⟨moment, event⟩ := entry
      cases event with
      | frame other others =>
          simp only [List.cons_append, ofHistory] at whole ⊢
          split at whole
          next first drawn =>
            obtain ⟨layout, last, shown⟩ := ih whole
            exact ⟨layout, last, by simp [List.getLast?_cons, shown]⟩
          next => cases whole
      | _ => exact ih whole

end Showing

end WorkflowRuns
