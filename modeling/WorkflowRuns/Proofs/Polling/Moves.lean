import WorkflowRuns.Machine

/-!
Polling under every schedule.  A move is whatever can happen to a poller: a call, a step of a loop,
the end of a delay or the end of a fetch.  Moves come in any order, so that what holds after every
list of moves holds whichever way calls, loops and answers interleave.  What a watcher calls stands
between the end of a fetch and the decision of the loop that began it.
-/

namespace WorkflowRuns

inductive Answer
  | given (result : Except Raised Payload)
  | timedOut

/-- What a fetch came to, and whether its session was still current. -/
structure Settlement where
  fetch : Fetch
  outcome : Except Failure Snapshot
  landed : Bool

namespace Poller

def outcome (p : Poller) (f : Fetch) : Answer → Except Failure Snapshot
  | .given result => Machine.readOutcome p.config f result
  | .timedOut => .error (timeoutFailure p.config)

inductive Move
  | start (runId : String)
  | stop
  | clear
  | refresh (ticket : Nat)
  | enter (loop : Nat)
  | decide (loop : Nat)
  | rouse (loop : Nat)
  | drop (loop : Nat)
  | settle (fetch : Nat) (answer : Answer)
  | cancel (fetch : Nat)

def move (p : Poller) : Move → Poller
  | .start runId =>
      match p.start runId with
      | .ok change => change.1
      | .error _ => p
  | .stop => p.stop.1
  | .clear => p.clear.1
  | .refresh ticket =>
      match p.refresh ticket with
      | .begun begun _ => begun
      | _ => p
  | .enter loop => (p.enter loop).1
  | .decide loop => (p.decide loop).1
  | .rouse loop => p.rouse loop
  | .drop loop => (p.drop loop).1
  | .settle fetch answer =>
      match p.fetch? fetch with
      | some f => p.settle f (p.outcome f answer)
      | none => p
  | .cancel fetch =>
      match p.fetch? fetch with
      | some f => (p.cancel f).1
      | none => p

def after (p : Poller) (moves : List Move) : Poller := moves.foldl move p

def settlement? (p : Poller) : Move → Option Settlement
  | .settle fetch answer => (p.fetch? fetch).map fun f => ⟨f, p.outcome f answer, p.isCurrent f.generation⟩
  | _ => none

def settlements (p : Poller) : List Move → List Settlement
  | [] => []
  | first :: rest => (p.settlement? first).toList ++ (p.move first).settlements rest

theorem after_append (p : Poller) (first second : List Move) :
    p.after (first ++ second) = (p.after first).after second :=
  List.foldl_append

/-- What holds at first and is kept by every move holds after all moves. -/
theorem holds_after (holds : Poller → Prop) {p : Poller} (first : holds p)
    (kept : ∀ q move, holds q → holds (q.move move)) (moves : List Move) : holds (p.after moves) := by
  induction moves generalizing p with
  | nil => exact first
  | cons head tail ih => exact ih (kept p head first)

theorem loop?_mem {p : Poller} {id : Nat} {l : PollLoop} (found : p.loop? id = some l) :
    l ∈ p.loops ∧ l.id = id :=
  ⟨List.mem_of_find?_eq_some found, by simpa using List.find?_some found⟩

theorem fetch?_mem {p : Poller} {id : Nat} {f : Fetch} (found : p.fetch? id = some f) :
    f ∈ p.fetches ∧ f.id = id :=
  ⟨List.mem_of_find?_eq_some found, by simpa using List.find?_some found⟩

theorem isCurrent_iff (p : Poller) (generation : Nat) :
    p.isCurrent generation = true ↔ generation = p.generation := by
  simp [isCurrent]

theorem start_empty (p : Poller) : p.move (.start "") = p := by
  simp [move, start]

theorem start_again {p : Poller} {runId : String} (tracked : p.session.runId = some runId)
    (polling : p.session.isPolling = true) : p.move (.start runId) = p := by
  by_cases empty : runId = "" <;> simp [move, start, empty, tracked, polling]

theorem start_resumed {p : Poller} {runId : String} (named : runId ≠ "")
    (tracked : p.session.runId = some runId) (halted : p.session.isPolling = false) :
    p.move (.start runId) = p.resume.1 := by
  simp [move, start, named, tracked, halted]

theorem start_other {p : Poller} {runId : String} (named : runId ≠ "")
    (other : p.session.runId ≠ some runId) :
    p.move (.start runId) = ({ p.supersede.1 with session := .tracking runId } : Poller).resume.1 := by
  simp [move, start, named, other]

theorem resume_spec (p : Poller) :
    p.resume.1 =
      if p.isActive then { p with session := beginPolling p.session, phase := .polling }
      else ({ p with session := beginPolling p.session, phase := .polling } : Poller).spawn.1 := by
  unfold resume
  cases active : p.isActive <;> simp_all [isActive, loop?]

theorem leave_past {p : Poller} {l : PollLoop} (past : l.generation ≠ p.generation) :
    (p.leave l).1 = { p with loops := p.loops.filter (·.id ≠ l.id) } := by
  simp [leave, isCurrent, past]

theorem leave_current {p : Poller} {l : PollLoop} (current : l.generation = p.generation) :
    (p.leave l).1 = { p with
      loops := p.loops.filter (·.id ≠ l.id)
      task := none
      session := { p.session with isPolling := false }
      phase := if p.phase = .polling then .stopped else p.phase } := by
  simp [leave, isCurrent, current]

/-- No positive delay comes of the next interval, so that the loop that asks for it ends. -/
def halts (p : Poller) : Bool := p.nextInterval?.all (·.le .zero)

theorem decide_spec {p : Poller} {id : Nat} {l : PollLoop} (found : p.loop? id = some l)
    (deciding : l.stage = .deciding) :
    (p.decide id).1 =
      if l.generation = p.generation ∧ p.halts = false then p.setStage id .sleeping
      else (p.leave l).1 := by
  by_cases current : l.generation = p.generation
  · cases interval : p.nextInterval? with
    | none => simp [decide, found, deciding, isCurrent, current, interval, halts]
    | some delay =>
        cases short : delay.le .zero <;>
          simp [decide, found, deciding, isCurrent, current, interval, halts, short]
  · simp [decide, found, deciding, isCurrent, current]

theorem decide_cases (p : Poller) (id : Nat) :
    (p.decide id).1 = p ∨ ∃ l, p.loop? id = some l ∧ l.stage = .deciding := by
  cases found : p.loop? id with
  | none => left; simp [decide, found]
  | some l =>
      by_cases deciding : l.stage = .deciding
      · exact Or.inr ⟨l, rfl, deciding⟩
      · left; simp [decide, found, deciding]

theorem enter_spec {p : Poller} {id : Nat} {l : PollLoop} (found : p.loop? id = some l)
    (ready : l.stage = .created ∨ l.stage = .waking) :
    (p.enter id).1 =
      if l.generation = p.generation ∧ p.session.isPolling = true then
        if p.inFlight = some l.generation then ((p.setStage id .deciding).decide id).1
        else ((p.setStage id .fetching).beginFetch l.generation (.loop id)).1
      else (p.leave l).1 := by
  by_cases current : l.generation = p.generation
  · cases polling : p.session.isPolling
    · simp [enter, found, ready, isCurrent, current, polling]
    · by_cases flying : p.inFlight = some p.generation <;>
        simp [enter, found, ready, isCurrent, current, polling, flying]
  · simp [enter, found, ready, isCurrent, current]

theorem enter_cases (p : Poller) (id : Nat) :
    (p.enter id).1 = p ∨
      ∃ l, p.loop? id = some l ∧ (l.stage = .created ∨ l.stage = .waking) := by
  cases found : p.loop? id with
  | none => left; simp [enter, found]
  | some l =>
      by_cases ready : l.stage = .created ∨ l.stage = .waking
      · exact Or.inr ⟨l, rfl, ready⟩
      · left; simp [enter, found, ready]

theorem setStage_loop? {p : Poller} {id : Nat} {l : PollLoop} (found : p.loop? id = some l)
    (stage : Stage) : (p.setStage id stage).loop? id = some { l with stage } := by
  have same := (loop?_mem found).2
  unfold loop? at found ⊢
  simp only [setStage, List.find?_map]
  have agree : ((fun k : PollLoop => Decidable.decide (k.id = id)) ∘
      fun k => if k.id = id then { k with stage } else k) =
      fun k => Decidable.decide (k.id = id) := by
    funext k
    by_cases at_ : k.id = id <;> simp [at_]
  rw [agree, found]
  simp [same]

theorem refresh_spec (p : Poller) (ticket : Nat) :
    p.move (.refresh ticket) =
      if p.session.runId = none ∨ p.inFlight = some p.generation then p
      else (p.beginFetch p.generation (.refresh ticket)).1 := by
  by_cases idle : p.session.runId = none
  · simp [move, refresh, idle]
  · by_cases flying : p.inFlight = some p.generation <;> simp [move, refresh, idle, flying]

theorem record_ok (p : Poller) (s : Snapshot) :
    p.record (.ok s) = { p with
      session := { p.session with
        isPolling := p.session.isPolling && !p.endsOn s
        snapshot := some s, failure := none, consecutiveFailures := 0, connectionLost := false
        fetchCount := p.session.fetchCount + 1 }
      phase := if p.endsOn s && p.session.isPolling then .stopped else p.phase } := by
  cases ends : p.endsOn s <;> cases polling : p.session.isPolling <;>
    simp [record, recordSuccess, ends, polling]

def isLast (p : Poller) : Bool := p.config.maxFailures ≤ p.session.consecutiveFailures + 1

theorem record_error (p : Poller) (failure : Failure) :
    p.record (.error failure) = { p with
      session := { p.session with
        isPolling := p.session.isPolling && !p.isLast
        failure := some failure, consecutiveFailures := p.session.consecutiveFailures + 1
        connectionLost := p.session.connectionLost || p.isLast
        fetchCount := p.session.fetchCount + 1 }
      phase := if p.isLast then .stopped else p.phase } := by
  by_cases last : p.config.maxFailures ≤ p.session.consecutiveFailures + 1 <;>
    simp [record, recordFailure, isLast, last]

theorem record_frame (p : Poller) (outcome : Except Failure Snapshot) :
    p.record outcome =
      { p with session := (p.record outcome).session, phase := (p.record outcome).phase } := by
  cases outcome with
  | ok s => rw [record_ok]
  | error failure => rw [record_error]

def onward (f : Fetch) (l : PollLoop) : PollLoop :=
  if f.requester = .loop l.id then { l with stage := .deciding } else l

theorem onward_id (f : Fetch) (l : PollLoop) : (onward f l).id = l.id := by
  unfold onward
  split <;> rfl

theorem onward_generation (f : Fetch) (l : PollLoop) : (onward f l).generation = l.generation := by
  unfold onward
  split <;> rfl

theorem release_spec (p : Poller) (f : Fetch) :
    p.release f = { p with
      loops := p.loops.map (onward f)
      fetches := p.fetches.filter (·.id ≠ f.id)
      inFlight := if p.inFlight = some f.generation then none else p.inFlight } := by
  cases requester : f.requester with
  | loop id =>
      have same : onward f = fun l => if l.id = id then { l with stage := .deciding } else l := by
        funext l
        by_cases at_ : l.id = id
        · simp [onward, requester, at_]
        · simp [onward, requester, at_, Ne.symm at_]
      simp [release, requester, setStage, same]
  | refresh ticket =>
      have same : onward f = id := by
        funext l
        simp [onward, requester]
      simp [release, requester, same]

theorem settle_spec (p : Poller) (f : Fetch) (outcome : Except Failure Snapshot) :
    p.settle f outcome =
      if f.generation = p.generation then (p.release f).record outcome else p.release f := by
  have same : (p.release f).isCurrent f.generation = p.isCurrent f.generation := by
    simp [release_spec, isCurrent]
  simp [settle, same, isCurrent_iff]

theorem cancel_spec (p : Poller) (f : Fetch) :
    (p.cancel f).1 = p.release f ∨
      ∃ l ∈ (p.release f).loops, f.requester = .loop l.id ∧
        (p.cancel f).1 = ((p.release f).leave l).1 := by
  cases requester : f.requester with
  | refresh ticket => left; simp [cancel, requester]
  | loop id =>
      cases found : (p.release f).loop? id with
      | none => left; simp [cancel, requester, found]
      | some l =>
          obtain ⟨member, same⟩ := loop?_mem found
          right
          exact ⟨l, member, by rw [same], by simp [cancel, requester, found]⟩

theorem drop_cases (p : Poller) (id : Nat) :
    (p.drop id).1 = p ∨
      ∃ l, p.loop? id = some l ∧ l.generation ≠ p.generation ∧
        ((p.drop id).1 = (p.leave l).1 ∨
          ∃ f ∈ p.fetches, f.requester = .loop id ∧ (p.drop id).1 = (p.cancel f).1) := by
  cases found : p.loop? id with
  | none => left; simp [drop, found]
  | some l =>
      by_cases current : l.generation = p.generation
      · left; simp [drop, found, isCurrent, current]
      · refine Or.inr ⟨l, rfl, current, ?_⟩
        cases fetching : p.fetches.find? (·.requester = .loop id) with
        | none => left; simp [drop, found, isCurrent, current, fetching]
        | some f =>
            right
            refine ⟨f, List.mem_of_find?_eq_some fetching, ?_, ?_⟩
            · simpa using List.find?_some fetching
            · simp [drop, found, isCurrent, current, fetching]

end Poller

end WorkflowRuns
