import WorkflowRuns.Proofs.Config.Backoff
import WorkflowRuns.Proofs.Polling.Flight
import WorkflowRuns.Proofs.Polling.Superseded

/-!
How polling ends.  Besides the reasons there ought to be, a loop gives up where it finds no delay to
wait: a terminal snapshot is kept from before a restart, or the power of the backoff overflows.
-/

namespace WorkflowRuns.Poller

/-- The reasons for which polling is to end. -/
inductive Documented (p : Poller) : Move → Prop
  | stop : Documented p .stop
  | clear : Documented p .clear
  | finished {id : Nat} {answer : Answer} {f : Fetch} {s : Snapshot}
      (found : p.fetch? id = some f) (current : f.generation = p.generation)
      (result : p.outcome f answer = .ok s) (terminal : s.isTerminal = true)
      (leaves : p.keepPolling = false) : Documented p (.settle id answer)
  | lost {id : Nat} {answer : Answer} {f : Fetch} {failure : Failure}
      (found : p.fetch? id = some f) (current : f.generation = p.generation)
      (result : p.outcome f answer = .error failure)
      (limit : p.session.consecutiveFailures + 1 = p.config.maxFailures) :
      Documented p (.settle id answer)

/-- Whoever asks for the next delay finds none. -/
inductive Stuck (p : Poller) : Prop
  | finished {s : Snapshot} (kept : p.session.snapshot = some s) (terminal : s.isTerminal = true)
      (leaves : p.keepPolling = false)
  | overflowing (failing : 0 < p.session.consecutiveFailures)
      (overflow : p.config.backoffPower? p.session.consecutiveFailures = none)

/-- The other ways in which polling ends: the loop is stuck after a fetch or after a tick that was
skipped, or its fetch is given up. -/
inductive Undocumented (p : Poller) : Move → Prop
  | decided {l : PollLoop} (found : p.loop? l.id = some l) (deciding : l.stage = .deciding)
      (current : l.generation = p.generation) (stuck : Stuck p) : Undocumented p (.decide l.id)
  | skipped {l : PollLoop} (ticks : Ticks p l) (flying : p.isInFlight = true) (stuck : Stuck p) :
      Undocumented p (.enter l.id)
  | cancelled {f : Fetch} {l : PollLoop} (found : p.fetch? f.id = some f) (member : l ∈ p.loops)
      (own : f.requester = .loop l.id) (current : l.generation = p.generation) :
      Undocumented p (.cancel f.id)

theorem halts_iff_stuck {p : Poller} (polling : p.session.isPolling = true)
    (positive : ∀ delay, p.config.retryDelay? p.session.consecutiveFailures = some delay →
      delay.le .zero = false) : p.halts = true ↔ Stuck p := by
  have overflows := Config.retryDelay_none_iff p.config p.session.consecutiveFailures
  rw [Int.toNat_natCast, Int.natCast_pos] at overflows
  have interval : p.nextInterval? = if p.session.snapshot.any p.endsOn then some .zero
      else p.config.retryDelay? p.session.consecutiveFailures := by
    simp [nextInterval?, polling]
  rw [halts, interval]
  constructor
  · intro halted
    split at halted
    next ends =>
      obtain ⟨s, kept, last⟩ := (Option.any_eq_true p.endsOn _).mp ends
      rw [endsOn, Bool.and_eq_true, Bool.not_eq_true'] at last
      exact .finished kept last.1 last.2
    next =>
      cases computed : p.config.retryDelay? p.session.consecutiveFailures with
      | none =>
          obtain ⟨failing, overflow⟩ := overflows.mp computed
          exact .overflowing failing overflow
      | some delay =>
          rw [computed, Option.all_some, positive delay computed] at halted
          cases halted
  · rintro (⟨kept, terminal, leaves⟩ | ⟨failing, overflow⟩)
    · rw [if_pos (by simp [kept, endsOn, terminal, leaves])]
      decide +kernel
    · split
      · decide +kernel
      · rw [overflows.mpr ⟨failing, overflow⟩]
        rfl

section

variable {p : Poller} (polling : p.session.isPolling = true)
include polling

theorem leave_ends_iff (l : PollLoop) :
    (p.leave l).1.session.isPolling = false ↔ l.generation = p.generation := by
  by_cases current : l.generation = p.generation
  · simp [leave_current current, current]
  · simp [leave_past current, current, polling]

theorem decide_ends_iff {id : Nat} {l : PollLoop} (found : p.loop? id = some l)
    (deciding : l.stage = .deciding) :
    (p.decide id).1.session.isPolling = false ↔ l.generation = p.generation ∧ p.halts = true := by
  rw [decide_spec found deciding]
  split
  next going => simp [setStage, polling, going.2]
  next stays =>
    rw [leave_ends_iff polling]
    constructor
    · intro current
      refine ⟨current, ?_⟩
      simpa [current] using stays
    · exact fun both => both.1

omit polling in
theorem halts_setStage (id : Nat) (stage : Stage) : (p.setStage id stage).halts = p.halts := rfl

theorem enter_ends_iff {id : Nat} {l : PollLoop} (found : p.loop? id = some l)
    (ready : l.stage = .created ∨ l.stage = .waking) :
    (p.enter id).1.session.isPolling = false ↔
      l.generation = p.generation ∧ p.isInFlight = true ∧ p.halts = true := by
  rw [enter_spec found ready, isInFlight_iff]
  split
  next going =>
    rw [going.1]
    split
    next flying =>
      have decided := decide_ends_iff (p := p.setStage id .deciding) polling
        (setStage_loop? found .deciding) rfl
      rw [decided, halts_setStage]
      constructor
      · exact fun both => ⟨rfl, flying, both.2⟩
      · exact fun all => ⟨going.1, all.2.2⟩
    next free => simp [beginFetch, setStage, polling, free]
  next stays =>
    rw [leave_ends_iff polling]
    have past : l.generation ≠ p.generation := by
      intro current
      exact stays ⟨current, polling⟩
    simp [past]

theorem settle_ends_iff (f : Fetch) (outcome : Except Failure Snapshot) :
    (p.settle f outcome).session.isPolling = false ↔ f.generation = p.generation ∧
      match outcome with
      | .ok s => p.endsOn s = true
      | .error _ => p.isLast = true := by
  have aside := aside_release p f
  rw [settle_spec]
  split
  next current =>
    rw [(aside.record outcome).1]
    cases outcome with
    | ok s => simp [record_ok, polling, current]
    | error failure => simp [record_error, polling, current]
  next past => simp [aside.session, polling, past]

omit polling in
theorem release_loop? (f : Fetch) (id : Nat) :
    (p.release f).loop? id = (p.loop? id).map (onward f) := by
  have same : ((fun l : PollLoop => Decidable.decide (l.id = id)) ∘ onward f) =
      fun l => Decidable.decide (l.id = id) := by
    funext l
    simp [onward_id]
  rw [release_spec]
  simp only [loop?, List.find?_map, same]

theorem cancel_ends_iff (one : OneLoop p) (f : Fetch) :
    (p.cancel f).1.session.isPolling = false ↔
      ∃ l ∈ p.loops, f.requester = .loop l.id ∧ l.generation = p.generation := by
  have aside := aside_release p f
  have generation : (p.release f).generation = p.generation := by rw [release_spec]
  cases requester : f.requester with
  | refresh ticket => simp [cancel, requester, aside.session, polling]
  | loop id =>
      have released := release_loop? (p := p) f id
      cases found : p.loop? id with
      | none =>
          have nowhere : ∀ l ∈ p.loops, id ≠ l.id := by
            intro l member same
            simpa [same] using List.find?_eq_none.mp found l member
          rw [found] at released
          simp only [cancel, requester, released, Option.map_none, aside.session, polling]
          constructor
          · intro impossible
            cases impossible
          · rintro ⟨l, member, own, _⟩
            exact absurd (Requester.loop.inj own) (nowhere l member)
      | some l =>
          obtain ⟨member, rfl⟩ := loop?_mem found
          rw [found] at released
          simp only [cancel, requester, released, Option.map_some]
          rw [leave_ends_iff (aside.session ▸ polling), onward_generation, generation]
          constructor
          · exact fun current => ⟨l, member, rfl, current⟩
          · rintro ⟨k, inside, own, current⟩
            rw [one.same_loop member inside (Requester.loop.inj own)]
            exact current

theorem start_keeps_polling (runId : String) :
    (p.move (.start runId)).session.isPolling = true := by
  by_cases named : runId = ""
  · rw [named, start_empty]
    exact polling
  · by_cases tracked : p.session.runId = some runId
    · rw [start_again tracked polling]
      exact polling
    · rw [start_other named tracked, resume_spec]
      split <;> rfl

theorem refresh_keeps_polling (ticket : Nat) :
    (p.move (.refresh ticket)).session.isPolling = true := by
  rw [refresh_spec]
  split <;> exact polling

theorem isLast_iff (accounted : p.session.Accounted p.config.maxFailures) :
    p.isLast = true ↔ p.session.consecutiveFailures + 1 = p.config.maxFailures := by
  have connected : p.session.connectionLost ≠ true := by
    intro lost
    rw [accounted.halted lost] at polling
    cases polling
  have below := mt accounted.lost.mpr connected
  simp only [isLast, decide_eq_true_eq]
  omega

theorem settle_documented_iff (accounted : p.session.Accounted p.config.maxFailures) (id : Nat)
    (answer : Answer) :
    (p.move (.settle id answer)).session.isPolling = false ↔ Documented p (.settle id answer) := by
  cases found : p.fetch? id with
  | none =>
      simp only [move, found, polling, Bool.true_eq_false, false_iff]
      rintro (_ | _ | ⟨outstanding, _⟩ | ⟨outstanding, _⟩)
      · rw [found] at outstanding
        cases outstanding
      · rw [found] at outstanding
        cases outstanding
  | some f =>
      simp only [move, found]
      rw [settle_ends_iff polling]
      constructor
      · rintro ⟨current, ends⟩
        cases result : p.outcome f answer with
        | ok s =>
            rw [result] at ends
            simp only [endsOn, Bool.and_eq_true, Bool.not_eq_true'] at ends
            exact .finished found current result ends.1 ends.2
        | error failure =>
            rw [result] at ends
            exact .lost found current result ((isLast_iff polling accounted).mp ends)
      · intro documented
        cases documented with
        | finished outstanding current result terminal leaves =>
            rw [found, Option.some.injEq] at outstanding
            subst outstanding
            rw [result]
            exact ⟨current, by simp [endsOn, terminal, leaves]⟩
        | lost outstanding current result limit =>
            rw [found, Option.some.injEq] at outstanding
            subst outstanding
            rw [result]
            exact ⟨current, (isLast_iff polling accounted).mpr limit⟩

theorem decide_undocumented_iff (stuck : p.halts = true ↔ Stuck p) (id : Nat) :
    (p.move (.decide id)).session.isPolling = false ↔ Undocumented p (.decide id) := by
  constructor
  · intro ended
    rcases decide_cases p id with quiet | ⟨l, found, deciding⟩
    · simp only [move, quiet, polling, Bool.true_eq_false] at ended
    · obtain ⟨current, halted⟩ := (decide_ends_iff polling found deciding).mp ended
      obtain ⟨_, rfl⟩ := loop?_mem found
      exact .decided found deciding current (stuck.mp halted)
  · intro undocumented
    cases undocumented with
    | decided found deciding current halted =>
        exact (decide_ends_iff polling found deciding).mpr ⟨current, stuck.mpr halted⟩

theorem enter_undocumented_iff (stuck : p.halts = true ↔ Stuck p) (id : Nat) :
    (p.move (.enter id)).session.isPolling = false ↔ Undocumented p (.enter id) := by
  constructor
  · intro ended
    rcases enter_cases p id with quiet | ⟨l, found, ready⟩
    · simp only [move, quiet, polling, Bool.true_eq_false] at ended
    · obtain ⟨current, flying, halted⟩ := (enter_ends_iff polling found ready).mp ended
      obtain ⟨_, rfl⟩ := loop?_mem found
      exact .skipped ⟨found, ready, current, polling⟩ flying (stuck.mp halted)
  · intro undocumented
    cases undocumented with
    | skipped ticks flying halted =>
        exact (enter_ends_iff polling ticks.found ticks.ready).mpr
          ⟨ticks.current, flying, stuck.mpr halted⟩

theorem cancel_undocumented_iff (one : OneLoop p) (id : Nat) :
    (p.move (.cancel id)).session.isPolling = false ↔ Undocumented p (.cancel id) := by
  constructor
  · intro ended
    cases found : p.fetch? id with
    | none => simp only [move, found, polling, Bool.true_eq_false] at ended
    | some f =>
        simp only [move, found] at ended
        obtain ⟨l, member, own, current⟩ := (cancel_ends_iff polling one f).mp ended
        obtain ⟨_, rfl⟩ := fetch?_mem found
        exact .cancelled found member own current
  · intro undocumented
    cases undocumented with
    | cancelled found member own current =>
        simp only [move, found]
        exact (cancel_ends_iff polling one _).mpr ⟨_, member, own, current⟩

end

/-- Polling ends for the documented reasons, and else only where the loop is stuck or its fetch is
given up. -/
theorem Sound.ends_iff {p : Poller} (sound : Sound p) (polling : p.session.isPolling = true)
    (accounted : p.session.Accounted p.config.maxFailures) (stuck : p.halts = true ↔ Stuck p)
    (move : Move) :
    (p.move move).session.isPolling = false ↔ Documented p move ∨ Undocumented p move := by
  -- What goes on polling has to be shown to be none of the listed ends.
  have never : ∀ {q : Poller}, q.session.isPolling = true → ¬ Documented p move →
      ¬ Undocumented p move →
      (q.session.isPolling = false ↔ Documented p move ∨ Undocumented p move) := by
    intro q going first second
    rw [going]
    exact iff_of_false (by simp) (not_or.mpr ⟨first, second⟩)
  cases move with
  | start runId =>
      apply never (start_keeps_polling polling runId)
      · rintro ⟨⟩
      · rintro ⟨⟩
  | stop => exact ⟨fun _ => Or.inl .stop, fun _ => rfl⟩
  | clear => exact ⟨fun _ => Or.inl .clear, fun _ => rfl⟩
  | refresh ticket =>
      apply never (refresh_keeps_polling polling ticket)
      · rintro ⟨⟩
      · rintro ⟨⟩
  | enter id =>
      have noCall : ¬ Documented p (.enter id) := by rintro ⟨⟩
      exact (enter_undocumented_iff polling stuck id).trans (or_iff_right noCall).symm
  | decide id =>
      have noCall : ¬ Documented p (.decide id) := by rintro ⟨⟩
      exact (decide_undocumented_iff polling stuck id).trans (or_iff_right noCall).symm
  | rouse id =>
      apply never (q := p.rouse id) polling
      · rintro ⟨⟩
      · rintro ⟨⟩
  | drop id =>
      have same := (untouched_drop sound.flight sound.owned id).session
      apply never
      · simp only [Poller.move, same, polling]
      · rintro ⟨⟩
      · rintro ⟨⟩
  | settle id answer =>
      have noStep : ¬ Undocumented p (.settle id answer) := by rintro ⟨⟩
      exact (settle_documented_iff polling accounted id answer).trans (or_iff_left noStep).symm
  | cancel id =>
      have noCall : ¬ Documented p (.cancel id) := by rintro ⟨⟩
      exact (cancel_undocumented_iff polling sound.loops id).trans (or_iff_right noCall).symm

def Leads (p q : Poller) : Prop := ∃ moves, q = p.after moves

theorem accounted_of_leads {fields : Fields} {config : Config}
    (accepted : Config.ofFields fields = .accepted config) {keepPolling : Bool} {p : Poller}
    (reached : (initial config keepPolling).Leads p) :
    p.session.Accounted p.config.maxFailures ∧ p.config = config := by
  obtain ⟨moves, rfl⟩ := reached
  have positive := (Config.valid_of_accepted accepted).maxFailures
  rw [config_after]
  exact ⟨accounted_after positive keepPolling moves, rfl⟩

/-- With settings that are accepted, polling of a run ends exactly for the documented reasons and
where the loop is stuck or its fetch is given up. -/
theorem polling_ends_iff {fields : Fields} {config : Config}
    (accepted : Config.ofFields fields = .accepted config)
    (doubles : ∀ key value, (key, value) ∈ fields → value.IsDouble) {keepPolling : Bool}
    {p : Poller} (reached : (initial config keepPolling).Leads p)
    (polling : p.session.isPolling = true) (move : Move) :
    (p.move move).session.isPolling = false ↔ Documented p move ∨ Undocumented p move := by
  obtain ⟨accounted, same⟩ := accounted_of_leads accepted reached
  obtain ⟨moves, rfl⟩ := reached
  have sound := (initial_sound config keepPolling).after moves
  apply sound.ends_iff polling accounted
  apply halts_iff_stuck polling
  intro delay computed
  rw [same] at computed
  exact Config.retryDelay_positive (Config.valid_of_accepted accepted)
    (Config.pollInterval_isDouble accepted doubles) computed

/-- A run that has finished is tracked again, and its first fetch fails. -/
def restart : List Move :=
  [.start "run-1", .enter 0,
    .settle 0 (.given (.ok (.value (.record [("status", .text "success"), ("nodes", .list [])])))),
    .decide 0, .start "run-1", .enter 1, .settle 1 (.given (.error (.failure (.transport "down" none))))]

theorem polling_ends_restarted :
    Config.ofFields [("poll_interval", .float Config.half)] = .accepted .standard ∧
      (Value.float Config.half).IsDouble ∧
      (initial .standard false).Leads ((initial .standard false).after restart) ∧
      ((initial .standard false).after restart).session.isPolling = true ∧
      ((((initial .standard false).after restart).move (.decide 1)).session.isPolling = false ↔
        Documented ((initial .standard false).after restart) (.decide 1) ∨
          Undocumented ((initial .standard false).after restart) (.decide 1)) := by
  have double : (Value.float Config.half).IsDouble := Config.half_isDouble
  have accepted : Config.ofFields [("poll_interval", .float Config.half)] = .accepted .standard := by
    decide +kernel
  have polling : ((initial .standard false).after restart).session.isPolling = true := by
    decide +kernel
  refine ⟨accepted, double, ⟨restart, rfl⟩, polling, ?_⟩
  refine polling_ends_iff accepted ?_ ⟨restart, rfl⟩ polling (.decide 1)
  intro key value member
  simp only [List.mem_singleton, Prod.mk.injEq] at member
  rw [member.2]
  exact double

/-- One failure of five ends polling. -/
theorem undocumented_restart : ¬ ∀ (p : Poller) (move : Move),
    (initial .standard false).Leads p → p.session.isPolling = true →
      (p.move move).session.isPolling = false → Documented p move := by
  intro documented
  have ended := documented ((initial .standard false).after restart) (.decide 1) ⟨restart, rfl⟩
    (by decide +kernel) (by decide +kernel)
  cases ended

end WorkflowRuns.Poller
