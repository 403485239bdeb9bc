import WorkflowRuns.Proofs.Polling.Recurrence
import WorkflowRuns.Proofs.Polling.Results

/-!
The state that is displayed, as a summary of what the fetches of the session came to.
-/

namespace WorkflowRuns

/-- What the fetches of a session came to, and of these the ones that settled since polling last began
or resumed. -/
structure History where
  outcomes : Outcomes
  recent : Outcomes

def History.blank : History := ⟨[], []⟩

namespace Poller

def noted (p : Poller) (h : History) : Move → History
  | .start runId =>
      if runId = "" ∨ p.session.runId = some runId ∧ p.session.isPolling = true then h
      else if p.session.runId = some runId then { h with recent := [] }
      else .blank
  | .clear => .blank
  | .settle id answer =>
      match p.settlement? (.settle id answer) with
      | some ⟨_, outcome, true⟩ => ⟨outcome :: h.outcomes, outcome :: h.recent⟩
      | _ => h
  | _ => h

def historyFrom (p : Poller) (h : History) : List Move → History
  | [] => h
  | first :: rest => (p.move first).historyFrom (p.noted h first) rest

def history (p : Poller) (moves : List Move) : History := p.historyFrom .blank moves

/-- The session goes on as it was, but polling may end. -/
structure Sustains (p q : Poller) : Prop where
  session : q.session = { p.session with isPolling := q.session.isPolling }
  generation : q.generation = p.generation

theorem Sustains.refl (p : Poller) : Sustains p p := ⟨rfl, rfl⟩

theorem Sustains.trans {p q r : Poller} (first : Sustains p q) (second : Sustains q r) : Sustains p r := by
  refine ⟨?_, second.generation.trans first.generation⟩
  rw [second.session, first.session]

theorem sustains_leave (p : Poller) (l : PollLoop) : Sustains p (p.leave l).1 := by
  by_cases current : l.generation = p.generation
  · rw [leave_current current]
    exact ⟨rfl, rfl⟩
  · rw [leave_past current]
    exact ⟨rfl, rfl⟩

theorem sustains_decide (p : Poller) (id : Nat) : Sustains p (p.decide id).1 := by
  rcases decide_cases p id with quiet | ⟨l, found, deciding⟩
  · rw [quiet]
    exact .refl p
  · rw [decide_spec found deciding]
    split
    · exact ⟨rfl, rfl⟩
    · exact sustains_leave p l

theorem sustains_enter (p : Poller) (id : Nat) : Sustains p (p.enter id).1 := by
  rcases enter_cases p id with quiet | ⟨l, found, ready⟩
  · rw [quiet]
    exact .refl p
  · rw [enter_spec found ready]
    split
    · split
      · exact Sustains.trans (q := p.setStage id .deciding) ⟨rfl, rfl⟩ (sustains_decide _ id)
      · exact ⟨rfl, rfl⟩
    · exact sustains_leave p l

theorem sustains_release (p : Poller) (f : Fetch) : Sustains p (p.release f) := by
  rw [release_spec]
  exact ⟨rfl, rfl⟩

theorem sustains_cancel (p : Poller) (f : Fetch) : Sustains p (p.cancel f).1 := by
  rcases cancel_spec p f with quiet | ⟨l, _, _, left⟩
  · rw [quiet]
    exact sustains_release p f
  · rw [left]
    exact (sustains_release p f).trans (sustains_leave _ l)

theorem sustains_drop (p : Poller) (id : Nat) : Sustains p (p.drop id).1 := by
  rcases drop_cases p id with quiet | ⟨l, _, _, left | ⟨f, _, _, cancelled⟩⟩
  · rw [quiet]
    exact .refl p
  · rw [left]
    exact sustains_leave p l
  · rw [cancelled]
    exact sustains_cancel p f

inductive Noting (p q : Poller) (h : History) : Option Settlement → History → Prop
  | kept (sustains : Sustains p q) : Noting p q h none h
  | resumed (tracked : p.session.runId ≠ none) (session : q.session = beginPolling p.session)
      (generation : q.generation = p.generation) : Noting p q h none { h with recent := [] }
  | begun (runId : String) (session : q.session = beginPolling (.tracking runId))
      (generation : q.generation = p.generation + 1) : Noting p q h none .blank
  | cleared (session : q.session = .empty) (generation : q.generation = p.generation + 1) :
      Noting p q h none .blank
  | discarded (f : Fetch) (outcome : Except Failure Snapshot) (past : f.generation ≠ p.generation)
      (sustains : Sustains p q) : Noting p q h (some ⟨f, outcome, false⟩) h
  | applied (f : Fetch) (outcome : Except Failure Snapshot) (current : f.generation = p.generation)
      (tracked : p.session.runId ≠ none) (session : q.session = (p.record outcome).session)
      (generation : q.generation = p.generation) :
      Noting p q h (some ⟨f, outcome, true⟩) ⟨outcome :: h.outcomes, outcome :: h.recent⟩

theorem noting_start (p : Poller) (h : History) (runId : String) :
    Noting p (p.move (.start runId)) h none (p.noted h (.start runId)) := by
  by_cases named : runId = ""
  · simpa [noted, named, start_empty] using Noting.kept (.refl p)
  · by_cases tracked : p.session.runId = some runId
    · cases polling : p.session.isPolling
      · have resumed : Noting p p.resume.1 h none { h with recent := [] } := by
          rw [resume_spec]
          split <;> exact .resumed (by rw [tracked]; simp) rfl rfl
        simpa [noted, named, tracked, polling, start_resumed named tracked polling] using resumed
      · simpa [noted, tracked, polling, start_again tracked polling] using Noting.kept (.refl p)
    · have begun : Noting p (p.move (.start runId)) h none .blank := by
        refine .begun runId ?_ (supersedes_start named tracked).generation
        rw [start_other named tracked, resume_spec]
        split <;> rfl
      simpa [noted, named, tracked] using begun

theorem noting_settle {p : Poller} (one : OneFlight p) (h : History) (id : Nat) (answer : Answer) :
    Noting p (p.move (.settle id answer)) h (p.settlement? (.settle id answer))
      (p.noted h (.settle id answer)) := by
  cases found : p.fetch? id with
  | none => simpa [Poller.move, settlement?, noted, found] using Noting.kept (.refl p)
  | some f =>
      have member := (fetch?_mem found).1
      have ends := ends_settle member (p.outcome f answer)
      by_cases current : f.generation = p.generation
      · have tracked : p.session.runId ≠ none := by
          rw [one.tracked f member current]
          simp
        have session : (p.settle f (p.outcome f answer)).session = (p.record (p.outcome f answer)).session := by
          rw [settle_spec, if_pos current]
          exact ((aside_release p f).record _).1
        have landed : p.isCurrent f.generation = true := (isCurrent_iff p _).mpr current
        simpa [Poller.move, settlement?, noted, found, landed] using
          Noting.applied (h := h) f (p.outcome f answer) current tracked session ends.generation
      · have sustains : Sustains p (p.settle f (p.outcome f answer)) := by
          rw [settle_spec, if_neg current]
          exact sustains_release p f
        have missed : p.isCurrent f.generation = false := by simpa [isCurrent] using current
        simpa [Poller.move, settlement?, noted, found, missed] using
          Noting.discarded (h := h) f (p.outcome f answer) current sustains

theorem Sound.noting {p : Poller} (sound : Sound p) (h : History) (move : Move) :
    Noting p (p.move move) h (p.settlement? move) (p.noted h move) := by
  cases move with
  | start runId => exact noting_start p h runId
  | stop => exact .kept ⟨rfl, rfl⟩
  | clear => exact .cleared rfl rfl
  | refresh ticket =>
      rw [refresh_spec]
      split
      · exact .kept (.refl p)
      · exact .kept ⟨rfl, rfl⟩
  | enter id => exact .kept (sustains_enter p id)
  | decide id => exact .kept (sustains_decide p id)
  | rouse id => exact .kept ⟨rfl, rfl⟩
  | drop id => exact .kept (sustains_drop p id)
  | settle id answer => exact noting_settle sound.flight h id answer
  | cancel id =>
      cases found : p.fetch? id with
      | none => simpa [Poller.move, settlement?, noted, found] using Noting.kept (.refl p)
      | some f => simpa [Poller.move, settlement?, noted, found] using Noting.kept (sustains_cancel p f)

def sessionOutcomes (p : Poller) (log : List Settlement) : List (Except Failure Snapshot) :=
  (log.filter (·.fetch.generation = p.generation)).map (·.outcome)

structure Told (p : Poller) (log : List Settlement) (h : History) : Prop where
  past : ∀ t ∈ log, t.fetch.generation ≤ p.generation
  outcomes : h.outcomes.reverse = p.sessionOutcomes log
  recent : h.recent <+: h.outcomes
  snapshot : p.session.snapshot = h.outcomes.findSome? Except.toOption
  failure : p.session.failure = h.outcomes.head?.bind Outcomes.failure?
  failures : p.session.consecutiveFailures = h.recent.streak
  untracked : p.session.runId = none → h = .blank

theorem initial_told (config : Config) (keepPolling : Bool) :
    Told (initial config keepPolling) [] .blank := by
  constructor <;> simp [initial, Session.empty, sessionOutcomes, History.blank, Outcomes.streak]

theorem Told.afresh {p q : Poller} {log : List Settlement} {h : History} (told : Told p log h)
    (generation : q.generation = p.generation + 1) (snapshot : q.session.snapshot = none)
    (failure : q.session.failure = none) (failures : q.session.consecutiveFailures = 0) : Told q log .blank := by
  have older : ∀ t ∈ log, t.fetch.generation < q.generation := by
    intro t member
    rw [generation]
    exact Nat.lt_succ_of_le (told.past t member)
  have none : q.sessionOutcomes log = [] := by
    rw [sessionOutcomes, List.map_eq_nil_iff, List.filter_eq_nil_iff]
    intro t member
    simpa using Nat.ne_of_lt (older t member)
  exact ⟨fun t member => Nat.le_of_lt (older t member), none.symm, List.nil_prefix, snapshot, failure, failures,
    fun _ => rfl⟩

theorem sessionOutcomes_concat {p q : Poller} (generation : q.generation = p.generation) (log : List Settlement)
    (t : Settlement) : q.sessionOutcomes (log ++ [t]) =
      p.sessionOutcomes log ++ if t.fetch.generation = p.generation then [t.outcome] else [] := by
  rw [sessionOutcomes, sessionOutcomes, List.filter_append, List.map_append, generation]
  by_cases current : t.fetch.generation = p.generation <;> simp [current]

theorem Told.sustains {p q : Poller} {log : List Settlement} {h : History} (told : Told p log h)
    (sustains : Sustains p q) : Told q log h := by
  obtain ⟨session, generation⟩ := sustains
  constructor
  · rw [generation]
    exact told.past
  · rw [sessionOutcomes, generation]
    exact told.outcomes
  · exact told.recent
  · rw [session]
    exact told.snapshot
  · rw [session]
    exact told.failure
  · rw [session]
    exact told.failures
  · rw [session]
    exact told.untracked

theorem Told.noting {p q : Poller} {log : List Settlement} {h later : History} {settled : Option Settlement}
    (told : Told p log h) (one : OneFlight p) (outstanding : ∀ t ∈ settled, t.fetch ∈ p.fetches)
    (noting : Noting p q h settled later) : Told q (log ++ settled.toList) later := by
  have past : q.generation = p.generation → ∀ t ∈ log ++ settled.toList, t.fetch.generation ≤ q.generation := by
    intro generation t member
    rw [generation]
    rcases List.mem_append.mp member with before | now
    · exact told.past t before
    · exact one.past _ (outstanding t (Option.mem_toList.mp now))
  cases noting with
  | kept sustains =>
      rw [Option.toList_none, List.append_nil]
      exact told.sustains sustains
  | resumed tracked session generation =>
      rw [Option.toList_none, List.append_nil]
      constructor
      · rw [generation]
        exact told.past
      · rw [sessionOutcomes, generation]
        exact told.outcomes
      · exact List.nil_prefix
      · rw [session]
        exact told.snapshot
      · rw [session]
        exact told.failure
      · rw [session]
        rfl
      · rw [session]
        exact fun idle => absurd idle tracked
  | begun runId session generation =>
      rw [Option.toList_none, List.append_nil]
      apply told.afresh generation <;> rw [session] <;> rfl
  | cleared session generation =>
      rw [Option.toList_none, List.append_nil]
      apply told.afresh generation <;> rw [session] <;> rfl
  | discarded f outcome other sustains =>
      have same := told.sustains sustains
      refine { same with past := past sustains.generation, outcomes := ?_ }
      rw [Option.toList_some, sessionOutcomes_concat sustains.generation, if_neg other, List.append_nil]
      exact told.outcomes
  | applied f outcome current tracked session generation =>
      constructor
      · exact past generation
      · rw [Option.toList_some, sessionOutcomes_concat generation, if_pos current, List.reverse_cons, told.outcomes]
      · exact (List.prefix_cons_inj outcome).mpr told.recent
      · rw [session]
        cases outcome with
        | ok s => rw [record_ok]; rfl
        | error failure =>
            rw [record_error, List.findSome?_cons]
            exact told.snapshot
      · rw [session]
        cases outcome with
        | ok s => rw [record_ok]; rfl
        | error failure => rw [record_error]; rfl
      · rw [session]
        cases outcome with
        | ok s => rw [record_ok]; rfl
        | error failure =>
            rw [record_error, Outcomes.streak_error]
            exact congrArg (· + 1) told.failures
      · rw [session, record_runId]
        exact fun idle => absurd idle tracked

theorem settlement?_outstanding {p : Poller} {move : Move} : ∀ t ∈ p.settlement? move, t.fetch ∈ p.fetches := by
  intro t settled
  cases move with
  | settle id answer =>
      obtain ⟨f, found, rfl⟩ := Option.map_eq_some_iff.mp settled
      exact (fetch?_mem found).1
  | _ => cases settled

theorem Sound.told_after {p : Poller} {log : List Settlement} {h : History} (sound : Sound p) (told : Told p log h)
    (moves : List Move) : Told (p.after moves) (log ++ p.settlements moves) (p.historyFrom h moves) := by
  induction moves generalizing p log h with
  | nil =>
      rw [settlements, List.append_nil]
      exact told
  | cons move rest ih =>
      have next := told.noting sound.flight settlement?_outstanding (sound.noting h move)
      have later := ih (sound.move move) next
      rw [List.append_assoc] at later
      exact later

def Succeeded (outcomes : Outcomes) : Prop := ∃ s, .ok s ∈ outcomes

/-- What each state of the display says of a run whose connection is not lost. -/
def Shows (polling : Bool) (outcomes : Outcomes) : DisplayState → Prop
  | .idle => False
  | .connectionLost => False
  | .waiting => ¬ Succeeded outcomes ∧ polling = true
  | .stale => Succeeded outcomes ∧ ∃ failure, outcomes.head? = some (.error failure)
  | .finished => (∃ s, outcomes.head? = some (.ok s) ∧ s.isTerminal = true) ∧ polling = false
  | .live => (∃ s, outcomes.head? = some (.ok s)) ∧ polling = true
  | .stopped => polling = false ∧
      (¬ Succeeded outcomes ∨ ∃ s, outcomes.head? = some (.ok s) ∧ s.isTerminal = false)

/-- The state that is displayed summarises the history of the session. -/
structure Faithful (p : Poller) (h : History) : Prop where
  idle : p.session.displayState = .idle ↔ p.session.runId = none
  lost : p.session.displayState = .connectionLost ↔ p.config.maxFailures ≤ h.recent.streak
  otherwise : p.session.runId ≠ none → h.recent.streak < p.config.maxFailures →
    ∀ state, p.session.displayState = state ↔ Shows p.session.isPolling h.outcomes state

theorem findSome?_none_iff {outcomes : Outcomes} :
    outcomes.findSome? Except.toOption = none ↔ ¬ Succeeded outcomes := by
  rw [List.findSome?_eq_none_iff, Succeeded, not_exists]
  constructor
  · intro failed s member
    cases failed _ member
  · intro failed outcome member
    cases outcome with
    | ok s => exact absurd member (failed s)
    | error failure => rfl

theorem succeeded_error {outcomes : Outcomes} {failure : Failure} :
    Succeeded (.error failure :: outcomes) ↔ Succeeded outcomes := by
  simp [Succeeded]

theorem shows_iff {s : Session} {outcomes : Outcomes} (tracked : s.runId ≠ none)
    (connected : s.connectionLost = false) (snapshot : s.snapshot = outcomes.findSome? Except.toOption)
    (failure : s.failure = outcomes.head?.bind Outcomes.failure?) (state : DisplayState) :
    s.displayState = state ↔ Shows s.isPolling outcomes state := by
  cases outcomes with
  | nil =>
      have unseen : s.snapshot = none := snapshot
      have none : ¬ Succeeded [] := by simp [Succeeded]
      cases polling : s.isPolling <;> cases state <;>
        simp [Session.displayState, Shows, tracked, connected, unseen, none, polling]
  | cons outcome before =>
      cases outcome with
      | ok latest =>
          have seen : s.snapshot = some latest := snapshot
          have fresh : s.failure = none := failure
          have some : Succeeded (.ok latest :: before) := ⟨latest, List.mem_cons_self⟩
          cases polling : s.isPolling <;> cases terminal : latest.isTerminal <;> cases state <;>
            simp [Session.displayState, Shows, tracked, connected, seen, fresh, some, polling, terminal]
      | error cause =>
          have failed : s.failure = some cause := failure
          have kept : s.snapshot = List.findSome? Except.toOption before := snapshot
          by_cases some : Succeeded before
          · obtain ⟨latest, found⟩ := Option.ne_none_iff_exists'.mp (mt findSome?_none_iff.mp (not_not.mpr some))
            rw [found] at kept
            cases state <;> simp [Session.displayState, Shows, succeeded_error, tracked, connected, kept, failed, some]
          · rw [findSome?_none_iff.mpr some] at kept
            cases polling : s.isPolling <;> cases state <;>
              simp [Session.displayState, Shows, succeeded_error, tracked, connected, kept, some, polling]

theorem Told.faithful {p : Poller} {log : List Settlement} {h : History} (told : Told p log h)
    (positive : 1 ≤ p.config.maxFailures) (accounted : p.session.Accounted p.config.maxFailures) :
    Faithful p h := by
  have lost : p.session.connectionLost = true ↔ p.config.maxFailures ≤ h.recent.streak := by
    rw [accounted.lost, told.failures]
  by_cases idle : p.session.runId = none
  · have nothing : ¬ p.config.maxFailures ≤ h.recent.streak := by
      rw [told.untracked idle]
      have none : History.blank.recent.streak = 0 := rfl
      omega
    have display : p.session.displayState = .idle := by simp [Session.displayState, idle]
    rw [← lost] at nothing
    constructor
    · simp [display, idle]
    · rw [display, ← lost]
      simp [nothing]
    · exact fun tracked => absurd idle tracked
  · constructor
    · have busy : p.session.displayState ≠ .idle := by
        unfold Session.displayState
        split_ifs <;> grind
      simp [busy, idle]
    · rw [← lost]
      cases connected : p.session.connectionLost with
      | true => simp [Session.displayState, idle, connected]
      | false =>
          have shown := shows_iff idle connected told.snapshot told.failure .connectionLost
          simp [shown, Shows]
    · intro _ connected state
      rw [← Int.not_le, ← lost, Bool.not_eq_true] at connected
      exact shows_iff idle connected told.snapshot told.failure state

/-- What is displayed is a summary of what the fetches of the session came to. -/
theorem display_faithful {fields : Fields} {config : Config} (accepted : Config.ofFields fields = .accepted config)
    (keepPolling : Bool) (moves : List Move) :
    ((initial config keepPolling).history moves).outcomes.reverse =
        ((initial config keepPolling).after moves).sessionOutcomes ((initial config keepPolling).settlements moves) ∧
      Faithful ((initial config keepPolling).after moves) ((initial config keepPolling).history moves) := by
  have told := (initial_sound config keepPolling).told_after (initial_told config keepPolling) moves
  have positive := (Config.valid_of_accepted accepted).maxFailures
  rw [List.nil_append] at told
  refine ⟨told.outcomes, told.faithful ?_ ?_⟩
  · rw [config_after]
    exact positive
  · rw [config_after]
    exact accounted_after positive keepPolling moves

theorem display_resumed :
    Config.ofFields [] = .accepted .standard ∧
      let moves : List Move := [.start "run-1", .enter 0, .settle 0 .timedOut, .stop, .start "run-1"]
      ((initial .standard false).history moves).outcomes.reverse =
          ((initial .standard false).after moves).sessionOutcomes ((initial .standard false).settlements moves) ∧
        Faithful ((initial .standard false).after moves) ((initial .standard false).history moves) :=
  ⟨rfl, display_faithful (show Config.ofFields [] = .accepted .standard from rfl) false _⟩

end Poller

end WorkflowRuns
