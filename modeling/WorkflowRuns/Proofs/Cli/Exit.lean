import WorkflowRuns.Cli.Program
import WorkflowRuns.Proofs.Config.Loading
import WorkflowRuns.Proofs.Polling.Submitting

/-!
What the exit code of a command that monitors a run says about the run.
-/

namespace WorkflowRuns

namespace Session

def hasSucceeded (s : Session) : Bool := s.status = some .success || s.status = some .skipped

theorem displayState_connectionLost (s : Session) :
    s.displayState = .connectionLost ↔ s.runId ≠ none ∧ s.connectionLost = true := by
  by_cases untracked : s.runId = none
  · simp [displayState, untracked]
  · cases lost : s.connectionLost with
    | true => simp [displayState, untracked, lost]
    | false =>
        simp only [displayState, untracked, lost, if_false, Bool.false_eq_true, and_false, iff_false]
        cases s.snapshot with
        | none => simp only; split <;> nofun
        | some snapshot => simp only; split_ifs <;> nofun

theorem isFailed_terminal {s : Session} {snapshot : Snapshot} (seen : s.snapshot = some snapshot)
    (terminal : snapshot.isTerminal = true) : s.isFailed = !s.hasSucceeded := by
  unfold isFailed hasSucceeded status
  rw [seen]
  cases reported : snapshot.status with
  | running =>
      rw [Snapshot.isTerminal, reported] at terminal
      cases terminal
  | _ => simp [reported]

theorem isFailed_unsettled {s : Session} (unsettled : Poller.Unsettled s) :
    s.isFailed = false ∧ s.hasSucceeded = false := by
  unfold isFailed hasSucceeded status
  cases seen : s.snapshot with
  | none => exact ⟨rfl, rfl⟩
  | some snapshot =>
      have running := unsettled snapshot seen
      cases reported : snapshot.status with
      | running => simp [reported]
      | _ =>
          rw [Snapshot.isTerminal, reported] at running
          cases running

end Session

namespace Cli

open Display

/-- Where things stand when the monitoring of a run has ended. -/
structure Monitored where
  graph : Option Graph
  following : Following
  machine : Machine Service

/-- The end of the monitoring: a submission was accepted or a run is watched, and it was followed to the
end of its polling. -/
def monitored? (s : Surroundings) : Invocation → Option Monitored
  | .run path following => do
      let graph ← (s.graph path).toOption
      let config ← s.config.toOption
      let first ← (start s config).toOption
      let m := first.submitGraph Source.service s.fuel graph
      match m.outcome? with
      | some (.ok _) => (m.follow? Source.service s.fuel following.live).map (⟨some graph, following, ·⟩)
      | _ => none
  | .watch runId following => do
      let config ← s.config.toOption
      let first ← (start s config).toOption
      let m ← (first.perform (.start runId)).toOption
      (m.follow? Source.service s.fuel following.live).map (⟨none, following, ·⟩)
  | _ => none

namespace Monitored

def session (e : Monitored) : Session := e.machine.poller.session

/-- Every frame and every part of the summary can be drawn. -/
def isShown (e : Monitored) : Bool :=
  let view := e.machine.view e.following.filter
  !(Showing.ofHistory e.graph e.following.filter e.machine.history).broken
    && (statusPanel view none :: summaryTable e.graph view).all Machine.isOk

/-- The run was left unsettled, since no delay could be computed. -/
def isAbandoned (e : Monitored) : Bool :=
  e.session.snapshot.all (!·.isTerminal)
    && (e.machine.poller.config.retryDelay? e.session.consecutiveFailures).isNone

end Monitored

theorem code_ofParts (code : Nat) (parts : List (Except Overflow Renderable)) :
    (Report.ofParts code parts).ending.code = if parts.all Machine.isOk then code else 1 := by
  induction parts with
  | nil => rfl
  | cons part rest ih =>
      cases part with
      | ok item =>
          rw [Report.ofParts, List.all_cons]
          exact ih
      | error overflow => rfl

theorem code_followRun {s : Surroundings} {graph : Option Graph} {following : Following} {m n : Machine Service}
    (followed : m.follow? Source.service s.fuel following.live = some n) :
    (followRun s graph following m).ending.code =
      if (⟨graph, following, n⟩ : Monitored).isShown then exitCode (n.view following.filter) else 1 := by
  unfold followRun
  rw [followed]
  simp only [Report.after, Monitored.isShown, Bool.and_eq_true, Bool.not_eq_true']
  cases broken : (Showing.ofHistory graph following.filter n.history).broken with
  | true => rfl
  | false =>
      simp only [Bool.false_eq_true, if_false, true_and]
      exact code_ofParts _ _

theorem ok_of_toOption {ε α : Type} {made : Except ε α} {a : α} (given : made.toOption = some a) :
    made = .ok a := by
  cases made with
  | error e => cases given
  | ok b =>
      cases given
      rfl

theorem start_idle {s : Surroundings} {c : Config} {m : Machine Service} (started : start s c = .ok m) :
    Machine.Idle c m := by
  unfold start at started
  cases served : s.service c with
  | error complaint =>
      rw [served] at started
      cases started
  | ok service =>
      rw [served] at started
      cases started
      exact Machine.initial_idle c [] service

/-- A monitored run was followed from its beginning. -/
theorem monitored_follow {s : Surroundings} {invocation : Invocation} {e : Monitored}
    (ended : monitored? s invocation = some e) :
    ∃ (c : Config) (runId : String) (m : Machine Service), s.config = .ok c ∧ Machine.Attends c runId m ∧
      m.follow? Source.service s.fuel e.following.live = some e.machine ∧
      (perform s invocation).ending = (followRun s e.graph e.following m).ending := by
  cases invocation with
  | run path following =>
      simp only [monitored?, Option.bind_eq_bind, Option.bind_eq_some_iff] at ended
      obtain ⟨graph, read, config, loaded, first, started, ended⟩ := ended
      have began := ok_of_toOption started
      split at ended
      next runId accepted =>
        obtain ⟨n, followed, rfl⟩ := Option.map_eq_some_iff.mp ended
        refine ⟨config, runId, _, ok_of_toOption loaded, (start_idle began).submitGraph accepted, followed, ?_⟩
        simp only [perform, run, reporting, ok_of_toOption read, ok_of_toOption loaded, began, accepted]
        rfl
      next => cases ended
  | watch runId following =>
      simp only [monitored?, Option.bind_eq_bind, Option.bind_eq_some_iff, Option.map_eq_some_iff] at ended
      obtain ⟨config, loaded, first, started, m, watched, n, followed, rfl⟩ := ended
      have began := ok_of_toOption started
      have tracked := ok_of_toOption watched
      refine ⟨config, runId, m, ok_of_toOption loaded, (start_idle began).watch tracked, followed, ?_⟩
      simp only [perform, watch, reporting, ok_of_toOption loaded, began, tracked, Except.mapError]
  | _ => cases ended

theorem paces_of_config {s : Surroundings} {c : Config} (loaded : s.config = .ok c) : Poller.Paces c := by
  intro failures delay computed
  cases read : Config.load s.location (s.fileText? Surroundings.configPath) s.environment with
  | error fault =>
      rw [Surroundings.config, read] at loaded
      cases loaded
  | ok other =>
      rw [Surroundings.config, read] at loaded
      cases loaded
      exact Config.retryDelay_loaded read computed

theorem exitCode_tracked {v : View} (tracked : v.session.runId ≠ none) :
    exitCode v = if v.session.isFailed || v.session.connectionLost then 1 else 0 := by
  have lost : (v.displayState = .connectionLost) ↔ v.session.connectionLost = true := by
    rw [View.displayState, Session.displayState_connectionLost]
    exact and_iff_right tracked
  simp only [exitCode, lost, Bool.decide_eq_true]

/-- A run that ended either failed or came to a good end, unless it was lost or left unsettled. -/
theorem exitCode_of_ended {c : Config} {runId : String} {next : Nat} {s : Session}
    (ended : Poller.Ended c runId s) {e : Monitored} (stands : e.machine.poller = .retired c next s) :
    exitCode (e.machine.view e.following.filter) =
      if !e.session.connectionLost && (e.session.hasSucceeded || e.isAbandoned) then 0 else 1 := by
  have known : e.session = { s with isPolling := false } := by
    rw [Monitored.session, stands]
    rfl
  have settings : e.machine.poller.config = c := by rw [stands]; rfl
  have tracked : (e.machine.view e.following.filter).session.runId ≠ none := by
    show e.session.runId ≠ none
    rw [known]
    exact fun untracked => Option.some_ne_none runId (ended.tracked.symm.trans untracked)
  rw [exitCode_tracked tracked]
  show (if e.session.isFailed || e.session.connectionLost then 1 else 0) = _
  rw [Monitored.isAbandoned, settings, known]
  cases ended.concluded with
  | @finished snapshot seen terminal connected =>
      have failed := Session.isFailed_terminal (s := { s with isPolling := false }) seen terminal
      rw [failed]
      cases Session.hasSucceeded { s with isPolling := false } <;> simp [connected, seen, terminal]
  | lost unsettled lost => simp [lost]
  | stuck unsettled connected overflow =>
      obtain ⟨unfailed, unsucceeded⟩ := Session.isFailed_unsettled (s := { s with isPolling := false }) unsettled
      rw [unfailed, unsucceeded]
      cases seen : s.snapshot with
      | none => simp [connected, overflow]
      | some snapshot => simp [connected, overflow, unsettled snapshot seen]

/-- A command that monitors a run exits with zero if all can be drawn, the connection was not lost, and the
run either came to a good end or was left unsettled because a delay could not be computed; in any other
case it exits with one. -/
theorem exit_of_monitored {s : Surroundings} {invocation : Invocation} {e : Monitored}
    (ended : monitored? s invocation = some e) :
    (perform s invocation).ending.code =
      if e.isShown && !e.session.connectionLost && (e.session.hasSucceeded || e.isAbandoned) then 0 else 1 := by
  obtain ⟨c, runId, m, loaded, attends, followed, same⟩ := monitored_follow ended
  obtain ⟨next, known, stands, reason⟩ := attends.follow? (paces_of_config loaded) followed
  rw [same, code_followRun followed, exitCode_of_ended reason stands]
  cases e.isShown <;> rfl

def statusReply (status : String) : Reply Response :=
  ⟨some 0, .answered 200 (Recording.bytesOf (Json.write (Recording.wrapped
    (.record [("status", .text status), ("nodes", .list [])]))))⟩

def steady : Surroundings where
  location := "/project"
  directory := Directory.ofFiles []
  environment := []
  recording := ⟨[], [statusReply "running", statusReply "success"]⟩
  fuel := 100

theorem exit_steady : ∃ e, monitored? steady (.watch "run-1" ⟨true, "all"⟩) = some e ∧
    e.session.hasSucceeded = true ∧
    (perform steady (.watch "run-1" ⟨true, "all"⟩)).ending.code =
      if e.isShown && !e.session.connectionLost && (e.session.hasSucceeded || e.isAbandoned) then 0 else 1 := by
  have ends : (monitored? steady (.watch "run-1" ⟨true, "all"⟩)).any (·.session.hasSucceeded) = true := by
    decide +kernel
  obtain ⟨e, ended, succeeded⟩ := (Option.any_eq_true _ _).mp ends
  exact ⟨e, ended, succeeded, exit_of_monitored ended⟩

/-- Settings whose backoff overflows on the second failure, and a service that knows of no run. -/
def steep : Surroundings where
  location := "/project"
  directory := Directory.ofFiles [(".flowmon/config.yaml", "client:\n  backoff_multiplier: 1.0e+200\n")]
  environment := []
  recording := ⟨[], []⟩
  fuel := 100

/-- Polling is given up after two failures of five, nothing is known of the run, and the command exits with
zero. -/
theorem exit_unsettled : ¬ ∀ (s : Surroundings) (invocation : Invocation) (e : Monitored),
    monitored? s invocation = some e →
      ((perform s invocation).ending.code = 0 ↔ e.session.hasSucceeded = true ∧ e.session.connectionLost = false) := by
  intro claimed
  have ends : (monitored? steep (.watch "run-1" ⟨false, "all"⟩)).any (!·.session.hasSucceeded) = true := by
    decide +kernel
  obtain ⟨e, ended, unsettled⟩ := (Option.any_eq_true _ _).mp ends
  have zero : (perform steep (.watch "run-1" ⟨false, "all"⟩)).ending.code = 0 := by decide +kernel
  have succeeded := ((claimed steep _ e ended).mp zero).1
  rw [succeeded] at unsettled
  cases unsettled

end Cli

end WorkflowRuns
