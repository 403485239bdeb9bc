import WorkflowRuns.Proofs.Cli.Exit
import WorkflowRuns.Proofs.Polling.Modes

/-!
Monitoring a run from its beginning, live or plain.  Both ways make the same requests at the same times,
and lead to the same view and the same exit code.
-/

namespace WorkflowRuns

open Machine (Alone)

/-- What is monitored: a graph that is submitted, or a run that is watched. -/
inductive Target
  | submission (graph : Graph)
  | watching (runId : String)

namespace Target

def graph? : Target → Option Graph
  | .submission graph => some graph
  | .watching _ => none

def begin? (fuel : Nat) (m : Machine Service) : Target → Option (Machine Service)
  | .submission graph =>
      let m := m.submitGraph Source.service fuel graph
      match m.outcome? with
      | some (.ok _) => some m
      | _ => none
  | .watching runId => (m.perform (.start runId)).toOption

/-- A new session that monitors the target to its end. -/
def monitor? (c : Config) (service : Service) (fuel : Nat) (live : Bool) (target : Target) :
    Option (Machine Service) :=
  (target.begin? fuel (.initial c false [] service none)).bind (·.follow? Source.service fuel live)

variable {c : Config} {service : Service} {target : Target} {m n : Machine Service}

theorem begin?_alone {fuel : Nat} (begun : target.begin? fuel (.initial c false [] service none) = some m) :
    ∃ runId, Alone c runId m := by
  have idle := Machine.initial_idle c [] service
  cases target with
  | submission graph =>
      simp only [begin?] at begun
      split at begun
      next runId accepted =>
        obtain rfl := Option.some.inj begun
        refine ⟨runId, idle.submitGraph accepted, Machine.deserted_run Machine.service_unseen ?_ ?_ _ fuel⟩
        · exact (Machine.does_beginSubmission ..).watcher
        · exact Machine.deserted_beginSubmission (m := .initial c false [] service none) Machine.service_unseen _ graph
      next => cases begun
  | watching runId =>
      have watched : (Machine.initial c false [] service none).perform (.start runId) = .ok m :=
        Cli.ok_of_toOption begun
      refine ⟨runId, idle.watch watched, ?_⟩
      unfold Machine.perform at watched
      simp only at watched
      cases started : (Machine.initial c false [] service none).poller.start runId with
      | error failure =>
          rw [started] at watched
          cases watched
      | ok change =>
          rw [started] at watched
          cases watched
          exact Machine.deserted_follow _ change

theorem monitor?_spec {fuel : Nat} {live : Bool} (ended : target.monitor? c service fuel live = some n) :
    ∃ m, target.begin? fuel (.initial c false [] service none) = some m ∧
      m.follow? Source.service fuel live = some n :=
  Option.bind_eq_some_iff.mp ended

theorem begin?_grows {few many : Nat} (le : few ≤ many) {start : Machine Service}
    (begun : target.begin? few start = some m) : target.begin? many start = some m := by
  cases target with
  | submission graph =>
      simp only [begin?] at begun ⊢
      split at begun
      next runId accepted =>
        have decided : (start.submitGraph Source.service few graph).outcome?.isSome = true := by rw [accepted]; rfl
        have same : start.submitGraph Source.service many graph = start.submitGraph Source.service few graph :=
          Machine.run_grows le decided
        rw [same, accepted]
        exact begun
      next => cases begun
  | watching runId => exact begun

/-- Sessions that monitor the same target begin in the same way. -/
theorem begin?_unique {first second : Nat} {start : Machine Service} (one : target.begin? first start = some m)
    (other : target.begin? second start = some n) : m = n :=
  Option.some.inj ((begin?_grows (le_max_left first second) one).symm.trans
    (begin?_grows (le_max_right first second) other))

theorem monitor?_other (paces : Poller.Paces c) {fuel : Nat} {live : Bool}
    (ended : target.monitor? c service fuel live = some n) (other : Bool) :
    ∃ fuel n, target.monitor? c service fuel other = some n := by
  obtain ⟨m, begun, followed⟩ := monitor?_spec ended
  obtain ⟨runId, alone⟩ := begin?_alone begun
  have concludes := (alone.follows_iff paces live).mp ⟨fuel, n, followed⟩
  obtain ⟨enough, o, reached⟩ := (alone.follows_iff paces other).mpr concludes
  exact ⟨max fuel enough, o, Option.bind_eq_some_iff.mpr
    ⟨m, begin?_grows (le_max_left ..) begun, Machine.follow?_grows (le_max_right ..) reached⟩⟩

/-- However a run is monitored, live or plain, its monitoring ends if it ends in the other way.  Then the
same requests were made at the same times, the view is the same, and so is the exit code; polling is over,
and the last frame of the live display is the layout of that view, provided every frame can be drawn. -/
theorem monitors_agree {fields : Fields} {c : Config} (accepted : Config.ofFields fields = .accepted c)
    (doubles : ∀ key value, (key, value) ∈ fields → value.IsDouble) (service : Service) (target : Target)
    (filter : String) :
    ((∃ fuel live, target.monitor? c service fuel true = some live) ↔
      ∃ fuel plain, target.monitor? c service fuel false = some plain) ∧
    ∀ first second live plain, target.monitor? c service first true = some live →
      target.monitor? c service second false = some plain →
      live.requests = plain.requests ∧ live.view filter = plain.view filter ∧
        Cli.exitCode (live.view filter) = Cli.exitCode (plain.view filter) ∧
        (live.view filter).session.isPolling = false ∧
        ((Showing.ofHistory target.graph? filter live.history).broken = false →
          ∃ layout, Display.layout target.graph? (live.view filter) = .ok layout ∧
            (Showing.ofHistory target.graph? filter live.history).frames.getLast? = some (live.now, layout)) := by
  have double := Config.pollInterval_isDouble accepted doubles
  have paces : Poller.Paces c := fun _ _ computed =>
    Config.retryDelay_positive (Config.valid_of_accepted accepted) double computed
  refine ⟨⟨?_, ?_⟩, ?_⟩
  · rintro ⟨fuel, live, ended⟩
    exact monitor?_other paces ended false
  · rintro ⟨fuel, plain, ended⟩
    exact monitor?_other paces ended true
  · intro first second live plain one other
    obtain ⟨m, begun, watched⟩ := monitor?_spec one
    obtain ⟨again, started, awaited⟩ := monitor?_spec other
    obtain rfl := begin?_unique begun started
    obtain ⟨runId, alone⟩ := begin?_alone begun
    have agree := alone.modes_agree paces watched awaited
    have view : live.view filter = plain.view filter := by
      rw [Machine.view, Machine.view, agree.poller, agree.nodes]
    have rests : live.poller.session.isPolling = false := by
      obtain ⟨next, s, rested, _⟩ := alone.toAttends.follow? paces watched
      rw [rested]
      rfl
    refine ⟨agree.requests, view, congrArg Cli.exitCode view, rests, fun whole => ?_⟩
    obtain ⟨before, trace⟩ := alone.upToDate paces watched
    have history : live.history = before.reverse ++ [(live.now, .frame live.poller.session live.nodes)] := by
      rw [Machine.history, trace, List.reverse_cons]
    rw [history] at whole ⊢
    exact Showing.last_ofHistory target.graph? filter before.reverse live.now _ _ whole

theorem monitors_agree_steady : ∃ service live plain layout,
    Cli.steady.recording.service .standard = .ok service ∧
    (watching "run-1").monitor? .standard service 100 true = some live ∧
    (watching "run-1").monitor? .standard service 100 false = some plain ∧
    live.requests = plain.requests ∧ live.view "all" = plain.view "all" ∧
    Cli.exitCode (live.view "all") = Cli.exitCode (plain.view "all") ∧
    (live.view "all").session.isPolling = false ∧ Display.layout none (live.view "all") = .ok layout ∧
    (Showing.ofHistory none "all" live.history).frames.getLast? = some (live.now, layout) := by
  have ends : (Cli.steady.recording.service .standard).toOption.any (fun service =>
      ((watching "run-1").monitor? .standard service 100 true).any
          (fun live => !(Showing.ofHistory none "all" live.history).broken) &&
        ((watching "run-1").monitor? .standard service 100 false).isSome) = true := by
    decide +kernel
  obtain ⟨service, served, ends⟩ := (Option.any_eq_true _ _).mp ends
  obtain ⟨watched, awaited⟩ := Bool.and_eq_true_iff.mp ends
  obtain ⟨live, one, shown⟩ := (Option.any_eq_true _ _).mp watched
  obtain ⟨plain, other⟩ := Option.isSome_iff_exists.mp awaited
  have accepted : Config.ofFields [] = .accepted .standard := rfl
  have agree := (monitors_agree accepted nofun service (watching "run-1") "all").2
  obtain ⟨requests, view, code, rests, last⟩ := agree 100 100 live plain one other
  have whole : (Showing.ofHistory none "all" live.history).broken = false := by simpa using shown
  obtain ⟨layout, drawn, frame⟩ := last whole
  have known := Cli.ok_of_toOption served
  exact ⟨service, live, plain, layout, known, one, other, requests, view, code, rests, drawn, frame⟩

end Target

end WorkflowRuns
