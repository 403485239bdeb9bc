import WorkflowRuns.Following
import WorkflowRuns.Proofs.Overlay
import WorkflowRuns.Proofs.Polling.Execution
import WorkflowRuns.Script

/-!
Which nodes a view shows for which run.  Nodes come with an accepted graph and stay until the next one
is accepted, whereas the tracked run also changes with every run that is watched.
-/

namespace WorkflowRuns

namespace Poller

def tracks (before : Option String) : Move → Option String
  | .start runId => if runId = "" then before else some runId
  | .clear => none
  | _ => before

theorem move_tracks (p : Poller) (move : Move) : (p.move move).session.runId = tracks p.session.runId move := by
  cases move with
  | start runId =>
      by_cases named : runId = ""
      · simp [named, start_empty, tracks]
      · by_cases tracked : p.session.runId = some runId
        · cases polling : p.session.isPolling
          · rw [start_resumed named tracked polling, (quiet_resume p).runId]
            simp [tracks, named, tracked]
          · rw [start_again tracked polling]
            simp [tracks, named, tracked]
        · rw [start_other named tracked, (quiet_resume _).runId]
          simp [tracks, named, Session.tracking]
  | stop => rfl
  | clear => rfl
  | refresh ticket =>
      rw [refresh_spec]
      split <;> rfl
  | enter id =>
      rcases enter_cases p id with quiet | ⟨l, found, ready⟩
      · exact congrArg (·.session.runId) quiet
      · simp only [Poller.move, enter_spec found ready]
        split
        · split
          · exact (quiet_decide _ id).runId
          · rfl
        · exact (quiet_leave p l).runId
  | decide id => exact (quiet_decide p id).runId
  | rouse id => rfl
  | drop id =>
      rcases drop_cases p id with quiet | ⟨l, _, _, left | ⟨f, outstanding, _, cancelled⟩⟩
      · exact congrArg (·.session.runId) quiet
      · exact (congrArg (·.session.runId) left).trans (quiet_leave p l).runId
      · exact (congrArg (·.session.runId) cancelled).trans (ends_cancel outstanding).runId
  | settle id answer =>
      cases found : p.fetch? id with
      | none => simp [Poller.move, found, tracks]
      | some f =>
          simp only [Poller.move, found]
          exact (ends_settle (fetch?_mem found).1 _).runId
  | cancel id =>
      cases found : p.fetch? id with
      | none => simp [Poller.move, found, tracks]
      | some f =>
          simp only [Poller.move, found]
          exact (ends_cancel (fetch?_mem found).1).runId

theorem after_tracks (p : Poller) (moves : List Move) :
    (p.after moves).session.runId = moves.foldl tracks p.session.runId := by
  induction moves generalizing p with
  | nil => rfl
  | cons head tail ih =>
      have rest := ih (p.move head)
      rw [move_tracks] at rest
      exact rest

end Poller

namespace Deed

def isAccept : Deed → Bool
  | .accept _ _ => true
  | .move _ => false

def accepts (graph : Graph) (runId : String) : Deed → Bool
  | .accept other id => other = graph && id = runId
  | .move _ => false

theorem eq_of_accepts {graph : Graph} {runId : String} {deed : Deed} (same : deed.accepts graph runId = true) :
    deed = .accept graph runId := by
  cases deed with
  | move move => cases same
  | accept other id =>
      obtain ⟨rfl, rfl⟩ : other = graph ∧ id = runId := by simpa [accepts] using same
      rfl

/-- The nodes of the graph that was accepted last. -/
def latestNodes (before : List Node) : List Deed → List Node
  | [] => before
  | .accept graph _ :: rest => latestNodes graph.nodes rest
  | .move _ :: rest => latestNodes before rest

theorem latestNodes_append (before : List Node) (first second : List Deed) :
    latestNodes before (first ++ second) = latestNodes (latestNodes before first) second := by
  induction first generalizing before with
  | nil => rfl
  | cons head tail ih => cases head <;> exact ih _

theorem latestNodes_none (before : List Node) {deeds : List Deed} (none : ∀ deed ∈ deeds, deed.isAccept = false) :
    latestNodes before deeds = before := by
  induction deeds with
  | nil => rfl
  | cons head tail ih =>
      cases head with
      | accept graph runId => cases none _ List.mem_cons_self
      | move move => exact ih fun deed member => none deed (List.mem_cons_of_mem _ member)

theorem latestNodes_cleared (before : List Node) (deeds : List Deed) (s : Option Snapshot) :
    overlayAll (latestNodes (overlayAll before none) deeds) s = overlayAll (latestNodes before deeds) s := by
  induction deeds with
  | nil => exact overlayAll_overlayAll before none s
  | cons head tail ih =>
      cases head with
      | accept graph runId => rfl
      | move move => exact ih

theorem overlay_latestNodes (deeds : List Deed) (before : List Node) (s : Option Snapshot) :
    overlayAll (deeds.foldl Deed.nodes before) s = overlayAll (latestNodes before deeds) s := by
  induction deeds generalizing before with
  | nil => rfl
  | cons head tail ih =>
      rw [List.foldl_cons, ih]
      cases head with
      | accept graph runId => rfl
      | move move =>
          cases move with
          | clear => exact latestNodes_cleared before tail s
          | _ => rfl

end Deed

theorem Poller.tracks_cases (moves : List Poller.Move) (before : Option String) :
    moves.foldl tracks before = before ∨ moves.foldl tracks before = none ∨
      ∃ runId, .start runId ∈ moves ∧ moves.foldl tracks before = some runId := by
  induction moves generalizing before with
  | nil => exact Or.inl rfl
  | cons head tail ih =>
      rw [List.foldl_cons]
      rcases ih (tracks before head) with same | forgotten | ⟨runId, member, watched⟩
      · rw [same]
        cases head with
        | start runId =>
            by_cases named : runId = ""
            · exact Or.inl (by simp [tracks, named])
            · exact Or.inr (Or.inr ⟨runId, List.mem_cons_self, by simp [tracks, named]⟩)
        | clear => exact Or.inr (Or.inl rfl)
        | _ => exact Or.inl rfl
      · exact Or.inr (Or.inl forgotten)
      · exact Or.inr (Or.inr ⟨runId, List.mem_cons_of_mem _ member, watched⟩)

namespace Machine

variable {σ : Type}

/-- A view shows the nodes of the graph that was accepted last, with the results of the tracked run.
Until the next graph is accepted the tracked run is that graph's, or none, or one that was watched since. -/
theorem view_latest (service : Source σ) (first : Machine σ) (acts : List (Act σ)) (filter : String) :
    ((first.acting service acts).view filter).nodes =
        overlayAll (Deed.latestNodes first.nodes ((first.record service acts).map Prod.snd))
          (first.acting service acts).poller.session.snapshot ∧
      ∀ before time graph runId after, first.record service acts = before ++ (time, .accept graph runId) :: after →
        (∀ entry ∈ after, entry.2.isAccept = false) →
          ((first.acting service acts).view filter).nodes =
              overlayAll graph.nodes (first.acting service acts).poller.session.snapshot ∧
            (runId ≠ "" →
              (first.acting service acts).poller.session.runId = some runId ∨
              (first.acting service acts).poller.session.runId = none ∨
              ∃ other time', (time', .move (.start other)) ∈ after ∧
                (first.acting service acts).poller.session.runId = some other) := by
  have shown : ((first.acting service acts).view filter).nodes =
      overlayAll (Deed.latestNodes first.nodes ((first.record service acts).map Prod.snd))
        (first.acting service acts).poller.session.snapshot := by
    rw [← Deed.overlay_latestNodes, ← acting_nodes]
    rfl
  refine ⟨shown, ?_⟩
  intro before time graph runId after split watched
  constructor
  · rw [shown, split, List.map_append, Deed.latestNodes_append, List.map_cons, Deed.latestNodes,
      Deed.latestNodes_none]
    intro deed member
    obtain ⟨entry, inside, rfl⟩ := List.mem_map.mp member
    exact watched entry inside
  · intro named
    have tracked := Poller.after_tracks first.poller (moves (first.record service acts))
    rw [← acting_poller, split] at tracked
    simp only [moves, List.map_append, List.map_cons, List.foldl_append, List.foldl_cons, Deed.toMove,
      Poller.tracks, if_neg named] at tracked
    rw [tracked]
    rcases Poller.tracks_cases (after.map fun entry => entry.2.toMove) (some runId) with
      same | none | ⟨other, member, last⟩
    · exact Or.inl same
    · exact Or.inr (Or.inl none)
    · right
      right
      obtain ⟨⟨instant, deed⟩, inside, move⟩ := List.mem_map.mp member
      refine ⟨other, instant, ?_, last⟩
      cases deed with
      | move move' =>
          cases move
          exact inside
      | accept graph' runId' => cases watched _ inside

def singleton (id : String) : Graph :=
  ⟨none, [⟨id, .manualStart none [], none, .pending, none, none⟩], []⟩

def forgetful : Service :=
  ⟨⟨"http", "", "localhost", some 8080, "/v1", none⟩, [], [], 0⟩

/-- Two graphs are run, and then the run of the first one is watched again. -/
def returning : List (Act Service) :=
  [.obey (.run (singleton "a")), .step, .obey (.run (singleton "b")), .step, .step,
    .obey (.start (Service.runId 1))]

theorem mispaired_returning : ¬ ∀ (acts : List (Act Service)) (filter : String) (time : Instant) (graph : Graph)
    (runId : String),
    (time, .accept graph runId) ∈ (initial .standard false [] forgetful none).record .service acts →
    ((initial .standard false [] forgetful none).acting .service acts).poller.session.runId = some runId →
    (((initial .standard false [] forgetful none).acting .service acts).view filter).nodes =
      overlayAll graph.nodes
        ((initial .standard false [] forgetful none).acting .service acts).poller.session.snapshot := by
  intro paired
  have accepted : ((initial .standard false [] forgetful none).record .service returning).any
      (fun entry => entry.2.accepts (singleton "a") (Service.runId 1)) = true := by decide +kernel
  obtain ⟨⟨time, deed⟩, member, same⟩ := List.any_eq_true.mp accepted
  have accepting : deed = .accept (singleton "a") (Service.runId 1) := Deed.eq_of_accepts same
  rw [accepting] at member
  have shown := paired returning "all" time (singleton "a") (Service.runId 1) member (by decide +kernel)
  have ids := congrArg (List.map Node.id) shown
  revert ids
  decide +kernel

end Machine

end WorkflowRuns
