import WorkflowRuns.Display.RunPanel
import WorkflowRuns.Proofs.Display.Walks
import WorkflowRuns.Proofs.Overlay
import WorkflowRuns.Snapshot.Reader

/-!
What can be shown of a run.  Each rendering has its own durations on which alone it depends whether it can be
drawn; times, counts, lines and all texts are shown whatever they are.
-/

namespace WorkflowRuns.Display

theorem drawn_statusRow (node : Node) :
    Drawn (statusRow node) ↔ ∀ n, node.duration = some n → Displayable n :=
  (drawn_then fun _ => drawn_ok _).trans (drawn_durationCell node.duration)

theorem drawn_statusTable (nodes : List Node) (runId : Option String) :
    Drawn (statusTable nodes runId) ↔ ∀ node ∈ nodes, ∀ n, node.duration = some n → Displayable n := by
  refine (drawn_then fun _ => drawn_ok _).trans ((drawn_mapM statusRow nodes).trans ?_)
  exact forall₂_congr fun node _ => drawn_statusRow node

theorem drawn_resultRow (result : NodeResult) : Drawn (resultRow result) ↔ Displayable result.duration :=
  (drawn_then fun _ => drawn_ok _).trans (drawn_durationText result.duration)

theorem drawn_resultsTable (s : Snapshot) :
    Drawn (resultsTable s) ↔ ∀ result ∈ s.results, Displayable result.duration := by
  refine (drawn_then fun _ => drawn_ok _).trans ((drawn_mapM resultRow s.results).trans ?_)
  exact forall₂_congr fun result _ => drawn_resultRow result

theorem drawn_metrics (s : Snapshot) : Drawn (metrics s) ↔ Displayable s.duration :=
  (drawn_then fun _ => drawn_ok _).trans (drawn_durationText s.duration)

theorem drawn_snapshotParts (v : View) (s : Snapshot) (limit : Option Int) :
    Drawn (snapshotParts v s limit) ↔ Displayable s.duration :=
  (drawn_then fun _ => drawn_ok _).trans (drawn_metrics s)

theorem drawn_statusPanel (v : View) (limit : Option Int) :
    Drawn (statusPanel v limit) ↔ ∀ s, v.snapshot = some s → Displayable s.duration := by
  unfold statusPanel
  cases v.snapshot with
  | none => exact iff_of_true (drawn_ok _) nofun
  | some s =>
      refine (drawn_then fun _ => drawn_ok _).trans ((drawn_snapshotParts v s limit).trans ?_)
      simp

theorem drawn_inspection (result : NodeResult) : Drawn (inspection result) ↔ Displayable result.duration :=
  (drawn_then fun _ => drawn_ok _).trans (drawn_durationText result.duration)

theorem drawn_inspect (s : Snapshot) (nodeId : Option String) :
    Drawn (inspect s nodeId) ↔
      ∀ result, nodeId.bind s.resultFor = some result → Displayable result.duration := by
  cases nodeId with
  | none => exact iff_of_true (drawn_ok _) nofun
  | some id =>
      simp only [inspect, Option.bind_some]
      cases s.resultFor id with
      | none => exact iff_of_true (drawn_ok _) nofun
      | some result => simp [drawn_map, drawn_inspection]

def TimedIn (s : Snapshot) (node : Node) : Prop :=
  ∀ result, s.resultFor node.id = some result → Displayable result.duration

theorem duration_overlaid {s : Snapshot} {before after : Node} (laid : Node.Overlaid (some s) before after) :
    (∀ n, after.duration = some n → Displayable n) ↔ TimedIn s before := by
  unfold TimedIn
  cases found : s.resultFor before.id with
  | none => simp [(laid.unreported found).2.1]
  | some result => simp [(laid.reported result found).2.1]

theorem drawable_overlaid {s : Snapshot} {before after : Node} (laid : Node.Overlaid (some s) before after) :
    Drawable after ↔
      (∀ duration extras, before.params = .wait duration extras → Displayable duration) ∧ TimedIn s before := by
  have executed : (after.status ≠ .pending → ∀ n, after.duration = some n → Displayable n) ↔ TimedIn s before := by
    rw [← duration_overlaid laid]
    cases found : s.resultFor before.id with
    | none => simp [laid.unreported found]
    | some result =>
        have status := (laid.reported result found).1
        have ran : after.status ≠ .pending := by
          rw [status]
          cases result.status <;> decide
        simp [ran]
  rw [drawable_iff, executed, laid.params]

theorem drawn_statusTable_overlaid (nodes : List Node) (s : Snapshot) (runId : Option String) :
    Drawn (statusTable (overlayAll nodes (some s)) runId) ↔ ∀ node ∈ nodes, TimedIn s node := by
  rw [drawn_statusTable, overlayAll, List.forall_mem_map]
  exact forall₂_congr fun node _ => duration_overlaid (node.overlaid (some s))

/-- All durations of a run, and all waits of a graph, can be shown. -/
structure Timely (g : Graph) (s : Snapshot) : Prop where
  run : Displayable s.duration
  results : ∀ result ∈ s.results, Displayable result.duration
  waits : ∀ node ∈ g.nodes, ∀ duration extras, node.params = .wait duration extras → Displayable duration

theorem Timely.timedIn {g : Graph} {s : Snapshot} (timely : Timely g s) (node : Node) : TimedIn s node :=
  fun result found => timely.results result (List.mem_of_find?_eq_some found)

theorem Timely.drawable {g : Graph} {s : Snapshot} (timely : Timely g s) :
    ∀ node ∈ overlayAll g.nodes (some s), Drawable node := by
  rw [overlayAll, List.forall_mem_map]
  intro node member
  exact (drawable_overlaid (node.overlaid (some s))).mpr ⟨timely.waits node member, timely.timedIn node⟩

/-- On what it depends whether a run, and a graph that its results are laid over, can be shown. -/
structure Renderings (g : Graph) (s : Snapshot) (title : String) (depth : Nat) : Prop where
  tree : Drawn (graphTree g (overlayAll g.nodes (some s)) title depth) ↔
    ∀ path, Trail.Path ⟨g, overlayAll g.nodes (some s)⟩ path → path.length ≤ depth → ∀ node ∈ path,
      (∀ duration extras, node.params = .wait duration extras → Displayable duration) ∧ TimedIn s node
  status : ∀ runId, Drawn (statusTable (overlayAll g.nodes (some s)) runId) ↔ ∀ node ∈ g.nodes, TimedIn s node
  results : Drawn (resultsTable s) ↔ ∀ result ∈ s.results, Displayable result.duration
  panel : ∀ v limit, v.snapshot = some s → (Drawn (statusPanel v limit) ↔ Displayable s.duration)
  inspector : ∀ nodeId, Drawn (inspect s nodeId) ↔
    ∀ result, nodeId.bind s.resultFor = some result → Displayable result.duration
  timely : Timely g s → Drawn (graphTree g (overlayAll g.nodes (some s)) title depth) ∧
    (∀ runId, Drawn (statusTable (overlayAll g.nodes (some s)) runId)) ∧ Drawn (resultsTable s) ∧
    (∀ session filter limit, session.snapshot = some s → Drawn (statusPanel (View.build session g.nodes filter) limit)) ∧
    ∀ nodeId, Drawn (inspect s nodeId)

theorem renderings_spec (g : Graph) (s : Snapshot) (title : String) (depth : Nat) : Renderings g s title depth := by
  have shown : ∀ path, Trail.Path ⟨g, overlayAll g.nodes (some s)⟩ path →
      ∀ node ∈ path, node ∈ overlayAll g.nodes (some s) := fun path leads => leads.shown
  have panel : ∀ v limit, v.snapshot = some s → (Drawn (statusPanel v limit) ↔ Displayable s.duration) := by
    intro v limit held
    rw [drawn_statusPanel, held]
    simp
  constructor
  · rw [drawn_graphTree]
    refine forall₃_congr fun path leads _ => forall₂_congr fun node member => ?_
    obtain ⟨before, _, rfl⟩ := List.mem_map.mp (shown path leads node member)
    have laid := before.overlaid (some s)
    rw [drawable_overlaid laid, laid.params, TimedIn, TimedIn, laid.id]
  · exact drawn_statusTable_overlaid g.nodes s
  · exact drawn_resultsTable s
  · exact panel
  · exact drawn_inspect s
  · intro timely
    refine ⟨?_, fun runId => ?_, (drawn_resultsTable s).mpr timely.results, ?_, fun nodeId => ?_⟩
    · rw [drawn_graphTree]
      exact fun path leads _ node member => timely.drawable node (shown path leads node member)
    · exact (drawn_statusTable_overlaid g.nodes s runId).mpr fun node _ => timely.timedIn node
    · exact fun session filter limit held => (panel (View.build session g.nodes filter) limit held).mpr timely.run
    · refine (drawn_inspect s nodeId).mpr fun result found => ?_
      obtain ⟨id, _, found⟩ := Option.bind_eq_some_iff.mp found
      exact timely.results result (List.mem_of_find?_eq_some found)

def longRun : Value :=
  .record [(.name "status", .text "success"), (.name "nodes", .list []), (.name "durationMs", .int (10 ^ 312))]

/-- The run is accepted, and as a time of day the number would be shown as none, but the panel cannot be drawn. -/
theorem duration_undrawn : ∃ s, Snapshot.read none (.value longRun) = .ok s ∧ timeText (.int s.duration) = "N/A" ∧
    ∀ v limit, v.snapshot = some s → statusPanel v limit = .error .duration := by
  refine ⟨⟨"", .success, none, none, 10 ^ 312, none, [], [], none, []⟩, by decide +kernel, by decide +kernel, ?_⟩
  intro v limit held
  rw [← not_drawn_iff, drawn_statusPanel, held]
  have long : ¬ Displayable (10 ^ 312) := by decide +kernel
  exact fun displayable => long (displayable _ rfl)

end WorkflowRuns.Display
