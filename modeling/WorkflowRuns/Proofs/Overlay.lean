import Mathlib.Data.List.Forall2
import WorkflowRuns.Graph.Payload
import WorkflowRuns.Overlay

/-!
What an overlay does to nodes.  The collected results agree with the search for the first result of a
node, an overlay replaces whatever was laid over a node before, and nothing else of a node changes.
-/

namespace WorkflowRuns

theorem lookup_hold (results : List (String × NodeResult)) (result : NodeResult) (id : String) :
    (NodeResult.hold results result).lookup id =
      (results.lookup id).or (if result.nodeId = id then some result else none) := by
  unfold NodeResult.hold
  split
  next held =>
    obtain ⟨first, found⟩ := Option.isSome_iff_exists.mp held
    by_cases same : result.nodeId = id
    · subst same
      rw [found]
      rfl
    · rw [if_neg same, Option.or_none]
  next =>
    rw [List.lookup_append, List.lookup_cons, List.lookup_nil]
    by_cases same : result.nodeId = id
    · simp [same]
    · have other : (id == result.nodeId) = false := beq_eq_false_iff_ne.mpr (Ne.symm same)
      simp [same, other]

theorem lookup_collected (results : List (String × NodeResult)) (reported : List NodeResult) (id : String) :
    (reported.foldl NodeResult.hold results).lookup id =
      (results.lookup id).or (reported.find? (·.nodeId = id)) := by
  induction reported generalizing results with
  | nil => simp
  | cons result rest ih =>
      rw [List.foldl_cons, ih, lookup_hold, Option.or_assoc, List.find?_cons]
      congr 1
      by_cases same : result.nodeId = id <;> simp [same]

namespace Snapshot

theorem lookup_resultsById (s : Snapshot) (id : String) : s.resultsById.lookup id = s.resultFor id := by
  rw [resultsById, lookup_collected]
  rfl

theorem resultFor_eq_some_iff {s : Snapshot} {id : String} {result : NodeResult} :
    s.resultFor id = some result ↔ result.nodeId = id ∧
      ∃ earlier later, s.results = earlier ++ result :: later ∧ ∀ other ∈ earlier, other.nodeId ≠ id := by
  simp [resultFor, List.find?_eq_some_iff_append]

end Snapshot

theorem lookup_results (s : Option Snapshot) (id : String) :
    ((s.map Snapshot.resultsById).getD []).lookup id = s.bind (·.resultFor id) := by
  cases s with
  | none => rfl
  | some s => exact s.lookup_resultsById id

namespace Node

theorem overlay_overlay (first second : List (String × NodeResult)) (node : Node) :
    (node.overlay first).overlay second = node.overlay second := by
  cases held : first.lookup node.id with
  | none =>
      have before : node.overlay first = node.cleared := by simp only [overlay, held]
      rw [before]
      rfl
  | some result =>
      have before : node.overlay first = node.withResult result := by simp only [overlay, held]
      rw [before]
      rfl

/-- A node after an overlay: it shows the first result that was reported for it, or none, and is otherwise
as it was. -/
structure Overlaid (s : Option Snapshot) (before after : Node) : Prop where
  id : after.id = before.id
  kind : after.kind = before.kind
  params : after.params = before.params
  extras : after.params.extras = before.params.extras
  position : after.position = before.position
  payload : after.payload = before.payload
  reported : ∀ result, s.bind (·.resultFor before.id) = some result →
    after.status = result.status.status ∧ after.duration = some result.duration ∧ after.data = some result.data
  unreported : s.bind (·.resultFor before.id) = none →
    after.status = .pending ∧ after.duration = none ∧ after.data = none

theorem overlaid (s : Option Snapshot) (node : Node) :
    Overlaid s node (node.overlay ((s.map Snapshot.resultsById).getD [])) := by
  have held := lookup_results s node.id
  unfold overlay
  cases found : s.bind (·.resultFor node.id) with
  | none =>
      rw [found] at held
      rw [held]
      refine ⟨rfl, rfl, rfl, rfl, rfl, rfl, ?_, fun _ => ⟨rfl, rfl, rfl⟩⟩
      intro result never
      cases found.symm.trans never
  | some result =>
      rw [found] at held
      rw [held]
      refine ⟨rfl, rfl, rfl, rfl, rfl, rfl, ?_, fun never => by cases found.symm.trans never⟩
      intro other same
      cases found.symm.trans same
      exact ⟨rfl, rfl, rfl⟩

end Node

theorem overlayAll_overlayAll (nodes : List Node) (first second : Option Snapshot) :
    overlayAll (overlayAll nodes first) second = overlayAll nodes second := by
  simp [overlayAll, Node.overlay_overlay, Function.comp_def]

/-- An overlay forgets earlier ones, and each node keeps its place and all but what an overlay shows.  The
result that it shows is the first of those reported under its id. -/
theorem overlayAll_faithful (nodes : List Node) (first second : Option Snapshot) :
    overlayAll (overlayAll nodes first) second = overlayAll nodes second ∧
      List.Forall₂ (Node.Overlaid second) nodes (overlayAll nodes second) ∧
      ∀ (s : Snapshot) id result, s.resultFor id = some result ↔ result.nodeId = id ∧
        ∃ earlier later, s.results = earlier ++ result :: later ∧ ∀ other ∈ earlier, other.nodeId ≠ id := by
  refine ⟨overlayAll_overlayAll nodes first second, ?_, fun s id result => s.resultFor_eq_some_iff⟩
  rw [overlayAll, List.forall₂_map_right_iff]
  exact List.forall₂_same.mpr fun node _ => node.overlaid second

end WorkflowRuns
