import Mathlib.Data.List.Nodup
import WorkflowRuns.Graph.Validation
import WorkflowRuns.Proofs.Graph.Cycle

/-!
What is valid: the graphs with no fault are exactly the well-formed ones, and a cycle that is
reported is one of the graph's.
-/

namespace WorkflowRuns

def Params.Complete : Params → Prop
  | .manualStart .. => True
  | .httpRequest _ url _ => url ≠ ""
  | .wait duration _ => 0 < duration

namespace Graph

/-- What the service runs. -/
structure WellFormed (g : Graph) : Prop where
  nonempty : g.nodes ≠ []
  nodes : g.nodeIds.Nodup
  edges : (g.edges.map (·.id)).Nodup
  pairs : (g.edges.map fun edge => (edge.source, edge.target)).Nodup
  endpoints : ∀ edge ∈ g.edges, edge.source ∈ g.nodeIds ∧ edge.target ∈ g.nodeIds
  start : ∃ node, g.nodes.filter (·.kind = .manualStart) = [node]
  params : ∀ node ∈ g.nodes, Params.Complete node.params
  acyclic : g.Acyclic

theorem repetitions_eq_nil_iff {α : Type} [DecidableEq α] {seen xs : List α} :
    repetitions seen xs = [] ↔ xs.Nodup ∧ ∀ x ∈ xs, x ∉ seen := by
  induction xs generalizing seen with
  | nil => simp [repetitions]
  | cons x xs ih =>
      by_cases old : x ∈ seen
      · simp [repetitions, old]
      · rw [repetitions, if_neg old, ih]
        constructor
        · rintro ⟨distinct, fresh⟩
          have first : x ∉ xs := fun again => fresh x again List.mem_cons_self
          refine ⟨List.nodup_cons.mpr ⟨first, distinct⟩, List.forall_mem_cons.mpr ⟨old, fun y member => ?_⟩⟩
          exact fun known => fresh y member (List.mem_cons_of_mem x known)
        · rintro ⟨distinct, fresh⟩
          obtain ⟨first, distinct⟩ := List.nodup_cons.mp distinct
          refine ⟨distinct, fun y member known => ?_⟩
          rcases List.mem_cons.mp known with rfl | known
          · exact first member
          · exact fresh y (List.mem_cons_of_mem x member) known

theorem distinct_iff {α : Type} [DecidableEq α] {xs : List α} {fault : α → GraphFault} :
    (repetitions [] xs).map fault = [] ↔ xs.Nodup := by
  rw [List.map_eq_nil_iff, repetitions_eq_nil_iff]
  simp

theorem endpointFaults_eq_nil_iff {ids : List String} {edge : Edge} :
    endpointFaults ids edge = [] ↔ edge.source ∈ ids ∧ edge.target ∈ ids := by
  by_cases source : edge.source ∈ ids <;> by_cases target : edge.target ∈ ids <;>
    simp [endpointFaults, source, target]

theorem startFaults_eq_nil_iff {nodes : List Node} :
    startFaults nodes = [] ↔ ∃ node, nodes.filter (·.kind = .manualStart) = [node] := by
  unfold startFaults
  cases nodes.filter (·.kind = .manualStart) with
  | nil => simp
  | cons first others => cases others <;> simp

theorem paramFaults_eq_nil_iff {node : Node} : paramFaults node = [] ↔ Params.Complete node.params := by
  unfold paramFaults
  cases node.params <;> simp [Params.Complete]

theorem cycleFaults_eq_nil_iff {g : Graph} :
    (g.cycle?.map fun ids => [GraphFault.cyclic ids]).getD [] = [] ↔ g.Acyclic := by
  rw [← cycle?_eq_none_iff]
  cases g.cycle? <;> simp

theorem faults_eq_nil_iff {g : Graph} : g.faults = [] ↔ g.WellFormed := by
  unfold faults
  split
  next empty =>
    constructor
    · exact fun never => nomatch never
    · exact fun formed => absurd empty formed.nonempty
  next some =>
    simp only [List.append_eq_nil_iff, distinct_iff, List.flatMap_eq_nil_iff, endpointFaults_eq_nil_iff,
      startFaults_eq_nil_iff, paramFaults_eq_nil_iff, cycleFaults_eq_nil_iff]
    constructor
    · rintro ⟨⟨⟨⟨⟨⟨nodes, edges⟩, pairs⟩, endpoints⟩, start⟩, params⟩, acyclic⟩
      exact ⟨some, nodes, edges, pairs, endpoints, start, params, acyclic⟩
    · intro formed
      exact ⟨⟨⟨⟨⟨⟨formed.nodes, formed.edges⟩, formed.pairs⟩, formed.endpoints⟩, formed.start⟩, formed.params⟩,
        formed.acyclic⟩

theorem cycle?_of_cyclic {g : Graph} {ids : List String} (reported : .cyclic ids ∈ g.faults) :
    g.cycle? = some ids := by
  unfold faults at reported
  split at reported
  next => simp at reported
  next =>
    have noStart : .cyclic ids ∉ startFaults g.nodes := by
      unfold startFaults
      split <;> simp
    have noParam : ∀ node, .cyclic ids ∉ paramFaults node := by
      intro node
      unfold paramFaults
      split <;> simp
    have noEndpoint : ∀ edge, .cyclic ids ∉ endpointFaults g.nodeIds edge := by
      intro edge
      simp [endpointFaults]
    have found : .cyclic ids ∈ (g.cycle?.map fun ids => [GraphFault.cyclic ids]).getD [] := by
      simpa [noStart, noParam, noEndpoint] using reported
    cases cycle : g.cycle? with
    | none => simp [cycle] at found
    | some other => simpa [cycle, eq_comm] using found

theorem initial_append {s t : String} {c : Char} (initial : s.toList.head? = some c) :
    (s ++ t).toList.head? = some c := by
  rw [String.toList_append, List.head?_append, initial, Option.some_or]

theorem cyclic_of_initial {fault : GraphFault} (initial : fault.message.toList.head? = some 'C') :
    ∃ ids, fault = .cyclic ids := by
  have other : ∀ {c : Char}, fault.message.toList.head? = some c → c ≠ 'C' → ∃ ids, fault = .cyclic ids :=
    fun begins other => absurd (Option.some.inj (begins.symm.trans initial)) other
  cases fault with
  | cyclic ids => exact ⟨ids, rfl⟩
  | noNodes => exact other rfl (by decide)
  | noStart => exact other rfl (by decide)
  | manyStarts => exact other (initial_append rfl) (by decide)
  | duplicateNode | duplicateEdge | noUrl | noDuration =>
      exact other (initial_append (initial_append rfl)) (by decide)
  | parallelEdges | unknownSource | unknownTarget =>
      exact other (initial_append (initial_append (initial_append (initial_append rfl)))) (by decide)

/-- The graphs that pass are the well-formed ones, and a cycle that is reported is one. -/
theorem validationErrors_spec (g : Graph) :
    (g.validationErrors = [] ↔ g.WellFormed) ∧
      ∀ path, "Cycle detected: " ++ path ∈ g.validationErrors →
        ∃ ids, path = " -> ".intercalate ids ∧ g.IsCycle ids := by
  refine ⟨by rw [validationErrors, List.map_eq_nil_iff, faults_eq_nil_iff], fun path reported => ?_⟩
  obtain ⟨fault, member, same⟩ := List.mem_map.mp reported
  have initial : fault.message.toList.head? = some 'C' := by
    rw [same]
    exact initial_append rfl
  obtain ⟨ids, rfl⟩ := cyclic_of_initial initial
  have path : path = " -> ".intercalate ids := String.append_right_inj _ |>.mp same.symm
  exact ⟨ids, path, cycle?_isCycle (cycle?_of_cyclic member)⟩

end Graph

end WorkflowRuns
