import Mathlib.Data.List.Flatten
import Mathlib.Data.List.Nodup
import WorkflowRuns.Log
import WorkflowRuns.Snapshot.Reader

/-!
Log filters against the sources of lines.  The filters of the workflow and of all nodes divide the log,
each line once and in order, unless a node that the words "all" and "workflow" name gets in between.
-/

namespace WorkflowRuns

/-- The words that are no node ids when they are given as filters. -/
def isReserved (filter : String) : Prop := filter = filterAll ∨ filter = filterWorkflow

instance (filter : String) : Decidable (isReserved filter) := inferInstanceAs (Decidable (_ ∨ _))

theorem mem_numbered {source : LogSource} {nodeId : Option String} {lines : List String} {entry : LogEntry}
    (member : entry ∈ numbered source nodeId lines) : entry.source = source ∧ entry.nodeId = nodeId := by
  obtain ⟨numberedLine, _, rfl⟩ := List.mem_map.mp member
  exact ⟨rfl, rfl⟩

theorem numbered_length (source : LogSource) (nodeId : Option String) (lines : List String) :
    (numbered source nodeId lines).length = lines.length := by
  simp [numbered]

theorem numbered_getElem? (source : LogSource) (nodeId : Option String) (lines : List String) (i : Nat) :
    (numbered source nodeId lines)[i]? = lines[i]?.map fun line => ⟨source, line, i, nodeId⟩ := by
  simp [numbered, List.getElem?_zipIdx, Function.comp_def]

theorem numbered_positions (source : LogSource) (nodeId : Option String) (lines : List String) :
    (numbered source nodeId lines).map (·.position) = List.range lines.length := by
  simp [numbered, Function.comp_def, List.zipIdx_map_snd, List.range_eq_range']

theorem numbered_nodup (source : LogSource) (nodeId : Option String) (lines : List String) :
    (numbered source nodeId lines).Nodup := by
  apply List.Nodup.of_map (·.position)
  rw [numbered_positions]
  exact List.nodup_range

theorem numbered_eq_nil_iff (source : LogSource) (nodeId : Option String) (lines : List String) :
    numbered source nodeId lines = [] ↔ lines = [] := by
  rw [← List.length_eq_zero_iff, numbered_length, List.length_eq_zero_iff]

theorem filter_numbered (filter : String) (source : LogSource) (nodeId : Option String) (lines : List String) :
    (numbered source nodeId lines).filter (·.passes filter) =
      if LogEntry.passes filter ⟨source, "", 0, nodeId⟩ then numbered source nodeId lines else [] := by
  have alike : ∀ entry ∈ numbered source nodeId lines,
      entry.passes filter = LogEntry.passes filter ⟨source, "", 0, nodeId⟩ := by
    intro entry member
    obtain ⟨own, named⟩ := mem_numbered member
    simp only [LogEntry.passes, own, named]
  split
  next pass => exact List.filter_eq_self.mpr fun entry member => (alike entry member).trans pass
  next stop => exact List.filter_eq_nil_iff.mpr fun entry member => by rwa [alike entry member]

namespace Snapshot

theorem filtered_spec (s : Snapshot) (filter : String) :
    s.filtered filter =
      (if isReserved filter then s.workflowEntries else []) ++
        s.results.flatMap fun result =>
          if filter = filterAll ∨ (filter ≠ filterWorkflow ∧ result.nodeId = filter) then nodeEntries result
          else [] := by
  have ofWorkflow : LogEntry.passes filter ⟨.workflow, "", 0, none⟩ = decide (isReserved filter) := by
    by_cases all : filter = filterAll <;> by_cases workflow : filter = filterWorkflow <;>
      simp [LogEntry.passes, isReserved, all, workflow]
  have ofNode : ∀ result : NodeResult, LogEntry.passes filter ⟨.node, "", 0, some result.nodeId⟩ =
      decide (filter = filterAll ∨ (filter ≠ filterWorkflow ∧ result.nodeId = filter)) := by
    intro result
    by_cases all : filter = filterAll <;> by_cases workflow : filter = filterWorkflow <;>
      simp [LogEntry.passes, all, workflow]
  unfold filtered entries
  rw [List.filter_append, List.filter_flatMap]
  simp only [workflowEntries, nodeEntries, filter_numbered, ofWorkflow, ofNode, decide_eq_true_eq]

theorem filtered_all (s : Snapshot) : s.filtered filterAll = s.workflowEntries ++ s.results.flatMap nodeEntries := by
  simp [filtered_spec, isReserved]

theorem filtered_workflow (s : Snapshot) : s.filtered filterWorkflow = s.workflowEntries := by
  simp [filtered_spec, isReserved, filterAll, filterWorkflow]

theorem filtered_node (s : Snapshot) {filter : String} (free : ¬ isReserved filter) :
    s.filtered filter = s.results.flatMap fun result => if result.nodeId = filter then nodeEntries result else [] := by
  obtain ⟨notAll, notWorkflow⟩ := not_or.mp free
  simp [filtered_spec, free, notAll, notWorkflow]

section Distinct

variable {s : Snapshot} (distinct : (s.results.map (·.nodeId)).Nodup)
include distinct

theorem split_at {result : NodeResult} (member : result ∈ s.results) :
    ∃ before after, s.results = before ++ result :: after ∧
      ∀ other ∈ before ++ after, other.nodeId ≠ result.nodeId := by
  obtain ⟨before, after, split⟩ := List.append_of_mem member
  refine ⟨before, after, split, ?_⟩
  rw [split, List.map_append, List.map_cons, List.nodup_middle, List.nodup_cons, ← List.map_append] at distinct
  exact fun other among same => distinct.1 (List.mem_map.mpr ⟨other, among, same⟩)

theorem filtered_own {result : NodeResult} (member : result ∈ s.results) (free : ¬ isReserved result.nodeId) :
    s.filtered result.nodeId = nodeEntries result := by
  obtain ⟨before, after, split, others⟩ := split_at distinct member
  have elsewhere : ∀ rest : List NodeResult, (∀ other ∈ rest, other ∈ before ++ after) →
      (rest.flatMap fun other => if other.nodeId = result.nodeId then nodeEntries other else []) = [] := by
    intro rest among
    apply List.flatMap_eq_nil_iff.mpr
    intro other member
    exact if_neg (others other (among other member))
  rw [filtered_node s free, split, List.flatMap_append, List.flatMap_cons, if_pos rfl,
    elsewhere before fun _ => List.mem_append_left _, elsewhere after fun _ => List.mem_append_right _,
    List.nil_append, List.append_nil]

theorem filtered_all_nodup : (s.filtered filterAll).Nodup := by
  rw [filtered_all]
  apply List.Nodup.append (numbered_nodup _ _ _)
  · rw [List.nodup_flatMap]
    refine ⟨fun result _ => numbered_nodup _ _ _, ?_⟩
    rw [List.nodup_iff_pairwise_ne, List.pairwise_map] at distinct
    apply distinct.imp
    intro first second apart entry inFirst inSecond
    have named := (mem_numbered inFirst).2.symm.trans (mem_numbered inSecond).2
    exact apart (Option.some.inj named)
  · intro entry ofWorkflow ofNodes
    obtain ⟨result, _, ofNode⟩ := List.mem_flatMap.mp ofNodes
    have source := (mem_numbered ofWorkflow).1.symm.trans (mem_numbered ofNode).1
    cases source

end Distinct

/-- Nodes that a reserved word names do not get in between: the node "all" alone has lines, and without it
neither the workflow nor the node "workflow" has any. -/
structure Unmistaken (s : Snapshot) : Prop where
  all : ∀ result ∈ s.results, result.nodeId = filterAll →
    s.logs = [] ∧ ∀ other ∈ s.results, ¬ isReserved other.nodeId → other.logs = []
  workflow : ∀ result ∈ s.results, result.nodeId = filterWorkflow →
    (∀ other ∈ s.results, other.nodeId ≠ filterAll) → s.logs = [] ∧ result.logs = []

section Union

variable {s : Snapshot} (distinct : (s.results.map (·.nodeId)).Nodup)
include distinct

theorem shares_free {rest : List NodeResult} (among : ∀ result ∈ rest, result ∈ s.results)
    (free : ∀ result ∈ rest, ¬ isReserved result.nodeId) :
    (rest.flatMap fun result => s.filtered result.nodeId) = rest.flatMap nodeEntries := by
  apply List.flatMap_congr
  exact fun result member => filtered_own distinct (among result member) (free result member)

theorem unmistaken_all {result : NodeResult} (member : result ∈ s.results) (named : result.nodeId = filterAll)
    (same : s.results.flatMap nodeEntries = s.results.flatMap fun result => s.filtered result.nodeId) :
    s.logs = [] ∧ ∀ other ∈ s.results, ¬ isReserved other.nodeId → other.logs = [] := by
  obtain ⟨before, after, split, others⟩ := split_at distinct member
  have lengths := congrArg List.length same
  have parts : (s.results.flatMap fun result => s.filtered result.nodeId) =
      (before.flatMap fun result => s.filtered result.nodeId) ++
        (s.workflowEntries ++ s.results.flatMap nodeEntries ++
          after.flatMap fun result => s.filtered result.nodeId) := by
    conv_lhs => rw [split, List.flatMap_append, List.flatMap_cons, named, filtered_all]
  rw [parts] at lengths
  simp only [List.length_append] at lengths
  have noWorkflow : s.workflowEntries = [] := List.length_eq_zero_iff.mp (by omega)
  have noBefore : (before.flatMap fun result => s.filtered result.nodeId) = [] :=
    List.length_eq_zero_iff.mp (by omega)
  have noAfter : (after.flatMap fun result => s.filtered result.nodeId) = [] :=
    List.length_eq_zero_iff.mp (by omega)
  refine ⟨(numbered_eq_nil_iff _ _ _).mp noWorkflow, ?_⟩
  intro other among free
  have elsewhere : other ∈ before ++ after := by
    rw [split, List.mem_append, List.mem_cons] at among
    rcases among with inBefore | rfl | inAfter
    · exact List.mem_append_left _ inBefore
    · exact absurd (Or.inl named) free
    · exact List.mem_append_right _ inAfter
  have none : s.filtered other.nodeId = [] := by
    rcases List.mem_append.mp elsewhere with inBefore | inAfter
    · exact List.flatMap_eq_nil_iff.mp noBefore other inBefore
    · exact List.flatMap_eq_nil_iff.mp noAfter other inAfter
  rw [filtered_own distinct among free] at none
  exact (numbered_eq_nil_iff _ _ _).mp none

theorem unmistaken_workflow {result : NodeResult} (member : result ∈ s.results)
    (named : result.nodeId = filterWorkflow) (noAll : ∀ other ∈ s.results, other.nodeId ≠ filterAll)
    (same : s.results.flatMap nodeEntries = s.results.flatMap fun result => s.filtered result.nodeId) :
    s.logs = [] ∧ result.logs = [] := by
  obtain ⟨before, after, split, others⟩ := split_at distinct member
  have among : ∀ other ∈ before ++ after, other ∈ s.results := by
    intro other elsewhere
    rw [split]
    rcases List.mem_append.mp elsewhere with inBefore | inAfter
    · exact List.mem_append_left _ inBefore
    · exact List.mem_append_right _ (List.mem_cons_of_mem _ inAfter)
  have free : ∀ other ∈ before ++ after, ¬ isReserved other.nodeId := by
    rintro other elsewhere (all | workflow)
    · exact noAll other (among other elsewhere) all
    · exact others other elsewhere (workflow.trans named.symm)
  have sharesBefore := shares_free distinct (fun other m => among other (List.mem_append_left after m))
    (fun other m => free other (List.mem_append_left after m))
  have sharesAfter := shares_free distinct (fun other m => among other (List.mem_append_right before m))
    (fun other m => free other (List.mem_append_right before m))
  rw [split, List.flatMap_append, List.flatMap_append, List.flatMap_cons, List.flatMap_cons, sharesBefore,
    sharesAfter, named, filtered_workflow] at same
  have swapped : nodeEntries result = s.workflowEntries :=
    List.append_cancel_right (List.append_cancel_left same)
  have empty : s.workflowEntries = [] := by
    apply List.eq_nil_iff_forall_not_mem.mpr
    intro entry ofWorkflow
    have ofNode := swapped ▸ ofWorkflow
    have source := (mem_numbered ofWorkflow).1.symm.trans (mem_numbered ofNode).1
    cases source
  exact ⟨(numbered_eq_nil_iff _ _ _).mp empty, (numbered_eq_nil_iff _ _ _).mp (swapped.trans empty)⟩

theorem shares_unmistaken (unmistaken : Unmistaken s) :
    s.results.flatMap nodeEntries = s.results.flatMap fun result => s.filtered result.nodeId := by
  by_cases hasAll : ∃ result ∈ s.results, result.nodeId = filterAll
  · obtain ⟨result, member, named⟩ := hasAll
    obtain ⟨noLogs, noOthers⟩ := unmistaken.all result member named
    obtain ⟨before, after, split, others⟩ := split_at distinct member
    have noWorkflow : s.workflowEntries = [] := (numbered_eq_nil_iff _ _ _).mpr noLogs
    have nothing : ∀ rest : List NodeResult, (∀ other ∈ rest, other ∈ before ++ after) →
        (∀ other ∈ rest, other ∈ s.results) →
        (rest.flatMap fun other => s.filtered other.nodeId) = [] := by
      intro rest elsewhere among
      apply List.flatMap_eq_nil_iff.mpr
      intro other m
      by_cases reserved : isReserved other.nodeId
      · have workflow : other.nodeId = filterWorkflow :=
          reserved.resolve_left fun all => others other (elsewhere other m) (all.trans named.symm)
        rw [workflow, filtered_workflow, noWorkflow]
      · rw [filtered_own distinct (among other m) reserved]
        exact (numbered_eq_nil_iff _ _ _).mpr (noOthers other (among other m) reserved)
    have noneBefore := nothing before (fun _ => List.mem_append_left _)
      (fun other m => split ▸ List.mem_append_left _ m)
    have noneAfter := nothing after (fun _ => List.mem_append_right _)
      (fun other m => split ▸ List.mem_append_right _ (List.mem_cons_of_mem _ m))
    conv_rhs => rw [split, List.flatMap_append, List.flatMap_cons, noneBefore, noneAfter, named, filtered_all,
      noWorkflow]
    simp
  · have noAll : ∀ other ∈ s.results, other.nodeId ≠ filterAll := fun other m named => hasAll ⟨other, m, named⟩
    apply List.flatMap_congr
    intro result member
    by_cases reserved : isReserved result.nodeId
    · have workflow := reserved.resolve_left (noAll result member)
      obtain ⟨noLogs, noLines⟩ := unmistaken.workflow result member workflow noAll
      rw [workflow, filtered_workflow]
      exact ((numbered_eq_nil_iff _ _ _).mpr noLines).trans ((numbered_eq_nil_iff _ _ _).mpr noLogs).symm
    · exact (filtered_own distinct member reserved).symm

end Union

/-- How the filters divide a log: each line of it once, with its place in its own source; the filters of the
workflow and of the nodes make up the whole exactly if no reserved word gets in between. -/
structure Divided (s : Snapshot) : Prop where
  once : (s.filtered filterAll).Nodup
  all : s.filtered filterAll =
    s.filtered filterWorkflow ++ s.results.flatMap fun result =>
      result.logs.zipIdx.map fun (line, position) => ⟨.node, line, position, some result.nodeId⟩
  workflow : ∀ position : Nat, (s.filtered filterWorkflow)[position]? =
    s.logs[position]?.map fun line => ⟨.workflow, line, position, none⟩
  node : ∀ result ∈ s.results, ¬ isReserved result.nodeId → ∀ position : Nat,
    (s.filtered result.nodeId)[position]? =
      result.logs[position]?.map fun line => ⟨.node, line, position, some result.nodeId⟩
  union : s.filtered filterAll =
      s.filtered filterWorkflow ++ (s.results.flatMap fun result => s.filtered result.nodeId) ↔ Unmistaken s

theorem filters_divide {s : Snapshot} (distinct : (s.results.map (·.nodeId)).Nodup) : Divided s := by
  constructor
  · exact filtered_all_nodup distinct
  · rw [filtered_all, filtered_workflow]
    rfl
  · intro position
    rw [filtered_workflow]
    exact numbered_getElem? _ _ _ position
  · intro result member free position
    rw [filtered_own distinct member free]
    exact numbered_getElem? _ _ _ position
  · rw [filtered_all, filtered_workflow, List.append_cancel_left_eq]
    constructor
    · intro same
      exact ⟨fun result member named => unmistaken_all distinct member named same,
        fun result member named noAll => unmistaken_workflow distinct member named noAll same⟩
    · exact shares_unmistaken distinct

def finished (nodeId : String) (lines : List String) : NodeResult :=
  ⟨nodeId, none, .success, 0, 0, lines, .null, none, .null⟩

def finishedRun (lines : List String) (results : List NodeResult) : Snapshot :=
  ⟨"", .success, none, none, 0, none, results, lines, none, []⟩

theorem filters_divide_three :
    let s := finishedRun ["begun", "ended"] [finished "a" ["first", "second"], finished "b" [], finished "c" ["third"]]
    (s.results.map (·.nodeId)).Nodup ∧ Divided s ∧
      s.filtered filterAll =
        s.filtered filterWorkflow ++ (s.results.flatMap fun result => s.filtered result.nodeId) :=
  ⟨by decide, filters_divide (by decide), by decide⟩

/-- The line of a node "workflow" passes no filter but "all", although the menu promises one line. -/
theorem line_withheld :
    let s := finishedRun [] [finished "workflow" ["line"]]
    Snapshot.read none (.text
        "\x7b\"status\": \"success\", \"nodes\": [\x7b\"nodeId\": \"workflow\", \"status\": \"success\", \"logs\": [\"line\"]\x7d]\x7d") = .ok s ∧
      (s.results.map (·.nodeId)).Nodup ∧
      s.filtered filterAll ≠
        s.filtered filterWorkflow ++ (s.results.flatMap fun result => s.filtered result.nodeId) ∧
      ⟨"workflow", "Node workflow (1)", 1⟩ ∈ s.filterOptions ∧ s.filtered "workflow" = [] := by
  decide +kernel

end Snapshot

end WorkflowRuns
