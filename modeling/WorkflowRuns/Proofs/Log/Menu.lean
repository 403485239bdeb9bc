import Mathlib.Algebra.Ring.Nat
import WorkflowRuns.Proofs.Log.Partition

/-!
The filter menu against the lines that its filters show.  A value that is offered once and names a node
counts what is shown; a repeated node and a node that a reserved word names are counted apart from their
filter.
-/

namespace WorkflowRuns

namespace Snapshot

variable {s : Snapshot}

theorem mem_loggingNodes {result : NodeResult} :
    result ∈ s.loggingNodes ↔ result ∈ s.results ∧ result.logs ≠ [] := by
  simp [loggingNodes, List.mem_filter]

def lineCount (results : List NodeResult) : Nat := (results.map (·.logs.length)).sum

theorem lineCount_append (first second : List NodeResult) :
    lineCount (first ++ second) = lineCount first + lineCount second := by
  simp [lineCount]

theorem lineCount_cons (result : NodeResult) (rest : List NodeResult) :
    lineCount (result :: rest) = result.logs.length + lineCount rest := by
  simp [lineCount]

theorem lineCount_logging (results : List NodeResult) :
    lineCount (results.filter fun result => !result.logs.isEmpty) = lineCount results := by
  induction results with
  | nil => rfl
  | cons result rest ih =>
      cases lines : result.logs <;> simp [lineCount_cons, lines, ih]

theorem lineCount_eq_zero {results : List NodeResult} (logging : ∀ result ∈ results, result.logs ≠ []) :
    lineCount results = 0 ↔ results = [] := by
  cases results with
  | nil => simp [lineCount]
  | cons first rest =>
      have some := List.length_pos_iff.mpr (logging first List.mem_cons_self)
      simp only [lineCount_cons, reduceCtorEq, iff_false]
      omega

theorem lineCount_eq_own {results : List NodeResult} {result : NodeResult} (member : result ∈ results)
    (logging : ∀ other ∈ results, other.logs ≠ []) :
    result.logs.length = lineCount results ↔ results = [result] := by
  constructor
  · intro own
    obtain ⟨before, after, rfl⟩ := List.append_of_mem member
    rw [lineCount_append, lineCount_cons] at own
    have noBefore := (lineCount_eq_zero fun other m => logging other (List.mem_append_left _ m)).mp
      (by omega : lineCount before = 0)
    have noAfter := (lineCount_eq_zero fun other m =>
      logging other (List.mem_append_right _ (List.mem_cons_of_mem _ m))).mp (by omega : lineCount after = 0)
    rw [noBefore, noAfter, List.nil_append]
  · rintro rfl
    simp [lineCount]

theorem lineCount_split (results : List NodeResult) (id : String) :
    lineCount results = lineCount (results.filter (·.nodeId = id)) + lineCount (results.filter (·.nodeId ≠ id)) := by
  induction results with
  | nil => rfl
  | cons result rest ih =>
      by_cases named : result.nodeId = id
      · simp [named, lineCount_cons, ih, Nat.add_assoc]
      · simp [named, lineCount_cons, ih, Nat.add_left_comm]

theorem length_entries (results : List NodeResult) : (results.flatMap nodeEntries).length = lineCount results := by
  simp [List.length_flatMap, nodeEntries, numbered_length, lineCount]

theorem length_filtered_all (s : Snapshot) :
    (s.filtered filterAll).length = s.logs.length + lineCount s.loggingNodes := by
  rw [filtered_all, List.length_append, length_entries, workflowEntries, numbered_length, loggingNodes,
    lineCount_logging]

theorem length_filtered_workflow (s : Snapshot) : (s.filtered filterWorkflow).length = s.logs.length := by
  rw [filtered_workflow, workflowEntries, numbered_length]

def logging (s : Snapshot) (id : String) : List NodeResult := s.loggingNodes.filter (·.nodeId = id)

theorem mem_logging {id : String} {result : NodeResult} :
    result ∈ s.logging id ↔ result ∈ s.loggingNodes ∧ result.nodeId = id := by
  simp [logging, List.mem_filter]

theorem logging_lines {id : String} : ∀ result ∈ s.logging id, result.logs ≠ [] :=
  fun _ member => (mem_loggingNodes.mp (mem_logging.mp member).1).2

theorem length_chosen (results : List NodeResult) (id : String) :
    (results.flatMap fun result => if result.nodeId = id then nodeEntries result else []).length =
      lineCount (results.filter (·.nodeId = id)) := by
  induction results with
  | nil => rfl
  | cons result rest ih =>
      rw [List.flatMap_cons, List.length_append, ih]
      by_cases named : result.nodeId = id
      · simp [named, lineCount_cons, nodeEntries, numbered_length]
      · simp [named]

theorem length_filtered_node (s : Snapshot) {filter : String} (free : ¬ isReserved filter) :
    (s.filtered filter).length = lineCount (s.logging filter) := by
  rw [filtered_node s free, length_chosen, ← lineCount_logging, logging, loggingNodes, List.filter_filter,
    List.filter_filter]
  simp only [Bool.and_comm]

def optionOf (result : NodeResult) : FilterOption :=
  ⟨result.nodeId, counted ("Node " ++ result.nodeId) result.logs.length, result.logs.length⟩

theorem filterOptions_eq (s : Snapshot) :
    s.filterOptions =
      ⟨filterAll, counted "All Sources" (s.filtered filterAll).length, (s.filtered filterAll).length⟩
        :: ⟨filterWorkflow, counted "Workflow" s.logs.length, s.logs.length⟩
        :: s.loggingNodes.map optionOf := rfl

theorem mem_filterOptions_free {filter : String} (free : ¬ isReserved filter) :
    (∃ option ∈ s.filterOptions, option.value = filter) ↔ s.logging filter ≠ [] := by
  obtain ⟨notAll, notWorkflow⟩ := not_or.mp free
  have reserved : filterAll ≠ filter ∧ filterWorkflow ≠ filter := ⟨Ne.symm notAll, Ne.symm notWorkflow⟩
  have some : s.logging filter ≠ [] ↔ ∃ result, result ∈ s.logging filter :=
    ⟨List.exists_mem_of_ne_nil _, fun ⟨_, member⟩ => List.ne_nil_of_mem member⟩
  rw [some]
  simp [filterOptions_eq, reserved, mem_logging, optionOf]

theorem counts_free {filter : String} (free : ¬ isReserved filter) :
    ((s.filterOptions.filter (·.value = filter)).map (·.count)).sum = lineCount (s.logging filter) := by
  obtain ⟨notAll, notWorkflow⟩ := not_or.mp free
  have reserved : filterAll ≠ filter ∧ filterWorkflow ≠ filter := ⟨Ne.symm notAll, Ne.symm notWorkflow⟩
  rw [filterOptions_eq, List.filter_cons_of_neg (by simpa using reserved.1),
    List.filter_cons_of_neg (by simpa using reserved.2), List.filter_map, List.map_map]
  rfl

/-- The option of a node counts what its filter shows. -/
structure Tallied (s : Snapshot) (result : NodeResult) : Prop where
  free : ¬ isReserved result.nodeId → s.logging result.nodeId = [result]
  all : result.nodeId = filterAll → s.logs = [] ∧ s.loggingNodes = [result]
  workflow : result.nodeId = filterWorkflow → result.logs.length = s.logs.length

theorem tallied_iff {result : NodeResult} (member : result ∈ s.loggingNodes) :
    result.logs.length = (s.filtered result.nodeId).length ↔ Tallied s result := by
  have lines : ∀ other ∈ s.loggingNodes, other.logs ≠ [] := fun other m => (mem_loggingNodes.mp m).2
  by_cases all : result.nodeId = filterAll
  · have alone : result.logs.length = s.logs.length + lineCount s.loggingNodes ↔
        s.logs = [] ∧ s.loggingNodes = [result] := by
      rw [← lineCount_eq_own member lines, ← List.length_eq_zero_iff]
      obtain ⟨before, after, split⟩ := List.append_of_mem member
      rw [split, lineCount_append, lineCount_cons]
      omega
    rw [all, length_filtered_all, alone]
    refine ⟨fun own => ⟨fun free => absurd (Or.inl all) free, fun _ => own, fun workflow => ?_⟩,
      fun tallied => tallied.all all⟩
    exact absurd (all.symm.trans workflow) (by decide)
  · by_cases workflow : result.nodeId = filterWorkflow
    · rw [workflow, length_filtered_workflow]
      exact ⟨fun own => ⟨fun free => absurd (Or.inr workflow) free, fun named => absurd named all, fun _ => own⟩,
        fun tallied => tallied.workflow workflow⟩
    · have free : ¬ isReserved result.nodeId := not_or.mpr ⟨all, workflow⟩
      rw [length_filtered_node s free, lineCount_eq_own (mem_logging.mpr ⟨member, rfl⟩) logging_lines]
      exact ⟨fun own => ⟨fun _ => own, fun named => absurd named all, fun named => absurd named workflow⟩,
        fun tallied => tallied.free free⟩

theorem values_nodup_iff (s : Snapshot) :
    (s.filterOptions.map (·.value)).Nodup ↔
      (s.loggingNodes.map (·.nodeId)).Nodup ∧ ∀ result ∈ s.loggingNodes, ¬ isReserved result.nodeId := by
  have values : s.filterOptions.map (·.value) = filterAll :: filterWorkflow :: s.loggingNodes.map (·.nodeId) := by
    simp [filterOptions_eq, optionOf, Function.comp_def]
  have other : filterAll ≠ filterWorkflow := by decide
  rw [values]
  simp only [List.nodup_cons, List.mem_cons, List.mem_map, not_or, not_exists, not_and, isReserved]
  constructor
  · rintro ⟨⟨_, notAll⟩, notWorkflow, distinct⟩
    exact ⟨distinct, fun result member => ⟨notAll result member, notWorkflow result member⟩⟩
  · rintro ⟨distinct, free⟩
    exact ⟨⟨other, fun result member => (free result member).1⟩, fun result member => (free result member).2, distinct⟩

theorem tallied_of_distinct (distinct : (s.loggingNodes.map (·.nodeId)).Nodup) {result : NodeResult}
    (member : result ∈ s.loggingNodes) (free : ¬ isReserved result.nodeId) : Tallied s result := by
  obtain ⟨before, after, split⟩ := List.append_of_mem member
  rw [split, List.map_append, List.map_cons, List.nodup_middle, List.nodup_cons, ← List.map_append] at distinct
  have others : ∀ other ∈ before ++ after, ¬ other.nodeId = result.nodeId :=
    fun other among same => distinct.1 (List.mem_map.mpr ⟨other, among, same⟩)
  refine ⟨fun _ => ?_, fun all => absurd (Or.inl all) free, fun workflow => absurd (Or.inr workflow) free⟩
  have none : ∀ rest : List NodeResult, (∀ other ∈ rest, other ∈ before ++ after) →
      rest.filter (·.nodeId = result.nodeId) = [] := by
    intro rest among
    exact List.filter_eq_nil_iff.mpr fun other m => by simpa using others other (among other m)
  rw [logging, split, List.filter_append, List.filter_cons_of_pos (by simp),
    none before fun _ => List.mem_append_left _, none after fun _ => List.mem_append_right _, List.nil_append]

/-- The menu of a snapshot: what it offers and counts, beside what its filters show. -/
structure Menu (s : Snapshot) : Prop where
  values : (s.filterOptions.map (·.value)).Nodup ↔
    (s.loggingNodes.map (·.nodeId)).Nodup ∧ ∀ result ∈ s.loggingNodes, ¬ isReserved result.nodeId
  counts : (∀ option ∈ s.filterOptions, option.count = (s.filtered option.value).length) ↔
    ∀ result ∈ s.loggingNodes, Tallied s result
  told : (s.filterOptions.map (·.value)).Nodup →
    ∀ option ∈ s.filterOptions, option.count = (s.filtered option.value).length
  shared : ∀ filter, ¬ isReserved filter →
    ((s.filterOptions.filter (·.value = filter)).map (·.count)).sum = (s.filtered filter).length
  total : ∃ all others, s.filterOptions = all :: others ∧ all.value = filterAll ∧
    all.count = (s.filtered filterAll).length ∧ (others.map (·.count)).sum = all.count
  others : ((s.filterOptions.filter (·.value ≠ filterAll)).map (·.count)).sum = (s.filtered filterAll).length ↔
    ∀ result ∈ s.loggingNodes, result.nodeId ≠ filterAll
  offered : ∀ filter, ¬ isReserved filter →
    ((∃ option ∈ s.filterOptions, option.value = filter) ↔ s.filtered filter ≠ [])

theorem counts_told_iff (s : Snapshot) :
    (∀ option ∈ s.filterOptions, option.count = (s.filtered option.value).length) ↔
      ∀ result ∈ s.loggingNodes, Tallied s result := by
  simp only [filterOptions_eq, List.forall_mem_cons, List.forall_mem_map, length_filtered_workflow, true_and]
  exact forall₂_congr fun result member => tallied_iff member

theorem sum_others (s : Snapshot) :
    ((s.filterOptions.filter (·.value ≠ filterAll)).map (·.count)).sum =
      s.logs.length + lineCount (s.loggingNodes.filter (·.nodeId ≠ filterAll)) := by
  have other : filterWorkflow ≠ filterAll := by decide
  rw [filterOptions_eq, List.filter_cons_of_neg (by simp), List.filter_cons_of_pos (by simpa using other),
    List.map_cons, List.sum_cons, List.filter_map, List.map_map]
  rfl

theorem menu_spec (s : Snapshot) : Menu s := by
  constructor
  · exact values_nodup_iff s
  · exact counts_told_iff s
  · intro distinct
    obtain ⟨nodes, free⟩ := (values_nodup_iff s).mp distinct
    exact (counts_told_iff s).mpr fun result member => tallied_of_distinct nodes member (free result member)
  · exact fun filter free => (counts_free free).trans (length_filtered_node s free).symm
  · refine ⟨_, _, filterOptions_eq s, rfl, rfl, ?_⟩
    rw [length_filtered_all]
    simp [optionOf, lineCount, Function.comp_def]
  · have none : lineCount (s.logging filterAll) = 0 ↔ ∀ result ∈ s.loggingNodes, result.nodeId ≠ filterAll := by
      rw [lineCount_eq_zero logging_lines, logging, List.filter_eq_nil_iff]
      simp
    rw [← none, sum_others, length_filtered_all, lineCount_split s.loggingNodes filterAll, logging]
    omega
  · intro filter free
    rw [mem_filterOptions_free free, ← List.length_pos_iff, ← List.length_pos_iff, length_filtered_node s free,
      Nat.pos_iff_ne_zero, Nat.pos_iff_ne_zero, ne_eq, ne_eq, lineCount_eq_zero logging_lines, List.length_eq_zero_iff]

/-- A node that is reported twice is offered twice, and each of its options counts one of the two lines that
its filter shows. -/
theorem repetition_miscounted :
    let s := finishedRun [] [finished "a" ["first"], finished "a" ["second"]]
    Snapshot.read none (.text
        "\x7b\"status\": \"success\", \"nodes\": [\x7b\"nodeId\": \"a\", \"status\": \"success\", \"logs\": [\"first\"]\x7d, \x7b\"nodeId\": \"a\", \"status\": \"success\", \"logs\": [\"second\"]\x7d]\x7d") = .ok s ∧
      ¬ (s.filterOptions.map (·.value)).Nodup ∧
      ⟨"a", "Node a (1)", 1⟩ ∈ s.filterOptions ∧ (s.filtered "a").length = 2 := by
  decide +kernel

end Snapshot

end WorkflowRuns
