import WorkflowRuns.Proofs.Json.Numbers
import WorkflowRuns.Proofs.Log.Partition

/-!
The keys of log lines.  A key is read from its ends: its first letter tells the source and what follows its
last dash the position, so that all in between is the node's id.  Only the empty id is written like another.
-/

namespace WorkflowRuns

theorem eq_of_dashed {first second x y : List Char} (plain : '-' ∉ x) (plain' : '-' ∉ y)
    (same : first ++ '-' :: x = second ++ '-' :: y) : first = second ∧ x = y := by
  rcases List.append_eq_append_iff.mp same with ⟨between, rfl, rest⟩ | ⟨between, rfl, rest⟩
  all_goals
    cases between with
    | nil => simp_all
    | cons c between =>
        obtain ⟨rfl, rfl⟩ := List.cons.inj rest
        simp at plain plain'

theorem toString_toList (n : Nat) : (toString n).toList = Nat.toDigits 10 n := by
  simp [toString, Nat.repr]

theorem undashed_toString (n : Nat) : '-' ∉ (toString n).toList := by
  intro dash
  rw [toString_toList] at dash
  exact absurd (Text.toDigits_digits n '-' dash) (by decide)

namespace LogEntry

theorem key_toList (entry : LogEntry) :
    entry.key.toList =
      entry.source.word.toList ++ '-' :: (entry.keyId.toList ++ '-' :: (toString entry.position).toList) := by
  simp [key]

theorem key_eq_iff (a b : LogEntry) :
    a.key = b.key ↔ a.source = b.source ∧ a.keyId = b.keyId ∧ a.position = b.position := by
  constructor
  · intro same
    have chars := congrArg String.toList same
    rw [key_toList, key_toList] at chars
    have source : a.source = b.source := by
      have initial := congrArg List.head? chars
      revert initial
      cases a.source <;> cases b.source <;> simp [LogSource.word]
    rw [source, List.append_cancel_left_eq, List.cons_inj_right] at chars
    obtain ⟨id, position⟩ := eq_of_dashed (undashed_toString _) (undashed_toString _) chars
    rw [toString_toList, toString_toList] at position
    have number := congrArg Text.natOfDigits position
    rw [Text.natOfDigits_toDigits, Text.natOfDigits_toDigits] at number
    exact ⟨source, String.toList_inj.mp id, number⟩
  · rintro ⟨source, id, position⟩
    rw [key, key, source, id, position]

end LogEntry

def NodeResult.keyId (result : NodeResult) : String := if result.nodeId = "" then "workflow" else result.nodeId

theorem keyId_numbered {source : LogSource} {nodeId : Option String} {lines : List String} {entry : LogEntry}
    (member : entry ∈ numbered source nodeId lines) :
    entry.source = source ∧ entry.keyId = LogEntry.keyId ⟨source, "", 0, nodeId⟩ := by
  obtain ⟨own, named⟩ := mem_numbered member
  exact ⟨own, by simp only [LogEntry.keyId, named]⟩

theorem keys_numbered (source : LogSource) (nodeId : Option String) (lines : List String) :
    (numbered source nodeId lines).Pairwise fun a b => a.key ≠ b.key := by
  have positions : ((numbered source nodeId lines).map (·.position)).Nodup := by
    rw [numbered_positions]
    exact List.nodup_range
  rw [List.nodup_iff_pairwise_ne, List.pairwise_map] at positions
  exact positions.imp fun other same => other ((LogEntry.key_eq_iff _ _).mp same).2.2

namespace Snapshot

theorem keys_apart_iff (first second : NodeResult) :
    (∀ a ∈ nodeEntries first, ∀ b ∈ nodeEntries second, a.key ≠ b.key) ↔
      (first.logs ≠ [] → second.logs ≠ [] → first.keyId ≠ second.keyId) := by
  constructor
  · intro apart present present' alike
    obtain ⟨line, rest, lines⟩ := List.exists_cons_of_ne_nil present
    obtain ⟨line', rest', lines'⟩ := List.exists_cons_of_ne_nil present'
    refine apart ⟨.node, line, 0, some first.nodeId⟩ ?_ ⟨.node, line', 0, some second.nodeId⟩ ?_ ?_
    · simp [nodeEntries, numbered, lines]
    · simp [nodeEntries, numbered, lines']
    · exact (LogEntry.key_eq_iff _ _).mpr ⟨rfl, alike, rfl⟩
  · intro apart a inFirst b inSecond same
    have alike := ((LogEntry.key_eq_iff a b).mp same).2.1
    rw [(keyId_numbered inFirst).2, (keyId_numbered inSecond).2] at alike
    refine apart ?_ ?_ alike
    · exact fun none => List.ne_nil_of_mem inFirst ((numbered_eq_nil_iff _ _ _).mpr none)
    · exact fun none => List.ne_nil_of_mem inSecond ((numbered_eq_nil_iff _ _ _).mpr none)

theorem keys_nodup_iff (s : Snapshot) :
    ((s.filtered filterAll).map LogEntry.key).Nodup ↔ (s.loggingNodes.map NodeResult.keyId).Nodup := by
  have sources : ∀ a ∈ s.workflowEntries, ∀ b ∈ s.results.flatMap nodeEntries, a.key ≠ b.key := by
    intro a ofWorkflow b ofNodes same
    obtain ⟨result, _, ofNode⟩ := List.mem_flatMap.mp ofNodes
    have source := ((LogEntry.key_eq_iff a b).mp same).1
    rw [(mem_numbered ofWorkflow).1, (mem_numbered ofNode).1] at source
    cases source
  have nodes : (s.results.flatMap nodeEntries).Pairwise (fun a b => a.key ≠ b.key) ↔
      s.results.Pairwise fun first second =>
        first.logs ≠ [] → second.logs ≠ [] → first.keyId ≠ second.keyId := by
    simp only [List.pairwise_flatMap, keys_apart_iff]
    exact and_iff_right fun result _ => keys_numbered _ _ _
  rw [filtered_all, List.nodup_iff_pairwise_ne, List.pairwise_map, List.pairwise_append, nodes,
    List.nodup_iff_pairwise_ne, List.pairwise_map, loggingNodes, List.pairwise_filter]
  simp only [Bool.not_eq_true', List.isEmpty_eq_false_iff]
  exact ⟨fun keys => keys.2.1, fun apart => ⟨keys_numbered _ _ _, apart, sources⟩⟩

def HasLines (s : Snapshot) (id : String) : Prop := ∃ result ∈ s.loggingNodes, result.nodeId = id

/-- Among nodes with ids of their own, only the empty id and the word for the workflow are written alike. -/
theorem keys_unique_iff {s : Snapshot} (distinct : (s.results.map (·.nodeId)).Nodup) :
    ((s.filtered filterAll).map LogEntry.key).Nodup ↔ ¬ (s.HasLines "" ∧ s.HasLines "workflow") := by
  have others : (s.loggingNodes.map (·.nodeId)).Nodup := distinct.sublist (List.filter_sublist.map _)
  rw [keys_nodup_iff]
  constructor
  · rintro unlike ⟨⟨empty, member, named⟩, word, member', named'⟩
    have alike : empty.keyId = word.keyId := by simp [NodeResult.keyId, named, named']
    rw [List.inj_on_of_nodup_map unlike member member' alike] at named
    exact absurd (named.symm.trans named') (by decide)
  · intro apart
    rw [List.nodup_iff_pairwise_ne, List.pairwise_map] at others ⊢
    refine others.imp_of_mem fun {first second} member member' other alike => ?_
    unfold NodeResult.keyId at alike
    split_ifs at alike with empty empty'
    · exact other (empty.trans empty'.symm)
    · exact apart ⟨⟨first, member, empty⟩, second, member', alike.symm⟩
    · exact apart ⟨⟨second, member', ‹_›⟩, first, member, alike⟩
    · exact other alike

theorem keys_unique_dashed :
    let s := finishedRun ["begun"] [finished "" ["x"], finished "a" ["y", "z"], finished "a-0" ["w"], finished "all" ["v"]]
    (s.results.map (·.nodeId)).Nodup ∧ ((s.filtered filterAll).map LogEntry.key).Nodup := by
  refine ⟨by decide, (keys_unique_iff (by decide)).mpr ?_⟩
  simp [HasLines, loggingNodes, finishedRun, finished]

/-- The first lines of the node with the empty id and of the node "workflow" have the same key. -/
theorem key_shared :
    let s := finishedRun [] [finished "" ["first"], finished "workflow" ["second"]]
    Snapshot.read none (.text
        "\x7b\"status\": \"success\", \"nodes\": [\x7b\"nodeId\": \"\", \"status\": \"success\", \"logs\": [\"first\"]\x7d, \x7b\"nodeId\": \"workflow\", \"status\": \"success\", \"logs\": [\"second\"]\x7d]\x7d") = .ok s ∧
      (s.results.map (·.nodeId)).Nodup ∧
      (s.filtered filterAll).map LogEntry.key = ["node-workflow-0", "node-workflow-0"] := by
  decide +kernel

end Snapshot

end WorkflowRuns
