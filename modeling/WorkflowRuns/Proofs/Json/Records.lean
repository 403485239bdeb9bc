import Mathlib.Data.List.Induction
import Mathlib.Data.List.Nodup
import WorkflowRuns.Value

/-!
Records of fields that are put under keys one after another.
-/

namespace WorkflowRuns.Fields

variable {κ α : Type} [DecidableEq κ] {fields entries : List (κ × α)} {key : κ} {value : α}

theorem any_key : (fields.any fun field => decide (field.1 = key)) = true ↔ key ∈ fields.map Prod.fst := by
  simp only [List.any_eq_true, decide_eq_true_eq, List.mem_map]

theorem put_new (absent : key ∉ fields.map Prod.fst) (value : α) : put fields key value = fields ++ [(key, value)] :=
  if_neg (mt any_key.mp absent)

theorem keys_put (fields : List (κ × α)) (key : κ) (value : α) :
    (put fields key value).map Prod.fst =
      if key ∈ fields.map Prod.fst then fields.map Prod.fst else fields.map Prod.fst ++ [key] := by
  by_cases present : key ∈ fields.map Prod.fst
  · rw [if_pos present, put, if_pos (any_key.mpr present), List.map_map]
    apply List.map_congr_left
    intro field _
    simp only [Function.comp]
    split
    next same => exact same.symm
    next => rfl
  · rw [if_neg present, put_new present, List.map_append]
    rfl

theorem mem_put {field : κ × α} (member : field ∈ put fields key value) : field = (key, value) ∨ field ∈ fields := by
  unfold put at member
  split at member
  · obtain ⟨before, old, rfl⟩ := List.mem_map.mp member
    split
    · exact .inl rfl
    · exact .inr old
  · rcases List.mem_append.mp member with old | last
    · exact .inr old
    · exact .inl (List.mem_singleton.mp last)

theorem nodup_put (distinct : (fields.map Prod.fst).Nodup) (key : κ) (value : α) :
    ((put fields key value).map Prod.fst).Nodup := by
  rw [keys_put]
  split
  next => exact distinct
  next absent => exact List.nodup_append_comm.mp (List.nodup_cons.mpr ⟨absent, distinct⟩)

theorem merge_append (entries : List (κ × α)) (last : κ × α) :
    merge (entries ++ [last]) = put (merge entries) last.1 last.2 := by
  simp [merge]

theorem mem_merge {field : κ × α} (member : field ∈ merge entries) : field ∈ entries := by
  induction entries using List.reverseRecOn with
  | nil => exact member
  | append_singleton entries last ih =>
      rw [merge_append] at member
      rcases mem_put member with new | old
      · exact List.mem_append_right _ (List.mem_singleton.mpr new)
      · exact List.mem_append_left _ (ih old)

theorem nodup_merge (entries : List (κ × α)) : ((merge entries).map Prod.fst).Nodup := by
  induction entries using List.reverseRecOn with
  | nil => exact List.nodup_nil
  | append_singleton entries last ih =>
      rw [merge_append]
      exact nodup_put ih last.1 last.2

theorem merge_of_nodup (distinct : (entries.map Prod.fst).Nodup) : merge entries = entries := by
  induction entries using List.reverseRecOn with
  | nil => rfl
  | append_singleton entries last ih =>
      rw [List.map_append, List.map_singleton, List.nodup_append_comm] at distinct
      obtain ⟨absent, distinct⟩ := List.nodup_cons.mp distinct
      rw [merge_append, ih distinct, put_new absent]

theorem merge_length (entries : List (κ × α)) : (merge entries).length ≤ entries.length := by
  induction entries using List.reverseRecOn with
  | nil => exact Nat.le_refl _
  | append_singleton entries last ih =>
      have keys := congrArg List.length (keys_put (merge entries) last.1 last.2)
      rw [merge_append, List.length_append, List.length_singleton]
      split at keys <;> simp only [List.length_map, List.length_append, List.length_singleton] at keys <;> omega

theorem merge_of_length (all : (merge entries).length = entries.length) : merge entries = entries := by
  induction entries using List.reverseRecOn with
  | nil => rfl
  | append_singleton entries last ih =>
      have keys := congrArg List.length (keys_put (merge entries) last.1 last.2)
      have short := merge_length entries
      rw [merge_append, List.length_append, List.length_singleton] at all
      rw [merge_append]
      split at keys
      next =>
        simp only [List.length_map] at keys
        omega
      next absent =>
        simp only [List.length_map, List.length_append, List.length_singleton] at keys
        rw [put_new absent, ih (by omega)]

end WorkflowRuns.Fields
