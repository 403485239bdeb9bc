import WorkflowRuns.Proofs.Graph.Duration
import WorkflowRuns.Proofs.Schema.Agreement
import WorkflowRuns.Proofs.Snapshot.Reading

/-!
The numbers of a snapshot that is read from a text have few enough digits to be spelled.
-/

namespace WorkflowRuns

namespace Schema

open Json (Proper Writable)

variable {fields : Fields} {wire plain : String}

theorem writable_of_defaulted {n : Int} (document : Proper (.record fields))
    (accepted : defaulted fields wire plain 0 integer = .accepted n) : Writable n := by
  rcases accepted_of_defaulted accepted with rfl | ⟨_, value, member, read⟩
  · exact Json.writable_zero
  · exact writable_of_integer (Json.properFields_iff.mp document.1 _ member).2 read

theorem writable_of_nullable {n : Int} (document : Proper (.record fields))
    (accepted : defaulted fields wire plain none (nullable integer) = .accepted (some n)) : Writable n := by
  rcases accepted_of_defaulted accepted with absent | ⟨_, value, member, read⟩
  · cases absent
  · have given : value ≠ .null := by
      rintro rfl
      cases read
    rw [nullable] at read
    · obtain ⟨m, taken, same⟩ := accepted_of_map read
      cases same
      exact writable_of_integer (Json.properFields_iff.mp document.1 _ member).2 taken
    · exact given

end Schema

namespace Snapshot

open Schema
open Json (Proper Writable)

/-- All integers that are shown of a run may be written. -/
structure Spellable (s : Snapshot) : Prop where
  startedAt : ∀ n, s.startedAt = some n → Writable n
  endedAt : ∀ n, s.endedAt = some n → Writable n
  duration : Writable s.duration
  declaredNodes : ∀ n, s.declaredNodes = some n → Writable n
  results : ∀ r ∈ s.results, Writable r.timestamp ∧ Writable r.duration

theorem nodeResult_spellable {value : Value} {r : NodeResult} (document : Proper value)
    (accepted : nodeResult value = .accepted r) : Writable r.timestamp ∧ Writable r.duration := by
  cases value with
  | record fields =>
      have checks := entryChecks_of_accepted accepted
      exact ⟨writable_of_defaulted document checks.timestamp, writable_of_defaulted document checks.duration⟩
  | null | bool | int | float | text | list | foreign => cases accepted

theorem results_spellable {entries : List Value} {results : List NodeResult}
    (documents : ∀ entry ∈ entries, Proper entry)
    (each : List.Forall₂ (fun entry r => nodeResult entry = .accepted r) entries results) :
    ∀ r ∈ results, Writable r.timestamp ∧ Writable r.duration := by
  induction each with
  | nil => exact List.forall_mem_nil _
  | cons read _ ih =>
      rw [List.forall_mem_cons] at documents ⊢
      exact ⟨nodeResult_spellable documents.1 read, ih documents.2⟩

theorem ofFields_spellable {fields : Fields} {s : Snapshot} (document : Proper (.record fields))
    (accepted : ofFields fields = .accepted s) : s.Spellable := by
  have checks := checks_of_accepted accepted
  constructor
  case startedAt => exact fun n given => writable_of_nullable document (given ▸ checks.startedAt)
  case endedAt => exact fun n given => writable_of_nullable document (given ▸ checks.endedAt)
  case duration => exact writable_of_defaulted document checks.duration
  case declaredNodes => exact fun n given => writable_of_nullable document (given ▸ checks.declaredNodes)
  case results =>
    have listed := checks.results
    unfold required at listed
    split at listed
    next name value found =>
      have nodes := (Json.properFields_iff.mp document.1 _ (member_of_find? found)).2
      cases value with
      | list entries =>
          exact results_spellable (Json.properItems_iff.mp nodes) (accepted_of_items (accepted_of_under listed))
      | null | bool | int | float | text | record | foreign => cases listed
    next => cases listed

/-- No snapshot that is read from a text has an integer of too many digits. -/
theorem spellable_of_text {runId : Option String} {text : List Text.CodePoint} {s : Snapshot}
    (read : ofText runId text = .ok s) : s.Spellable := by
  unfold ofText at read
  split at read
  next v document =>
    obtain ⟨fields, plain, rfl, accepted, rfl⟩ := accepted_of_ofValue read
    have spellable := ofFields_spellable (Json.proper_of_read document) accepted
    unfold withRunId
    split
    next =>
      split
      · exact { spellable with }
      · exact spellable
    next => exact spellable
  next => cases read
  next => cases read

end Snapshot

end WorkflowRuns
