import Mathlib.Data.Rat.Floor
import WorkflowRuns.Progress

/-!
Completion in percent.  A run that has not ended in a success or an error shows the share of its finished
nodes, rounded to the nearest percent, and further results never lower it.
-/

namespace WorkflowRuns.Snapshot

theorem percent_eq_floor (finished total : Nat) (positive : 0 < total) :
    (percent finished total : ℤ) = ⌊(100 * finished / total : ℚ) + 1 / 2⌋ := by
  have nonzero : (total : ℚ) ≠ 0 := by exact_mod_cast positive.ne'
  have whole : (100 * finished / total : ℚ) + 1 / 2 = ((200 * finished + total : ℕ) : ℤ) / (2 * total : ℕ) := by
    push_cast
    field_simp
    ring
  rw [whole, Rat.floor_intCast_div_natCast]
  exact Int.natCast_div ..

theorem percent_mono {fewer more : Nat} (le : fewer ≤ more) (total : Nat) : percent fewer total ≤ percent more total :=
  Nat.div_le_div_right (by omega)

theorem isFinished_iff (result : NodeResult) :
    isFinished result = true ↔ result.status = .success ∨ result.status = .error := by
  unfold isFinished
  cases result.status <;> simp

theorem finishedCount_eq (s : Snapshot) :
    s.finishedCount = (s.results.filter fun result => result.status = .success ∨ result.status = .error).length := by
  rw [finishedCount, List.countP_eq_length_filter]
  congr 2
  funext result
  rw [Bool.eq_iff_iff, isFinished_iff, decide_eq_true_iff]

theorem progress_share {s : Snapshot} (unsuccessful : s.status ≠ .success) (unfailed : s.status ≠ .error)
    (some : 0 < s.totalNodes) : s.progress = min 100 (percent s.finishedCount s.totalNodes.toNat) := by
  have positive : ¬ s.totalNodes ≤ 0 := Int.not_le.mpr some
  unfold progress
  cases status : s.status with
  | success => exact absurd status unsuccessful
  | error => exact absurd status unfailed
  | running | skipped => simp only [positive, if_false]

theorem progress_none {s : Snapshot} (unsuccessful : s.status ≠ .success) (none : s.totalNodes ≤ 0) :
    s.progress = 0 := by
  unfold progress
  cases status : s.status with
  | success => exact absurd status unsuccessful
  | error => rfl
  | running | skipped => simp only [none, if_true]

theorem progress_declared {s : Snapshot} {total : Int} (running : s.status = .running)
    (declared : s.declaredNodes = some total) (positive : 0 < total) :
    s.progress = min 100 (percent s.finishedCount total.toNat) := by
  have counted : s.totalNodes = total := by
    simp only [totalNodes, declared, if_neg positive.ne']
  rw [← counted]
  apply progress_share
  · simp [running]
  · simp [running]
  · rwa [counted]

def withMore (s : Snapshot) (more : List NodeResult) : Snapshot := { s with results := s.results ++ more }

theorem finishedCount_withMore (s : Snapshot) (more : List NodeResult) :
    (s.withMore more).finishedCount = s.finishedCount + more.countP isFinished := List.countP_append

theorem progress_withMore {s : Snapshot} {total : Int} (running : s.status = .running)
    (declared : s.declaredNodes = some total) (positive : 0 < total) (more : List NodeResult) :
    s.progress ≤ (s.withMore more).progress := by
  have fewer : s.finishedCount ≤ (s.withMore more).finishedCount := by
    rw [finishedCount_withMore]
    omega
  calc
    s.progress = min 100 (percent s.finishedCount total.toNat) := progress_declared running declared positive
    _ ≤ min 100 (percent (s.withMore more).finishedCount total.toNat) :=
        min_le_min_left 100 (percent_mono fewer total.toNat)
    _ = (s.withMore more).progress := (progress_declared (s := s.withMore more) running declared positive).symm

/-- What the progress of a run tells. -/
structure Completion (s : Snapshot) : Prop where
  bounded : s.progress ≤ 100
  success : s.status = .success → s.progress = 100
  error : s.status = .error → s.progress = 0
  /-- Without a declared number, or with zero, the results are counted. -/
  total : s.totalNodes = if s.declaredNodes.getD 0 = 0 then (s.results.length : ℤ) else s.declaredNodes.getD 0
  nothing : s.status ≠ .success → s.status ≠ .error → s.totalNodes ≤ 0 → s.progress = 0
  /-- Of all nodes, those that ended in a success or an error. -/
  share : s.status ≠ .success → s.status ≠ .error → 0 < s.totalNodes →
    (s.progress : ℤ) = min 100 ⌊(100 * (s.results.filter fun result =>
      result.status = .success ∨ result.status = .error).length / s.totalNodes : ℚ) + 1 / 2⌋
  grows : s.status = .running → ∀ declared, s.declaredNodes = some declared → 0 < declared → ∀ more,
    s.progress ≤ (s.withMore more).progress

/-- The progress of a run is a percentage: all of a success, nothing of an error, and otherwise the share of
nodes that finished, rounded, which further results never lower. -/
theorem progress_completion (s : Snapshot) : Completion s := by
  constructor
  case bounded =>
    unfold progress
    split
    · exact le_refl 100
    · exact Nat.zero_le 100
    all_goals
      split
      · exact Nat.zero_le 100
      · exact Nat.min_le_left ..
  case success =>
    intro status
    rw [progress, status]
  case error =>
    intro status
    rw [progress, status]
  case total =>
    unfold totalNodes
    cases s.declaredNodes with
    | none => rfl
    | some declared => rfl
  case nothing => exact fun unsuccessful _ none => progress_none unsuccessful none
  case share =>
    intro unsuccessful unfailed some
    obtain ⟨total, whole⟩ := Int.eq_ofNat_of_zero_le some.le
    have positive : 0 < total := by omega
    rw [progress_share unsuccessful unfailed some, ← finishedCount_eq, whole, Int.toNat_natCast, Nat.cast_min,
      percent_eq_floor _ _ positive]
    rfl
  case grows => exact fun running _ declared positive more => progress_withMore running declared positive more

/-- One of eight nodes is twelve and a half percent. -/
example : percent 1 8 = 13 := by decide

end WorkflowRuns.Snapshot
