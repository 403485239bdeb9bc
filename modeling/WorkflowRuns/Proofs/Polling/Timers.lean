import Mathlib.Algebra.Order.Ring.Rat
import WorkflowRuns.Machine

/-!
Timers.  The earliest one goes off, its job is queued, and all others are kept.
-/

namespace WorkflowRuns.Machine

variable {σ : Type}

theorem removeTimer_subset {due : Instant} {timers : List Timer} {timer : Timer}
    (kept : timer ∈ removeTimer due timers) : timer ∈ timers := by
  induction timers with
  | nil => cases kept
  | cons head tail ih =>
      unfold removeTimer at kept
      split at kept
      · exact List.mem_cons_of_mem _ kept
      · rcases List.mem_cons.mp kept with rfl | later
        · exact List.mem_cons_self
        · exact List.mem_cons_of_mem _ (ih later)

theorem earliest_none {timers : List Timer} (missing : earliest timers = none) : timers = [] := by
  cases timers with
  | nil => rfl
  | cons head tail =>
      unfold earliest at missing
      split at missing
      · cases missing
      · split at missing <;> cases missing

theorem earliest_cons {head timer : Timer} {tail : List Timer} (first : earliest (head :: tail) = some timer) :
    earliest tail = some timer ∧ timer.due < head.due ∨
      timer = head ∧ ∀ next, earliest tail = some next → head.due ≤ next.due := by
  unfold earliest at first
  cases later : earliest tail with
  | none =>
      rw [later] at first
      cases first
      exact Or.inr ⟨rfl, fun next found => nomatch found⟩
  | some next =>
      rw [later] at first
      by_cases sooner : next.due < head.due
      · simp only [sooner, if_true] at first
        cases first
        exact Or.inl ⟨rfl, sooner⟩
      · simp only [sooner, if_false] at first
        cases first
        refine Or.inr ⟨rfl, ?_⟩
        intro other found
        cases found
        exact not_lt.mp sooner

theorem earliest_le {timers : List Timer} {timer : Timer} (first : earliest timers = some timer) :
    ∀ other ∈ timers, timer.due ≤ other.due := by
  induction timers generalizing timer with
  | nil => cases first
  | cons head tail ih =>
      intro other member
      rcases earliest_cons first with ⟨later, sooner⟩ | ⟨same, least⟩
      · rcases List.mem_cons.mp member with rfl | behind
        · exact le_of_lt sooner
        · exact ih later other behind
      · rw [same]
        rcases List.mem_cons.mp member with rfl | behind
        · exact le_refl _
        · cases later : earliest tail with
          | none =>
              rw [earliest_none later] at behind
              cases behind
          | some next => exact (least next later).trans (ih later other behind)

theorem perm_removeTimer {timers : List Timer} {timer : Timer} (first : earliest timers = some timer) :
    (timer :: removeTimer timer.due timers).Perm timers := by
  induction timers generalizing timer with
  | nil => cases first
  | cons head tail ih =>
      rcases earliest_cons first with ⟨later, sooner⟩ | ⟨same, _⟩
      · rw [removeTimer, if_neg (ne_of_gt sooner)]
        exact (List.Perm.swap head timer _).trans ((ih later).cons head)
      · rw [same, removeTimer, if_pos rfl]

theorem earliest_mem {timers : List Timer} {timer : Timer} (first : earliest timers = some timer) :
    timer ∈ timers :=
  (perm_removeTimer first).subset List.mem_cons_self

theorem earliest_spec {timers : List Timer} {timer : Timer} (first : earliest timers = some timer) :
    (∀ other ∈ timers, timer.due ≤ other.due) ∧
      ∀ other ∈ timers, other = timer ∨ other ∈ removeTimer timer.due timers :=
  ⟨earliest_le first, fun _ member => List.mem_cons.mp ((perm_removeTimer first).symm.subset member)⟩

theorem earliest_split {timers : List Timer} {timer : Timer} (first : earliest timers = some timer) :
    ∃ before after, timers = before ++ timer :: after ∧ (∀ other ∈ before, timer.due < other.due) ∧
      ∀ other ∈ after, timer.due ≤ other.due := by
  induction timers generalizing timer with
  | nil => cases first
  | cons head tail ih =>
      have least := earliest_le first
      rcases earliest_cons first with ⟨later, sooner⟩ | ⟨rfl, _⟩
      · obtain ⟨before, after, rfl, above, behind⟩ := ih later
        exact ⟨head :: before, after, rfl, List.forall_mem_cons.mpr ⟨sooner, above⟩, behind⟩
      · exact ⟨[], tail, rfl, nofun, fun other member => least other (List.mem_cons_of_mem _ member)⟩

theorem earliest_of_split {before after : List Timer} {timer : Timer}
    (above : ∀ other ∈ before, timer.due < other.due) (behind : ∀ other ∈ after, timer.due ≤ other.due) :
    earliest (before ++ timer :: after) = some timer := by
  induction before with
  | nil =>
      rw [List.nil_append, earliest]
      cases next : earliest after with
      | none => rfl
      | some other => exact if_neg (not_lt.mpr (behind other (earliest_mem next)))
  | cons head tail ih =>
      obtain ⟨sooner, above⟩ := List.forall_mem_cons.mp above
      rw [List.cons_append, earliest, ih above]
      exact if_pos sooner

theorem removeTimer_split {before : List Timer} {timer : Timer} (above : ∀ other ∈ before, timer.due < other.due)
    (after : List Timer) : removeTimer timer.due (before ++ timer :: after) = before ++ after := by
  induction before with
  | nil => exact if_pos rfl
  | cons head tail ih =>
      obtain ⟨sooner, above⟩ := List.forall_mem_cons.mp above
      rw [List.cons_append, removeTimer, if_neg (ne_of_gt sooner), ih above, List.cons_append]

theorem earliest_filter {timers : List Timer} {timer : Timer} (first : earliest timers = some timer)
    (keep : Timer → Bool) (kept : keep timer = true) :
    earliest (timers.filter keep) = some timer ∧
      removeTimer timer.due (timers.filter keep) = (removeTimer timer.due timers).filter keep := by
  obtain ⟨before, after, rfl, above, behind⟩ := earliest_split first
  have later : ∀ other ∈ before.filter keep, timer.due < other.due :=
    fun other member => above other (List.mem_filter.mp member).1
  have rest : ∀ other ∈ after.filter keep, timer.due ≤ other.due :=
    fun other member => behind other (List.mem_filter.mp member).1
  rw [List.filter_append, List.filter_cons_of_pos kept, removeTimer_split above, removeTimer_split later,
    List.filter_append]
  exact ⟨earliest_of_split later rest, rfl⟩

theorem removeTimer_filter {timers : List Timer} {timer : Timer} (first : earliest timers = some timer)
    (keep : Timer → Bool) (dropped : keep timer = false) :
    (removeTimer timer.due timers).filter keep = timers.filter keep := by
  obtain ⟨before, after, rfl, above, _⟩ := earliest_split first
  rw [removeTimer_split above, List.filter_append, List.filter_append,
    List.filter_cons_of_neg (Bool.eq_false_iff.mp dropped)]

def roused (p : Poller) : Job → Poller
  | .enter loop => p.rouse loop
  | _ => p

theorem fire_spec (m : Machine σ) (timer : Timer) :
    m.fire timer = { m with
      now := timer.due
      poller := roused m.poller timer.job
      queue := m.queue ++ [⟨timer.passes, timer.job⟩]
      timers := removeTimer timer.due m.timers } := by
  cases job : timer.job <;> simp [Machine.fire, roused, job, push]

end WorkflowRuns.Machine
