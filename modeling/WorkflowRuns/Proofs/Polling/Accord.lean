import Mathlib.Algebra.Order.Archimedean.Basic
import Mathlib.Data.Rat.Floor
import Mathlib.Logic.Relation
import WorkflowRuns.Proofs.Polling.Company

/-!
Following a run with frames and following it without them.  Both take the steps of the machine without
onlookers, and both come to their end exactly if that machine comes to the end of its loop; so they agree
on all that happens until then.
-/

namespace WorkflowRuns

def Event.request? : Event → Option Request
  | .request sent => some sent
  | _ => none

namespace Machine

open Poller (Paces)

variable {σ : Type} {c : Config} {runId : String}

def requests (m : Machine σ) : List (Instant × Request) :=
  m.history.filterMap fun entry => entry.2.request?.map (Prod.mk entry.1)

theorem requests_deserted (m : Machine σ) : m.deserted.requests = m.requests := by
  have unsent : ∀ event : Event, event.isSight = true → event.request? = none := by
    intro event sight
    cases event <;> first | rfl | cases sight
  unfold requests history deserted
  rw [← List.filter_reverse, List.filterMap_filter]
  congr 1
  funext ⟨time, event⟩
  cases sight : event.isSight with
  | true => simp [unsent event sight]
  | false => simp

def Steps (service : Source σ) : Machine σ → Machine σ → Prop :=
  Relation.ReflTransGen fun m n => m.step? service none = some n

theorem Steps.total {service : Source σ} {b first second : Machine σ} (one : Steps service b first)
    (other : Steps service b second) : Steps service first second ∨ Steps service second first :=
  Relation.ReflTransGen.total_of_right_unique
    (fun _ _ _ left right => Option.some.inj (left.symm.trans right)) one other

section

variable {m n b after first second : Machine Service}

/-- The machine follows the run, and there are no onlookers. -/
structure Alone (c : Config) (runId : String) (b : Machine Service) : Prop extends Attends c runId b where
  deserted : b.deserted = b

namespace Alone

theorem step (alone : Alone c runId b) (paces : Paces c) (stepped : b.step? Source.service none = some after) :
    Alone c runId after :=
  ⟨alone.toAttends.step paces stepped, deserted_step service_unseen alone.unwatched alone.deserted stepped⟩

theorem steps (alone : Alone c runId b) (paces : Paces c) (steps : Steps Source.service b after) :
    Alone c runId after := by
  induction steps with
  | refl => exact alone
  | tail _ stepped ih => exact ih.step paces stepped

theorem step_inactive (alone : Alone c runId b) (inactive : b.poller.isActive = false)
    (stepped : b.step? Source.service none = some after) :
    after.poller = b.poller ∧ after.nodes = b.nodes ∧ after.trace = b.trace := by
  obtain ⟨job, upcoming⟩ := upcoming_of_step? stepped
  have other := looksOn_deserted alone.deserted upcoming
  rcases step?_upcoming stepped upcoming with ⟨passes, rest, queue, rfl⟩ | ⟨rest, queue, rfl⟩ |
    ⟨timer, rfl, queue, first, rfl⟩
  · exact ⟨rfl, rfl, rfl⟩
  · obtain ⟨suits, popped⟩ := alone.suits_queued queue
    rw [popped.runJob_inactive inactive suits other]
    exact ⟨rfl, rfl, rfl⟩
  · rw [fire_spec, alone.roused_inactive inactive]
    exact ⟨rfl, rfl, rfl⟩

theorem steps_inactive (alone : Alone c runId b) (paces : Paces c) (inactive : b.poller.isActive = false)
    (steps : Steps Source.service b after) :
    after.poller = b.poller ∧ after.nodes = b.nodes ∧ after.trace = b.trace := by
  induction steps with
  | refl => exact ⟨rfl, rfl, rfl⟩
  | tail before stepped ih =>
      obtain ⟨poller, nodes, trace⟩ := ih
      have rests := (alone.steps paces before).step_inactive (by rw [poller]; exact inactive) stepped
      exact ⟨rests.1.trans poller, rests.2.1.trans nodes, rests.2.2.trans trace⟩

end Alone

/-- All that is seen of a run that was followed. -/
structure Agree (m n : Machine Service) : Prop where
  poller : m.poller = n.poller
  nodes : m.nodes = n.nodes
  requests : m.requests = n.requests

theorem Alone.agree (alone : Alone c runId b) (paces : Paces c) (one : Steps Source.service b first)
    (other : Steps Source.service b second) (left : Crowded m first) (right : Crowded n second)
    (ended : m.poller.isActive = false) (rested : n.poller.isActive = false) : Agree m n := by
  have trace : ∀ {m b : Machine Service}, Crowded m b → b.requests = m.requests := by
    intro m b crowded
    rw [← requests_deserted m, ← crowded.same]
    rfl
  have nodes : ∀ {m b : Machine Service}, Crowded m b → b.nodes = m.nodes := fun crowded =>
    (congrArg Machine.nodes crowded.same).symm
  have along : ∀ {m b n after : Machine Service}, Alone c runId b → Crowded m b → Crowded n after →
      m.poller.isActive = false → Steps Source.service b after → Agree m n := by
    intro m b n after alone left right ended steps
    have same := alone.steps_inactive paces (by rw [left.poller]; exact ended) steps
    constructor
    · rw [← left.poller, ← right.poller, same.1]
    · rw [← nodes left, ← nodes right, same.2.1]
    · rw [← trace left, ← trace right]
      simp only [Machine.requests, history, same.2.2]
  -- One of the two ends comes first, and nothing that matters happens from there to the other.
  rcases one.total other with onward | back
  · exact along (alone.steps paces one) left right ended onward
  · have turned := along (alone.steps paces other) right left rested back
    exact ⟨turned.poller.symm, turned.nodes.symm, turned.requests.symm⟩

theorem Attends.crowded_run (attends : Attends c runId m) (paces : Paces c) (crowded : Crowded m b)
    (goal : Machine Service → Bool) (fuel : Nat) :
    ∃ after, Steps Source.service b after ∧ Crowded (m.run Source.service none goal fuel) after := by
  induction fuel generalizing m b with
  | zero => exact ⟨b, .refl, crowded⟩
  | succ fuel ih =>
      unfold Machine.run
      split
      · exact ⟨b, .refl, crowded⟩
      · split
        next n stepped =>
          have attended := attends.step paces stepped
          rcases crowded.step service_unseen attends.unwatched stepped with stays | ⟨after, advanced, ahead⟩
          · exact ih attended stays
          · obtain ⟨last, steps, around⟩ := ih attended ahead
            exact ⟨last, .head advanced steps, around⟩
        next => exact ⟨b, .refl, crowded⟩

end

end Machine

end WorkflowRuns
