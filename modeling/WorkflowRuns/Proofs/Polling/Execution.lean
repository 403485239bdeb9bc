import WorkflowRuns.Proofs.Polling.Deeds
import WorkflowRuns.Proofs.Polling.Lifecycle

/-!
Executions of machines.  Whatever happens to a machine, its poller ends up where the moves among its
deeds take it, and its nodes are what the deeds make of them.
-/

namespace WorkflowRuns

namespace Machine

variable {σ : Type}

theorem Does.poller {m n : Machine σ} {deeds : List Deed} (does : Does m deeds n) :
    n.poller = m.poller.after (deeds.map Deed.toMove) := by
  induction does with
  | beside beside => exact beside.poller
  | deed m deed _ => exact doing_poller m deed
  | trans _ _ first second => rw [second, first, List.map_append, Poller.after_append]

theorem Does.nodes {m n : Machine σ} {deeds : List Deed} (does : Does m deeds n) :
    n.nodes = deeds.foldl Deed.nodes m.nodes := by
  induction does with
  | beside beside => exact beside.nodes
  | deed m deed _ => exact doing_nodes m deed
  | trans _ _ first second => rw [second, first, List.foldl_append]

theorem Does.now {m n : Machine σ} {deeds : List Deed} (does : Does m deeds n) : n.now = m.now := by
  induction does with
  | beside beside => exact beside.now
  | deed m deed _ => exact doing_now m deed
  | trans _ _ first second => rw [second, first]

theorem Does.watcher {m n : Machine σ} {deeds : List Deed} (does : Does m deeds n) : n.watcher = m.watcher := by
  induction does with
  | beside beside => exact beside.watcher
  | deed m deed _ => exact doing_watcher m deed
  | trans _ _ first second => rw [second, first]

/-- A step is a job that waits its turn, a job that runs, or a timer that goes off. -/
theorem step?_cases {service : Source σ} {horizon : Option Instant} {m n : Machine σ}
    (stepped : m.step? service horizon = some n) :
    (∃ passes job rest, m.queue = ⟨passes + 1, job⟩ :: rest ∧
        n = ({ m with queue := rest } : Machine σ).push passes job) ∨
      (∃ job rest, m.queue = ⟨0, job⟩ :: rest ∧
        n = ({ m with queue := rest } : Machine σ).runJob service job) ∨
      ∃ timer, m.queue = [] ∧ earliest m.timers = some timer ∧ n = m.fire timer := by
  unfold step? at stepped
  cases queue : m.queue with
  | cons next rest =>
      obtain ⟨passes, job⟩ := next
      rw [queue] at stepped
      cases passes with
      | zero =>
          cases stepped
          exact Or.inr (Or.inl ⟨job, rest, rfl, rfl⟩)
      | succ passes =>
          cases stepped
          exact Or.inl ⟨passes, job, rest, rfl, rfl⟩
  | nil =>
      rw [queue] at stepped
      cases first : earliest m.timers with
      | none =>
          rw [first] at stepped
          cases stepped
      | some timer =>
          rw [first] at stepped
          simp only at stepped
          split at stepped
          · cases stepped
            exact Or.inr (Or.inr ⟨timer, rfl, rfl, rfl⟩)
          · cases stepped

theorem fire_poller (m : Machine σ) (timer : Timer) :
    (m.fire timer).poller = m.poller.after ((rousing timer.job).map Deed.toMove) := by
  unfold fire
  cases timer.job <;> rfl

theorem fire_nodes (m : Machine σ) (timer : Timer) :
    (m.fire timer).nodes = (rousing timer.job).foldl Deed.nodes m.nodes := by
  unfold fire
  cases timer.job <;> rfl

theorem step_poller {service : Source σ} {horizon : Option Instant} {m n : Machine σ}
    (stepped : m.step? service horizon = some n) :
    n.poller = m.poller.after ((m.stepDeeds service).map Deed.toMove) := by
  rcases step?_cases stepped with ⟨passes, job, rest, queue, rfl⟩ | ⟨job, rest, queue, rfl⟩ |
    ⟨timer, queue, first, rfl⟩
  · simp only [stepDeeds, queue]
    rfl
  · simp only [stepDeeds, queue]
    exact (does_runJob service { m with queue := rest } job).poller
  · simp only [stepDeeds, queue, first]
    exact fire_poller m timer

theorem step_nodes {service : Source σ} {horizon : Option Instant} {m n : Machine σ}
    (stepped : m.step? service horizon = some n) :
    n.nodes = (m.stepDeeds service).foldl Deed.nodes m.nodes := by
  rcases step?_cases stepped with ⟨passes, job, rest, queue, rfl⟩ | ⟨job, rest, queue, rfl⟩ |
    ⟨timer, queue, first, rfl⟩
  · simp only [stepDeeds, queue]
    rfl
  · simp only [stepDeeds, queue]
    exact (does_runJob service { m with queue := rest } job).nodes
  · simp only [stepDeeds, queue, first]
    exact fire_nodes m timer

theorem step_watcher {service : Source σ} {horizon : Option Instant} {m n : Machine σ}
    (stepped : m.step? service horizon = some n) : n.watcher = m.watcher := by
  rcases step?_cases stepped with ⟨passes, job, rest, queue, rfl⟩ | ⟨job, rest, queue, rfl⟩ |
    ⟨timer, queue, first, rfl⟩
  · rfl
  · exact (does_runJob service { m with queue := rest } job).watcher
  · unfold fire
    cases timer.job <;> rfl

/-- What can happen to a machine: a command, its next step, a fetch that is given up, or that time
passes while nothing is to be done. -/
inductive Act (σ : Type)
  | obey (command : Command σ)
  | step
  | cancel (fetch : Nat)
  | rest (instant : Instant)

/-- Nothing is queued, and no timer goes off before the instant. -/
def rests (m : Machine σ) (instant : Instant) : Bool :=
  m.queue.isEmpty && m.timers.all fun timer => instant ≤ timer.due

def act (service : Source σ) (m : Machine σ) : Act σ → Machine σ
  | .obey command => m.obey command
  | .step => (m.step? service none).getD m
  | .cancel fetch => m.cancel fetch
  | .rest instant => if m.rests instant then { m with now := instant } else m

def actDeeds (service : Source σ) (m : Machine σ) : Act σ → List Deed
  | .obey command => command.deeds
  | .step => m.stepDeeds service
  | .cancel fetch => [.move (.cancel fetch)]
  | .rest _ => []

def acting (service : Source σ) (m : Machine σ) (acts : List (Act σ)) : Machine σ := acts.foldl (act service) m

def record (service : Source σ) : Machine σ → List (Act σ) → List (Instant × Deed)
  | _, [] => []
  | m, first :: rest =>
      (m.actDeeds service first).map (Prod.mk (m.act service first).now)
        ++ record service (m.act service first) rest

theorem stepDeeds_none {service : Source σ} {m : Machine σ} (stuck : m.step? service none = none) :
    m.stepDeeds service = [] := by
  unfold step? at stuck
  unfold stepDeeds
  cases queue : m.queue with
  | cons next rest =>
      rw [queue] at stuck
      obtain ⟨passes, job⟩ := next
      cases passes <;> cases stuck
  | nil =>
      rw [queue] at stuck
      cases first : earliest m.timers with
      | none => rfl
      | some timer =>
          rw [first] at stuck
          cases stuck

theorem act_does (service : Source σ) (m : Machine σ) (act : Act σ) :
    (m.act service act).poller = m.poller.after ((m.actDeeds service act).map Deed.toMove) ∧
      (m.act service act).nodes = (m.actDeeds service act).foldl Deed.nodes m.nodes := by
  cases act with
  | obey command =>
      have does := does_obey m command
      exact ⟨does.poller, does.nodes⟩
  | step =>
      cases stepped : m.step? service none with
      | none =>
          simp only [Machine.act, actDeeds, stepped, stepDeeds_none stepped]
          exact ⟨rfl, rfl⟩
      | some n =>
          simp only [Machine.act, actDeeds, stepped]
          exact ⟨step_poller stepped, step_nodes stepped⟩
  | cancel fetch =>
      have does := does_cancel m fetch
      exact ⟨does.poller, does.nodes⟩
  | rest instant =>
      simp only [Machine.act, actDeeds]
      split <;> exact ⟨rfl, rfl⟩

def moves (log : List (Instant × Deed)) : List Poller.Move := log.map fun entry => entry.2.toMove

theorem acting_poller (service : Source σ) (m : Machine σ) (acts : List (Act σ)) :
    (m.acting service acts).poller = m.poller.after (moves (m.record service acts)) := by
  induction acts generalizing m with
  | nil => rfl
  | cons head tail ih =>
      have first := (act_does service m head).1
      have rest := ih (m.act service head)
      rw [first, ← Poller.after_append] at rest
      have joined : moves (m.record service (head :: tail)) =
          (m.actDeeds service head).map Deed.toMove ++ moves ((m.act service head).record service tail) := by
        simp [record, moves, Function.comp_def]
      rw [joined]
      exact rest

theorem acting_nodes (service : Source σ) (m : Machine σ) (acts : List (Act σ)) :
    (m.acting service acts).nodes =
      ((m.record service acts).map Prod.snd).foldl Deed.nodes m.nodes := by
  induction acts generalizing m with
  | nil => rfl
  | cons head tail ih =>
      have first := (act_does service m head).2
      have rest := ih (m.act service head)
      rw [first, ← List.foldl_append] at rest
      have joined : (m.record service (head :: tail)).map Prod.snd =
          m.actDeeds service head ++ ((m.act service head).record service tail).map Prod.snd := by
        simp [record, Function.comp_def]
      rw [joined]
      exact rest

end Machine

end WorkflowRuns
