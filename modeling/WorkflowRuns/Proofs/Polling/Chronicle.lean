import WorkflowRuns.Proofs.Polling.Recurrence

/-!
What is seen of a machine as it takes step after step.
-/

namespace WorkflowRuns

variable {σ : Type}

namespace Machine

def asking (m : Machine σ) : List Mark :=
  match m.queue with
  | ⟨0, .ask id⟩ :: _ =>
      match m.poller.fetch? id with
      | some f => [.asked m.now f.runId]
      | none => []
  | _ => []

def marks (m n : Machine σ) : List Mark :=
  m.asking
    ++ (if n.poller.session.fetchCount = m.poller.session.fetchCount then []
      else [.settled n.now n.poller.session])
    ++ (if m.poller.isActive && !n.poller.isActive then [.ended n.now] else [])

/-- What is seen of so many steps. -/
def chronicle (service : Source σ) : Nat → Machine σ → List Mark
  | 0, _ => []
  | steps + 1, m =>
      match m.step? service none with
      | some n => m.marks n ++ chronicle service steps n
      | none => []

theorem step?_job (service : Source σ) {m : Machine σ} {job : Job} {rest : List Queued}
    (queued : m.queue = ⟨0, job⟩ :: rest) :
    m.step? service none = some (({ m with queue := rest } : Machine σ).runJob service job) := by
  simp [step?, queued]

theorem step?_pass (service : Source σ) {m : Machine σ} {passes : Nat} {job : Job} {rest : List Queued}
    (queued : m.queue = ⟨passes + 1, job⟩ :: rest) :
    m.step? service none = some (({ m with queue := rest } : Machine σ).push passes job) := by
  simp [step?, queued]

theorem step?_timer (service : Source σ) {m : Machine σ} {timer : Timer} (idle : m.queue = [])
    (next : earliest m.timers = some timer) : m.step? service none = some (m.fire timer) := by
  simp [step?, idle, next, isDue]

theorem step?_stuck (service : Source σ) {m : Machine σ} (idle : m.queue = []) (still : m.timers = []) :
    m.step? service none = none := by
  simp [step?, idle, still, earliest]

theorem chronicle_stuck {service : Source σ} {m : Machine σ} (stuck : m.step? service none = none)
    (steps : Nat) : m.chronicle service steps = [] := by
  cases steps <;> simp [chronicle, stuck]

theorem chronicle_grows (service : Source σ) (m : Machine σ) {few many : Nat} (le : few ≤ many) :
    m.chronicle service few <+: m.chronicle service many := by
  induction few generalizing m many with
  | zero => exact List.nil_prefix
  | succ few ih =>
      obtain ⟨rest, rfl⟩ : ∃ rest, many = rest + 1 := ⟨many - 1, by omega⟩
      simp only [chronicle]
      split
      next n _ => exact (List.prefix_append_right_inj _).mpr (ih n (by omega))
      next => exact List.prefix_rfl

def Passes (service : Source σ) (steps : Nat) (seen : List Mark) (m n : Machine σ) : Prop :=
  ∀ more, m.chronicle service (more + steps) = seen ++ n.chronicle service more

theorem passes_refl (service : Source σ) (m : Machine σ) : Passes service 0 [] m m := fun _ => rfl

theorem Passes.trans {service : Source σ} {m n o : Machine σ} {first second : Nat} {seen more : List Mark}
    (left : Passes service first seen m n) (right : Passes service second more n o) :
    Passes service (second + first) (seen ++ more) m o := by
  intro rest
  rw [← Nat.add_assoc, left, right, List.append_assoc]

theorem passes_step {service : Source σ} {m n : Machine σ} {seen : List Mark}
    (stepped : m.step? service none = some n) (shown : m.marks n = seen) : Passes service 1 seen m n := by
  intro more
  simp [chronicle, stepped, shown]

theorem marks_unseen {m n : Machine σ} (silent : m.asking = [])
    (session : n.poller.session.fetchCount = m.poller.session.fetchCount)
    (active : m.poller.isActive = true → n.poller.isActive = true) : m.marks n = [] := by
  cases before : m.poller.isActive with
  | false => simp [marks, silent, session, before]
  | true => simp [marks, silent, session, active before]

theorem passes_turn (service : Source σ) (passes : Nat) (job : Job) {m : Machine σ}
    (queued : m.queue = [⟨passes, job⟩]) :
    Passes service passes [] m { m with queue := [⟨0, job⟩] } := by
  induction passes generalizing m with
  | zero =>
      rw [← queued]
      exact passes_refl service m
  | succ passes ih =>
      have stepped := step?_pass service queued
      have unseen : m.marks (({ m with queue := [] } : Machine σ).push passes job) = [] := by
        apply marks_unseen
        · simp [asking, queued]
        · rfl
        · exact id
      exact (passes_step stepped unseen).trans (ih (m := ({ m with queue := [] } : Machine σ).push passes job) rfl)

end Machine

end WorkflowRuns
