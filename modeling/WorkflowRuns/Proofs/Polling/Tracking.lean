import WorkflowRuns.Proofs.Polling.Deeds
import WorkflowRuns.Proofs.Polling.Solo

/-!
Why the polling of a run ends.  A run that is left to itself is underway until its loop has ended, and
there are three reasons for that: the run has ended, the connection is lost, or no delay can be computed.
-/

namespace WorkflowRuns.Poller

def Unsettled (s : Session) : Prop := ∀ snapshot, s.snapshot = some snapshot → snapshot.isTerminal = false

structure Underway (runId : String) (s : Session) : Prop where
  polling : s.isPolling = true
  tracked : s.runId = some runId
  unsettled : Unsettled s
  connected : s.connectionLost = false

inductive Concluded (c : Config) (s : Session) : Prop
  | finished {snapshot : Snapshot} (seen : s.snapshot = some snapshot) (terminal : snapshot.isTerminal = true)
      (connected : s.connectionLost = false)
  | lost (unsettled : Unsettled s) (lost : s.connectionLost = true)
  | stuck (unsettled : Unsettled s) (connected : s.connectionLost = false)
      (overflow : c.retryDelay? s.consecutiveFailures = none)

structure Ended (c : Config) (runId : String) (s : Session) : Prop where
  halted : s.isPolling = false
  tracked : s.runId = some runId
  concluded : Concluded c s

/-- A poller that was started once and then left to itself. -/
inductive Follows (c : Config) (runId : String) : Poller → Prop
  | resting {stage : Stage} (next : Nat) {s : Session}
      (stands : stage = .created ∨ stage = .sleeping ∨ stage = .waking) (underway : Underway runId s) :
      Follows c runId (solo c stage next [] s)
  | fetching (next id : Nat) {s : Session} (underway : Underway runId s) :
      Follows c runId (solo c .fetching next [ownFetch id runId] s)
  | deciding (next : Nat) {s : Session} (either : Underway runId s ∨ Ended c runId s) :
      Follows c runId (solo c .deciding next [] s)
  | retired (next : Nat) {s : Session} (ended : Ended c runId s) : Follows c runId (retired c next s)

variable {c : Config} {runId : String} {s : Session}

theorem underway_tracking (runId : String) : Underway runId (beginPolling (.tracking runId)) := by
  refine ⟨rfl, rfl, ?_, rfl⟩
  rintro _ ⟨⟩

theorem Underway.recorded (underway : Underway runId s) (outcome : Except Failure Snapshot) :
    Underway runId (recorded c s outcome) ∨ Ended c runId (recorded c s outcome) := by
  obtain ⟨polling, tracked, unsettled, connected⟩ := underway
  cases outcome with
  | ok snapshot =>
      cases terminal : snapshot.isTerminal with
      | false =>
          left
          refine ⟨by simp [Poller.recorded, polling, terminal], tracked, ?_, rfl⟩
          rintro _ ⟨⟩
          exact terminal
      | true =>
          right
          exact ⟨by simp [Poller.recorded, terminal], tracked, .finished rfl terminal rfl⟩
  | error failure =>
      by_cases last : c.maxFailures ≤ s.consecutiveFailures + 1
      · right
        exact ⟨by simp [Poller.recorded, last], tracked, .lost unsettled (by simp [Poller.recorded, last])⟩
      · left
        exact ⟨by simp [Poller.recorded, last, polling], tracked, unsettled,
          by simp [Poller.recorded, last, connected]⟩

/-- A poller is still followed, and a loop that ended is its last. -/
structure Keeps (c : Config) (runId : String) (change : Poller × List Signal) : Prop where
  follows : Follows c runId change.1
  ended : ∀ loop, .ended loop ∈ change.2 → change.1.isActive = false

theorem Follows.still {p : Poller} (follows : Follows c runId p) : Keeps c runId (p, []) :=
  ⟨follows, fun _ member => absurd member List.not_mem_nil⟩

theorem Follows.atRest {p : Poller} (follows : Follows c runId p) (inactive : p.isActive = false) :
    ∃ next s, p = Poller.retired c next s ∧ Ended c runId s := by
  cases follows with
  | retired next ended => exact ⟨next, _, rfl, ended⟩
  | _ =>
      rw [solo_isActive] at inactive
      cases inactive

section Solo

variable (next : Nat) (stage : Stage) (fetches : List Fetch)

theorem solo_drop (id : Nat) : (solo c stage next fetches s).drop id = (solo c stage next fetches s, []) := by
  rw [drop, solo_loop?]
  split
  next => rfl
  next l found =>
    have current : (solo c stage next fetches s).isCurrent l.generation = true := by
      split at found <;> cases found
      rfl
    rw [if_pos current]

theorem solo_enter_other {id : Nat} (other : id = 0 → stage ≠ .created ∧ stage ≠ .waking) :
    (solo c stage next fetches s).enter id = (solo c stage next fetches s, []) := by
  rw [enter, solo_loop?]
  by_cases first : id = 0
  · simp [first, other first]
  · simp [first]

theorem solo_decide_other {id : Nat} (other : id = 0 → stage ≠ .deciding) :
    (solo c stage next fetches s).decide id = (solo c stage next fetches s, []) := by
  rw [decide, solo_loop?]
  by_cases first : id = 0
  · simp [first, other first]
  · simp [first]

theorem solo_rouse_other {id : Nat} (other : id = 0 → stage ≠ .sleeping) :
    (solo c stage next fetches s).rouse id = solo c stage next fetches s := by
  have kept : ¬ (0 = id ∧ stage = .sleeping) := by
    rintro ⟨rfl, asleep⟩
    exact other rfl asleep
  simp [rouse, solo, isAsleep, kept]

end Solo

theorem Follows.enter {p : Poller} (follows : Follows c runId p) (id : Nat) : Keeps c runId (p.enter id) := by
  have still := follows.still
  cases follows with
  | @resting stage next s stands underway =>
      by_cases ready : id = 0 ∧ (stage = .created ∨ stage = .waking)
      · obtain ⟨rfl, ready⟩ := ready
        rw [solo_enter c next s ready underway.polling underway.tracked]
        exact ⟨.fetching (next + 1) next underway, by simp⟩
      · rw [solo_enter_other]
        · exact still
        · exact fun first => not_or.mp fun either => ready ⟨first, either⟩
  | fetching next fetch underway =>
      rw [solo_enter_other _ _ _ fun _ => ⟨by decide, by decide⟩]
      exact still
  | deciding next either =>
      rw [solo_enter_other _ _ _ fun _ => ⟨by decide, by decide⟩]
      exact still
  | retired next ended => exact still

/-- Where a delay can be computed it is positive. -/
def Paces (c : Config) : Prop := ∀ failures delay, c.retryDelay? failures = some delay → delay.le .zero = false

theorem keeps_ended (next : Nat) (ended : Ended c runId s) : Keeps c runId (retired c next s, [.ended 0]) :=
  ⟨.retired next ended, fun _ _ => retired_isActive ..⟩

theorem keeps_decide (paces : Paces c) (next : Nat) (either : Underway runId s ∨ Ended c runId s) :
    Keeps c runId ((solo c .deciding next [] s).decide 0) := by
  rcases either with underway | ended
  · obtain ⟨polling, tracked, unsettled, connected⟩ := underway
    cases computed : c.retryDelay? s.consecutiveFailures with
    | none =>
        rw [solo_decide_stuck c next s polling unsettled computed]
        have ended : Ended c runId { s with isPolling := false } :=
          ⟨rfl, tracked, .stuck unsettled connected computed⟩
        have left := keeps_ended next ended
        exact left
    | some delay =>
        rw [solo_decide_going c next s polling unsettled computed (paces _ _ computed)]
        exact ⟨.resting next (by simp) ⟨polling, tracked, unsettled, connected⟩, by simp⟩
  · rw [solo_decide_halted c next s ended.halted]
    exact keeps_ended next ended

theorem Follows.decide {p : Poller} (follows : Follows c runId p) (paces : Paces c) (id : Nat) :
    Keeps c runId (p.decide id) := by
  have still := follows.still
  cases follows with
  | resting next stands underway =>
      rw [solo_decide_other]
      · exact still
      · rintro _ rfl
        simp at stands
  | fetching next fetch underway =>
      rw [solo_decide_other _ _ _ fun _ => by decide]
      exact still
  | deciding next either =>
      by_cases first : id = 0
      · rw [first]
        exact keeps_decide paces next either
      · rw [solo_decide_other _ _ _ fun same => absurd same first]
        exact still
  | retired next ended => exact still

theorem Follows.rouse {p : Poller} (follows : Follows c runId p) (id : Nat) : Follows c runId (p.rouse id) := by
  have same := follows
  cases follows with
  | @resting stage next s stands underway =>
      by_cases asleep : id = 0 ∧ stage = .sleeping
      · obtain ⟨rfl, rfl⟩ := asleep
        rw [solo_rouse]
        exact .resting next (by simp) underway
      · rw [solo_rouse_other _ _ _ fun first sleeping => asleep ⟨first, sleeping⟩]
        exact same
  | fetching next fetch underway =>
      rw [solo_rouse_other _ _ _ fun _ => by decide]
      exact same
  | deciding next either =>
      rw [solo_rouse_other _ _ _ fun _ => by decide]
      exact same
  | retired next ended => exact same

theorem Follows.drop {p : Poller} (follows : Follows c runId p) (id : Nat) : Keeps c runId (p.drop id) := by
  have still := follows.still
  cases follows with
  | retired next ended => exact still
  | _ =>
      rw [solo_drop]
      exact still

theorem Follows.settle {p : Poller} (follows : Follows c runId p) {id : Nat} {f : Fetch}
    (outstanding : p.fetch? id = some f) (outcome : Except Failure Snapshot) :
    f.requester = .loop 0 ∧ Follows c runId (p.settle f outcome) := by
  cases follows with
  | fetching next fetch underway =>
      obtain ⟨member, _⟩ := fetch?_mem outstanding
      obtain rfl : f = ownFetch fetch runId := List.mem_singleton.mp member
      refine ⟨rfl, ?_⟩
      rw [solo_settle c next _ fetch runId outcome underway.polling]
      exact .deciding next (underway.recorded outcome)
  | _ => cases outstanding

end WorkflowRuns.Poller
