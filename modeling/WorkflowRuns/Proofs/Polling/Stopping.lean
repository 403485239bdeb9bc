import WorkflowRuns.Proofs.Polling.Agenda
import WorkflowRuns.Proofs.Polling.Halting

/-!
Stopping is final until the next start.  What is under way when polling stops comes to its end in time,
and nothing but a refresh begins anything new.
-/

namespace WorkflowRuns

namespace Machine

open Poller (Halted Still Fate Supersession)

variable {σ : Type}

/-- The job is done by then, if it is still to be done. -/
structure Due (m : Machine σ) (job : Job) (deadline : Instant) : Prop where
  now : m.now ≤ deadline
  waits : m.InQueue job ∨ ∃ timer ∈ m.timers, timer.job = job ∧ timer.due ≤ deadline

theorem Pending.due {m : Machine σ} {job : Job} (pending : m.Pending job) : ∃ deadline, Due m job deadline := by
  rcases pending with inside | ⟨timer, member, same⟩
  · exact ⟨m.now, le_refl _, Or.inl inside⟩
  · exact ⟨max m.now timer.due, le_max_left _ _, Or.inr ⟨timer, member, same, le_max_right _ _⟩⟩

theorem settle_gone {m : Machine σ} (sound : m.poller.Sound) {f : Fetch} (outstanding : f ∈ m.poller.fetches)
    (answer : Answer) : f ∉ (m.settle f.id fun g => m.poller.outcome g answer).poller.fetches := by
  intro again
  have found := sound.flight.fetch?_of_mem outstanding
  have does := (does_settle m f.id answer).poller
  simp only [settling, found, List.map_cons, Deed.toMove] at does
  rw [does] at again
  have settled := sound.move (.settle f.id answer)
  have older : f.id < (m.poller.move (.settle f.id answer)).nextFetch :=
    Nat.lt_of_lt_of_le (sound.flight.known f outstanding) (sound.traffic _).onward.next
  exact Poller.served_move sound.loops (.settle f.id answer) (.settle ((settled.onward_after _).old f again older))

theorem Does.due {m n : Machine σ} {deeds : List Deed} (does : Does m deeds n) (sound : m.poller.Sound) {f : Fetch}
    (old : f ∈ m.poller.fetches) (outstanding : f ∈ n.poller.fetches) {job : Job}
    (concerns : job.concerns f.id = true) {deadline : Instant} (due : Due m job deadline) : Due n job deadline := by
  refine ⟨by rw [does.now]; exact due.now, ?_⟩
  rcases due.waits with ⟨passes, member⟩ | ⟨timer, member, rfl, before⟩
  · exact Or.inl ⟨passes, does.queue _ member⟩
  · exact Or.inr ⟨timer, does.timer sound outstanding (sound.flight.known f old) member concerns, rfl, before⟩

theorem Due.runJob {service : Source σ} {m : Machine σ} (sound : m.poller.Sound) {f : Fetch}
    (old : f ∈ m.poller.fetches) {job next : Job} (concerns : job.concerns f.id = true) {passes : Nat}
    {rest : List Queued} (queue : m.queue = ⟨passes, next⟩ :: rest)
    (outstanding : f ∈ (({ m with queue := rest } : Machine σ).runJob service next).poller.fetches)
    {deadline : Instant} (due : Due m job deadline) :
    Due (({ m with queue := rest } : Machine σ).runJob service next) job deadline := by
  -- The job itself settles the fetch, so that it is not the one that runs.
  have different : next ≠ job := by
    rintro rfl
    have popped : ({ m with queue := rest } : Machine σ).poller.Sound := sound
    cases next with
    | answer fetch result =>
        have own : fetch = f.id := by simpa [Job.concerns] using concerns
        subst own
        exact settle_gone popped old (.given result) outstanding
    | expire fetch =>
        have own : fetch = f.id := by simpa [Job.concerns] using concerns
        subst own
        exact settle_gone popped old .timedOut outstanding
    | _ => cases concerns
  apply (does_runJob service { m with queue := rest } next).due sound old outstanding concerns
  refine ⟨due.now, ?_⟩
  rcases due.waits with ⟨turns, member⟩ | timer
  · rw [queue, List.mem_cons, Queued.mk.injEq] at member
    rcases member with ⟨_, same⟩ | behind
    · exact absurd same.symm different
    · exact Or.inl ⟨turns, behind⟩
  · exact Or.inr timer

theorem Due.act {service : Source σ} {m : Machine σ} (sound : m.poller.Sound) {f : Fetch}
    (old : f ∈ m.poller.fetches) {act : Act σ} (outstanding : f ∈ (m.act service act).poller.fetches) {job : Job}
    (concerns : job.concerns f.id = true) {deadline : Instant} (due : Due m job deadline) :
    Due (m.act service act) job deadline := by
  have idle : m.queue = [] → ∃ timer ∈ m.timers, timer.job = job ∧ timer.due ≤ deadline := by
    intro empty
    rcases due.waits with ⟨passes, member⟩ | timer
    · rw [empty] at member
      cases member
    · exact timer
  cases act with
  | obey command => exact (does_obey m command).due sound old outstanding concerns due
  | cancel fetch => exact (does_cancel m fetch).due sound old outstanding concerns due
  | step =>
      cases stepped : m.step? service none with
      | none => simpa only [Machine.act, stepped, Option.getD_none] using due
      | some n =>
          simp only [Machine.act, stepped, Option.getD_some] at outstanding ⊢
          rcases step?_cases stepped with ⟨passes, next, rest, queue, rfl⟩ | ⟨next, rest, queue, rfl⟩ |
            ⟨timer, queue, first, rfl⟩
          · exact ⟨due.now, due.waits.imp_left (inQueue_pass queue)⟩
          · exact due.runJob sound old concerns queue outstanding
          · obtain ⟨other, member, same, before⟩ := idle queue
            obtain ⟨least, kept⟩ := earliest_spec first
            refine ⟨by rw [fire_spec]; exact (least other member).trans before, ?_⟩
            rcases kept other member with rfl | remains
            · left
              exact ⟨other.passes, by
                rw [fire_spec, ← same]; exact List.mem_append_right _ (List.mem_singleton_self _)⟩
            · exact Or.inr ⟨other, by rw [fire_spec]; exact remains, same, before⟩
  | rest instant =>
      simp only [Machine.act]
      split
      next resting =>
        simp only [rests, Bool.and_eq_true, List.isEmpty_iff, List.all_eq_true, decide_eq_true_eq] at resting
        obtain ⟨other, member, same, before⟩ := idle resting.1
        exact ⟨(resting.2 other member).trans before, Or.inr ⟨other, member, same, before⟩⟩
      next => exact due

theorem Due.acting {service : Source σ} {m : Machine σ} (sound : m.poller.Sound) {f : Fetch}
    (old : f ∈ m.poller.fetches) (acts : List (Act σ))
    (outstanding : f ∈ (m.acting service acts).poller.fetches) {job : Job}
    (concerns : job.concerns f.id = true) {deadline : Instant} (due : Due m job deadline) :
    Due (m.acting service acts) job deadline := by
  induction acts generalizing m with
  | nil => exact due
  | cons head tail ih =>
      have moved := (act_does service m head).1
      have next : (m.act service head).poller.Sound := by
        rw [moved]
        exact sound.after _
      have first : m.poller.Onward (m.act service head).poller := by
        rw [moved]
        exact sound.onward_after _
      have later : (m.act service head).poller.Onward ((m.act service head).acting service tail).poller := by
        rw [acting_poller]
        exact next.onward_after _
      have still : f ∈ (m.act service head).poller.fetches :=
        later.old f outstanding (Nat.lt_of_lt_of_le (sound.flight.known f old) first.next)
      exact ih next still outstanding (due.act sound old still concerns)

/-- Nothing is polled or asleep, and once time has passed every loop that is left waits for a fetch. -/
structure Draining (time : Instant) (m : Machine σ) : Prop where
  halted : Halted m.poller
  prompt : m.now = time ∨ Still m.poller

theorem Provident.still {service : Source σ} {m : Machine σ} (provident : Provident service m)
    (halted : Halted m.poller) (idle : m.queue = []) : Still m.poller := by
  refine ⟨halted, ?_⟩
  intro l member ready
  obtain ⟨passes, inside⟩ := (provident.provided _ (.enter member ready)).resolve_right id
  rw [idle] at inside
  cases inside

theorem Draining.act {service : Source σ} {m : Machine σ} {time : Instant} (provident : Provident service m)
    (draining : Draining time m) {act : Act σ}
    (other : ∀ runId, .start runId ∉ (m.actDeeds service act).map Deed.toMove) : Draining time (m.act service act) := by
  have moved := (act_does service m act).1
  refine ⟨by rw [moved]; exact draining.halted.after other, ?_⟩
  have still : Still m.poller → Still (m.act service act).poller := by
    intro still
    rw [moved]
    exact still.after other
  rcases draining.prompt with now | before
  · -- Time passes only when the queue is empty, and then no loop is left that has a step to take.
    have idle : m.queue = [] → Still (m.act service act).poller := fun empty =>
      still (provident.still draining.halted empty)
    cases act with
    | obey command => exact Or.inl ((does_obey m command).now.trans now)
    | cancel fetch => exact Or.inl ((does_cancel m fetch).now.trans now)
    | step =>
        cases stepped : m.step? service none with
        | none => exact Or.inl (by simpa only [Machine.act, stepped, Option.getD_none] using now)
        | some n =>
            simp only [Machine.act, stepped, Option.getD_some] at idle ⊢
            rcases step?_cases stepped with ⟨passes, next, rest, queue, rfl⟩ | ⟨next, rest, queue, rfl⟩ |
              ⟨timer, queue, first, rfl⟩
            · exact Or.inl now
            · exact Or.inl ((does_runJob service _ next).now.trans now)
            · exact Or.inr (idle queue)
    | rest instant =>
        simp only [Machine.act] at idle ⊢
        split
        next resting =>
          have empty : m.queue = [] := by
            simp only [rests, Bool.and_eq_true, List.isEmpty_iff] at resting
            exact resting.1
          simp only [resting, if_true] at idle
          exact Or.inr (idle empty)
        next => exact Or.inl now
  · exact Or.inr (still before)

theorem moves_cons (service : Source σ) (m : Machine σ) (act : Act σ) (rest : List (Act σ)) :
    moves (m.record service (act :: rest)) =
      (m.actDeeds service act).map Deed.toMove ++ moves ((m.act service act).record service rest) := by
  simp [record, moves, Function.comp_def]

theorem Draining.acting {service : Source σ} {m : Machine σ} {time : Instant} (provident : Provident service m)
    (draining : Draining time m) (acts : List (Act σ))
    (other : ∀ runId, .start runId ∉ moves (m.record service acts)) : Draining time (m.acting service acts) := by
  induction acts generalizing m with
  | nil => exact draining
  | cons head tail ih =>
      rw [moves_cons] at other
      have first := draining.act provident fun runId member => other runId (List.mem_append_left _ member)
      exact ih (provident.act head) first fun runId member => other runId (List.mem_append_right _ member)

/-- A stop without a later start leaves the machine draining. -/
theorem draining_stop {service : Source σ} {m : Machine σ} (provident : Provident service m) {acts : List (Act σ)}
    {before after : List (Instant × Deed)} {time : Instant}
    (log : m.record service acts = before ++ (time, .move .stop) :: after)
    (other : ∀ runId, .start runId ∉ moves after) : Draining time (m.acting service acts) := by
  induction acts generalizing m before with
  | nil => simp [record] at log
  | cons head tail ih =>
      rw [record] at log
      rcases List.append_eq_append_iff.mp log with ⟨middle, rfl, later⟩ | ⟨middle, own, later⟩
      · exact ih (provident.act head) later
      · cases middle with
        | nil =>
            rw [List.nil_append] at later
            exact ih (provident.act head) (later.symm.trans (List.nil_append _).symm)
        | cons entry middle =>
            rw [List.cons_append, List.cons.injEq] at later
            obtain ⟨rfl, rfl⟩ := later
            simp only [moves, List.map_append, List.mem_append, not_or] at other
            obtain ⟨first, rest, split, _, stopped⟩ := List.map_eq_append_iff.mp own
            obtain ⟨deed, last, rfl, here, rfl⟩ := List.map_eq_cons_iff.mp stopped
            rw [Prod.mk.injEq] at here
            obtain ⟨now, rfl⟩ := here
            have draining : Draining time (m.act service head) := by
              refine ⟨?_, Or.inl now⟩
              rw [(act_does service m head).1, split, List.map_append, List.map_cons, Poller.after_append]
              apply (Poller.halted_stop _).after
              intro runId member
              exact (other runId).1 (by simpa using member)
            exact draining.acting (provident.act head) tail fun runId => (other runId).2

/-- What comes of a machine whose polling stops, whatever happens to it later.  Any moment may be the
one at which it stops: the moves before it are the first of those in the record. -/
structure StopsFor (service : Source σ) (m : Machine σ) : Prop where
  /-- Until a run is started nothing is polled, and only a refresh begins a fetch. -/
  quiet : ∀ later first rest, moves (m.record service later) = first ++ rest →
    (m.poller.after first).session.isPolling = false → (∀ runId, .start runId ∉ rest) →
    ∀ before move after, rest = before ++ move :: after →
      ((m.poller.after (first ++ before)).move move).session.isPolling = false ∧
        ∀ f ∈ ((m.poller.after (first ++ before)).move move).fetches,
          f ∈ (m.poller.after (first ++ before)).fetches ∨
            ∃ ticket, move = .refresh ticket ∧ f.requester = .refresh ticket
  /-- Until its session is superseded, a fetch that nobody gives up is outstanding or has landed once. -/
  lands : ∀ later first rest, moves (m.record service later) = first ++ rest →
    ∀ f ∈ (m.poller.after first).fetches, f.generation = (m.poller.after first).generation →
    (∀ before move after, rest = before ++ move :: after → ¬ Supersession (m.poller.after (first ++ before)) move) →
    .cancel f.id ∉ rest → Fate (m.poller.after first) f rest
  /-- A fetch that is outstanding will expire, if there is a limit, and is answered, if the source answers. -/
  provided : ∀ f ∈ m.poller.fetches, Provided service m (.settle f.id)
  /-- While it is outstanding, time does not pass the instant at which it expires or is answered. -/
  ends : ∀ f ∈ m.poller.fetches, ∀ job, job.concerns f.id = true → m.Pending job →
    ∃ deadline, ∀ later, f ∈ (m.acting service later).poller.fetches → (m.acting service later).now ≤ deadline
  /-- After a stop, and until a run is started, a loop waits for its fetch, or it is still the instant of the
  stop and the next step of the loop is queued and ends it. -/
  prompt : ∀ later before time after, m.record service later = before ++ (time, .move .stop) :: after →
    (∀ runId, .start runId ∉ moves after) → ∀ l ∈ (m.acting service later).poller.loops,
      (∃ f ∈ (m.acting service later).poller.fetches, f.requester = .loop l.id) ∨
        (m.acting service later).now = time ∧ (m.acting service later).InQueue (.enter l.id) ∧
          ∀ k ∈ ((m.acting service later).poller.move (.enter l.id)).loops, k.id ≠ l.id

theorem Provident.prompt {service : Source σ} {m : Machine σ} {time : Instant} (provident : Provident service m)
    (draining : Draining time m) (attended : Poller.Attended m.poller) {l : PollLoop} (member : l ∈ m.poller.loops) :
    (∃ f ∈ m.poller.fetches, f.requester = .loop l.id) ∨
      m.now = time ∧ m.InQueue (.enter l.id) ∧ ∀ k ∈ (m.poller.move (.enter l.id)).loops, k.id ≠ l.id := by
  have ready : Poller.IsReady l →
      m.now = time ∧ m.InQueue (.enter l.id) ∧ ∀ k ∈ (m.poller.move (.enter l.id)).loops, k.id ≠ l.id := by
    intro ready
    have queued := (provident.provided _ (.enter member ready)).resolve_right id
    refine ⟨draining.prompt.resolve_right fun still => still.unready l member ready, queued, ?_⟩
    exact draining.halted.enter_gone provident.sound.loops member ready
  cases stage : l.stage with
  | created => exact Or.inr (ready (Or.inl stage))
  | waking => exact Or.inr (ready (Or.inr stage))
  | fetching => exact Or.inl (attended l member stage)
  | deciding => exact absurd ((provident.provided _ (.decide member stage)).resolve_right id) id
  | sleeping => exact absurd stage (draining.halted.awake l member)

/-- Stopping is final until the next start, whenever and however polling stops. -/
theorem stops_until_started (service : Source σ) (config : Config) (keepPolling : Bool) (nodes : List Node)
    (source : σ) (watcher : Option (Session → Reaction σ)) (acts : List (Act σ)) :
    StopsFor service ((initial config keepPolling nodes source watcher).acting service acts) := by
  have provident := (initial_provident service config keepPolling nodes source watcher).acting acts
  have attended : Poller.Attended ((initial config keepPolling nodes source watcher).acting service acts).poller := by
    rw [acting_poller]
    exact (Poller.initial_attended config keepPolling).after (Poller.initial_sound config keepPolling) _
  generalize (initial config keepPolling nodes source watcher).acting service acts = m at provident attended
  have sound := provident.sound
  constructor
  · rintro later first rest _ halted other before move after rfl
    rw [Poller.after_append]
    have rested := Poller.after_halted halted fun runId member => other runId (List.mem_append_left _ member)
    refine ⟨Poller.move_halted rested ?_, fun f begun => Poller.move_begun rested move begun⟩
    rintro runId rfl
    exact other runId (by simp)
  · intro later first rest _ f outstanding current same held
    apply (sound.after first).lands outstanding current rest _ held
    intro before move after split
    rw [← Poller.after_append]
    exact same before move after split
  · intro f outstanding
    exact (provident.provided _ (.settle outstanding)).resolve_right id
  · intro f outstanding job concerns pending
    obtain ⟨deadline, due⟩ := pending.due
    exact ⟨deadline, fun later still => (due.acting sound outstanding later still concerns).now⟩
  · intro later before time after log other l member
    have draining := draining_stop provident log other
    have reached : Poller.Attended (m.acting service later).poller := by
      rw [acting_poller]
      exact attended.after sound _
    exact (provident.acting later).prompt draining reached member

end Machine

end WorkflowRuns
