import WorkflowRuns.Proofs.Polling.Agenda

/-!
The clockwork of a machine: the time, its poller, and the alarms of loops that sleep.  What a machine does to
its clockwork is what its deeds do to it; nothing else sets an alarm.
-/

namespace WorkflowRuns

def Job.woken? : Job → Option Nat
  | .enter loop => some loop
  | _ => none

/-- When a loop is to be woken. -/
structure Alarm where
  due : Instant
  loop : Nat
  deriving DecidableEq

def Timer.alarm? (timer : Timer) : Option Alarm := timer.job.woken?.map (Alarm.mk timer.due)

structure Clockwork where
  now : Instant
  poller : Poller
  alarms : List Alarm

namespace Clockwork

def hush (c : Clockwork) (loop : Nat) : Clockwork := { c with alarms := c.alarms.filter (·.loop ≠ loop) }

def signal (c : Clockwork) : Signal → Clockwork
  | .woken loop => c.hush loop
  | .calledOff loop => c.hush loop
  | .ended loop => c.hush loop
  | .sleeping loop delay =>
      match delay.delay with
      | some span => { c with alarms := c.alarms ++ [⟨c.now + span, loop⟩] }
      | none => c
  | _ => c

def follow (c : Clockwork) (change : Poller × List Signal) : Clockwork :=
  change.2.foldl signal { c with poller := change.1 }

def doing (c : Clockwork) (deed : Deed) : Clockwork := c.follow (c.poller.change deed.toMove)

def Idle (c : Clockwork) : Prop := ∀ l ∈ c.poller.loops, ¬ Poller.IsReady l

/-- A deed is done, or an alarm goes off while no loop is ready. -/
inductive Takes : Clockwork → Instant × Deed → Clockwork → Prop
  | deed (c : Clockwork) (deed : Deed) (other : ∀ loop, deed.toMove ≠ .rouse loop) :
      Takes c (c.now, deed) (c.doing deed)
  | strike {c : Clockwork} {earlier later : List Alarm} {alarm : Alarm} (idle : c.Idle)
      (set : c.alarms = earlier ++ alarm :: later) :
      Takes c (alarm.due, .move (.rouse alarm.loop)) ⟨alarm.due, c.poller.rouse alarm.loop, earlier ++ later⟩

/-- Time passes only while no loop is ready. -/
inductive Runs : Clockwork → List (Instant × Deed) → Clockwork → Prop
  | refl (c : Clockwork) : Runs c [] c
  | take {c d e : Clockwork} {entry : Instant × Deed} {log : List (Instant × Deed)} (takes : Takes c entry d)
      (rest : Runs d log e) : Runs c (entry :: log) e
  | pass {c d : Clockwork} {log : List (Instant × Deed)} (instant : Instant) (idle : c.Idle)
      (rest : Runs { c with now := instant } log d) : Runs c log d

variable {c d e : Clockwork} {entry : Instant × Deed} {log before after : List (Instant × Deed)}

theorem Runs.trans (first : Runs c before d) (second : Runs d after e) : Runs c (before ++ after) e := by
  induction first with
  | refl c => exact second
  | take takes _ ih => exact .take takes (ih second)
  | pass instant idle _ ih => exact .pass instant idle (ih second)

theorem Runs.split (runs : Runs c log e) : ∀ before entry after, log = before ++ entry :: after →
    ∃ i j, Runs c before i ∧ Takes i entry j ∧ Runs j after e := by
  induction runs with
  | refl c => exact fun before entry after same => absurd same.symm (by simp)
  | @take c d e first log takes rest ih =>
      intro before entry after same
      cases before with
      | nil =>
          obtain ⟨rfl, rfl⟩ := List.cons.inj same
          exact ⟨c, d, .refl c, takes, rest⟩
      | cons head tail =>
          obtain ⟨rfl, onward⟩ := List.cons.inj same
          obtain ⟨i, j, reached, taken, left⟩ := ih tail entry after onward
          exact ⟨i, j, .take takes reached, taken, left⟩
  | pass instant idle rest ih =>
      intro before entry after same
      obtain ⟨i, j, reached, taken, left⟩ := ih before entry after same
      exact ⟨i, j, .pass instant idle reached, taken, left⟩

theorem signal_spec (c : Clockwork) (signal : Signal) :
    (c.signal signal).now = c.now ∧ (c.signal signal).poller = c.poller := by
  cases signal with
  | sleeping loop delay =>
      simp only [Clockwork.signal]
      cases delay.delay <;> exact ⟨rfl, rfl⟩
  | _ => exact ⟨rfl, rfl⟩

theorem follow_spec (c : Clockwork) (change : Poller × List Signal) :
    (c.follow change).now = c.now ∧ (c.follow change).poller = change.1 := by
  obtain ⟨poller, signals⟩ := change
  have heeded : ∀ d : Clockwork, (signals.foldl signal d).now = d.now ∧ (signals.foldl signal d).poller = d.poller := by
    induction signals with
    | nil => exact fun d => ⟨rfl, rfl⟩
    | cons head tail ih =>
        intro d
        have first := signal_spec d head
        exact ⟨(ih _).1.trans first.1, (ih _).2.trans first.2⟩
  exact heeded { c with poller }

theorem doing_now (c : Clockwork) (deed : Deed) : (c.doing deed).now = c.now := (follow_spec c _).1

theorem doing_poller (c : Clockwork) (deed : Deed) : (c.doing deed).poller = c.poller.move deed.toMove :=
  (follow_spec c _).2.trans (Poller.change_move c.poller deed.toMove)

theorem Takes.poller (takes : Takes c entry d) : d.poller = c.poller.move entry.2.toMove := by
  cases takes with
  | deed deed other => exact doing_poller c deed
  | strike idle set => rfl

theorem Takes.unroused (takes : Takes c entry d) (other : ∀ loop, entry.2.toMove ≠ .rouse loop) :
    entry.1 = c.now ∧ d = c.doing entry.2 := by
  cases takes with
  | deed deed _ => exact ⟨rfl, rfl⟩
  | strike idle set => exact absurd rfl (other _)

theorem Runs.poller (runs : Runs c log d) : d.poller = c.poller.after (Machine.moves log) := by
  induction runs with
  | refl c => rfl
  | take takes _ ih =>
      rw [ih, takes.poller]
      rfl
  | pass instant idle _ ih => exact ih

theorem runs_deeds (c : Clockwork) {deeds : List Deed} (others : ∀ deed ∈ deeds, ∀ loop, deed.toMove ≠ .rouse loop) :
    Runs c (deeds.map (Prod.mk c.now)) (deeds.foldl doing c) := by
  induction deeds generalizing c with
  | nil => exact .refl c
  | cons head tail ih =>
      obtain ⟨other, rest⟩ := List.forall_mem_cons.mp others
      have onward := ih (c.doing head) rest
      rw [doing_now] at onward
      exact .take (.deed c head other) onward

end Clockwork

namespace Machine

variable {σ : Type}

def clockwork (m : Machine σ) : Clockwork := ⟨m.now, m.poller, m.timers.filterMap Timer.alarm?⟩

theorem clockwork_schedule (m : Machine σ) (delay : Delay) (passes : Nat) {job : Job} (foreign : job.woken? = none) :
    (m.schedule delay passes job).clockwork = m.clockwork := by
  cases delay with
  | none => rfl
  | some span =>
      have unset : Timer.alarm? ⟨m.now + span, passes, job⟩ = none := by rw [Timer.alarm?, foreign, Option.map_none]
      simp only [schedule, clockwork, List.filterMap_append, List.filterMap_cons_none unset, List.filterMap_nil,
        List.append_nil]

theorem clockwork_emit? (m : Machine σ) (event : Option Event) : (m.emit? event).clockwork = m.clockwork := by
  cases event <;> rfl

theorem clockwork_foldl {α : Type} {f : Machine σ → α → Machine σ} (each : ∀ m a, (f m a).clockwork = m.clockwork)
    (m : Machine σ) (items : List α) : (items.foldl f m).clockwork = m.clockwork := by
  induction items generalizing m with
  | nil => rfl
  | cons head tail ih => exact (ih (f m head)).trans (each m head)

theorem clockwork_cancelFetch (m : Machine σ) (fetch : Nat) : (m.cancelFetch fetch).clockwork = m.clockwork := by
  have same : (m.timers.filter fun timer => !timer.job.concerns fetch).filterMap Timer.alarm? =
      m.timers.filterMap Timer.alarm? := by
    rw [List.filterMap_filter]
    apply List.filterMap_congr
    intro timer _
    cases concerns : timer.job.concerns fetch with
    | false => rfl
    | true =>
        cases job : timer.job with
        | enter loop =>
            rw [job] at concerns
            cases concerns
        | _ => simp [Timer.alarm?, job, Job.woken?]
  rw [clockwork, cancelFetch, same]
  rfl

theorem clockwork_tidied (m : Machine σ) (move : Poller.Move) : (m.tidied move).clockwork = m.clockwork := by
  have cancelled : ∀ id, (if (m.poller.fetch? id).isSome then m.cancelFetch id else m).clockwork = m.clockwork := by
    intro id
    split
    · exact clockwork_cancelFetch m id
    · rfl
  cases move with
  | settle id answer => exact cancelled id
  | cancel id => exact cancelled id
  | _ => rfl

theorem clockwork_cancelSleep (m : Machine σ) (loop : Nat) : (m.cancelSleep loop).clockwork = m.clockwork.hush loop := by
  have same : (m.timers.filter fun timer => !timer.job.wakes loop).filterMap Timer.alarm? =
      (m.timers.filterMap Timer.alarm?).filter (·.loop ≠ loop) := by
    rw [List.filterMap_filter, List.filter_filterMap]
    apply List.filterMap_congr
    intro timer _
    cases job : timer.job with
    | enter other => by_cases own : other = loop <;> simp [Timer.alarm?, job, Job.woken?, Job.wakes, own, Option.filter]
    | _ => simp [Timer.alarm?, job, Job.woken?, Job.wakes]
  rw [clockwork, cancelSleep, same]
  rfl

theorem clockwork_announceEnd (m : Machine σ) (loop : Nat) : (m.announceEnd loop).clockwork = m.clockwork :=
  clockwork_foldl (fun (m : Machine σ) (waiter : Nat × Nat) =>
    (rfl : (m.push endedPasses (.waited waiter.1)).clockwork = m.clockwork)) _ _

theorem clockwork_signal (m : Machine σ) (signal : Signal) :
    (m.signal signal).clockwork = m.clockwork.signal signal := by
  cases signal with
  | spawned loop => rfl
  | woken loop => exact clockwork_cancelSleep m loop
  | calledOff loop => exact clockwork_cancelSleep m loop
  | ended loop => exact (clockwork_announceEnd _ loop).trans (clockwork_cancelSleep m loop)
  | fetching fetch => exact clockwork_schedule _ _ _ rfl
  | sleeping loop delay =>
      simp only [Machine.signal, Clockwork.signal, schedule]
      cases delay.delay with
      | none => rfl
      | some span =>
          simp only [clockwork, List.filterMap_append]
          rfl

theorem clockwork_follow (m : Machine σ) (change : Poller × List Signal) :
    (m.follow change).clockwork = m.clockwork.follow change := by
  obtain ⟨poller, signals⟩ := change
  have heeded : ∀ n : Machine σ, (signals.foldl Machine.signal n).clockwork =
      signals.foldl Clockwork.signal n.clockwork := by
    induction signals with
    | nil => exact fun n => rfl
    | cons head tail ih =>
        intro n
        rw [List.foldl_cons, List.foldl_cons, ih, clockwork_signal]
  exact heeded { m with poller }

def Paced (m : Machine σ) (deeds : List Deed) (n : Machine σ) : Prop :=
  n.clockwork = deeds.foldl Clockwork.doing m.clockwork

variable {m n o : Machine σ} {deeds first second : List Deed}

theorem Paced.same (same : n.clockwork = m.clockwork) : Paced m [] n := same

theorem Paced.trans (before : Paced m first n) (later : Paced n second o) : Paced m (first ++ second) o := by
  unfold Paced at *
  rw [later, before, List.foldl_append]

theorem Paced.from (paced : Paced n deeds o) (same : n.clockwork = m.clockwork) : Paced m deeds o := by
  unfold Paced at *
  rw [paced, same]

theorem paced_follow (m : Machine σ) (move : Poller.Move) : Paced m [.move move] (m.follow (m.poller.change move)) :=
  clockwork_follow m _

theorem paced_doing (m : Machine σ) (deed : Deed) : Paced m [deed] (m.doing deed) := by
  have others : ∀ move, Paced m [.move move] ((m.tidied move).follow (m.poller.change move)) := by
    intro move
    have followed := clockwork_follow (m.tidied move) (m.poller.change move)
    rwa [clockwork_tidied] at followed
  cases deed with
  | accept graph runId => exact paced_follow { m with nodes := graph.nodes } (.start runId)
  | move move =>
      cases move with
      | clear => exact paced_follow m .clear
      | _ => exact others _

theorem paced_obey (m : Machine σ) (command : Command σ) : Paced m command.deeds (m.obey command) := by
  cases command with
  | start runId =>
      rw [start_doing]
      exact paced_doing m (.move (.start runId))
  | stop => exact paced_follow m .stop
  | clear => exact paced_follow m .clear
  | _ => exact Paced.same rfl

theorem paced_commands (m : Machine σ) (commands : List (Command σ)) :
    Paced m (commands.flatMap Command.deeds) (commands.foldl obey m) := by
  induction commands generalizing m with
  | nil => exact .same rfl
  | cons head tail ih => exact (paced_obey m head).trans (ih (m.obey head))

theorem paced_notify (m : Machine σ) : Paced m m.reactions m.notify := by
  cases watched : m.watcher with
  | none =>
      simp only [reactions, notify, watched]
      exact .same rfl
  | some react =>
      simp only [reactions, notify, watched]
      obtain ⟨complaints, same⟩ := complain_spec (σ := σ) _ m.poller.session.runId (react m.poller.session).fails
      rw [same]
      exact (paced_commands (m.emit _) _).from rfl

theorem paced_report (m : Machine σ) (f : Fetch) (applied : Bool) : Paced m (decisions f) (m.report f applied) := by
  cases requester : f.requester with
  | loop id =>
      simp only [decisions, report, requester]
      exact paced_follow m (.decide id)
  | refresh ticket =>
      simp only [decisions, report, requester]
      exact .same rfl

theorem paced_settle (m : Machine σ) (id : Nat) (answer : Answer) :
    Paced m (m.settling id answer) (m.settle id fun f => m.poller.outcome f answer) := by
  cases found : m.poller.fetch? id with
  | none =>
      simp only [settling, settle, found]
      exact .same rfl
  | some f =>
      rw [settle_doing found]
      simp only [settling, found]
      apply (paced_doing m (.move (.settle id answer))).trans
      apply Paced.trans _ (paced_report _ f _)
      split
      · exact paced_notify _
      · exact .same rfl

theorem paced_cancel (m : Machine σ) (id : Nat) : Paced m [.move (.cancel id)] (m.cancel id) := by
  rw [cancel_doing]
  exact paced_doing m (.move (.cancel id))

theorem paced_ask (service : Source σ) (m : Machine σ) (id : Nat) : Paced m [] (m.ask service id) := by
  apply Paced.same
  unfold ask
  split
  next => rfl
  next f _ =>
    simp only
    split
    · exact clockwork_emit? _ _
    · exact (clockwork_schedule _ _ _ rfl).trans (clockwork_emit? _ _)

theorem paced_beginRefresh (m : Machine σ) (ticket : Nat) :
    Paced m [.move (.refresh ticket)] (m.beginRefresh ticket) := by
  have followed := paced_follow m (.refresh ticket)
  unfold beginRefresh
  simp only [Poller.change] at followed
  split
  next failure refused =>
    rw [refused] at followed
    exact followed
  next skipped =>
    rw [skipped] at followed
    exact followed
  next begun =>
    rw [begun] at followed
    exact followed

theorem paced_beginWait (m : Machine σ) (ticket : Nat) : Paced m [] (m.beginWait ticket) := by
  apply Paced.same
  unfold beginWait
  split <;> rfl

theorem paced_endSubmission (m : Machine σ) (graph : Graph) (result : Except Failure String) :
    Paced m (submission graph result) (m.endSubmission graph result) := by
  cases result with
  | error failure => exact .same rfl
  | ok runId =>
      have followed := paced_follow { m with nodes := graph.nodes } (.start runId)
      cases started : m.poller.start runId with
      | error failure =>
          simp only [Poller.change, started] at followed
          simp only [endSubmission, started]
          exact followed
      | ok change =>
          simp only [Poller.change, started] at followed
          simp only [endSubmission, started]
          exact followed

theorem paced_beginSubmission (service : Source σ) (m : Machine σ) (ticket : Nat) (graph : Graph) :
    Paced m (m.submitting service graph) (m.beginSubmission service ticket graph) := by
  unfold submitting beginSubmission
  by_cases faults : graph.faults = []
  · simp only [faults, ne_eq, not_true_eq_false, if_false, true_and]
    split
    · exact (paced_endSubmission _ graph _).from (clockwork_emit? _ _)
    · exact .same ((clockwork_schedule _ _ _ rfl).trans (clockwork_emit? _ _))
  · simp only [faults, ne_eq, not_false_eq_true, if_true, false_and, if_false]
    exact .same rfl

theorem paced_stepFrames (m : Machine σ) : Paced m [] m.stepFrames := by
  apply Paced.same
  unfold stepFrames
  split
  · rfl
  · simp only
    split
    · exact clockwork_schedule _ _ _ rfl
    · rfl

theorem paced_runJob (service : Source σ) (m : Machine σ) (job : Job) :
    Paced m (m.jobDeeds service job) (m.runJob service job) := by
  cases job with
  | enter loop => exact paced_follow m (.enter loop)
  | drop loop => exact paced_follow m (.drop loop)
  | ask fetch => exact paced_ask service m fetch
  | answer fetch result => exact paced_settle m fetch (.given result)
  | expire fetch => exact paced_settle m fetch .timedOut
  | refresh ticket => exact paced_beginRefresh m ticket
  | wait ticket => exact paced_beginWait m ticket
  | waited ticket => exact .same rfl
  | submit ticket graph => exact paced_beginSubmission service m ticket graph
  | submitted ticket graph result => exact paced_endSubmission m graph result
  | frame => exact paced_stepFrames m
  | cancelFrames => exact .same rfl

section

open Clockwork (Runs)

variable {service : Source σ}

theorem Does.others (does : Does m deeds n) : ∀ deed ∈ deeds, ∀ loop, deed.toMove ≠ .rouse loop := by
  induction does with
  | beside beside => exact fun deed member => absurd member List.not_mem_nil
  | deed m deed other =>
      intro single member loop roused
      rw [List.mem_singleton.mp member] at roused
      cases deed with
      | move move => exact other loop (congrArg Deed.move roused)
      | accept graph runId => cases roused
  | trans _ _ first second =>
      intro deed member
      rcases List.mem_append.mp member with before | later
      · exact first deed before
      · exact second deed later

theorem Paced.runs (paced : Paced m deeds n) (does : Does m deeds n) :
    Runs m.clockwork (deeds.map (Prod.mk n.now)) n.clockwork := by
  have runs := Clockwork.runs_deeds m.clockwork does.others
  rw [paced, does.now]
  exact runs

theorem Provident.idle (provident : Provident service m) (empty : m.queue = []) : m.clockwork.Idle := by
  intro l member ready
  obtain ⟨passes, queued⟩ := (provident.provided _ (.enter member ready)).resolve_right id
  rw [empty] at queued
  cases queued

theorem runs_fire {timer : Timer} (provident : Provident service m) (empty : m.queue = [])
    (first : earliest m.timers = some timer) :
    Runs m.clockwork ((rousing timer.job).map (Prod.mk timer.due)) (m.fire timer).clockwork := by
  obtain ⟨before, after, timers, above, _⟩ := earliest_split first
  have idle := provident.idle empty
  have fired : (m.fire timer).clockwork = ⟨timer.due, roused m.poller timer.job,
      before.filterMap Timer.alarm? ++ after.filterMap Timer.alarm?⟩ := by
    rw [fire_spec, timers, removeTimer_split above, ← List.filterMap_append]
    rfl
  have alarms : m.clockwork.alarms = before.filterMap Timer.alarm? ++ (timer :: after).filterMap Timer.alarm? := by
    rw [← List.filterMap_append, ← timers]
    rfl
  rw [fired]
  cases alarm : timer.job.woken? with
  | none =>
      have unset : timer.alarm? = none := by rw [Timer.alarm?, alarm, Option.map_none]
      rw [List.filterMap_cons_none unset] at alarms
      have quiet : rousing timer.job = [] ∧ roused m.poller timer.job = m.poller := by
        cases job : timer.job with
        | enter loop =>
            rw [job] at alarm
            cases alarm
        | _ => exact ⟨rfl, rfl⟩
      rw [quiet.1, quiet.2, ← alarms]
      exact .pass timer.due idle (.refl _)
  | some loop =>
      have set : timer.alarm? = some ⟨timer.due, loop⟩ := by rw [Timer.alarm?, alarm, Option.map_some]
      rw [List.filterMap_cons_some set] at alarms
      have wakes : timer.job = .enter loop := by
        cases job : timer.job with
        | enter other =>
            rw [job] at alarm
            cases alarm
            rfl
        | _ =>
            rw [job] at alarm
            cases alarm
      rw [wakes]
      exact .take (.strike idle alarms) (.refl _)

theorem runs_act (provident : Provident service m) (act : Act σ) :
    Runs m.clockwork ((m.actDeeds service act).map (Prod.mk (m.act service act).now)) (m.act service act).clockwork := by
  cases act with
  | obey command => exact (paced_obey m command).runs (does_obey m command)
  | step =>
      cases stepped : m.step? service none with
      | none =>
          simp only [Machine.act, actDeeds, stepped, Option.getD_none, stepDeeds_none stepped]
          exact .refl _
      | some n =>
          simp only [Machine.act, actDeeds, stepped, Option.getD_some, stepDeeds]
          rcases step?_cases stepped with ⟨passes, job, rest, queue, rfl⟩ | ⟨job, rest, queue, rfl⟩ |
            ⟨timer, queue, first, rfl⟩
          · simp only [queue]
            exact .refl _
          · simp only [queue]
            exact (paced_runJob service { m with queue := rest } job).runs (does_runJob service _ job)
          · simp only [queue, first]
            have fired := runs_fire provident queue first
            rwa [← show (m.fire timer).now = timer.due by rw [fire_spec]] at fired
  | cancel fetch => exact (paced_cancel m fetch).runs (does_cancel m fetch)
  | rest instant =>
      simp only [Machine.act, actDeeds]
      split
      next rests =>
        have empty : m.queue = [] := List.isEmpty_iff.mp (Bool.and_eq_true_iff.mp rests).1
        exact .pass instant (provident.idle empty) (.refl _)
      next => exact .refl _

/-- The clockwork of a machine runs through what is on its record. -/
theorem runs_acting (provident : Provident service m) (acts : List (Act σ)) :
    Runs m.clockwork (m.record service acts) (m.acting service acts).clockwork := by
  induction acts generalizing m with
  | nil => exact .refl _
  | cons head tail ih => exact (runs_act provident head).trans (ih (provident.act head))

end

end Machine

end WorkflowRuns
