import WorkflowRuns.Proofs.Polling.Execution
import WorkflowRuns.Proofs.Polling.Summary
import WorkflowRuns.Proofs.Polling.Unobserved
import WorkflowRuns.Script

/-!
Machines that are watched.  A watcher that gives no commands changes nothing: without it and what it was
told, the execution is the one of the machine that nobody watches.  It is told of each fetch that the
session counts, once and in order.
-/

namespace WorkflowRuns

variable {σ : Type}

theorem Source.raising_discreet {ε : Type} (raise : ε → Raised) : (raising raise).Discreet := by
  constructor
  · intro script runId event sent
    unfold Source.raising at sent
    cases next : nextOf script with
    | none =>
        simp only [next, Option.mem_some_iff] at sent
        rw [← sent]
        rfl
    | some reply =>
        simp only [next, Option.mem_some_iff] at sent
        rw [← sent]
        rfl
  · intro script graph event sent
    cases sent

def observing (raises : Session → Bool) : Session → Reaction σ := fun session => ⟨[], raises session⟩

def NoneSettles (deeds : List Deed) : Prop := ∀ deed ∈ deeds, ∀ p : Poller, p.settlement? deed.toMove = none

namespace Poller

def Counts (p : Poller) (move : Move) : Prop := p.session.fetchCount < (p.move move).session.fetchCount

instance (p : Poller) (move : Move) : Decidable (p.Counts move) :=
  inferInstanceAs (Decidable (_ < _))

/-- The count of fetches rises by one when a fetch settles for the current session and is recorded there, and
then only. -/
structure Counted (p : Poller) (move : Move) : Prop where
  rises : p.Counts move ↔ ∃ t, p.settlement? move = some t ∧ t.landed = true
  recorded : ∀ t, p.settlement? move = some t → t.landed = true →
    (p.move move).session = (p.record t.outcome).session
  byOne : p.Counts move → (p.move move).session.fetchCount = p.session.fetchCount + 1

theorem record_fetchCount (p : Poller) (outcome : Except Failure Snapshot) :
    (p.record outcome).session.fetchCount = p.session.fetchCount + 1 := by
  cases outcome with
  | ok s => rw [record_ok]
  | error failure => rw [record_error]

theorem Sound.counted {p : Poller} (sound : Sound p) (move : Move) : p.Counted move := by
  have noting := sound.noting .blank move
  generalize settled : p.settlement? move = settlement at noting
  generalize p.noted .blank move = later at noting
  have unsettled : settlement = none → ¬ p.Counts move → p.Counted move := by
    intro nothing still
    constructor <;> simp [settled, nothing, still]
  cases noting with
  | kept sustains => exact unsettled rfl (by rw [Counts, sustains.session]; simp)
  | resumed tracked session generation => exact unsettled rfl (by rw [Counts, session]; simp [beginPolling])
  | begun runId session generation =>
      exact unsettled rfl (by rw [Counts, session]; simp [beginPolling, Session.tracking, Session.empty])
  | cleared session generation => exact unsettled rfl (by rw [Counts, session]; simp [Session.empty])
  | discarded f outcome past sustains =>
      have still : ¬ p.Counts move := by rw [Counts, sustains.session]; simp
      constructor <;> simp [settled, still]
  | applied f outcome current tracked session generation =>
      have count : (p.move move).session.fetchCount = p.session.fetchCount + 1 := by
        rw [session, record_fetchCount]
      have counts : p.Counts move := by
        rw [Counts, count]
        exact Nat.lt_succ_self _
      constructor
      · simp [settled, counts]
      · rintro t same landed
        cases settled.symm.trans same
        exact session
      · exact fun _ => count

def increments : Poller → List (Instant × Deed) → List (Instant × Session)
  | _, [] => []
  | p, (instant, deed) :: rest =>
      (if p.Counts deed.toMove then [(instant, (p.move deed.toMove).session)] else [])
        ++ (p.move deed.toMove).increments rest

theorem increments_append (p : Poller) (first second : List (Instant × Deed)) :
    p.increments (first ++ second) = p.increments first ++ (p.after (Machine.moves first)).increments second := by
  induction first generalizing p with
  | nil => rfl
  | cons entry rest ih =>
      simp only [List.cons_append, increments, ih, List.append_assoc]
      rfl

theorem Sound.increments_nil {p : Poller} (sound : Sound p) {deeds : List Deed}
    (unsettled : NoneSettles deeds) (instant : Instant) :
    p.increments (deeds.map (Prod.mk instant)) = [] := by
  induction deeds generalizing p with
  | nil => rfl
  | cons deed rest ih =>
      have uncounted : ¬ p.Counts deed.toMove := by
        rw [(sound.counted deed.toMove).rises, unsettled deed List.mem_cons_self p]
        simp
      have later := ih (sound.move deed.toMove) fun other member => unsettled other (List.mem_cons_of_mem _ member)
      simp [increments, uncounted, later]

end Poller

namespace Machine

/-- The watcher gives no commands. -/
def Passive (m : Machine σ) : Prop := ∀ react, m.watcher = some react → ∀ s, (react s).commands = []

theorem Passive.of_watcher {m n : Machine σ} (passive : m.Passive) (same : n.watcher = m.watcher) : n.Passive := by
  intro react watched
  exact passive react (same ▸ watched)

theorem Passive.reactions {m : Machine σ} (passive : m.Passive) : m.reactions = [] := by
  unfold Machine.reactions
  cases watched : m.watcher with
  | none => rfl
  | some react => simp [passive react watched]

def told (m : Machine σ) (news : List (Instant × Session)) : List (Instant × Session) :=
  if m.watcher.isSome then news else []

theorem told_append (m : Machine σ) (first second : List (Instant × Session)) :
    m.told (first ++ second) = m.told first ++ m.told second := by
  unfold told
  split <;> rfl

def noted (m : Machine σ) (news : List (Instant × Session)) : List (Instant × Option String) :=
  match m.watcher with
  | none => []
  | some react => ((news.filter fun told => (react told.2).fails).map fun told => (told.1, told.2.runId)).reverse

theorem noted_nil (m : Machine σ) : m.noted [] = [] := by
  unfold noted
  split <;> rfl

theorem noted_append (m : Machine σ) (first second : List (Instant × Session)) :
    m.noted (first ++ second) = m.noted second ++ m.noted first := by
  unfold noted
  split
  · rfl
  · rw [List.filter_append, List.map_append, List.reverse_append]

/-- The one machine becomes the other as it would unwatched, and the watcher is told this. -/
structure Tells (m n : Machine σ) (alone : Machine σ) (news : List (Instant × Session)) : Prop where
  unobserved : n.unobserved = alone
  watcher : n.watcher = m.watcher
  updates : n.updates = m.updates ++ m.told news
  complaints : n.complaints = m.noted news ++ m.complaints

theorem Blind.tells {f : Machine σ → Machine σ} (blind : Blind f) (m : Machine σ) :
    Tells m (f m) (f m.unobserved) [] :=
  ⟨blind.unobserved m, blind.watcher m, by rw [blind.updates m]; simp [told],
    by rw [blind.complaints m, noted_nil, List.nil_append]⟩

theorem Tells.then {m n alone : Machine σ} {news : List (Instant × Session)} (tells : Tells m n alone news)
    {f : Machine σ → Machine σ} (blind : Blind f) : Tells m (f n) (f alone) news :=
  ⟨by rw [blind.unobserved, tells.unobserved], by rw [blind.watcher, tells.watcher],
    by rw [blind.updates, tells.updates], by rw [blind.complaints, tells.complaints]⟩

theorem Tells.after {m n alone : Machine σ} {news : List (Instant × Session)} {f : Machine σ → Machine σ}
    (blind : Blind f) (tells : Tells (f m) n alone news) : Tells m n alone news := by
  have same : (f m).told news = m.told news := by rw [told, told, blind.watcher]
  have alike : (f m).noted news = m.noted news := by rw [noted, noted, blind.watcher]
  refine ⟨tells.unobserved, tells.watcher.trans (blind.watcher m), ?_, ?_⟩
  · rw [tells.updates, blind.updates, same]
  · rw [tells.complaints, blind.complaints, alike]

theorem Passive.notify {m : Machine σ} (passive : m.Passive) :
    Tells m m.notify m.unobserved [(m.now, m.poller.session)] := by
  cases watched : m.watcher with
  | none =>
      rw [notify_unwatched watched]
      exact ⟨rfl, rfl, by simp [told, watched], by simp [noted, watched]⟩
  | some react =>
      have spoken : m.notify = (m.emit (.update m.poller.session)).complain m.poller.session.runId
          (react m.poller.session).fails := by
        simp [Machine.notify, watched, passive react watched]
      rw [spoken]
      cases fails : (react m.poller.session).fails <;> constructor
      all_goals simp [Machine.unobserved, Machine.updates, complain, emit, Event.update?, told, noted, watched, fails]

theorem Passive.settling {m : Machine σ} (passive : m.Passive) (id : Nat) (answer : Answer) :
    m.settling id answer =
      match m.poller.fetch? id with
      | none => []
      | some f => .move (.settle id answer) :: decisions f := by
  have silent : (m.doing (.move (.settle id answer))).reactions = [] := by
    obtain ⟨before, after, same⟩ := m.doing_follow (.move (.settle id answer))
    obtain ⟨timers, tidied⟩ := m.tidied_spec (.settle id answer)
    apply Passive.reactions
    apply passive.of_watcher
    rw [same]
    refine (deferred_follow _ _).watcher.trans ?_
    simp only [Deed.toMove, tidied]
  unfold Machine.settling
  cases found : m.poller.fetch? id with
  | none => rfl
  | some f => simp [silent]

theorem decisions_unsettled (f : Fetch) : NoneSettles (decisions f) := by
  intro deed member q
  unfold decisions at member
  split at member
  · rw [List.mem_singleton.mp member]
    rfl
  · cases member

theorem blind_settled (id : Nat) (answer : Answer) :
    Blind fun m : Machine σ => m.doing (.move (.settle id answer)) := by
  refine .depending (fun m : Machine σ => m.poller) (fun _ => rfl)
    (f := fun p m => (if (p.fetch? id).isSome then m.cancelFetch id else m).follow (p.change (.settle id answer)))
    fun p => ?_
  cases p.fetch? id with
  | none => exact blind_follow _
  | some f => exact (blind_cancelFetch id).then (blind_follow _)

theorem Passive.settle {m : Machine σ} (passive : m.Passive) (sound : m.poller.Sound) (id : Nat) (answer : Answer) :
    Tells m (m.settle id fun f => m.poller.outcome f answer)
      (m.unobserved.settle id fun f => m.unobserved.poller.outcome f answer)
      (m.poller.increments ((m.settling id answer).map (Prod.mk m.now))) := by
  rw [passive.settling]
  cases found : m.poller.fetch? id with
  | none =>
      have still : ∀ n : Machine σ, n.poller.fetch? id = none →
          (n.settle id fun f => n.poller.outcome f answer) = n := by
        intro n none
        simp only [Machine.settle, none]
      rw [still m found, still m.unobserved found]
      exact blind_id.tells m
  | some f =>
      have settled := blind_settled (σ := σ) id answer
      have told := (passive.of_watcher (settled.watcher m)).notify
      have counts : m.poller.Counts (.settle id answer) ↔ m.poller.isCurrent f.generation = true := by
        rw [(sound.counted _).rises]
        simp [Poller.settlement?, found]
      have decided := (sound.move (.settle id answer)).increments_nil (decisions_unsettled f) m.now
      have alone : m.unobserved.poller = m.poller := rfl
      rw [settle_doing found, settle_doing (m := m.unobserved) found, List.map_cons, Poller.increments, Deed.toMove,
        decided, List.append_nil, alone]
      by_cases current : m.poller.isCurrent f.generation = true
      · rw [doing_now, doing_poller, settled.unobserved] at told
        rw [if_pos current, if_pos current, if_pos (counts.mpr current),
          notify_unwatched (settled.watcher m.unobserved)]
        exact (told.after settled).then (blind_report f _)
      · rw [if_neg current, if_neg current, if_neg (mt counts.mp current)]
        exact (settled.tells m).then (blind_report f _)

theorem Blind.tells_unsettled {f : Machine σ → Machine σ} (blind : Blind f) {m : Machine σ}
    (sound : m.poller.Sound) {deeds : List Deed}
    (unsettled : NoneSettles deeds) (instant : Instant) :
    Tells m (f m) (f m.unobserved) (m.poller.increments (deeds.map (Prod.mk instant))) := by
  rw [sound.increments_nil unsettled]
  exact blind.tells m

theorem submission_unsettled (graph : Graph) (result : Except Failure String) :
    NoneSettles (submission graph result) := by
  cases result <;> simp [NoneSettles, submission, Deed.toMove, Poller.settlement?]

theorem submitting_unsettled (service : Source σ) (m : Machine σ) (graph : Graph) :
    NoneSettles (m.submitting service graph) := by
  unfold submitting
  split
  · exact submission_unsettled graph _
  · exact nofun

theorem command_unsettled (command : Command σ) :
    NoneSettles command.deeds := by
  cases command <;> simp [NoneSettles, Command.deeds, Deed.toMove, Poller.settlement?]

theorem rousing_unsettled (job : Job) : NoneSettles (rousing job) := by
  cases job <;> simp [NoneSettles, rousing, Deed.toMove, Poller.settlement?]

theorem Passive.runJob {service : Source σ} (discreet : service.Discreet) {m : Machine σ} (passive : m.Passive)
    (sound : m.poller.Sound) (job : Job) :
    Tells m (m.runJob service job) (m.unobserved.runJob service job)
      (m.poller.increments ((m.jobDeeds service job).map (Prod.mk m.now))) := by
  cases job with
  | answer fetch result => exact passive.settle sound fetch (.given result)
  | expire fetch => exact passive.settle sound fetch .timedOut
  | enter loop =>
      exact (blind_change fun p => p.enter loop).tells_unsettled sound
        (by simp [NoneSettles, jobDeeds, Deed.toMove, Poller.settlement?]) m.now
  | drop loop =>
      exact (blind_change fun p => p.drop loop).tells_unsettled sound
        (by simp [NoneSettles, jobDeeds, Deed.toMove, Poller.settlement?]) m.now
  | ask fetch => exact (blind_ask discreet fetch).tells m
  | refresh ticket =>
      exact (blind_beginRefresh ticket).tells_unsettled sound
        (by simp [NoneSettles, jobDeeds, Deed.toMove, Poller.settlement?]) m.now
  | wait ticket => exact (blind_beginWait ticket).tells m
  | waited ticket =>
      have learned : Blind fun m : Machine σ => m.emit .waited := blind_emit rfl
      exact learned.tells m
  | submit ticket graph =>
      exact (blind_beginSubmission discreet ticket graph).tells_unsettled sound
        (submitting_unsettled service m graph) m.now
  | submitted ticket graph result =>
      exact (blind_endSubmission graph result).tells_unsettled sound (submission_unsettled graph result) m.now
  | frame => exact blind_stepFrames.tells m
  | cancelFrames =>
      have cancelled : Blind fun m : Machine σ => { m with frames := { m.frames with cancelled := true } } :=
        ⟨fun _ => rfl, fun _ => rfl, fun _ => rfl, fun _ => rfl⟩
      exact cancelled.tells m

theorem Passive.unobserved (m : Machine σ) : m.unobserved.Passive := nofun

theorem Passive.jobDeeds {m : Machine σ} (passive : m.Passive) (service : Source σ) (job : Job) :
    m.unobserved.jobDeeds service job = m.jobDeeds service job := by
  have settling : ∀ id answer, m.unobserved.settling id answer = m.settling id answer := by
    intro id answer
    rw [passive.settling, (Passive.unobserved m).settling]
    rfl
  cases job with
  | answer fetch result => exact settling fetch (.given result)
  | expire fetch => exact settling fetch .timedOut
  | _ => rfl

theorem Passive.stepDeeds {m : Machine σ} (passive : m.Passive) (service : Source σ) :
    m.unobserved.stepDeeds service = m.stepDeeds service := by
  cases queue : m.queue with
  | nil =>
      have alike : m.unobserved.queue = [] := queue
      simp only [Machine.stepDeeds, queue, alike]
      rfl
  | cons next rest =>
      have alike : m.unobserved.queue = next :: rest := queue
      have kept : ({ m with queue := rest } : Machine σ).Passive := passive
      obtain ⟨passes, job⟩ := next
      cases passes with
      | succ passes => simp only [Machine.stepDeeds, queue, alike]
      | zero =>
          simp only [Machine.stepDeeds, queue, alike]
          exact kept.jobDeeds service job

theorem Passive.actDeeds {m : Machine σ} (passive : m.Passive) (service : Source σ) (act : Act σ) :
    m.unobserved.actDeeds service act = m.actDeeds service act := by
  cases act with
  | step => exact passive.stepDeeds service
  | _ => rfl

theorem Passive.step {service : Source σ} (discreet : service.Discreet) {m : Machine σ} (passive : m.Passive)
    (sound : m.poller.Sound) :
    Tells m (m.act service .step) (m.unobserved.act service .step)
      (m.poller.increments ((m.actDeeds service .step).map (Prod.mk (m.act service .step).now))) := by
  have timers : m.unobserved.timers = m.timers := rfl
  cases queue : m.queue with
  | nil =>
      have alike : m.unobserved.queue = [] := queue
      cases first : earliest m.timers with
      | none =>
          simp only [act, step?, queue, alike, first, timers, Machine.actDeeds, Machine.stepDeeds]
          exact blind_id.tells m
      | some timer =>
          simp only [act, step?, queue, alike, first, timers, Machine.actDeeds, Machine.stepDeeds, isDue, if_true,
            Option.getD_some]
          exact (blind_fire timer).tells_unsettled sound (rousing_unsettled timer.job) _
  | cons next rest =>
      have alike : m.unobserved.queue = next :: rest := queue
      have taken : Blind fun m : Machine σ => { m with queue := rest } :=
        ⟨fun _ => rfl, fun _ => rfl, fun _ => rfl, fun _ => rfl⟩
      obtain ⟨passes, job⟩ := next
      cases passes with
      | succ passes =>
          simp only [act, step?, queue, alike, Machine.actDeeds, Machine.stepDeeds, Option.getD_some]
          exact (taken.then (blind_push passes job)).tells m
      | zero =>
          have kept : ({ m with queue := rest } : Machine σ).Passive := passive
          have now := (does_runJob service { m with queue := rest } job).now
          simp only [act, step?, queue, alike, Machine.actDeeds, Machine.stepDeeds, Option.getD_some, now]
          exact (kept.runJob discreet sound job).after taken

theorem Passive.act {service : Source σ} (discreet : service.Discreet) {m : Machine σ} (passive : m.Passive)
    (sound : m.poller.Sound) (act : Act σ) :
    Tells m (m.act service act) (m.unobserved.act service act)
      (m.poller.increments ((m.actDeeds service act).map (Prod.mk (m.act service act).now))) := by
  cases act with
  | obey command => exact (blind_obey command).tells_unsettled sound (command_unsettled command) _
  | step => exact passive.step discreet sound
  | cancel fetch =>
      exact (blind_cancel fetch).tells_unsettled sound
        (by simp [NoneSettles, Machine.actDeeds, Deed.toMove, Poller.settlement?]) _
  | rest instant =>
      have rested : Blind fun m : Machine σ => if m.rests instant then { m with now := instant } else m := by
        refine .depending (fun m : Machine σ => m.rests instant) (fun _ => rfl)
          (f := fun rests m => if rests then { m with now := instant } else m) fun rests => ?_
        cases rests <;> exact ⟨fun _ => rfl, fun _ => rfl, fun _ => rfl, fun _ => rfl⟩
      exact rested.tells m

/-- A watched execution is the unwatched one at every moment, and the watcher is told of every session in
which the count of fetches has just risen. -/
structure Mirrors (service : Source σ) (acts : List (Act σ)) (m alone : Machine σ) : Prop where
  course : (acts.scanl (act service) m).map Machine.unobserved = acts.scanl (act service) alone
  record : m.record service acts = alone.record service acts
  updates : (m.acting service acts).updates =
    m.updates ++ m.told (alone.poller.increments (alone.record service acts))
  complaints : (m.acting service acts).complaints =
    m.noted (alone.poller.increments (alone.record service acts)) ++ m.complaints

theorem Passive.mirrors {service : Source σ} (discreet : service.Discreet) {m : Machine σ} (passive : m.Passive)
    (sound : m.poller.Sound) (acts : List (Act σ)) : Mirrors service acts m m.unobserved := by
  induction acts generalizing m with
  | nil =>
      exact ⟨rfl, rfl, by simp [acting, Machine.record, Poller.increments, told],
        by simp [acting, Machine.record, Poller.increments, noted_nil]⟩
  | cons head tail ih =>
      have tells := passive.act discreet sound head
      have poller := (act_does service m head).1
      have after : (m.act service head).poller.Sound := by
        rw [poller]
        exact sound.after _
      have later := ih (passive.of_watcher tells.watcher) after
      have deeds := passive.actDeeds service head
      have now : (m.unobserved.act service head).now = (m.act service head).now := by
        rw [← tells.unobserved]
        rfl
      rw [tells.unobserved] at later
      have follows : (m.unobserved.act service head).poller =
          m.poller.after (moves ((m.actDeeds service head).map (Prod.mk (m.act service head).now))) := by
        rw [← tells.unobserved, moves, List.map_map]
        exact poller
      have counted : m.poller.increments (m.unobserved.record service (head :: tail)) =
          m.poller.increments ((m.actDeeds service head).map (Prod.mk (m.act service head).now)) ++
            (m.unobserved.act service head).poller.increments
              ((m.unobserved.act service head).record service tail) := by
        rw [Machine.record, deeds, now, Poller.increments_append, follows]
      have same : (m.act service head).told = m.told := by
        funext news
        rw [told, told, tells.watcher]
      have alike : (m.act service head).noted = m.noted := by
        funext news
        rw [noted, noted, tells.watcher]
      have told := later.updates
      have noted := later.complaints
      rw [tells.updates, same, List.append_assoc, ← told_append, ← counted] at told
      rw [tells.complaints, alike, ← List.append_assoc, ← noted_append, ← counted] at noted
      constructor
      · simp only [List.scanl_cons, List.map_cons, later.course]
      · simp only [Machine.record, later.record, deeds, now]
      · exact told
      · exact noted

end Machine

/-- A poller that is watched goes through what the one that nobody watches goes through, whether or not its
callback raises; the callback is told of every session in which the count of fetches has just risen, which it does
when a fetch of the current session is recorded and at no other time.  Where the callback raises, that is noted
once. -/
theorem Machine.observers_alike {ε : Type} (raise : ε → Raised) (config : Config) (keepPolling : Bool)
    (nodes : List Node) (script : List (Reply (Except ε Payload))) (raises? : Option (Session → Bool))
    (acts : List (Machine.Act (List (Reply (Except ε Payload))))) :
    let service := Source.raising raise
    let watched := Machine.initial config keepPolling nodes script (raises?.map observing)
    let alone := Machine.initial config keepPolling nodes script none
    (acts.scanl (Machine.act service) watched).map Machine.unobserved = acts.scanl (Machine.act service) alone ∧
      watched.record service acts = alone.record service acts ∧
      (watched.acting service acts).updates =
        (if raises?.isSome then alone.poller.increments (alone.record service acts) else []) ∧
      (watched.acting service acts).complaints.reverse =
        ((watched.acting service acts).updates.filter fun told => raises?.any (· told.2)).map
          (fun told => (told.1, told.2.runId)) ∧
      ∀ before move, Poller.Counted (alone.poller.after before) move := by
  intro service watched alone
  have passive : watched.Passive := by
    intro react watches s
    obtain ⟨raises, _, rfl⟩ := Option.map_eq_some_iff.mp watches
    rfl
  have sound := Poller.initial_sound config keepPolling
  have mirrors := passive.mirrors (Source.raising_discreet raise) sound acts
  have told : ∀ news, watched.told news = if raises?.isSome then news else [] := by
    intro news
    cases raises? <;> rfl
  have updates : (watched.acting service acts).updates =
      if raises?.isSome then alone.poller.increments (alone.record service acts) else [] := by
    rw [mirrors.updates, told]
    rfl
  refine ⟨mirrors.course, mirrors.record, updates, ?_, fun before move => (sound.after before).counted move⟩
  rw [mirrors.complaints, updates]
  cases raises? with
  | none => rfl
  | some raises =>
      have silent : watched.complaints = [] := rfl
      rw [silent, List.append_nil]
      exact List.reverse_reverse _

example :
    let replies : List (Reply (Except Failure Payload)) := [⟨some 0, .error (.runtime "refused")⟩]
    let watched := Machine.initial .standard false [] replies (some (observing fun _ => true))
    let acts := [.obey (.start "run-1"), .step, .step, .obey .stop, .step, .step, .obey .refresh]
    let later := watched.acting .scripted (acts ++ List.replicate 4 .step)
    later.updates.map (fun told => told.2.fetchCount) = [1, 2] ∧ later.complaints.length = 2 := by
  decide +kernel

end WorkflowRuns
