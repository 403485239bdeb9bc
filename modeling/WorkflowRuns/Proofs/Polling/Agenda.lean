import WorkflowRuns.Proofs.Polling.Execution
import WorkflowRuns.Proofs.Polling.Landing
import WorkflowRuns.Proofs.Polling.Needs
import WorkflowRuns.Proofs.Polling.Timers

/-!
The agenda of a machine.  Whatever its poller needs is queued, or has a timer, and time does not pass
while anything is queued.
-/

namespace WorkflowRuns

namespace Machine

open Poller (Need Needs Leaves Meets Met)

variable {σ : Type}

def InQueue (m : Machine σ) (job : Job) : Prop := ∃ passes, ⟨passes, job⟩ ∈ m.queue

def Pending (m : Machine σ) (job : Job) : Prop := m.InQueue job ∨ ∃ timer ∈ m.timers, timer.job = job

/-- Whatever it is asked, the source answers at some time. -/
def Answers (service : Source σ) : Prop := ∀ state runId, (service.status state runId).1.delay ≠ none

/-- The need is seen to.  A fetch expires if there is a limit to it, and is answered if the source answers. -/
def Provided (service : Source σ) (m : Machine σ) : Need → Prop
  | .enter loop => m.InQueue (.enter loop)
  | .drop loop => m.InQueue (.drop loop)
  | .decide _ => False
  | .settle fetch =>
      (m.poller.config.requestTimeout.delay ≠ none → m.Pending (.expire fetch)) ∧
        (Answers service → m.InQueue (.ask fetch) ∨ ∃ result, m.Pending (.answer fetch result))

/-- The job sees to the need. -/
inductive Bears : Job → Need → Prop
  | enter (loop : Nat) : Bears (.enter loop) (.enter loop)
  | drop (loop : Nat) : Bears (.drop loop) (.drop loop)
  | ask (fetch : Nat) : Bears (.ask fetch) (.settle fetch)
  | answer (fetch : Nat) (result : Except Raised Payload) : Bears (.answer fetch result) (.settle fetch)
  | expire (fetch : Nat) : Bears (.expire fetch) (.settle fetch)

theorem Provided.kept {service : Source σ} {m n : Machine σ} {need : Need} (provided : Provided service m need)
    (config : n.poller.config = m.poller.config)
    (queued : ∀ job, Bears job need → m.InQueue job → n.InQueue job)
    (timed : ∀ fetch job, need = .settle fetch → job.concerns fetch = true →
      (∃ timer ∈ m.timers, timer.job = job) → n.Pending job) : Provided service n need := by
  cases need with
  | enter loop => exact queued _ (.enter loop) provided
  | drop loop => exact queued _ (.drop loop) provided
  | decide loop => exact provided
  | settle fetch =>
      have pending : ∀ job, Bears job (.settle fetch) → job.concerns fetch = true → m.Pending job → n.Pending job := by
        intro job bears concerns waiting
        rcases waiting with inside | timer
        · exact Or.inl (queued job bears inside)
        · exact timed fetch job rfl concerns timer
      refine ⟨?_, ?_⟩
      · rw [config]
        intro limited
        exact pending _ (.expire fetch) (by simp [Job.concerns]) (provided.1 limited)
      · intro answers
        rcases provided.2 answers with asked | ⟨result, waiting⟩
        · exact Or.inl (queued _ (.ask fetch) asked)
        · exact Or.inr ⟨result, pending _ (.answer fetch result) (by simp [Job.concerns]) waiting⟩

theorem Does.queue {m n : Machine σ} {deeds : List Deed} (does : Does m deeds n) :
    ∀ queued ∈ m.queue, queued ∈ n.queue := by
  induction does with
  | beside beside => exact beside.queue
  | deed m deed _ => exact doing_queue m deed
  | trans _ _ first second => exact fun queued member => second queued (first queued member)

theorem concerns_unique {job : Job} {first second : Nat} (left : job.concerns first = true)
    (right : job.concerns second = true) : first = second := by
  cases job with
  | answer fetch result =>
      simp only [Job.concerns, decide_eq_true_eq] at left right
      rw [← left, right]
  | expire fetch =>
      simp only [Job.concerns, decide_eq_true_eq] at left right
      rw [← left, right]
  | _ => cases left

theorem concerns_loop {loop fetch : Nat} : (Job.enter loop).concerns fetch = false := rfl

theorem mem_cancelFetch {m : Machine σ} {timer : Timer} {fetch other : Nat} (member : timer ∈ m.timers)
    (concerns : timer.job.concerns fetch = true) (different : fetch ≠ other) :
    timer ∈ (m.cancelFetch other).timers := by
  refine List.mem_filter.mpr ⟨member, ?_⟩
  cases concerned : timer.job.concerns other with
  | false => rfl
  | true => exact absurd (concerns_unique concerns concerned) different

theorem tidied_timer (m : Machine σ) {move : Poller.Move} {f : Fetch} (outstanding : f ∈ (m.poller.move move).fetches)
    {timer : Timer} (member : timer ∈ m.timers) (concerns : timer.job.concerns f.id = true) :
    timer ∈ (m.tidied move).timers := by
  have other : ∀ {g : Fetch}, Poller.Ends g m.poller (m.poller.move move) → f.id ≠ g.id :=
    fun ends => (ends.mem.mp outstanding).2
  cases move with
  | settle id answer =>
      cases found : m.poller.fetch? id with
      | none => simpa [tidied, found] using member
      | some g =>
          obtain ⟨inside, rfl⟩ := Poller.fetch?_mem found
          have ends := Poller.ends_settle inside (m.poller.outcome g answer)
          simp only [Poller.move, found] at other
          simp only [tidied, found, Option.isSome_some, if_true]
          exact mem_cancelFetch member concerns (other ends)
  | cancel id =>
      cases found : m.poller.fetch? id with
      | none => simpa [tidied, found] using member
      | some g =>
          obtain ⟨inside, rfl⟩ := Poller.fetch?_mem found
          simp only [Poller.move, found] at other
          simp only [tidied, found, Option.isSome_some, if_true]
          exact mem_cancelFetch member concerns (other (Poller.ends_cancel inside))
  | _ => exact member

theorem doing_timer (m : Machine σ) {deed : Deed} {f : Fetch} (outstanding : f ∈ (m.doing deed).poller.fetches)
    {timer : Timer} (member : timer ∈ m.timers) (concerns : timer.job.concerns f.id = true) :
    timer ∈ (m.doing deed).timers := by
  rw [doing_poller] at outstanding
  obtain ⟨before, after, same⟩ := m.doing_follow deed
  rw [same]
  rcases (signalled_follow ({ m.tidied deed.toMove with nodes := before } : Machine σ) _).timers timer
    (m.tidied_timer outstanding member concerns) with kept | ⟨loop, wakes⟩
  · exact kept
  · rw [wakes, concerns_loop] at concerns
    cases concerns

theorem Does.timer {m n : Machine σ} {deeds : List Deed} (does : Does m deeds n) (sound : m.poller.Sound)
    {f : Fetch} (outstanding : f ∈ n.poller.fetches) (old : f.id < m.poller.nextFetch) {timer : Timer}
    (member : timer ∈ m.timers) (concerns : timer.job.concerns f.id = true) : timer ∈ n.timers := by
  induction does with
  | beside beside => exact beside.timers timer member
  | deed m deed _ => exact m.doing_timer outstanding member concerns
  | @trans m n o first second before later left right =>
      have between : n.poller.Sound := by
        rw [before.poller]
        exact sound.after _
      have onward : m.poller.Onward n.poller := by
        rw [before.poller]
        exact sound.onward_after _
      have older : f.id < n.poller.nextFetch := Nat.lt_of_lt_of_le old onward.next
      have still : f ∈ n.poller.fetches := by
        have end' := between.onward_after (second.map Deed.toMove)
        rw [← later.poller] at end'
        exact end'.old f outstanding older
      exact right between outstanding older (left sound still old member)

theorem provided_signal (service : Source σ) (m : Machine σ) {signal : Signal} {need : Need}
    (meets : Meets signal need) : Provided service (m.signal signal) need := by
  have last : ∀ (n : Machine σ) passes job, (n.push passes job).InQueue job := fun n passes job =>
    ⟨passes, List.mem_append_right _ (List.mem_singleton_self _)⟩
  cases meets with
  | spawned loop => exact last m 0 (.enter loop)
  | woken loop => exact last _ wokenPasses (.enter loop)
  | calledOff loop => exact last _ dropPasses (.drop loop)
  | fetching f =>
      have deferred := deferred_signal m (.fetching f)
      refine ⟨?_, ?_⟩
      · rw [deferred.poller]
        intro limited
        obtain ⟨span, limit⟩ := Option.ne_none_iff_exists'.mp limited
        refine Or.inr ⟨⟨m.now + span, timeoutPasses, .expire f.id⟩, ?_, rfl⟩
        simp [Machine.signal, push, schedule, limit]
      · intro _
        have asked := (signalled_schedule (m.push 0 (.ask f.id)) m.poller.config.requestTimeout.delay timeoutPasses
          (.expire f.id)).queue
        exact Or.inl ⟨0, asked _ (List.mem_append_right _ (List.mem_singleton_self _))⟩

theorem Signalled.provided {service : Source σ} {m n : Machine σ} (signalled : Signalled m n)
    (config : n.poller.config = m.poller.config) {need : Need} (provided : Provided service m need) :
    Provided service n need := by
  apply provided.kept config
  · rintro job _ ⟨passes, member⟩
    exact ⟨passes, signalled.queue _ member⟩
  · rintro fetch job _ concerns ⟨timer, member, rfl⟩
    rcases signalled.timers timer member with kept | ⟨loop, wakes⟩
    · exact Or.inr ⟨timer, kept, rfl⟩
    · rw [wakes, concerns_loop] at concerns
      cases concerns

theorem provided_follow (service : Source σ) (m : Machine σ) (change : Poller × List Signal) {need : Need}
    (met : Met change.2 need) : Provided service (m.follow change) need := by
  obtain ⟨signal, member, meets⟩ := met
  obtain ⟨before, after, signals⟩ := List.append_of_mem member
  unfold follow
  rw [signals, List.foldl_append, List.foldl_cons]
  have heeded := provided_signal service (before.foldl Machine.signal { m with poller := change.1 }) meets
  have config := congrArg Poller.config (deferred_foldl deferred_signal
    ((before.foldl Machine.signal { m with poller := change.1 }).signal signal) after).poller
  exact (signalled_foldl signalled_signal _ after).provided config heeded

/-- Apart from what is owed, whatever the poller needs is provided. -/
structure Owing (service : Source σ) (owed : Need → Prop) (m : Machine σ) : Prop where
  sound : m.poller.Sound
  provided : ∀ need, Needs m.poller need → Provided service m need ∨ owed need

theorem Does.sound {m n : Machine σ} {deeds : List Deed} (does : Does m deeds n) (sound : m.poller.Sound) :
    n.poller.Sound := by
  rw [does.poller]
  exact sound.after _

theorem Does.config {m n : Machine σ} {deeds : List Deed} (does : Does m deeds n) (sound : m.poller.Sound) :
    n.poller.config = m.poller.config := by
  rw [does.poller]
  exact congrArg Prod.fst (sound.settings_after _)

theorem Does.onward {m n : Machine σ} {deeds : List Deed} (does : Does m deeds n) (sound : m.poller.Sound) :
    m.poller.Onward n.poller := by
  rw [does.poller]
  exact sound.onward_after _

theorem Does.provided {service : Source σ} {m n : Machine σ} {deeds : List Deed} (does : Does m deeds n)
    (sound : m.poller.Sound) {need : Need} (before : Needs m.poller need) (needed : Needs n.poller need)
    (provided : Provided service m need) : Provided service n need := by
  apply provided.kept (does.config sound)
  · rintro job _ ⟨passes, member⟩
    exact ⟨passes, does.queue _ member⟩
  · rintro fetch job rfl concerns ⟨timer, member, rfl⟩
    generalize equal : Need.settle fetch = need at before needed
    cases before with
    | @settle g earlier =>
        rw [Need.settle.injEq] at equal
        generalize again : Need.settle g.id = need at needed
        cases needed with
        | @settle f outstanding =>
            rw [Need.settle.injEq] at again
            rw [equal, again] at concerns
            have old : f.id < m.poller.nextFetch := by
              rw [← again]
              exact sound.flight.known g earlier
            exact Or.inr ⟨timer, does.timer sound outstanding old member concerns, rfl⟩
        | _ => cases again
    | _ => cases equal

theorem Owing.doing {service : Source σ} {owed : Need → Prop} {m : Machine σ} (owing : Owing service owed m)
    (deed : Deed) (other : ∀ loop, deed ≠ .move (.rouse loop)) :
    Owing service (m.poller.owes owed [deed.toMove]) (m.doing deed) := by
  have does := Does.deed m deed other
  refine ⟨does.sound owing.sound, ?_⟩
  intro need needed
  have after : Needs (m.poller.move deed.toMove) need := by rwa [← doing_poller]
  have unserved : ¬ Poller.Serves deed.toMove need := fun serves =>
    Poller.served_move owing.sound.loops serves after
  rw [← Poller.change_move] at after
  rcases Poller.adds_change owing.sound.loops deed.toMove need after with before | met | left
  · rcases owing.provided need before with provided | still
    · exact Or.inl (does.provided owing.sound before needed provided)
    · exact Or.inr ⟨Or.inl still, unserved⟩
  · obtain ⟨first, last, same⟩ := m.doing_follow deed
    have heeded := provided_follow service { m.tidied deed.toMove with nodes := first } _ met
    left
    rw [same]
    exact heeded
  · exact Or.inr ⟨Or.inr left, unserved⟩

theorem Owing.does {service : Source σ} {owed : Need → Prop} {m n : Machine σ} {deeds : List Deed}
    (owing : Owing service owed m) (does : Does m deeds n) :
    Owing service (m.poller.owes owed (deeds.map Deed.toMove)) n := by
  induction does generalizing owed with
  | beside beside =>
      have does := Does.beside beside
      refine ⟨does.sound owing.sound, ?_⟩
      intro need needed
      have before := needed
      rw [beside.poller] at before
      exact (owing.provided need before).imp_left (does.provided owing.sound before needed)
  | deed m deed other => exact owing.doing deed other
  | trans first _ left right =>
      rw [List.map_append, Poller.owes_append, ← first.poller]
      exact right (left owing)

def Provident (service : Source σ) (m : Machine σ) : Prop := Owing service (fun _ => False) m

theorem Owing.settled {service : Source σ} {owed : Need → Prop} {m : Machine σ} (owing : Owing service owed m)
    (none : ∀ need, Needs m.poller need → ¬ owed need) : Provident service m :=
  ⟨owing.sound, fun need needed => Or.inl ((owing.provided need needed).resolve_right (none need needed))⟩

theorem command_tame {command : Command σ} : ∀ move ∈ command.deeds.map Deed.toMove, ∀ q need, ¬ Leaves q move need := by
  intro move member q need
  cases command with
  | start runId =>
      cases List.mem_singleton.mp member
      nofun
  | stop =>
      cases List.mem_singleton.mp member
      nofun
  | clear =>
      cases List.mem_singleton.mp member
      nofun
  | _ => cases member

theorem reactions_tame {m : Machine σ} : ∀ move ∈ m.reactions.map Deed.toMove, ∀ q need, ¬ Leaves q move need := by
  intro move member
  obtain ⟨deed, inside, rfl⟩ := List.mem_map.mp member
  unfold reactions at inside
  split at inside
  · cases inside
  · obtain ⟨command, _, given⟩ := List.mem_flatMap.mp inside
    exact command_tame _ (List.mem_map_of_mem given)

theorem submission_tame {graph : Graph} {result : Except Failure String} :
    ∀ move ∈ (submission graph result).map Deed.toMove, ∀ q need, ¬ Leaves q move need := by
  intro move member q need
  cases result with
  | error failure => cases member
  | ok runId =>
      cases List.mem_singleton.mp member
      nofun

theorem Provident.tame {service : Source σ} {m n : Machine σ} {deeds : List Deed} (provident : Provident service m)
    (does : Does m deeds n) (tame : ∀ move ∈ deeds.map Deed.toMove, ∀ q need, ¬ Leaves q move need) :
    Provident service n :=
  (provident.does does).settled fun _ _ owing => Poller.owes_tame tame owing

theorem Provident.pop {service : Source σ} {m : Machine σ} {passes : Nat} {job : Job} {rest : List Queued}
    (provident : Provident service m) (queue : m.queue = ⟨passes, job⟩ :: rest) :
    Owing service (Bears job) { m with queue := rest } := by
  refine ⟨provident.sound, ?_⟩
  intro need needed
  by_cases bears : Bears job need
  · exact Or.inr bears
  · left
    have provided := (provident.provided need needed).resolve_right id
    refine provided.kept rfl ?_ ?_
    · rintro other borne ⟨turns, member⟩
      rw [queue, List.mem_cons] at member
      rcases member with taken | inside
      · rw [Queued.mk.injEq] at taken
        rw [taken.2] at borne
        exact absurd borne bears
      · exact ⟨turns, inside⟩
    · exact fun _ _ _ _ timer => Or.inr timer

theorem answered_ask (service : Source σ) (m : Machine σ) {fetch : Nat} (needed : Needs m.poller (.settle fetch))
    (answers : Answers service) : ∃ result, (m.ask service fetch).Pending (.answer fetch result) := by
  cases found : m.poller.fetch? fetch with
  | none => exact absurd needed (Poller.unneeded_settle found)
  | some f =>
      unfold ask
      simp only [found]
      refine ⟨(service.status m.source f.runId).1.result, ?_⟩
      split
      · exact Or.inl ⟨promptPasses, List.mem_append_right _ (List.mem_singleton_self _)⟩
      · obtain ⟨span, delay⟩ := Option.ne_none_iff_exists'.mp (answers m.source f.runId)
        simp only [delay, schedule]
        exact Or.inr ⟨_, List.mem_append_right _ (List.mem_singleton_self _), rfl⟩

theorem Provident.ask {service : Source σ} {m : Machine σ} {passes fetch : Nat} {rest : List Queued}
    (provident : Provident service m) (queue : m.queue = ⟨passes, .ask fetch⟩ :: rest) :
    Provident service (({ m with queue := rest } : Machine σ).ask service fetch) := by
  have asked := Does.beside (beside_ask service { m with queue := rest } fetch)
  have owing := (provident.pop queue).does asked
  refine ⟨owing.sound, ?_⟩
  intro need needed
  rcases owing.provided need needed with provided | borne
  · exact Or.inl provided
  · left
    have before := needed
    rw [asked.poller] at before
    cases borne with
    | ask =>
        -- The timer of the limit is still there; only the question is not.
        have provided := (provident.provided _ before).resolve_right id
        refine ⟨?_, fun answers => Or.inr (answered_ask service _ before answers)⟩
        rw [asked.config provident.sound]
        intro limited
        rcases provided.1 limited with ⟨turns, member⟩ | ⟨timer, member, job⟩
        · rw [queue, List.mem_cons, Queued.mk.injEq] at member
          rcases member with ⟨_, never⟩ | inside
          · cases never
          · exact Or.inl ⟨turns, asked.queue _ inside⟩
        · refine Or.inr ⟨timer, ?_, job⟩
          exact (beside_ask service { m with queue := rest } fetch).timers timer member

theorem Owing.settle {service : Source σ} {owed : Need → Prop} {m : Machine σ} (owing : Owing service owed m)
    (fetch : Nat) (answer : Answer) (own : ∀ need, owed need → need = .settle fetch) :
    Provident service (m.settle fetch fun f => m.poller.outcome f answer) := by
  have does := does_settle m fetch answer
  apply (owing.does does).settled
  intro need needed owes
  cases found : m.poller.fetch? fetch with
  | none =>
      simp only [settling, found, List.map_nil] at does owes
      rw [does.poller] at needed
      rw [own need owes] at needed
      exact Poller.unneeded_settle found needed
  | some f =>
      simp only [settling, found, List.map_cons, List.map_append] at owes
      rw [← List.singleton_append, Poller.owes_append, Poller.owes_append] at owes
      have reacted : ∀ {p owed need}, Poller.owes p owed (List.map Deed.toMove
          (if m.poller.isCurrent f.generation then (m.doing (.move (.settle fetch answer))).reactions else []))
          need → owed need := by
        intro p owed need owing
        apply Poller.owes_tame _ owing
        split
        · exact reactions_tame
        · exact fun move member => absurd member List.not_mem_nil
      -- The settled fetch is needed no more, so that only the decision of its loop is left.
      have left : ∀ {need}, Poller.owes m.poller owed [Deed.toMove (.move (.settle fetch answer))] need →
          ∃ loop, f.requester = .loop loop ∧ need = .decide loop := by
        rintro need ⟨before | leaves, unserved⟩
        · rw [own need before] at unserved
          exact absurd (.settle fetch answer) unserved
        · cases leaves with
          | settle same requester =>
              rw [found, Option.some.injEq] at same
              rw [← same] at requester
              exact ⟨_, requester, rfl⟩
      cases requester : f.requester with
      | refresh ticket =>
          simp only [decisions, requester, List.map_nil] at owes
          obtain ⟨loop, never, _⟩ := left (reacted owes)
          rw [requester] at never
          cases never
      | loop id =>
          simp only [decisions, requester, List.map_cons, List.map_nil] at owes
          obtain ⟨before | leaves, unserved⟩ := owes
          · obtain ⟨loop, same, rfl⟩ := left (reacted before)
            rw [requester, Requester.loop.injEq] at same
            rw [same] at unserved
            exact unserved (.decide loop)
          · cases leaves

theorem Owing.serve {service : Source σ} {m : Machine σ} {job : Job}
    (owing : Owing service (Bears job) m) (move : Poller.Move) {n : Machine σ} (does : Does m [.move move] n)
    (serves : ∀ need, Bears job need → Poller.Serves move need) (tame : ∀ q need, ¬ Leaves q move need) :
    Provident service n := by
  apply (owing.does does).settled
  rintro need _ ⟨borne | leaves, unserved⟩
  · exact unserved (serves need borne)
  · exact tame _ need leaves

theorem Provident.runJob {service : Source σ} {m : Machine σ} {passes : Nat} {job : Job} {rest : List Queued}
    (provident : Provident service m) (queue : m.queue = ⟨passes, job⟩ :: rest) :
    Provident service (({ m with queue := rest } : Machine σ).runJob service job) := by
  have owing := provident.pop queue
  have does := does_runJob service { m with queue := rest } job
  -- A job that bears nothing leaves nothing owing, if what it does is heeded.
  have barren : (∀ need, ¬ Bears job need) →
      (∀ move ∈ (jobDeeds service { m with queue := rest } job).map Deed.toMove, ∀ q need, ¬ Leaves q move need) →
      Provident service (({ m with queue := rest } : Machine σ).runJob service job) := by
    intro none tame
    apply (owing.does does).settled
    exact fun need _ owes => none need (Poller.owes_tame tame owes)
  cases job with
  | enter loop =>
      apply owing.serve (.enter loop) does
      · rintro need ⟨⟩
        exact .enter loop
      · rintro q need ⟨⟩
  | drop loop =>
      apply owing.serve (.drop loop) does
      · rintro need ⟨⟩
        exact .drop loop
      · rintro q need ⟨⟩
  | ask fetch => exact provident.ask queue
  | answer fetch result =>
      apply owing.settle fetch (.given result)
      rintro need ⟨⟩
      rfl
  | expire fetch =>
      apply owing.settle fetch .timedOut
      rintro need ⟨⟩
      rfl
  | refresh ticket =>
      apply barren nofun
      intro move member
      cases List.mem_singleton.mp member
      rintro q need ⟨⟩
  | submit ticket graph =>
      apply barren nofun
      simp only [jobDeeds, submitting]
      split
      · exact submission_tame
      · nofun
  | submitted ticket graph result => exact barren nofun submission_tame
  | _ => exact barren nofun nofun

theorem Provident.fire {service : Source σ} {m : Machine σ} {timer : Timer} (provident : Provident service m)
    (first : earliest m.timers = some timer) : Provident service (m.fire timer) := by
  have fired := fire_poller m timer
  have queued : ∀ job, m.InQueue job → (m.fire timer).InQueue job := by
    rintro job ⟨passes, member⟩
    exact ⟨passes, by rw [fire_spec]; exact List.mem_append_left _ member⟩
  have due : (m.fire timer).InQueue timer.job :=
    ⟨timer.passes, by rw [fire_spec]; exact List.mem_append_right _ (List.mem_singleton_self _)⟩
  have config : (m.fire timer).poller.config = m.poller.config := by
    rw [fired]
    exact congrArg Prod.fst (provident.sound.settings_after _)
  have kept : ∀ need, Provided service m need → Provided service (m.fire timer) need := by
    intro need provided
    apply provided.kept config
    · exact fun job _ inside => queued job inside
    · rintro fetch job _ _ ⟨other, member, rfl⟩
      rcases (earliest_spec first).2 other member with rfl | remains
      · exact Or.inl due
      · exact Or.inr ⟨other, by rw [fire_spec]; exact remains, rfl⟩
  refine ⟨by rw [fired]; exact provident.sound.after _, ?_⟩
  intro need needed
  left
  rw [fired] at needed
  cases job : timer.job with
  | enter loop =>
      rw [job] at needed due
      rcases Poller.adds_rouse m.poller loop need needed with before | rfl
      · exact kept need ((provident.provided need before).resolve_right id)
      · exact due
  | _ =>
      rw [job] at needed
      exact kept need ((provident.provided need needed).resolve_right id)

theorem inQueue_pass {m : Machine σ} {passes : Nat} {job : Job} {rest : List Queued}
    (queue : m.queue = ⟨passes + 1, job⟩ :: rest) {other : Job} (inside : m.InQueue other) :
    (({ m with queue := rest } : Machine σ).push passes job).InQueue other := by
  obtain ⟨turns, member⟩ := inside
  rw [queue, List.mem_cons, Queued.mk.injEq] at member
  rcases member with ⟨_, rfl⟩ | behind
  · exact ⟨passes, List.mem_append_right _ (List.mem_singleton_self _)⟩
  · exact ⟨turns, List.mem_append_left _ behind⟩

theorem Provident.pass {service : Source σ} {m : Machine σ} {passes : Nat} {job : Job} {rest : List Queued}
    (provident : Provident service m) (queue : m.queue = ⟨passes + 1, job⟩ :: rest) :
    Provident service (({ m with queue := rest } : Machine σ).push passes job) := by
  refine ⟨provident.sound, ?_⟩
  intro need needed
  left
  refine ((provident.provided need needed).resolve_right id).kept rfl ?_ ?_
  · exact fun other _ inside => inQueue_pass queue inside
  · exact fun _ _ _ _ timer => Or.inr timer

theorem Provident.act {service : Source σ} {m : Machine σ} (provident : Provident service m) (act : Act σ) :
    Provident service (m.act service act) := by
  cases act with
  | obey command => exact provident.tame (does_obey m command) command_tame
  | step =>
      cases stepped : m.step? service none with
      | none => simpa only [Machine.act, stepped, Option.getD_none] using provident
      | some n =>
          simp only [Machine.act, stepped]
          rcases step?_cases stepped with ⟨passes, job, rest, queue, rfl⟩ | ⟨job, rest, queue, rfl⟩ |
            ⟨timer, queue, first, rfl⟩
          · exact provident.pass queue
          · exact provident.runJob queue
          · exact provident.fire first
  | cancel fetch =>
      apply provident.tame (does_cancel m fetch)
      intro move member
      cases List.mem_singleton.mp member
      rintro q need ⟨⟩
  | rest instant =>
      simp only [Machine.act]
      split
      · refine ⟨provident.sound, ?_⟩
        intro need needed
        left
        refine ((provident.provided need needed).resolve_right id).kept rfl ?_ ?_
        · exact fun _ _ inside => inside
        · exact fun _ _ _ _ timer => Or.inr timer
      · exact provident

theorem initial_provident (service : Source σ) (config : Config) (keepPolling : Bool) (nodes : List Node)
    (source : σ) (watcher : Option (Session → Reaction σ)) :
    Provident service (initial config keepPolling nodes source watcher) :=
  ⟨Poller.initial_sound config keepPolling, by rintro need ⟨⟩ <;> contradiction⟩

theorem Provident.acting {service : Source σ} {m : Machine σ} (provident : Provident service m)
    (acts : List (Act σ)) : Provident service (m.acting service acts) := by
  induction acts generalizing m with
  | nil => exact provident
  | cons head tail ih => exact ih (provident.act head)

end Machine

end WorkflowRuns
