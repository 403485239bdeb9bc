import WorkflowRuns.Proofs.Polling.Pairing
import WorkflowRuns.Proofs.Polling.Tickets

/-!
What a submission comes to.  It takes effect as a whole in its last turn, or not at all, whatever else is
done between its turns.
-/

namespace WorkflowRuns

theorem Service.runId_ne_empty (n : Nat) : runId n ≠ "" := by
  intro empty
  unfold runId at empty
  simp only [String.append_eq_empty_iff] at empty
  exact absurd empty.1.1 (by decide)

/-- The graph is posted under a run id, and can be accepted under no other. -/
structure Posts (graph : Graph) (exchange : Exchange Failure String) (runId url : String) : Prop where
  named : runId ≠ ""
  sent : exchange.sent = some (.request ⟨"POST", url, some (graph.payload runId)⟩)
  accepted : ∀ id, exchange.result = .ok id → id = runId

theorem Client.submitted_ok {runId id : String} {response : Response} (accepted : submitted runId response = .ok id) :
    id = runId := by
  unfold submitted at accepted
  cases answered : answer "POST" submissionPath response with
  | error failure =>
      rw [answered] at accepted
      cases accepted
  | ok reply =>
      obtain ⟨status, body⟩ := reply
      rw [answered] at accepted
      by_cases good : status = 200 ∨ status = 201
      · simp only [good, bind, Except.bind, pure, Except.pure, if_true, Except.ok.injEq] at accepted
        exact accepted.symm
      · simp [good, bind, Except.bind] at accepted

theorem Service.post_cases (s : Service) (graph : Graph) :
    (∃ failure, (s.post graph none).1 = refusal failure) ∨
      ∃ runId url, Posts graph (s.post graph none).1 runId url := by
  unfold post
  simp only
  split
  next failure _ => exact Or.inl ⟨failure, rfl⟩
  next url _ => exact Or.inr ⟨_, url.text, runId_ne_empty _, rfl, fun id accepted => Client.submitted_ok accepted⟩

namespace Poller

theorem untracked_after (config : Config) (keepPolling : Bool) {moves : List Move} {runId : String}
    (fresh : ∀ move ∈ moves, move ≠ .start runId) :
    ((initial config keepPolling).after moves).session.runId ≠ some runId := by
  intro tracked
  rw [after_tracks] at tracked
  rcases tracks_cases moves (initial config keepPolling).session.runId with same | forgotten | ⟨other, member, last⟩
  · rw [same] at tracked
    cases tracked
  · rw [forgotten] at tracked
    cases tracked
  · rw [last] at tracked
    cases tracked
    exact fresh _ member rfl

theorem start_named (p : Poller) {runId : String} (named : runId ≠ "") : ∃ change, p.start runId = .ok change := by
  unfold start
  rw [if_neg named]
  split
  · exact ⟨_, rfl⟩
  · split <;> exact ⟨_, rfl⟩

def turnedTo (p : Poller) (runId : String) : Poller :=
  { p.supersede.1 with session := beginPolling (.tracking runId), phase := .polling }

theorem start_turns {p : Poller} {runId : String} (named : runId ≠ "") (other : p.session.runId ≠ some runId) :
    p.start runId = .ok ((p.turnedTo runId).spawn.1, p.supersede.2 ++ [.spawned p.nextLoop]) := by
  simp [start, named, other, resume, isActive, supersede, spawn, turnedTo]

theorem OneLoop.spawned {p : Poller} (one : OneLoop p) :
    (Poller.spawn p).1.loop? p.nextLoop = some ⟨p.nextLoop, p.generation, .created⟩ := by
  have earlier : p.loops.find? (·.id = p.nextLoop) = none := by
    rw [List.find?_eq_none]
    intro l member
    have known := one.known l member
    simp only [decide_eq_true_eq]
    omega
  simp [Poller.spawn, loop?, List.find?_append, earlier]

end Poller

namespace Machine

variable {σ : Type}

namespace Turn

def events (turn : Turn σ) : List Event :=
  ((turn.after.trace.take (turn.after.trace.length - turn.before.trace.length)).map Prod.snd).reverse

def begun (turn : Turn σ) : Machine σ := { turn.before with queue := turn.before.queue.tail }

/-- Nodes and poller stay as they are, and whatever else was to be done still is. -/
def Spares (turn : Turn σ) : Prop := Beside turn.begun turn.after

def exchange (graph : Graph) (turn : Turn Service) : Exchange Failure String := (turn.before.source.post graph none).1

theorem events_of {turn : Turn σ} {time : Instant} {told : List Event}
    (trace : turn.after.trace = (told.map (Prod.mk time)).reverse ++ turn.before.trace) : turn.events = told := by
  simp [events, trace, Function.comp_def]

end Turn

structure Polls (runId : String) (m : Machine σ) : Prop where
  session : m.poller.session = { Session.empty with runId := some runId, isPolling := true }
  phase : m.poller.phase = .polling
  loop : ∃ loop, m.poller.task = some loop ∧
    m.poller.loop? loop = some ⟨loop, m.poller.generation, .created⟩ ∧ ⟨0, .enter loop⟩ ∈ m.queue

/-- The graph is taken over and its run started.  Under a run id that is new, nothing is left of another run. -/
structure Takes (graph : Graph) (runId : String) (turn : Turn σ) : Prop where
  reported : .submitted (.ok runId) ∈ turn.events
  nodes : turn.after.nodes = graph.nodes
  poller : turn.after.poller = turn.before.poller.move (.start runId)
  polls : (∀ deed ∈ turn.past, deed.toMove ≠ .start runId) → Polls runId turn.after

/-- How a submission fares by its turns, and what is left to do of it. -/
inductive Fares (ticket : Nat) (graph : Graph) (m : Machine Service) : List (Turn Service) → Prop
  | queued (left : m.tasks ticket = [.submit ticket graph]) : Fares ticket graph m []
  | refused {turn : Turn Service} (left : m.tasks ticket = []) (faulty : graph.validationErrors ≠ [])
      (complains : turn.after = turn.begun.emit (.submitted (.error (.invalidGraph graph.validationErrors)))) :
      Fares ticket graph m [turn]
  | underway {turn : Turn Service} {runId url : String}
      (left : m.tasks ticket =
        ((turn.exchange graph).delay.map fun _ => Job.submitted ticket graph (turn.exchange graph).result).toList)
      (valid : graph.validationErrors = []) (posts : Posts graph (turn.exchange graph) runId url)
      (spares : turn.Spares) (events : turn.events = [.request ⟨"POST", url, some (graph.payload runId)⟩])
      (due : ∀ seconds, (turn.exchange graph).delay = some seconds →
        DueBy ticket (turn.before.now + max seconds 0) m) :
      Fares ticket graph m [turn]
  | failed {first : Turn Service} {rest : List (Turn Service)} {failure : Failure}
      (left : m.tasks ticket = []) (valid : graph.validationErrors = [])
      (fails : (first.exchange graph).result = .error failure)
      (posts : (first.exchange graph).sent = none ∨ ∃ runId url, Posts graph (first.exchange graph) runId url)
      (spares : ∀ turn ∈ first :: rest, turn.Spares)
      (events : (first :: rest).flatMap Turn.events =
        (first.exchange graph).sent.toList ++ [.submitted (.error failure)]) :
      Fares ticket graph m (first :: rest)
  | accepted {first : Turn Service} {rest : List (Turn Service)} {runId url : String}
      (left : m.tasks ticket = []) (valid : graph.validationErrors = [])
      (accepts : (first.exchange graph).result = .ok runId)
      (spares : ∀ turn ∈ (first :: rest).dropLast, turn.Spares)
      (takes : Takes graph runId ((first :: rest).getLast (List.cons_ne_nil first rest)))
      (events : (first :: rest).flatMap Turn.events =
        [.request ⟨"POST", url, some (graph.payload runId)⟩, .submitted (.ok runId)]) :
      Fares ticket graph m (first :: rest)

theorem endSubmission_follow {m : Machine σ} (graph : Graph) {runId : String} {change : Poller × List Signal}
    (started : m.poller.start runId = .ok change) :
    m.endSubmission graph (.ok runId) =
      (({ m with nodes := graph.nodes } : Machine σ).follow change).emit (.submitted (.ok runId)) := by
  simp only [endSubmission, started]

theorem endSubmission_ok (m : Machine σ) (graph : Graph) {runId : String} (named : runId ≠ "") :
    (m.endSubmission graph (.ok runId)).nodes = graph.nodes ∧
      (m.endSubmission graph (.ok runId)).poller = m.poller.move (.start runId) ∧
      (m.endSubmission graph (.ok runId)).trace = (m.now, .submitted (.ok runId)) :: m.trace := by
  obtain ⟨change, started⟩ := Poller.start_named m.poller named
  have follows := signalled_follow ({ m with nodes := graph.nodes } : Machine σ) change
  have trace := follow_trace ({ m with nodes := graph.nodes } : Machine σ) change
  have poller := follow_poller ({ m with nodes := graph.nodes } : Machine σ) change
  rw [endSubmission_follow graph started]
  refine ⟨follows.nodes, ?_, ?_⟩
  · simp only [emit, poller, Poller.move, started]
  · simp only [emit, trace, follows.now]

theorem endSubmission_polls {m : Machine σ} (one : m.poller.OneLoop) (graph : Graph) {runId : String}
    (named : runId ≠ "") (other : m.poller.session.runId ≠ some runId) :
    Polls runId (m.endSubmission graph (.ok runId)) := by
  have poller := follow_poller ({ m with nodes := graph.nodes } : Machine σ)
    ((m.poller.turnedTo runId).spawn.1, m.poller.supersede.2 ++ [.spawned m.poller.nextLoop])
  have turned : (m.poller.turnedTo runId).OneLoop := one.supersede.unchanged rfl rfl rfl rfl
  rw [endSubmission_follow graph (Poller.start_turns named other)]
  constructor
  · simp only [emit, poller]
    rfl
  · simp only [emit, poller]
    rfl
  · refine ⟨m.poller.nextLoop, ?_, ?_, ?_⟩
    · simp only [emit, poller]
      rfl
    · simp only [emit, poller]
      exact turned.spawned
    · simp [emit, follow, signal, push]

variable {ticket : Nat} {graph : Graph} {turn : Turn σ} {told : List Event} {m : Machine σ}

/-- The turn has come so far: this was told, nodes and poller are the same, and nothing of the submission is
left to do after the turn. -/
structure Midway (ticket : Nat) (turn : Turn σ) (told : List Event) (m : Machine σ) : Prop where
  beside : Beside turn.begun m
  trace : m.trace = (told.map (Prod.mk turn.before.now)).reverse ++ turn.before.trace
  ticketed : ticket < m.tickets
  free : m.tasks ticket = []

theorem midway_begun (ticketed : ticket < turn.before.tickets) (free : turn.begun.tasks ticket = []) :
    Midway ticket turn [] turn.begun :=
  ⟨.refl _, rfl, ticketed, free⟩

theorem Midway.emit (midway : Midway ticket turn told m) (event : Event) :
    Midway ticket turn (told ++ [event]) (m.emit event) := by
  refine ⟨midway.beside.trans (beside_emit m event), ?_, midway.ticketed, midway.free⟩
  have now : m.now = turn.before.now := midway.beside.now
  simp [Machine.emit, midway.trace, now]

theorem Midway.ended (midway : Midway ticket turn told m) (result : Except Failure String) :
    (m.endSubmission graph result).tasks ticket = [] := by
  rw [(apart_endSubmission m graph result).tasks (Or.inl midway.ticketed)]
  exact midway.free

theorem Midway.takes {config : Config} {keepPolling : Bool} {runId : String} (midway : Midway ticket turn told m)
    (reached : turn.before.poller = (Poller.initial config keepPolling).after (turn.past.map Deed.toMove))
    (named : runId ≠ "") (after : turn.after = m.endSubmission graph (.ok runId)) :
    Takes graph runId turn ∧ turn.events = told ++ [.submitted (.ok runId)] := by
  obtain ⟨nodes, poller, trace⟩ := endSubmission_ok m graph named
  have still : m.poller = turn.before.poller := midway.beside.poller
  have events : turn.events = told ++ [.submitted (.ok runId)] := by
    apply Turn.events_of
    rw [after, trace, ← (midway.emit (.submitted (.ok runId))).trace]
    rfl
  refine ⟨⟨?_, ?_, ?_, ?_⟩, events⟩
  · rw [events]
    simp
  · rw [after, nodes]
  · rw [after, poller, still]
  · intro fresh
    have sound := (Poller.initial_sound config keepPolling).after (turn.past.map Deed.toMove)
    have untracked : m.poller.session.runId ≠ some runId := by
      rw [still, reached]
      apply Poller.untracked_after
      intro move member
      obtain ⟨deed, inside, rfl⟩ := List.mem_map.mp member
      exact fresh deed inside
    rw [← reached, ← still] at sound
    rw [after]
    exact endSubmission_polls sound.loops graph named untracked

theorem Turn.posts_cases (turn : Turn Service) (graph : Graph) :
    ((turn.exchange graph).sent = none ∧ (turn.exchange graph).delay = some 0 ∧
        ∃ failure, (turn.exchange graph).result = .error failure) ∨
      ∃ runId url, Posts graph (turn.exchange graph) runId url := by
  rcases Service.post_cases turn.before.source graph with ⟨failure, refused⟩ | posts
  · left
    rw [Turn.exchange, refused]
    exact ⟨rfl, rfl, failure, rfl⟩
  · exact Or.inr posts

theorem Midway.fares {config : Config} {keepPolling : Bool} {first last : Turn Service} {m : Machine Service}
    {earlier rest : List (Turn Service)} (midway : Midway ticket last told m)
    (reached : last.before.poller = (Poller.initial config keepPolling).after (last.past.map Deed.toMove))
    (turns : earlier ++ [last] = first :: rest) (valid : graph.validationErrors = [])
    (spared : ∀ turn ∈ earlier, turn.Spares)
    (events : earlier.flatMap Turn.events ++ told = (first.exchange graph).sent.toList)
    (after : last.after = m.endSubmission graph (first.exchange graph).result) :
    Fares ticket graph last.after (earlier ++ [last]) := by
  have left : last.after.tasks ticket = [] := by
    rw [after]
    exact midway.ended _
  cases result : (first.exchange graph).result with
  | error failure =>
      rw [result] at after
      -- A submission that failed may have sent its request, but takes no run over.
      have failed := midway.emit (.submitted (.error failure))
      have spares : last.Spares := by
        rw [Turn.Spares, after]
        exact failed.beside
      have final : last.events = told ++ [.submitted (.error failure)] := by
        apply Turn.events_of
        rw [after]
        exact failed.trace
      rw [turns]
      refine .failed left valid result ((first.posts_cases graph).imp_left And.left) ?_ ?_
      · rw [← turns]
        exact List.forall_mem_append.mpr ⟨spared, List.forall_mem_singleton.mpr spares⟩
      · rw [← turns, ← events]
        simp [final]
  | ok runId =>
      rw [result] at after
      rcases first.posts_cases graph with ⟨_, _, failure, refused⟩ | ⟨posted, url, posts⟩
      · rw [refused] at result
        cases result
      · obtain rfl := posts.accepted runId result
        obtain ⟨takes, final⟩ := midway.takes reached posts.named after
        have lasting : ∀ nonempty, (first :: rest).getLast nonempty = last := by
          rw [← turns]
          simp
        have whole : (first :: rest).flatMap Turn.events =
            [.request ⟨"POST", url, some (graph.payload runId)⟩, .submitted (.ok runId)] := by
          rw [posts.sent] at events
          rw [← turns, List.flatMap_append, List.flatMap_singleton, final, ← List.append_assoc, events]
          rfl
        rw [turns]
        refine .accepted left valid result ?_ ?_ whole
        · rw [← turns, List.dropLast_concat]
          exact spared
        · rw [lasting]
          exact takes

def asked (m : Machine Service) (graph : Graph) : Machine Service :=
  ({ m with source := (m.source.post graph none).2 } : Machine Service).emit? (m.source.post graph none).1.sent

theorem midway_asked {turn : Turn Service} (begun : Midway ticket turn [] turn.begun) :
    Midway ticket turn (turn.exchange graph).sent.toList (turn.begun.asked graph) := by
  have apart : Apart ticket turn.begun (turn.begun.asked graph) := apart_emit? _ _ _
  refine ⟨beside_asking _ _ _, ?_, lt_of_lt_of_le begun.ticketed apart.tickets, ?_⟩
  · rw [asked, Turn.exchange]
    have same : (turn.begun.source.post graph none).1 = (turn.before.source.post graph none).1 := rfl
    rw [same]
    cases (turn.before.source.post graph none).1.sent <;> rfl
  · rw [apart.tasks (Or.inl begun.ticketed)]
    exact begun.free

theorem beginSubmission_valid {m : Machine Service} (faultless : graph.faults = []) :
    m.beginSubmission .service ticket graph =
      if (m.source.post graph none).1.delay = some 0 then
        (m.asked graph).endSubmission graph (m.source.post graph none).1.result
      else (m.asked graph).schedule (m.source.post graph none).1.delay timerPasses
        (.submitted ticket graph (m.source.post graph none).1.result) := by
  simp only [beginSubmission, faultless, ne_eq, not_true_eq_false, if_false]
  rfl

theorem fares_first {config : Config} {keepPolling : Bool} {turn : Turn Service}
    (begun : Midway ticket turn [] turn.begun)
    (reached : turn.before.poller = (Poller.initial config keepPolling).after (turn.past.map Deed.toMove))
    (after : turn.after = turn.begun.beginSubmission .service ticket graph) :
    Fares ticket graph turn.after [turn] := by
  have valid_iff : graph.validationErrors = [] ↔ graph.faults = [] := by simp [Graph.validationErrors]
  by_cases faultless : graph.faults = []
  · have valid := valid_iff.mpr faultless
    have sent : Midway ticket turn (turn.exchange graph).sent.toList (turn.begun.asked graph) := midway_asked begun
    have answered : turn.after =
        if (turn.exchange graph).delay = some 0 then
          (turn.begun.asked graph).endSubmission graph (turn.exchange graph).result
        else (turn.begun.asked graph).schedule (turn.exchange graph).delay timerPasses
          (.submitted ticket graph (turn.exchange graph).result) := after.trans (beginSubmission_valid faultless)
    by_cases prompt : (turn.exchange graph).delay = some 0
    · rw [if_pos prompt] at answered
      have spared : ∀ earlier ∈ ([] : List (Turn Service)), earlier.Spares := fun _ never => nomatch never
      exact sent.fares reached (List.nil_append [turn]) valid spared rfl answered
    · rw [if_neg prompt] at answered
      rcases turn.posts_cases graph with ⟨_, refused, _⟩ | ⟨runId, url, posts⟩
      · exact absurd refused prompt
      · refine .underway ?_ valid posts ?_ ?_ ?_
        · rw [answered, tasks_schedule _ _ _ (by simp [Job.belongs]), sent.free, List.nil_append]
        · rw [Turn.Spares, answered]
          exact sent.beside.trans (beside_schedule _ _ _ _)
        · have told : turn.events = (turn.exchange graph).sent.toList := by
            apply Turn.events_of
            rw [answered, (deferred_schedule _ _ _ _).trace]
            exact sent.trace
          rw [told, posts.sent]
          rfl
        · intro seconds delay
          have now : (turn.begun.asked graph).now = turn.before.now := sent.beside.now
          rw [answered, delay, ← now]
          exact dueBy_schedule sent.free seconds timerPasses _
  · have refused : turn.after = turn.begun.emit (.submitted (.error (.invalidGraph graph.validationErrors))) := by
      simpa [beginSubmission, faultless] using after
    refine .refused ?_ (fun valid => faultless (valid_iff.mp valid)) refused
    rw [refused]
    exact begun.free

theorem Fares.next {config : Config} {keepPolling : Bool} {m : Machine Service} {act : Act Service}
    {past : List Deed} {turn : Turn Service} {turns : List (Turn Service)} (fares : Fares ticket graph m turns)
    (ticketed : ticket < m.tickets)
    (reached : m.poller = (Poller.initial config keepPolling).after (past.map Deed.toMove))
    (taken : m.turn? .service ticket past act = some turn) :
    Fares ticket graph (m.act .service act) (turns ++ [turn]) := by
  obtain ⟨job, rest, queue, own, rfl, acted⟩ := turn?_some taken
  have begun : (⟨past, m, ({ m with queue := rest } : Machine Service).runJob .service job⟩ : Turn Service).begun =
      { m with queue := rest } := by simp [Turn.begun, queue]
  have tasks : m.tasks ticket = job :: ({ m with queue := rest } : Machine Service).tasks ticket := by
    rw [tasks_pop queue]
    simp [own]
  rw [acted]
  cases fares with
  | queued left =>
      rw [left, List.cons.injEq] at tasks
      obtain ⟨rfl, free⟩ := tasks
      apply fares_first (midway_begun ticketed _) reached
      · rw [begun]
        rfl
      · rw [begun]
        exact free.symm
  | @underway first runId url left valid posts spares events due =>
      cases delay : (first.exchange graph).delay with
      | none =>
          rw [left, delay] at tasks
          cases tasks
      | some seconds =>
          rw [left, delay, Option.map_some, Option.toList_some, List.cons.injEq] at tasks
          obtain ⟨rfl, free⟩ := tasks
          have midway := midway_begun ticketed (begun ▸ free.symm)
          apply midway.fares reached rfl valid
          · exact List.forall_mem_singleton.mpr spares
          · simp [events, posts.sent]
          · rw [begun]
            rfl
  | refused left | failed left | accepted left =>
      rw [left] at tasks
      cases tasks

theorem Fares.kept {m n : Machine Service} {turns : List (Turn Service)} (fares : Fares ticket graph m turns)
    (kept : (n.tasks ticket).Perm (m.tasks ticket))
    (onward : m.tasks ticket ≠ [] → ∀ deadline, DueBy ticket deadline m → DueBy ticket deadline n) :
    Fares ticket graph n turns := by
  cases fares with
  | queued left =>
      rw [left] at kept
      exact .queued (List.perm_singleton.mp kept)
  | refused left faulty complains =>
      rw [left] at kept
      exact .refused kept.eq_nil faulty complains
  | @underway first runId url left valid posts spares events due =>
      have same : n.tasks ticket = m.tasks ticket := by
        rw [left] at kept ⊢
        cases delay : (first.exchange graph).delay with
        | none =>
            rw [delay] at kept
            exact kept.eq_nil
        | some seconds =>
            rw [delay] at kept
            exact List.perm_singleton.mp kept
      refine .underway (same.trans left) valid posts spares events ?_
      intro seconds delay
      apply onward _ _ (due seconds delay)
      rw [left, delay]
      exact List.cons_ne_nil _ _
  | failed left valid fails posts spares events =>
      rw [left] at kept
      exact .failed kept.eq_nil valid fails posts spares events
  | accepted left valid accepts spares takes events =>
      rw [left] at kept
      exact .accepted kept.eq_nil valid accepts spares takes events

theorem Fares.acting {config : Config} {keepPolling : Bool} {turns : List (Turn Service)} (acts : List (Act Service))
    {m : Machine Service} {past : List Deed} (fares : Fares ticket graph m turns) (ticketed : ticket < m.tickets)
    (reached : m.poller = (Poller.initial config keepPolling).after (past.map Deed.toMove)) :
    Fares ticket graph (m.acting .service acts) (turns ++ m.turns .service ticket past acts) := by
  induction acts generalizing m past turns with
  | nil =>
      rw [Machine.turns, List.append_nil]
      exact fares
  | cons head tail ih =>
      have beyond := lt_of_lt_of_le ticketed (tickets_act .service m head)
      have onward : (m.act .service head).poller =
          (Poller.initial config keepPolling).after ((past ++ m.actDeeds .service head).map Deed.toMove) := by
        rw [(act_does .service m head).1, reached, List.map_append, Poller.after_append]
      rw [Machine.turns, ← List.append_assoc]
      apply ih _ beyond onward
      cases taken : m.turn? .service ticket past head with
      | none =>
          rw [Option.toList_none, List.append_nil]
          exact fares.kept (tasks_act taken (Or.inl ticketed)) fun busy _ due => due.act taken busy
      | some turn => exact fares.next ticketed reached taken

/-- A graph with faults is refused for just these and is not sent.  A submission that fails spares the nodes
and the poller in all its turns.  One that is accepted sends the graph once, under the run id that is
returned, and its last turn takes over the nodes and polls the run.  A submission begins once the jobs before
it have run, and it is underway no longer than the answer takes. -/
theorem submission_atomic (config : Config) (keepPolling : Bool) (nodes : List Node) (source : Service)
    (watcher : Option (Session → Reaction Service)) (before : List (Act Service)) (graph : Graph)
    (after : List (Act Service)) :
    let first := initial config keepPolling nodes source watcher
    let m := first.acting .service before
    let past := (first.record .service before).map Prod.snd
    let turns := (m.obey (.run graph)).turns .service m.tickets past after
    Fares m.tickets graph ((m.obey (.run graph)).acting .service after) turns ∧
      (m.queue.length < after.countP Act.isStep → turns ≠ []) := by
  intro first m past turns
  have ticketed : Ticketed m := (initial_ticketed config keepPolling nodes source watcher).acting .service before
  have reached : m.poller = (Poller.initial config keepPolling).after (past.map Deed.toMove) := by
    have acted := acting_poller .service first before
    simpa [moves, past, m, first, initial, Function.comp_def] using acted
  have queued : Fares m.tickets graph (m.obey (.run graph)) [] := .queued (ticketed.run graph)
  constructor
  · exact queued.acting after (Nat.lt_succ_self _) reached
  · intro steps
    have last : (m.obey (.run graph)).queue = m.queue ++ ⟨0, .submit m.tickets graph⟩ :: [] := rfl
    exact turns_come .service (by simp [Job.belongs]) after past _ m.queue [] last steps

/-- The graph is accepted after a second, when another run is already watched. -/
example :
    let tardy : Service := { forgetful with posts := [⟨some 1, .answered 201 []⟩] }
    let m := (initial .standard false [] tardy none).obey (.run (singleton "a"))
    let turns := m.turns .service 0 [] ([.step, .obey (.start "other")] ++ List.replicate 7 .step)
    turns.map (fun turn => (turn.before.poller.session.runId, turn.after.poller.session.runId)) =
      [(none, none), (some "other", some (Service.runId 1))] := by decide +kernel

end Machine

end WorkflowRuns
