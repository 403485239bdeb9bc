import WorkflowRuns.Proofs.Polling.Superseded

/-!
How fetches end.  A fetch of the current session lands in it, whether or not polling goes on, and does
so once.
-/

namespace WorkflowRuns.Poller

/-- What a move does to the fetches that are outstanding: one may end, by its own settling or
cancellation unless its session has passed before. -/
inductive Ending (p q : Poller) : Move → Prop
  | superseded {move : Move} (passes : Supersession p move) : Ending p q move
  | kept {move : Move} (fetches : ∀ f ∈ p.fetches, f ∈ q.fetches) (generation : q.generation = p.generation) :
      Ending p q move
  | settled {f : Fetch} (answer : Answer) (ends : Ends f p q) : Ending p q (.settle f.id answer)
  | cancelled {f : Fetch} (ends : Ends f p q) : Ending p q (.cancel f.id)
  | dropped {f : Fetch} {move : Move} (ends : Ends f p q) (past : f.generation ≠ p.generation) : Ending p q move

theorem Quiet.ending {p q : Poller} (quiet : Quiet p q) (move : Move) : Ending p q move := by
  apply Ending.kept _ quiet.generation
  intro f member
  rw [quiet.fetches]
  exact member

theorem ending_beginFetch (p : Poller) (generation : Nat) (requester : Requester) (move : Move) :
    Ending p (p.beginFetch generation requester).1 move :=
  .kept (fun _ member => List.mem_append_left _ member) rfl

theorem ending_start (p : Poller) (runId : String) : Ending p (p.move (.start runId)) (.start runId) := by
  by_cases named : runId = ""
  · rw [named, start_empty]
    exact (Quiet.refl p).ending _
  · by_cases tracked : p.session.runId = some runId
    · cases polling : p.session.isPolling
      · rw [start_resumed named tracked polling]
        exact (quiet_resume p).ending _
      · rw [start_again tracked polling]
        exact (Quiet.refl p).ending _
    · exact .superseded (.start named tracked)

theorem ending_enter (p : Poller) (id : Nat) : Ending p (p.move (.enter id)) (.enter id) := by
  rcases enter_cases p id with quiet | ⟨l, found, ready⟩
  · simp only [Poller.move, quiet]
    exact (Quiet.refl p).ending _
  · simp only [Poller.move, enter_spec found ready]
    split
    · split
      · exact ((quiet_setStage p id .deciding).trans (quiet_decide _ id)).ending _
      · exact .kept (fun _ member => List.mem_append_left _ member) rfl
    · exact (quiet_leave p l).ending _

theorem Sound.ending_drop {p : Poller} (sound : Sound p) (id : Nat) : Ending p (p.move (.drop id)) (.drop id) := by
  rcases drop_cases p id with quiet | ⟨l, found, past, left | ⟨f, outstanding, own, cancelled⟩⟩
  · simp only [Poller.move, quiet]
    exact (Quiet.refl p).ending _
  · simp only [Poller.move, left]
    exact (quiet_leave p l).ending _
  · obtain ⟨member, same⟩ := loop?_mem found
    rw [← same] at own
    rw [sound.owned.same f outstanding l member own] at past
    simp only [Poller.move, cancelled]
    exact .dropped (ends_cancel outstanding) past

theorem Sound.ending {p : Poller} (sound : Sound p) (move : Move) : Ending p (p.move move) move := by
  cases move with
  | start runId => exact ending_start p runId
  | stop => exact .kept (fun _ member => member) rfl
  | clear => exact .superseded .clear
  | refresh ticket =>
      rw [refresh_spec]
      split
      · exact (Quiet.refl p).ending _
      · exact ending_beginFetch p p.generation (.refresh ticket) _
  | enter id => exact ending_enter p id
  | decide id => exact (quiet_decide p id).ending _
  | rouse id => exact .kept (fun _ member => member) rfl
  | drop id => exact sound.ending_drop id
  | settle id answer =>
      cases found : p.fetch? id with
      | none =>
          simp only [Poller.move, found]
          exact (Quiet.refl p).ending _
      | some f =>
          obtain ⟨member, rfl⟩ := fetch?_mem found
          simp only [Poller.move, found]
          exact .settled answer (ends_settle member _)
  | cancel id =>
      cases found : p.fetch? id with
      | none =>
          simp only [Poller.move, found]
          exact (Quiet.refl p).ending _
      | some f =>
          obtain ⟨member, rfl⟩ := fetch?_mem found
          simp only [Poller.move, found]
          exact .cancelled (ends_cancel member)

structure Onward (p q : Poller) : Prop where
  next : p.nextFetch ≤ q.nextFetch
  old : ∀ f ∈ q.fetches, f.id < p.nextFetch → f ∈ p.fetches

theorem Traffic.onward {p q : Poller} {settled : Option Settlement} (traffic : Traffic p q settled) :
    Onward p q := by
  have same : q.fetches = p.fetches → q.nextFetch = p.nextFetch → Onward p q := by
    intro fetches next
    refine ⟨Nat.le_of_eq next.symm, ?_⟩
    intro f member _
    rwa [fetches] at member
  have ended : ∀ {f : Fetch}, Ends f p q → Onward p q := fun ends =>
    ⟨Nat.le_of_eq ends.next.symm, fun g member _ => (ends.mem.mp member).1⟩
  cases traffic with
  | quiet quiet => exact same quiet.fetches quiet.next
  | superseded supersedes => exact same supersedes.fetches supersedes.next
  | began f begins =>
      refine ⟨by rw [begins.next]; exact Nat.le_succ _, ?_⟩
      intro g member old
      rw [begins.fetches, List.mem_append, List.mem_singleton] at member
      rcases member with before | rfl
      · exact before
      · exact absurd old (Nat.not_lt_of_ge (Nat.le_of_eq begins.id.symm))
  | cancelled f ends _ => exact ended ends
  | settled f outcome ends _ => exact ended ends

theorem Onward.trans {p q r : Poller} (first : Onward p q) (second : Onward q r) : Onward p r :=
  ⟨Nat.le_trans first.next second.next, fun f member old =>
    first.old f (second.old f member (Nat.lt_of_lt_of_le old first.next)) old⟩

theorem Sound.onward_after {p : Poller} (sound : Sound p) (moves : List Move) : Onward p (p.after moves) := by
  have kept := holds_after (fun q => Sound q ∧ Onward p q) ⟨sound, Nat.le_refl _, fun _ member _ => member⟩
    (fun q move before => ⟨before.1.move move, before.2.trans (before.1.traffic move).onward⟩) moves
  exact kept.2

theorem Sound.settled_old {p : Poller} (sound : Sound p) {moves : List Move} {t : Settlement}
    (member : t ∈ p.settlements moves) : t.fetch ∈ p.fetches ∨ p.nextFetch ≤ t.fetch.id := by
  induction moves generalizing p with
  | nil => cases member
  | cons head tail ih =>
      rcases List.mem_append.mp member with first | later
      · left
        cases head with
        | settle id answer =>
            rw [Option.mem_toList] at first
            obtain ⟨f, found, rfl⟩ := Option.map_eq_some_iff.mp first
            exact (fetch?_mem found).1
        | _ => cases first
      · have onward := (sound.traffic head).onward
        rcases ih (sound.move head) later with outstanding | new
        · by_cases old : t.fetch.id < p.nextFetch
          · exact Or.inl (onward.old _ outstanding old)
          · exact Or.inr (Nat.le_of_not_lt old)
        · exact Or.inr (Nat.le_trans onward.next new)

theorem Sound.settled_none {p : Poller} (sound : Sound p) (moves : List Move) {f : Fetch}
    (old : f.id < p.nextFetch) (gone : ∀ g ∈ p.fetches, g.id ≠ f.id) :
    (p.settlements moves).filter (·.fetch.id = f.id) = [] := by
  rw [List.filter_eq_nil_iff]
  intro t member same
  have equal : t.fetch.id = f.id := by simpa using same
  rcases sound.settled_old member with outstanding | new
  · exact gone t.fetch outstanding equal
  · rw [equal] at new
    exact absurd old (Nat.not_lt_of_ge new)

/-- A fetch settles once and for all, and the session that began it records what it came to. -/
structure Landed (p : Poller) (f : Fetch) (before : List Move) (answer : Answer) (after : List Move) :
    Prop where
  recorded : ((p.after before).move (.settle f.id answer)).session =
    ((p.after before).record ((p.after before).outcome f answer)).session
  once : (p.settlements (before ++ .settle f.id answer :: after)).filter (·.fetch.id = f.id) =
    [⟨f, (p.after before).outcome f answer, true⟩]

theorem settlements_cons (p : Poller) (move : Move) (rest : List Move) :
    p.settlements (move :: rest) = (p.settlement? move).toList ++ (p.move move).settlements rest := rfl

theorem settlement?_other {p : Poller} {f : Fetch} {move : Move} (other : ∀ answer, move ≠ .settle f.id answer) :
    (p.settlement? move).toList.filter (·.fetch.id = f.id) = [] := by
  cases move with
  | settle id answer =>
      cases found : p.fetch? id with
      | none => simp [settlement?, found]
      | some g =>
          have same := (fetch?_mem found).2
          have different : g.id ≠ f.id := by
            intro equal
            rw [← same, equal] at other
            exact other answer rfl
          simp [settlement?, found, different]
  | _ => rfl

/-- What becomes of a fetch: it is outstanding still, or it has landed. -/
def Fate (p : Poller) (f : Fetch) (moves : List Move) : Prop :=
  f ∈ (p.after moves).fetches ∧ (p.settlements moves).filter (·.fetch.id = f.id) = [] ∨
    f ∉ (p.after moves).fetches ∧
      ∃ before answer after, moves = before ++ .settle f.id answer :: after ∧ Landed p f before answer after

theorem Sound.fate_settle {p : Poller} (sound : Sound p) {f : Fetch} (outstanding : f ∈ p.fetches)
    (current : f.generation = p.generation) (answer : Answer) (rest : List Move) :
    Fate p f (.settle f.id answer :: rest) := by
  have settled : p.move (.settle f.id answer) = p.settle f (p.outcome f answer) := by
    simp [Poller.move, sound.flight.fetch?_of_mem outstanding]
  have ends := ends_settle outstanding (p.outcome f answer)
  rw [← settled] at ends
  have older : f.id < (p.move (.settle f.id answer)).nextFetch := by
    rw [ends.next]
    exact sound.flight.known f outstanding
  have gone : ∀ g ∈ (p.move (.settle f.id answer)).fetches, g.id ≠ f.id :=
    fun g member => (ends.mem.mp member).2
  right
  constructor
  · intro again
    exact gone f (((sound.move _).onward_after rest).old f again older) rfl
  · refine ⟨[], answer, rest, rfl, ?_, ?_⟩
    · show (p.move (.settle f.id answer)).session = (p.record (p.outcome f answer)).session
      rw [settled, settle_spec, if_pos current]
      exact ((aside_release p f).record _).1
    · rw [List.nil_append, settlements_cons, List.filter_append, (sound.move _).settled_none rest older gone]
      have first : p.settlement? (.settle f.id answer) = some ⟨f, p.outcome f answer, true⟩ := by
        simp [settlement?, sound.flight.fetch?_of_mem outstanding, isCurrent, current]
      rw [first]
      simp only [Option.toList_some, List.append_nil, List.filter_singleton, decide_true]
      rfl

theorem Fate.cons {p : Poller} {f : Fetch} {move : Move} {rest : List Move} (fate : Fate (p.move move) f rest)
    (other : ∀ answer, move ≠ .settle f.id answer) : Fate p f (move :: rest) := by
  have silent := settlement?_other (p := p) other
  rcases fate with ⟨outstanding, none⟩ | ⟨gone, before, answer, after, rfl, landed⟩
  · refine Or.inl ⟨outstanding, ?_⟩
    rw [settlements_cons, List.filter_append, silent, none]
    rfl
  · refine Or.inr ⟨gone, move :: before, answer, after, rfl, landed.recorded, ?_⟩
    rw [List.cons_append, settlements_cons, List.filter_append, silent]
    exact landed.once

/-- Until its session is superseded, a fetch that nobody gives up is outstanding or has landed. -/
theorem Sound.lands {p : Poller} (sound : Sound p) {f : Fetch} (outstanding : f ∈ p.fetches)
    (current : f.generation = p.generation) (moves : List Move)
    (same : ∀ before move after, moves = before ++ move :: after → ¬ Supersession (p.after before) move)
    (held : .cancel f.id ∉ moves) : Fate p f moves := by
  induction moves generalizing p with
  | nil => exact Or.inl ⟨outstanding, rfl⟩
  | cons head tail ih =>
      by_cases own : ∃ answer, head = .settle f.id answer
      · obtain ⟨answer, rfl⟩ := own
        exact sound.fate_settle outstanding current answer tail
      · have later : ∀ before move after, tail = before ++ move :: after →
            ¬ Supersession ((p.move head).after before) move := by
          rintro before move after rfl
          exact same (head :: before) move after rfl
        rw [List.mem_cons, not_or] at held
        have onward : f ∈ (p.move head).fetches → (p.move head).generation = p.generation →
            Fate p f (head :: tail) := fun still generation =>
          (ih (sound.move head) still (current.trans generation.symm) later held.2).cons (not_exists.mp own)
        cases sound.ending head with
        | superseded passes => exact absurd passes (same [] head tail rfl)
        | kept fetches generation => exact onward (fetches f outstanding) generation
        | @settled g answer ends =>
            have different : f.id ≠ g.id := fun equal => own ⟨answer, by rw [equal]⟩
            exact onward (ends.mem.mpr ⟨outstanding, different⟩) ends.generation
        | @cancelled g ends =>
            have different : f.id ≠ g.id := fun equal => held.1 (by rw [equal])
            exact onward (ends.mem.mpr ⟨outstanding, different⟩) ends.generation
        | @dropped g _ ends past =>
            have different : f.id ≠ g.id := by
              intro equal
              rw [sound.flight.same_fetch outstanding ends.outstanding equal] at current
              exact past current
            exact onward (ends.mem.mpr ⟨outstanding, different⟩) ends.generation

end WorkflowRuns.Poller
