import WorkflowRuns.Proofs.Binary64.Bounds
import WorkflowRuns.Proofs.Polling.Clockwork
import WorkflowRuns.Proofs.Polling.Lulls

/-!
The cadence of polling.  After a tick its loop sleeps for the next interval, whatever is called meanwhile, unless it
is stopped: its alarm stands until then, and no other one is set for it.
-/

namespace WorkflowRuns

theorem Binary64.value_pos {x : Binary64} (above : x.le .zero = false) {v : ℚ} (value : x.value? = some v) : 0 < v := by
  cases x with
  | finite negative significand exponent =>
      cases value
      simpa [le, lt, zero, value?, magnitude_zero] using above
  | infinite negative => cases value
  | nan => cases value

def Signal.hushes (loop : Nat) : Signal → Bool
  | .woken other => other = loop
  | .calledOff other => other = loop
  | .ended other => other = loop
  | _ => false

namespace Clockwork

open Poller (Silent Lulls BeginsTick EndsTick Moved Stirs)

variable {c d : Clockwork} {loop : Nat}

theorem follow_silent (c : Clockwork) {change : Poller × List Signal} (silent : Silent change.2) :
    (c.follow change).alarms = c.alarms.filter fun alarm => !change.2.any (Signal.hushes alarm.loop) := by
  obtain ⟨poller, signals⟩ := change
  have heeded : ∀ d : Clockwork, (signals.foldl signal d).alarms =
      d.alarms.filter fun alarm => !signals.any (Signal.hushes alarm.loop) := by
    induction signals with
    | nil => exact fun d => by simp
    | cons head tail ih =>
        intro d
        have first : (d.signal head).alarms = d.alarms.filter fun alarm => !head.hushes alarm.loop := by
          cases head with
          | sleeping id delay => exact absurd List.mem_cons_self (silent id delay)
          | woken id => simp [Clockwork.signal, hush, Signal.hushes, eq_comm]
          | calledOff id => simp [Clockwork.signal, hush, Signal.hushes, eq_comm]
          | ended id => simp [Clockwork.signal, hush, Signal.hushes, eq_comm]
          | _ => simp [Clockwork.signal, Signal.hushes]
        rw [List.foldl_cons, ih (fun id delay member => silent id delay (List.mem_cons_of_mem _ member)), first,
          List.filter_filter]
        simp [List.any_cons, Bool.not_or, Bool.and_comm]
  exact heeded { c with poller }

/-- When a loop whose tick ends now is to begin the next one. -/
def due? (c : Clockwork) : Option Instant :=
  if c.poller.halts then none else (c.poller.nextInterval?.bind Binary64.delay).map (c.now + ·)

theorem doing_alarms (c : Clockwork) (deed : Deed) :
    (∃ keeps : Alarm → Bool, (c.doing deed).alarms = c.alarms.filter keeps ∧
        ∀ alarm, keeps alarm = true → .woken alarm.loop ∉ (c.poller.change deed.toMove).2) ∨
      ∃ loop, EndsTick c.poller loop deed.toMove ∧ (∀ id, .woken id ∉ (c.poller.change deed.toMove).2) ∧
        (c.doing deed).alarms = c.alarms ++ (c.due?.map fun due => ⟨due, loop⟩).toList := by
  have quiet : Silent (c.poller.change deed.toMove).2 → ∃ keeps : Alarm → Bool,
      (c.doing deed).alarms = c.alarms.filter keeps ∧
        ∀ alarm, keeps alarm = true → .woken alarm.loop ∉ (c.poller.change deed.toMove).2 := by
    intro silent
    refine ⟨_, follow_silent c silent, ?_⟩
    intro alarm kept woken
    rw [List.any_eq_true.mpr ⟨_, woken, by simp [Signal.hushes]⟩] at kept
    cases kept
  rcases Poller.change_silent c.poller deed.toMove with silent | ⟨loop, ends⟩
  · exact Or.inl (quiet silent)
  · cases ends.lulls with
    | gone absent silent => exact Or.inl (quiet silent)
    | asleep delay onward interval stages signals =>
        refine Or.inr ⟨loop, ends, by simp [signals], ?_⟩
        rw [Clockwork.doing, follow, signals, due?, onward, interval]
        cases span : delay.delay <;> simp [Clockwork.signal, span]

theorem mem_doing_alarms {deed : Deed} {alarm : Alarm} (member : alarm ∈ (c.doing deed).alarms) :
    alarm ∈ c.alarms ∧ .woken alarm.loop ∉ (c.poller.change deed.toMove).2 ∨
      EndsTick c.poller alarm.loop deed.toMove ∧ c.due? = some alarm.due := by
  rcases c.doing_alarms deed with ⟨keeps, alarms, unwoken⟩ | ⟨loop, ends, unwoken, alarms⟩
  · rw [alarms] at member
    obtain ⟨set, kept⟩ := List.mem_filter.mp member
    exact Or.inl ⟨set, unwoken alarm kept⟩
  · rw [alarms] at member
    rcases List.mem_append.mp member with set | new
    · exact Or.inl ⟨set, unwoken _⟩
    · obtain ⟨due, found, rfl⟩ := Option.map_eq_some_iff.mp (Option.mem_toList.mp new)
      exact Or.inr ⟨ends, found⟩

/-- What holds of the clockwork of a machine: a loop has an alarm only while it sleeps, and then no other. -/
structure Orderly (c : Clockwork) : Prop where
  sound : c.poller.Sound
  ascending : c.poller.Ascending
  manned : c.poller.Manned
  distinct : (c.alarms.map Alarm.loop).Nodup
  known : ∀ alarm ∈ c.alarms, alarm.loop < c.poller.nextLoop
  asleep : ∀ alarm ∈ c.alarms, ∀ l ∈ c.poller.loops, l.id = alarm.loop → l.stage = .sleeping

theorem Orderly.origins (orderly : Orderly c) (deed : Deed) :
    Poller.Origins (Moved c.poller deed.toMove) c.poller (c.doing deed).poller := by
  rw [doing_poller]
  exact Poller.origins_move orderly.sound.loops orderly.manned deed.toMove

theorem Orderly.remains (orderly : Orderly c) {deed : Deed} (other : ∀ id, deed.toMove ≠ .rouse id) {alarm : Alarm}
    (set : alarm ∈ c.alarms) (unwoken : .woken alarm.loop ∉ (c.poller.change deed.toMove).2) :
    ∀ k ∈ (c.doing deed).poller.loops, k.id = alarm.loop → k.stage = .sleeping := by
  intro k member own
  rcases (orderly.origins deed).loops k member with before | ⟨new, _⟩ | ⟨l, inside, same, stirs⟩
  · exact orderly.asleep alarm set k before own
  · have old := orderly.known alarm set
    omega
  · have asleep := orderly.asleep alarm set l inside (same.trans own)
    rcases stirs.of_asleep inside asleep with woken | roused
    · rw [same, own] at woken
      exact absurd woken unwoken
    · exact absurd roused (other l.id)

theorem Orderly.unset (orderly : Orderly c) {move : Poller.Move} (ends : EndsTick c.poller loop move) :
    ∀ alarm ∈ c.alarms, alarm.loop ≠ loop := by
  obtain ⟨l, inside, own, awake⟩ := ends.awake
  exact fun alarm set same => awake (orderly.asleep alarm set l inside (own.trans same.symm))

theorem Orderly.doing (orderly : Orderly c) {deed : Deed} (other : ∀ id, deed.toMove ≠ .rouse id) :
    Orderly (c.doing deed) := by
  have sound := orderly.sound.move deed.toMove
  have ascending := orderly.ascending.traffic orderly.sound.flight (orderly.sound.traffic deed.toMove)
  have manned := orderly.manned.move orderly.sound orderly.ascending deed.toMove
  have next := (orderly.origins deed).next
  rw [← doing_poller] at sound ascending manned
  refine ⟨sound, ascending, manned, ?_, ?_, ?_⟩
  · rcases c.doing_alarms deed with ⟨keeps, alarms, _⟩ | ⟨loop, ends, _, alarms⟩
    · rw [alarms]
      exact List.Nodup.sublist (List.filter_sublist.map _) orderly.distinct
    · rw [alarms, List.map_append]
      refine List.nodup_append.mpr ⟨orderly.distinct, by cases c.due? <;> simp, ?_⟩
      intro id member other last
      obtain ⟨alarm, set, rfl⟩ := List.mem_map.mp member
      obtain ⟨new, added, rfl⟩ := List.mem_map.mp last
      obtain ⟨due, _, rfl⟩ := Option.map_eq_some_iff.mp (Option.mem_toList.mp added)
      exact orderly.unset ends alarm set
  · intro alarm member
    rcases mem_doing_alarms member with ⟨set, _⟩ | ⟨ends, _⟩
    · exact (orderly.known alarm set).trans_le next
    · obtain ⟨l, inside, own, _⟩ := ends.awake
      rw [← own]
      exact (orderly.sound.loops.known l inside).trans_le next
  · intro alarm member
    rcases mem_doing_alarms member with ⟨set, unwoken⟩ | ⟨ends, _⟩
    · exact orderly.remains other set unwoken
    · rw [doing_poller]
      exact ends.stages

theorem rouse_others {p : Poller} {k : PollLoop} (member : k ∈ (p.rouse loop).loops) (other : k.id ≠ loop) :
    k ∈ p.loops := by
  obtain ⟨l, inside, rfl⟩ := List.mem_map.mp member
  split at other
  next roused => exact absurd roused.1 other
  next unroused => rwa [if_neg unroused]

theorem Takes.orderly {entry : Instant × Deed} (takes : Takes c entry d) (orderly : Orderly c) : Orderly d := by
  cases takes with
  | deed deed other => exact orderly.doing other
  | @strike earlier later alarm idle set =>
      have distinct := orderly.distinct
      rw [set, List.map_append, List.map_cons, List.nodup_middle, ← List.map_append, List.nodup_cons] at distinct
      have fewer : ∀ other ∈ earlier ++ later, other ∈ c.alarms ∧ other.loop ≠ alarm.loop := by
        intro other member
        constructor
        · rw [set]
          exact (List.perm_middle.mem_iff).mpr (List.mem_cons_of_mem _ member)
        · intro same
          exact distinct.1 (same ▸ List.mem_map_of_mem member)
      refine ⟨orderly.sound.move (.rouse alarm.loop), ?_, ?_, ?_, ?_, ?_⟩
      · exact orderly.ascending.traffic orderly.sound.flight (orderly.sound.traffic (.rouse alarm.loop))
      · exact orderly.manned.move orderly.sound orderly.ascending (.rouse alarm.loop)
      · exact distinct.2
      · exact fun other member => orderly.known other (fewer other member).1
      · intro other member k inside own
        obtain ⟨before, distinct⟩ := fewer other member
        exact orderly.asleep other before k (rouse_others inside (own.trans_ne distinct)) own

theorem Orderly.pass (orderly : Orderly c) (instant : Instant) : Orderly { c with now := instant } := by
  obtain ⟨sound, ascending, manned, distinct, known, asleep⟩ := orderly
  exact ⟨sound, ascending, manned, distinct, known, asleep⟩

theorem Runs.orderly {log : List (Instant × Deed)} (runs : Runs c log d) (orderly : Orderly c) : Orderly d := by
  induction runs with
  | refl c => exact orderly
  | take takes _ ih => exact ih (takes.orderly orderly)
  | pass instant idle _ ih => exact ih (orderly.pass instant)

/-- The loop is gone, or it sleeps until it is due, or it is due now. -/
structure Awaits (due : Option Instant) (loop : Nat) (c : Clockwork) : Prop where
  known : loop < c.poller.nextLoop
  stages : ∀ l ∈ c.poller.loops, l.id = loop → l.stage = .sleeping ∨ l.stage = .waking ∧ due = some c.now
  alarms : ∀ alarm ∈ c.alarms, alarm.loop = loop → due = some alarm.due

variable {due : Option Instant} {entry : Instant × Deed} {log : List (Instant × Deed)}

structure Calm (p : Poller) (loop : Nat) (move : Poller.Move) : Prop where
  unstopped : move ≠ .stop
  uncleared : move ≠ .clear
  idle : ¬ BeginsTick p loop move

theorem awaits_end {deed : Deed} (ends : EndsTick c.poller loop deed.toMove) (orderly : Orderly c) :
    Awaits c.due? loop (c.doing deed) := by
  constructor
  · obtain ⟨l, inside, own, _⟩ := ends.awake
    rw [← own]
    exact (orderly.sound.loops.known l inside).trans_le (orderly.origins deed).next
  · rw [doing_poller]
    exact fun l inside own => Or.inl (ends.stages l inside own)
  · intro alarm member own
    rcases mem_doing_alarms member with ⟨set, _⟩ | ⟨_, due⟩
    · exact absurd own (orderly.unset ends alarm set)
    · exact due

theorem Awaits.doing (awaits : Awaits due loop c) (orderly : Orderly c) {deed : Deed}
    (other : ∀ id, deed.toMove ≠ .rouse id) (calm : Calm c.poller loop deed.toMove) :
    Awaits due loop (c.doing deed) := by
  have resting : ∀ l ∈ c.poller.loops, l.id = loop → l.stage = .sleeping ∨ l.stage = .waking :=
    fun l inside own => (awaits.stages l inside own).imp_right And.left
  constructor
  · exact awaits.known.trans_le (orderly.origins deed).next
  · intro k member own
    rw [doing_now]
    rcases (orderly.origins deed).loops k member with before | ⟨new, _⟩ | ⟨l, inside, same, stirs⟩
    · exact awaits.stages k before own
    · have old := awaits.known
      omega
    · rcases stirs.of_resting (resting l inside (same.trans own)) with (stopped | cleared | roused) | begins
      · exact absurd stopped calm.unstopped
      · exact absurd cleared calm.uncleared
      · exact absurd roused (other l.id)
      · rw [same, own] at begins
        exact absurd begins calm.idle
  · intro alarm member own
    rcases mem_doing_alarms member with ⟨set, _⟩ | ⟨ends, _⟩
    · exact awaits.alarms alarm set own
    · rcases ends.begun with begins | ⟨l, inside, same, deciding⟩
      · rw [own] at begins
        exact absurd begins calm.idle
      · rcases resting l inside (same.trans own) with asleep | waking
        · cases asleep.symm.trans deciding
        · cases waking.symm.trans deciding

theorem Awaits.asleep (awaits : Awaits due loop c) (idle : c.Idle) :
    ∀ l ∈ c.poller.loops, l.id = loop → l.stage = .sleeping := by
  intro l inside own
  rcases awaits.stages l inside own with asleep | ⟨waking, _⟩
  · exact asleep
  · exact absurd (Or.inr waking) (idle l inside)

theorem Awaits.takes (awaits : Awaits due loop c) (orderly : Orderly c) (takes : Takes c entry d)
    (calm : Calm c.poller loop entry.2.toMove) : Awaits due loop d := by
  cases takes with
  | deed deed other => exact awaits.doing orderly other calm
  | @strike earlier later alarm idle set =>
      have fewer : ∀ other ∈ earlier ++ later, other ∈ c.alarms := by
        rw [set]
        exact fun other member => List.perm_middle.mem_iff.mpr (List.mem_cons_of_mem _ member)
      refine ⟨awaits.known, ?_, fun other member => awaits.alarms other (fewer other member)⟩
      intro k member own
      obtain ⟨l, inside, rfl⟩ := List.mem_map.mp member
      split at own
      next roused =>
        have sounded : alarm ∈ c.alarms := by
          rw [set]
          exact List.mem_append_right _ List.mem_cons_self
        rw [if_pos roused]
        exact Or.inr ⟨rfl, awaits.alarms alarm sounded (roused.1.symm.trans own)⟩
      next unroused =>
        rw [if_neg unroused]
        exact Or.inl (awaits.asleep idle l inside own)

theorem Awaits.runs (awaits : Awaits due loop c) (orderly : Orderly c) (runs : Runs c log d)
    (calm : ∀ early entry late, log = early ++ entry :: late →
      Calm (c.poller.after (Machine.moves early)) loop entry.2.toMove) : Awaits due loop d := by
  induction runs with
  | refl c => exact awaits
  | @take c d e entry log takes rest ih =>
      apply ih (awaits.takes orderly takes (calm [] entry log rfl)) (takes.orderly orderly)
      intro early other late same
      have later := calm (entry :: early) other late (by rw [same, List.cons_append])
      rw [takes.poller]
      exact later
  | @pass c d log instant idle rest ih =>
      have still : Orderly { c with now := instant } := orderly.pass instant
      refine ih ⟨awaits.known, fun l inside own => Or.inl (awaits.asleep idle l inside own), awaits.alarms⟩ still calm

theorem Awaits.begins (awaits : Awaits due loop c) {move : Poller.Move} (begins : BeginsTick c.poller loop move) :
    due = some c.now := by
  cases begins with
  | enter ticks =>
      rcases awaits.stages _ (Poller.loop?_mem ticks.found).1 rfl with asleep | ⟨_, due⟩
      · exact absurd asleep ticks.stage.1
      · exact due

theorem due?_spec {instant : Instant} (due : c.due? = some instant) : ∃ delay span,
    c.poller.nextInterval? = some delay ∧
      c.poller.config.retryDelay? c.poller.session.consecutiveFailures = some delay ∧
        delay.delay = some span ∧ 0 < span ∧ instant = c.now + span := by
  unfold due? at due
  split at due
  next => cases due
  next onward =>
    obtain ⟨span, found, rfl⟩ := Option.map_eq_some_iff.mp due
    obtain ⟨delay, interval, value⟩ := Option.bind_eq_some_iff.mp found
    have above : delay.le .zero = false := by simpa [Poller.halts, interval] using onward
    have spaced : c.poller.config.retryDelay? c.poller.session.consecutiveFailures = some delay := by
      have short : Binary64.zero.le .zero = true := by decide +kernel
      have other : delay ≠ .zero := by
        rintro rfl
        rw [short] at above
        cases above
      unfold Poller.nextInterval? at interval
      split at interval
      · exact absurd (Option.some.inj interval).symm other
      · split at interval
        · exact absurd (Option.some.inj interval).symm other
        · exact interval
    exact ⟨delay, span, interval, spaced, value, Binary64.value_pos above value, rfl⟩

end Clockwork

deriving instance DecidableEq for Answer
deriving instance DecidableEq for Poller.Move
deriving instance DecidableEq for Deed

namespace Machine

open Poller (BeginsTick EndsTick InTick)

/-- Two ticks of a loop on the record of a poller, and no other between them. -/
structure Consecutive (p : Poller) (loop : Nat) (before : List (Instant × Deed)) (first : Instant × Deed)
    (between : List (Instant × Deed)) (second : Instant × Deed) : Prop where
  begins : BeginsTick (p.after (moves before)) loop first.2.toMove
  again : BeginsTick (p.after (moves (before ++ first :: between))) loop second.2.toMove
  next : ∀ early entry late, between = early ++ entry :: late →
    ¬ BeginsTick (p.after (moves (before ++ first :: early))) loop entry.2.toMove

theorem moves_append (first second : List (Instant × Deed)) : moves (first ++ second) = moves first ++ moves second :=
  List.map_append

theorem initial_orderly {σ : Type} (config : Config) (keepPolling : Bool) (nodes : List Node) (source : σ)
    (watcher : Option (Session → Reaction σ)) : (initial config keepPolling nodes source watcher).clockwork.Orderly :=
  ⟨Poller.initial_sound config keepPolling, .nil, nofun, .nil, nofun, nofun⟩

theorem after_moves (p : Poller) (past : List (Instant × Deed)) (entry : Instant × Deed) (log : List (Instant × Deed)) :
    p.after (moves (past ++ entry :: log)) = ((p.after (moves past)).move entry.2.toMove).after (moves log) := by
  rw [moves_append, Poller.after_append]
  rfl

section

variable {p : Poller} {loop : Nat} {before between : List (Instant × Deed)} {first second : Instant × Deed}

theorem Consecutive.ends (ticks : Consecutive p loop before first between second) (sound : p.Sound)
    (ascending : p.Ascending) (manned : p.Manned) : ∃ early ended late, first :: between = early ++ ended :: late ∧
      EndsTick (p.after (moves (before ++ early))) loop ended.2.toMove := by
  have reached := sound.after (moves before)
  have climbing := sound.ascending_after ascending (moves before)
  have staffed := sound.manned_after ascending manned (moves before)
  cases flying : (p.after (moves before)).isInFlight with
  | true =>
      refine ⟨[], first, between, rfl, ?_⟩
      rw [List.append_nil]
      exact ticks.begins.skips flying
  | false =>
      have within := Poller.inTick_begin reached.loops ticks.begins staffed flying
      have onward := climbing.traffic reached.flight (reached.traffic first.2.toMove)
      rcases within.after (reached.move _) onward (staffed.move reached climbing _) between with
        still | ⟨early, ended, late, rfl, ends⟩
      · rw [← after_moves] at still
        exact absurd ticks.again still.idle
      · refine ⟨first :: early, ended, late, rfl, ?_⟩
        rw [after_moves]
        exact ends

/-- What comes after the end of a tick is calm until the next one begins, unless polling is stopped. -/
theorem Consecutive.calm (ticks : Consecutive p loop before first between second)
    {early late : List (Instant × Deed)} {ended : Instant × Deed} (split : first :: between = early ++ ended :: late)
    (unstopped : ∀ entry ∈ late, entry.2.toMove ≠ .stop ∧ entry.2.toMove ≠ .clear) :
    ∀ past entry rest, late = past ++ entry :: rest →
      Clockwork.Calm (p.after (moves (before ++ early ++ ended :: past))) loop entry.2.toMove := by
  rintro past entry rest rfl
  have allowed := unstopped entry (List.mem_append_right _ List.mem_cons_self)
  refine ⟨allowed.1, allowed.2, ?_⟩
  cases early with
  | nil =>
      obtain ⟨rfl, rfl⟩ := List.cons.inj split
      rw [List.append_nil]
      exact ticks.next past entry rest rfl
  | cons head tail =>
      obtain ⟨rfl, rfl⟩ := List.cons.inj split
      have idle := ticks.next (tail ++ ended :: past) entry rest (by simp)
      simpa using idle

end

/-- Ticks of a loop keep their distance.  A tick that is followed by another one of its loop ends before that one
begins; and unless polling is stopped or cleared in between, the other one begins exactly the interval later that is
next when the first one ends. -/
theorem cadence_kept {σ : Type} (service : Source σ) (config : Config) (keepPolling : Bool) (nodes : List Node)
    (source : σ) (watcher : Option (Session → Reaction σ)) (acts : List (Act σ)) {loop : Nat}
    {before between after : List (Instant × Deed)} {first second : Instant × Deed}
    (log : (initial config keepPolling nodes source watcher).record service acts =
      before ++ first :: between ++ second :: after)
    (ticks : Consecutive (.initial config keepPolling) loop before first between second) :
    let past := fun early => (Poller.initial config keepPolling).after (moves (before ++ early))
    (∃ early ended late, first :: between = early ++ ended :: late ∧ EndsTick (past early) loop ended.2.toMove) ∧
      ∀ early ended late, first :: between = early ++ ended :: late → EndsTick (past early) loop ended.2.toMove →
        (∀ entry ∈ late, entry.2.toMove ≠ .stop ∧ entry.2.toMove ≠ .clear) →
          ∃ delay span, (past early).nextInterval? = some delay ∧
            config.retryDelay? (past early).session.consecutiveFailures = some delay ∧
              delay.delay = some span ∧ 0 < span ∧ second.1 = ended.1 + span := by
  intro past
  have provident := initial_provident service config keepPolling nodes source watcher
  have orderly := initial_orderly config keepPolling nodes source watcher
  have runs := runs_acting provident acts
  refine ⟨ticks.ends orderly.sound orderly.ascending orderly.manned, ?_⟩
  intro early ended late split ends unstopped
  have shape : before ++ first :: between ++ second :: after =
      before ++ early ++ ended :: (late ++ second :: after) := by
    rw [split]
    simp
  rw [log] at runs
  obtain ⟨c, d, reached, ending, rest⟩ := runs.split _ _ _ shape
  obtain ⟨e, f, waited, beginning, _⟩ := rest.split late second after rfl
  have there : c.poller = past early := reached.poller
  have settings : (past early).config = config := Poller.config_after config keepPolling _
  rw [← there] at ends settings ⊢
  obtain ⟨now, rfl⟩ := ending.unroused ends.unroused
  have kept := reached.orderly orderly
  have onward : ∀ log, (c.doing ended.2).poller.after (moves log) =
      (Poller.initial config keepPolling).after (moves (before ++ early ++ ended :: log)) := by
    intro log
    rw [after_moves, ending.poller, there]
  -- The timer set at the end of the tick is still the one awaited when the next tick begins.
  have awaits : Clockwork.Awaits c.due? loop e := by
    apply (Clockwork.awaits_end ends kept).runs (ending.orderly kept) waited
    intro since entry rest same
    rw [onward]
    exact ticks.calm split unstopped since entry rest same
  have again : BeginsTick e.poller loop second.2.toMove := by
    rw [waited.poller, onward, List.append_assoc, ← split]
    exact ticks.again
  obtain ⟨delay, span, interval, spaced, value, positive, due⟩ := Clockwork.due?_spec (awaits.begins again)
  rw [settings] at spaced
  refine ⟨delay, span, interval, spaced, value, positive, ?_⟩
  rw [(beginning.unroused (by simp [again.entered])).1, now, due]

def failing : List (Reply (Except Failure Payload)) := [⟨some 1, .error (.runtime "down")⟩]

/-- Polling is stopped and resumed during the first fetch.  In the delay after it the run is started again and a
refresh begins, so that the next tick will be skipped; it begins when it is due all the same. -/
theorem cadence_restarted :
    let before : List (Instant × Deed) := [(0, .move (.start "run"))]
    let early : List (Instant × Deed) := [(0, .move (.enter 0)), (0, .move .stop), (0, .move (.start "run")),
      (1, .move (.settle 0 (.given (.error (.failure (.runtime "down"))))))]
    let late : List (Instant × Deed) := [(1, .move (.start "run")), (1, .move (.refresh 0)), (2, .move (.rouse 0))]
    let p := (Poller.initial .standard false).after (moves (before ++ early))
    ∃ between, (0, .move (.enter 0)) :: between = early ++ (1, .move (.decide 0)) :: late ∧
      (initial .standard false [] failing none).record .scripted
          ([.obey (.start "run"), .step, .obey .stop, .obey (.start "run")] ++ List.replicate 6 .step ++
            [.obey (.start "run"), .obey .refresh] ++ List.replicate 9 .step) =
        before ++ (0, .move (.enter 0)) :: between ++ (2, .move (.enter 0)) :: [] ∧
      Consecutive (.initial .standard false) 0 before (0, .move (.enter 0)) between (2, .move (.enter 0)) ∧
        EndsTick p 0 (.decide 0) ∧ (∀ entry ∈ late, entry.2.toMove ≠ .stop ∧ entry.2.toMove ≠ .clear) ∧
          ∃ delay span, p.nextInterval? = some delay ∧
            Config.standard.retryDelay? p.session.consecutiveFailures = some delay ∧
              delay.delay = some span ∧ 0 < span ∧ (2 : Instant) = 1 + span := by
  intro before early late p
  have log : (initial .standard false [] failing none).record .scripted
      ([.obey (.start "run"), .step, .obey .stop, .obey (.start "run")] ++ List.replicate 6 .step ++
        [.obey (.start "run"), .obey .refresh] ++ List.replicate 9 .step) =
      before ++ (0, .move (.enter 0)) :: (early.tail ++ (1, .move (.decide 0)) :: late) ++
        (2, .move (.enter 0)) :: [] := by decide +kernel
  have ticks : Consecutive (.initial .standard false) 0 before (0, .move (.enter 0))
      (early.tail ++ (1, .move (.decide 0)) :: late) (2, .move (.enter 0)) := by
    refine ⟨@BeginsTick.enter _ ⟨0, 1, .created⟩ ?_, @BeginsTick.enter _ ⟨0, 1, .waking⟩ ?_, ?_⟩
    · exact ⟨by decide +kernel, Or.inl rfl, by decide +kernel, by decide +kernel⟩
    · exact ⟨by decide +kernel, Or.inr rfl, by decide +kernel, by decide +kernel⟩
    · intro past entry rest same begins
      have others : ∀ entry ∈ early.tail ++ (1, Deed.move (.decide 0)) :: late, entry.2.toMove ≠ .enter 0 := by
        decide +kernel
      exact others entry (same ▸ List.mem_append_right _ List.mem_cons_self) begins.entered
  have ends : EndsTick p 0 (.decide 0) :=
    @EndsTick.settled _ ⟨0, 1, .deciding⟩ (by decide +kernel) rfl
  have unstopped : ∀ entry ∈ late, entry.2.toMove ≠ .stop ∧ entry.2.toMove ≠ .clear := by decide +kernel
  have kept := cadence_kept .scripted .standard false [] failing none _ log ticks
  exact ⟨_, rfl, log, ticks, ends, unstopped, kept.2 early _ late rfl ends unstopped⟩

end Machine

end WorkflowRuns
