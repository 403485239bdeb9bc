import WorkflowRuns.Proofs.Binary64.Monotone
import WorkflowRuns.Proofs.Config.Backoff

/-!
Where there is a delay, it rises with the number of failures from the plain interval up to the cap.  There
is none where the number of failures or the power of the multiplier is too large for a number.
-/

namespace WorkflowRuns

namespace Binary64

theorem AtLeast.isFinite_iff {q : ℚ} {x : Binary64} (bound : AtLeast q x) :
    x.isFinite = false ↔ x = .infinite false := by
  rcases bound with rfl | ⟨v, value, _⟩
  · exact iff_of_true rfl rfl
  · have finite : x.isFinite = true := by rw [isFinite, value, Option.isSome_some]
    apply iff_of_false
    · rw [finite]
      nofun
    · rintro rfl
      cases value

theorem ofInt_isFinite_iff {n : Nat} (positive : 0 < n) : (ofInt n).isFinite = false ↔ overflowBound ≤ n := by
  have infinite := roundNat_infinite_iff positive one_pos
  rw [Nat.cast_one, div_one] at infinite
  rw [← infinite]
  have rounds : ofInt n = roundNat false n 1 := by
    have sign : ¬ (n : Int) < 0 := by omega
    rw [ofInt, decide_eq_false sign, Int.natAbs_natCast]
  rw [rounds]
  have bound : AtLeast 0 (roundNat false n 1) := by
    apply (atLeast_roundNat_iff positive one_pos 0).mpr
    right
    apply mul_nonneg (Nat.cast_nonneg _) (two_pow_pos _).le
  exact bound.isFinite_iff

end Binary64

namespace Schema

theorem number_of_numberAtLeast {bound : Nat} {value : Value} {x : Binary64}
    (accepted : numberAtLeast bound value = .accepted x) : number value = .accepted x := by
  obtain ⟨y, read, checked⟩ := accepted_of_andThen accepted
  split at checked
  next =>
    cases checked
    exact read
  next => cases checked

end Schema

namespace Config

open Binary64 (AtLeast Below overflowBound)

theorem backoff_isDouble {fields : Fields} {c : Config} (accepted : ofFields fields = .accepted c)
    (doubles : ∀ key value, (key, value) ∈ fields → value.IsDouble) : c.backoff.IsDouble := by
  rcases Schema.accepted_of_defaulted (checks_of_accepted accepted).backoff with
    absent | ⟨key, value, member, checked⟩
  · rw [absent]
    exact Binary64.ofInt_isDouble 2
  · exact Schema.number_isDouble (doubles key value member) (Schema.number_of_numberAtLeast checked)

section

variable {c : Config} (valid : c.Valid)

include valid in
theorem backoffPower_none_iff (double : c.backoff.IsDouble) {n : Nat} (positive : 0 < n) :
    c.backoffPower? n = none ↔
      overflowBound ≤ n ∨ ∃ v, c.backoff.value? = some v ∧ overflowBound ≤ v ^ n := by
  have multiplier := Binary64.atLeast_one_of_le valid.backoff
  have power := (multiplier.pow n).isFinite_iff
  rw [← Binary64.ofInt_isFinite_iff positive]
  unfold backoffPower?
  cases representable : (Binary64.ofInt n).isFinite with
  | false => simp
  | true =>
      rcases multiplier with infinite | ⟨v, value, least⟩
      · simp [infinite, Binary64.isFinite, Binary64.value?]
      · have overflows := Binary64.pow_infinite_iff double value least n
        rw [← power] at overflows
        simp [value, ← overflows, Binary64.isFinite]

include valid in
theorem pollInterval_below_delayCap : Below c.pollInterval c.delayCap := by
  obtain ⟨p, _, interval⟩ := Binary64.atLeast_of_zero_lt valid.pollInterval
  obtain ⟨q, _, longest⟩ := Binary64.atLeast_of_zero_lt valid.maxPollInterval
  unfold delayCap
  split
  · exact .refl _
  next above => exact (longest.below_iff interval).mpr (Bool.eq_false_iff.mpr above)

include valid in
theorem maxPollInterval_below_delayCap : Below c.maxPollInterval c.delayCap := by
  obtain ⟨p, _, interval⟩ := Binary64.atLeast_of_zero_lt valid.pollInterval
  obtain ⟨q, _, longest⟩ := Binary64.atLeast_of_zero_lt valid.maxPollInterval
  unfold delayCap
  split
  next below =>
    apply (longest.total interval).resolve_right
    rw [longest.below_iff interval, below]
    nofun
  · exact .refl _

variable (double : c.pollInterval.IsDouble)

include valid double in
theorem pollInterval_below_product (n : Nat) : Below c.pollInterval (c.pollInterval.mul (c.backoff.pow n)) := by
  have factor := (Binary64.atLeast_one_of_le valid.backoff).pow n
  obtain ⟨p, positive, interval⟩ := Binary64.atLeast_of_zero_lt valid.pollInterval
  intro q bound
  rcases lt_or_ge 0 q with above | below
  · exact bound.mul above double factor
  · exact (interval.mul positive double factor).weaken (below.trans positive.le)

theorem retryDelay_eq {n : Int} (positive : 0 < n) {delay : Binary64} (computed : c.retryDelay? n = some delay) :
    delay = if c.delayCap.lt (c.pollInterval.mul (c.backoff.pow n.toNat)) then c.delayCap
      else c.pollInterval.mul (c.backoff.pow n.toNat) := by
  rw [retryDelay?, if_neg (not_le.mpr positive)] at computed
  obtain ⟨power, raised, rfl⟩ := Option.map_eq_some_iff.mp computed
  unfold backoffPower? at raised
  split at raised
  · simp only at raised
    split at raised
    · cases raised
    · cases raised
      rfl
  · cases raised

include valid double in
theorem atLeast_retryDelay_iff {n : Int} (positive : 0 < n) {delay : Binary64}
    (computed : c.retryDelay? n = some delay) (q : ℚ) :
    AtLeast q delay ↔ AtLeast q c.delayCap ∧ AtLeast q (c.pollInterval.mul (c.backoff.pow n.toNat)) := by
  obtain ⟨p, _, interval⟩ := Binary64.atLeast_of_zero_lt valid.pollInterval
  have cap := pollInterval_below_delayCap valid p interval
  have product := pollInterval_below_product valid double n.toNat p interval
  rw [retryDelay_eq positive computed]
  exact cap.min_iff product q

include valid double in
/-- A delay lies between the plain interval and the cap. -/
theorem retryDelay_between {n : Int} {delay : Binary64} (computed : c.retryDelay? n = some delay) :
    Below c.pollInterval delay ∧ Below delay c.delayCap := by
  rcases le_or_gt n 0 with none | positive
  · rw [retryDelay?, if_pos none] at computed
    cases computed
    exact ⟨.refl _, pollInterval_below_delayCap valid⟩
  · have bounds := atLeast_retryDelay_iff valid double positive computed
    constructor
    · intro q interval
      rw [bounds]
      exact ⟨pollInterval_below_delayCap valid q interval, pollInterval_below_product valid double _ q interval⟩
    · exact fun q bound => ((bounds q).mp bound).1

include valid double in
/-- A delay is not below one after fewer failures. -/
theorem retryDelay_below {m n : Int} (fewer : m ≤ n) {first second : Binary64}
    (earlier : c.retryDelay? m = some first) (later : c.retryDelay? n = some second) : Below first second := by
  rcases le_or_gt m 0 with none | positive
  · rw [retryDelay?, if_pos none] at earlier
    cases earlier
    exact (retryDelay_between valid double later).1
  · have multiplier := Binary64.atLeast_one_of_le valid.backoff
    obtain ⟨p, above, interval⟩ := Binary64.atLeast_of_zero_lt valid.pollInterval
    have power : Below (c.backoff.pow m.toNat) (c.backoff.pow n.toNat) :=
      multiplier.pow_below (Int.toNat_le_toNat fewer)
    have product := power.mul above interval (multiplier.pow m.toNat)
    intro q bound
    rw [atLeast_retryDelay_iff valid double positive earlier] at bound
    rw [atLeast_retryDelay_iff valid double (positive.trans_le fewer) later]
    exact ⟨bound.1, product q bound.2⟩

end

/-- How the delays run through the numbers of failures. -/
structure BacksOff (c : Config) : Prop where
  plain : ∀ n ≤ 0, c.retryDelay? n = some c.pollInterval
  /-- There is no delay where the number of failures or the exact power is too large for a number. -/
  absent : ∀ n : Int, c.retryDelay? n = none ↔
    0 < n ∧ (overflowBound ≤ n ∨ ∃ v, c.backoff.value? = some v ∧ overflowBound ≤ v ^ n.toNat)
  /-- The cap is the larger of two settings. -/
  cap : c.pollInterval.le c.delayCap ∧ c.maxPollInterval.le c.delayCap ∧
    (c.delayCap = c.pollInterval ∨ c.delayCap = c.maxPollInterval)
  between : ∀ n delay, c.retryDelay? n = some delay → c.pollInterval.le delay ∧ delay.le c.delayCap
  rises : ∀ m n first second, m ≤ n → c.retryDelay? m = some first → c.retryDelay? n = some second →
    first.le second
  stays : ∀ m n first second, m ≤ n → c.retryDelay? m = some first → c.retryDelay? n = some second →
    c.delayCap.le first → c.delayCap.le second

theorem delays_rise {fields : Fields} {c : Config} (accepted : ofFields fields = .accepted c)
    (doubles : ∀ key value, (key, value) ∈ fields → value.IsDouble) : c.BacksOff := by
  have valid := valid_of_accepted accepted
  have double := pollInterval_isDouble accepted doubles
  obtain ⟨p, _, interval⟩ := Binary64.atLeast_of_zero_lt valid.pollInterval
  obtain ⟨q, _, longest⟩ := Binary64.atLeast_of_zero_lt valid.maxPollInterval
  have cap := pollInterval_below_delayCap valid p interval
  -- Every delay can be compared.
  have bounded : ∀ {n delay}, c.retryDelay? n = some delay → AtLeast p delay := fun computed =>
    (retryDelay_between valid double computed).1 p interval
  constructor
  case plain =>
    intro n none
    rw [retryDelay?, if_pos none]
  case absent =>
    intro n
    rw [retryDelay_none_iff]
    apply and_congr_right
    intro positive
    have whole : ((n.toNat : Nat) : ℚ) = n := by
      exact_mod_cast Int.toNat_of_nonneg positive.le
    rw [backoffPower_none_iff valid (backoff_isDouble accepted doubles) (by omega), whole]
  case cap =>
    rw [interval.le_iff cap, longest.le_iff cap]
    refine ⟨pollInterval_below_delayCap valid, maxPollInterval_below_delayCap valid, ?_⟩
    unfold delayCap
    split
    · exact Or.inl rfl
    · exact Or.inr rfl
  case between =>
    intro n delay computed
    rw [interval.le_iff (bounded computed), (bounded computed).le_iff cap]
    exact retryDelay_between valid double computed
  case rises =>
    intro m n first second fewer earlier later
    rw [(bounded earlier).le_iff (bounded later)]
    exact retryDelay_below valid double fewer earlier later
  case stays =>
    intro m n first second fewer earlier later
    rw [cap.le_iff (bounded earlier), cap.le_iff (bounded later)]
    exact fun reached => reached.trans (retryDelay_below valid double fewer earlier later)

theorem delays_rise_standard : ofFields standard.toFields = .accepted standard ∧ standard.BacksOff := by
  have accepted : ofFields standard.toFields = .accepted standard := by decide +kernel
  have doubles : ∀ key value, (key, value) ∈ standard.toFields → value.IsDouble := by
    intro key value member
    simp only [toFields, List.mem_cons, Prod.mk.injEq, List.not_mem_nil, or_false] at member
    rcases member with ⟨_, rfl⟩ | ⟨_, rfl⟩ | ⟨_, rfl⟩ | ⟨_, rfl⟩ | ⟨_, rfl⟩ | ⟨_, rfl⟩ | ⟨_, rfl⟩ | ⟨_, rfl⟩ | ⟨_, rfl⟩
    all_goals trivial
  exact ⟨accepted, delays_rise accepted doubles⟩

/-- After 1023 failures the delay is the cap, and after one more there is none. -/
theorem delay_missing : ofFields standard.toFields = .accepted standard ∧
    standard.retryDelay? 1023 = some standard.delayCap ∧ standard.retryDelay? 1024 = none := by
  decide +kernel

end Config

end WorkflowRuns
