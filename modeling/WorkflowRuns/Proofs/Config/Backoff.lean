import WorkflowRuns.Proofs.Binary64.Bounds
import WorkflowRuns.Proofs.Config.Settings

/-!
The delays between ticks are positive, whenever there is one.
-/

namespace WorkflowRuns

def Value.IsDouble : Value → Prop
  | .float x => x.IsDouble
  | _ => True

namespace Binary64

theorem ofInt_isDouble (n : Int) : (ofInt n).IsDouble :=
  roundNat_isDouble _ _ one_pos

theorem ofDecimal_isDouble (negative : Bool) (digits : Nat) (exponent : Int) :
    (ofDecimal negative digits exponent).IsDouble := by
  have zero : (Binary64.finite negative 0 leastExponent).IsDouble :=
    ⟨by decide, by decide, by decide⟩
  unfold ofDecimal
  split
  · exact zero
  · simp only
    split
    · trivial
    · split
      · exact zero
      · split
        next => exact roundNat_isDouble _ _ one_pos
        next => exact roundNat_isDouble _ _ (pow_pos (show 0 < 10 by decide) _)

end Binary64

namespace Schema

theorem plainNumber_isDouble {text : List Char} {x : Binary64}
    (read : Text.plainNumber? text = some x) : x.IsDouble := by
  unfold Text.plainNumber? at read
  simp only at read
  split at read
  · cases read
    trivial
  · split at read
    · cases read
      trivial
    -- With a fraction and without.
    · split at read
      all_goals
        split at read
        · cases read
        · obtain ⟨exponent, _, rfl⟩ := Option.map_eq_some_iff.mp read
          exact Binary64.ofDecimal_isDouble _ _ _

theorem numberOfText_isDouble {s : String} {x : Binary64}
    (read : numberOfText s = .accepted x) : x.IsDouble := by
  unfold numberOfText at read
  split at read
  next plain =>
    cases read
    exact plainNumber_isDouble plain
  next =>
    split at read
    next grouped =>
      cases read
      obtain ⟨ungrouped, _, plain⟩ := Option.bind_eq_some_iff.mp grouped
      exact plainNumber_isDouble plain
    next => cases read

theorem number_isDouble {value : Value} {x : Binary64} (double : value.IsDouble)
    (read : number value = .accepted x) : x.IsDouble := by
  cases value with
  | bool b =>
      cases read
      exact Binary64.ofInt_isDouble _
  | int n =>
      simp only [number] at read
      split at read
      · cases read
        exact Binary64.ofInt_isDouble n
      · cases read
  | float y =>
      cases read
      exact double
  | text s =>
      rw [number] at read
      exact numberOfText_isDouble read
  | foreign =>
      rw [number] at read
      obtain ⟨_, _, taken⟩ := accepted_of_encoded read
      exact numberOfText_isDouble taken
  | _ => cases read

end Schema

namespace Config

open Binary64 (AtLeast)

theorem half_isDouble : half.IsDouble := Binary64.roundNat_isDouble false 1 two_pos

theorem pollInterval_isDouble {fields : Fields} {c : Config}
    (accepted : ofFields fields = .accepted c)
    (doubles : ∀ key value, (key, value) ∈ fields → value.IsDouble) : c.pollInterval.IsDouble := by
  rcases Schema.accepted_of_defaulted (checks_of_accepted accepted).pollInterval with
    absent | ⟨key, value, member, checked⟩
  · rw [absent]
    exact half_isDouble
  · exact Schema.number_isDouble (doubles key value member) (Schema.bound_of_numberAbove checked).1

theorem delayCap_positive {c : Config} (valid : c.Valid) : ∃ q, 0 < q ∧ AtLeast q c.delayCap := by
  unfold delayCap
  split
  · exact Binary64.atLeast_of_zero_lt valid.pollInterval
  · exact Binary64.atLeast_of_zero_lt valid.maxPollInterval

theorem backoffPower_atLeast {c : Config} (valid : c.Valid) {failures : Nat} {power : Binary64}
    (computed : c.backoffPower? failures = some power) : AtLeast 1 power := by
  unfold backoffPower? at computed
  split at computed
  · simp only at computed
    split at computed
    · cases computed
    · cases computed
      exact (Binary64.atLeast_one_of_le valid.backoff).pow failures
  · cases computed

theorem retryDelay_positive {c : Config} (valid : c.Valid) (double : c.pollInterval.IsDouble)
    {failures : Int} {delay : Binary64} (computed : c.retryDelay? failures = some delay) :
    delay.le .zero = false := by
  obtain ⟨q, positive, interval⟩ := Binary64.atLeast_of_zero_lt valid.pollInterval
  unfold retryDelay? at computed
  split at computed
  · cases computed
    exact interval.not_le_zero positive
  · obtain ⟨power, raised, rfl⟩ := Option.map_eq_some_iff.mp computed
    have product := interval.mul positive double (backoffPower_atLeast valid raised)
    obtain ⟨r, above, cap⟩ := delayCap_positive valid
    simp only
    split
    · exact cap.not_le_zero above
    · exact product.not_le_zero positive

theorem retryDelay_none_iff (c : Config) (failures : Int) :
    c.retryDelay? failures = none ↔ 0 < failures ∧ c.backoffPower? failures.toNat = none := by
  unfold retryDelay?
  split
  · simp only [reduceCtorEq, false_iff]
    omega
  · rw [Option.map_eq_none_iff]
    constructor
    · exact fun overflow => ⟨by omega, overflow⟩
    · exact fun both => both.2

end Config

end WorkflowRuns
