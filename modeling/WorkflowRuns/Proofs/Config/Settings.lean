import WorkflowRuns.Config

/-!
What settings are known to satisfy once they are accepted.
-/

namespace WorkflowRuns

/-- What is taken for a text where a text is asked for: the text itself, or bytes that encode it. -/
inductive Value.Spells : Value → String → Prop
  | text (s : String) : Spells (.text s) s
  | bytes {content : List Value} {s : String} (decodes : Text.textOfBytes? (word content) = some s) :
      Spells (.foreign "bytes" content) s

namespace Schema

variable {α β : Type}

theorem accepted_of_map {f : α → β} {x : Checked α} {b : β} (accepted : (f <$> x) = .accepted b) :
    ∃ a, x = .accepted a ∧ f a = b := by
  cases x with
  | accepted a => exact ⟨a, rfl, Checked.accepted.inj accepted⟩
  | refused faults => cases accepted

theorem accepted_of_seq {f : Checked (α → β)} {x : Checked α} {b : β}
    (accepted : (f <*> x) = .accepted b) :
    ∃ g a, f = .accepted g ∧ x = .accepted a ∧ g a = b := by
  cases f with
  | accepted g =>
      cases x with
      | accepted a => exact ⟨g, a, rfl, rfl, Checked.accepted.inj accepted⟩
      | refused faults => cases accepted
  | refused faults => cases x <;> cases accepted

theorem accepted_of_andThen {x : Checked α} {f : α → Checked β} {b : β}
    (accepted : x.andThen f = .accepted b) : ∃ a, x = .accepted a ∧ f a = .accepted b := by
  cases x with
  | accepted a => exact ⟨a, rfl, accepted⟩
  | refused faults => cases accepted

theorem accepted_of_under {place : Place} {x : Checked α} {a : α} (accepted : x.under place = .accepted a) :
    x = .accepted a := by
  cases x with
  | accepted b => exact accepted
  | refused faults => cases accepted

theorem accepted_of_choice {options : List (String × α)} {value : Value} {a : α}
    (accepted : choice options value = .accepted a) : ∃ word, value = .text word ∧ options.lookup word = some a := by
  cases value with
  | text word =>
      rw [choice] at accepted
      split at accepted
      next found =>
        cases accepted
        exact ⟨word, rfl, found⟩
      next => cases accepted
  | null | bool | int | float | list | record | foreign => cases accepted

theorem accepted_of_encoded {unread wrong : Problem} {read : String → Checked α} {kind : String}
    {content : List Value} {a : α} (accepted : encoded unread wrong read kind content = .accepted a) :
    ∃ s, Value.Spells (.foreign kind content) s ∧ read s = .accepted a := by
  rw [encoded] at accepted
  split at accepted
  next bytes =>
    subst bytes
    split at accepted
    next s decodes => exact ⟨s, .bytes decodes, accepted⟩
    next => cases accepted
  next => cases accepted

theorem text_accepted_iff {value : Value} {s : String} : text value = .accepted s ↔ value.Spells s := by
  constructor
  · intro accepted
    cases value with
    | text t =>
        rw [← Checked.accepted.inj accepted]
        exact .text t
    | foreign kind content =>
        obtain ⟨t, spells, same⟩ := accepted_of_encoded accepted
        rw [← Checked.accepted.inj same]
        exact spells
    | null | bool | int | float | list | record => cases accepted
  · intro spells
    cases spells with
    | text => rfl
    | bytes decodes => rw [text, encoded, if_pos rfl, decodes]

theorem member_of_get? {fields : Fields} {name : String} {value : Value}
    (present : Fields.get? fields name = some value) : (Key.name name, value) ∈ fields := by
  obtain ⟨before, after, whole, _⟩ := List.lookup_eq_some_iff.mp present
  rw [whole]
  simp

theorem member_of_find? {fields : Fields} {wire plain name : String} {value : Value}
    (found : find? fields wire plain = some (name, value)) : (Key.name name, value) ∈ fields := by
  unfold find? at found
  split at found
  next first present =>
    cases found
    exact member_of_get? present
  next =>
    obtain ⟨second, present, equal⟩ := Option.map_eq_some_iff.mp found
    cases equal
    exact member_of_get? present

theorem accepted_of_defaulted {fields : Fields} {wire plain : String} {absent a : α}
    {check : Value → Checked α} (accepted : defaulted fields wire plain absent check = .accepted a) :
    a = absent ∨ ∃ key value, (key, value) ∈ fields ∧ check value = .accepted a := by
  unfold defaulted at accepted
  split at accepted
  next name value found =>
    right
    exact ⟨_, value, member_of_find? found, accepted_of_under accepted⟩
  next =>
    left
    exact (Checked.accepted.inj accepted).symm

theorem holds_of_defaulted {P : α → Prop} {fields : Fields} {wire plain : String} {absent a : α}
    {check : Value → Checked α} (accepted : defaulted fields wire plain absent check = .accepted a)
    (default : P absent) (checked : ∀ value, check value = .accepted a → P a) : P a := by
  rcases accepted_of_defaulted accepted with same | ⟨_, value, _, passed⟩
  · rw [same]
    exact default
  · exact checked value passed

theorem defaulted_of_present {fields : Fields} {name : String} {absent a : α} {check : Value → Checked α} {value : Value}
    (present : Fields.get? fields name = some value) (accepted : check value = .accepted a) :
    defaulted fields name name absent check = .accepted a := by
  simp only [defaulted, find?, present, accepted, Checked.under]

theorem defaulted_of_absent {fields : Fields} {name : String} {absent : α} {check : Value → Checked α}
    (none : Fields.get? fields name = none) : defaulted fields name name absent check = .accepted absent := by
  simp only [defaulted, find?, none, Option.map_none]

theorem bound_of_integerAtLeast {bound : Nat} {value : Value} {n : Int}
    (accepted : integerAtLeast bound value = .accepted n) : (bound : Int) ≤ n := by
  obtain ⟨m, _, checked⟩ := accepted_of_andThen accepted
  split at checked
  next within =>
    cases checked
    exact within
  next => cases checked

theorem bound_of_integerBetween {low high : Nat} {value : Value} {n : Int}
    (accepted : integerBetween low high value = .accepted n) : (low : Int) ≤ n ∧ n ≤ high := by
  obtain ⟨m, _, checked⟩ := accepted_of_andThen accepted
  split at checked
  · cases checked
  · split at checked
    · cases checked
    · cases checked
      omega

theorem bound_of_numberAbove {bound : Nat} {value : Value} {x : Binary64}
    (accepted : numberAbove bound value = .accepted x) :
    number value = .accepted x ∧ (Binary64.ofInt bound).lt x = true := by
  obtain ⟨y, read, checked⟩ := accepted_of_andThen accepted
  split at checked
  next within =>
    cases checked
    exact ⟨read, within⟩
  next => cases checked

theorem bound_of_numberAtLeast {bound : Nat} {value : Value} {x : Binary64}
    (accepted : numberAtLeast bound value = .accepted x) : (Binary64.ofInt bound).le x = true := by
  obtain ⟨y, read, checked⟩ := accepted_of_andThen accepted
  split at checked
  next within =>
    cases checked
    exact within
  next => cases checked

end Schema

namespace Config

open Schema

/-- The settings that polling depends on, as they come out of their checks. -/
structure Valid (c : Config) : Prop where
  pollInterval : (Binary64.ofInt 0).lt c.pollInterval = true
  maxPollInterval : (Binary64.ofInt 0).lt c.maxPollInterval = true
  backoff : (Binary64.ofInt 1).le c.backoff = true
  maxFailures : 1 ≤ c.maxFailures

structure Checks (fields : Fields) (c : Config) : Prop where
  host : defaulted fields "host" "host" "localhost" Schema.text = .accepted c.host
  port : defaulted fields "port" "port" 8080 (integerBetween 1 65535) = .accepted c.port
  ssl : defaulted fields "ssl" "ssl" false boolean = .accepted c.ssl
  apiVersion : defaulted fields "api_version" "api_version" "v1" apiVersionOf = .accepted c.apiVersion
  requestTimeout :
    defaulted fields "request_timeout" "request_timeout" (.ofInt 10) (numberAbove 0) = .accepted c.requestTimeout
  pollInterval : defaulted fields "poll_interval" "poll_interval" half (numberAbove 0) = .accepted c.pollInterval
  maxPollInterval :
    defaulted fields "max_poll_interval" "max_poll_interval" (.ofInt 5) (numberAbove 0) = .accepted c.maxPollInterval
  backoff :
    defaulted fields "backoff_multiplier" "backoff_multiplier" (.ofInt 2) (numberAtLeast 1) = .accepted c.backoff
  maxFailures : defaulted fields "max_consecutive_failures" "max_consecutive_failures" 5 (integerAtLeast 1) =
    .accepted c.maxFailures

theorem checks_of_accepted {fields : Fields} {c : Config} (accepted : ofFields fields = .accepted c) :
    Checks fields c := by
  unfold ofFields at accepted
  obtain ⟨_, _, upToBackoff, limit, rfl⟩ := accepted_of_seq accepted
  obtain ⟨_, _, upToLongest, backoff, rfl⟩ := accepted_of_seq upToBackoff
  obtain ⟨_, _, upToInterval, longest, rfl⟩ := accepted_of_seq upToLongest
  obtain ⟨_, _, upToTimeout, interval, rfl⟩ := accepted_of_seq upToInterval
  obtain ⟨_, _, upToVersion, timeout, rfl⟩ := accepted_of_seq upToTimeout
  obtain ⟨_, _, upToSsl, version, rfl⟩ := accepted_of_seq upToVersion
  obtain ⟨_, _, upToPort, ssl, rfl⟩ := accepted_of_seq upToSsl
  obtain ⟨_, _, upToHost, port, rfl⟩ := accepted_of_seq upToPort
  obtain ⟨_, host, rfl⟩ := accepted_of_map upToHost
  exact ⟨host, port, ssl, version, timeout, interval, longest, backoff, limit⟩

theorem valid_of_accepted {fields : Fields} {c : Config} (accepted : ofFields fields = .accepted c) :
    Valid c := by
  have checks := checks_of_accepted accepted
  constructor
  case pollInterval =>
    exact holds_of_defaulted (P := fun x => (Binary64.ofInt 0).lt x = true) checks.pollInterval (by decide +kernel)
      fun _ checked => (bound_of_numberAbove checked).2
  case maxPollInterval =>
    exact holds_of_defaulted (P := fun x => (Binary64.ofInt 0).lt x = true) checks.maxPollInterval (by decide +kernel)
      fun _ checked => (bound_of_numberAbove checked).2
  case backoff =>
    exact holds_of_defaulted (P := fun x => (Binary64.ofInt 1).le x = true) checks.backoff (by decide +kernel)
      fun _ checked => bound_of_numberAtLeast checked
  case maxFailures =>
    exact holds_of_defaulted (P := fun n => 1 ≤ n) checks.maxFailures (by decide)
      fun _ checked => bound_of_integerAtLeast checked

theorem requestTimeout_positive {fields : Fields} {c : Config} (accepted : ofFields fields = .accepted c) :
    (Binary64.ofInt 0).lt c.requestTimeout = true :=
  holds_of_defaulted (P := fun x => (Binary64.ofInt 0).lt x = true) (checks_of_accepted accepted).requestTimeout
    (by decide +kernel) fun _ checked => (bound_of_numberAbove checked).2

end Config

end WorkflowRuns
