import WorkflowRuns.Proofs.Config.Settings
import WorkflowRuns.Proofs.Config.Version

/-!
Settings built again from all their values.  Only the version can change, by what its first pass has left; building
again and again settles, unless nothing is left of the version.
-/

namespace WorkflowRuns

namespace Schema

theorem integerAtLeast_int {bound : Nat} {n : Int} (within : (bound : Int) ≤ n) :
    integerAtLeast bound (.int n) = .accepted n := if_pos within

theorem integerBetween_int {low high : Nat} {n : Int} (above : (low : Int) ≤ n) (below : n ≤ high) :
    integerBetween low high (.int n) = .accepted n := by
  simp only [integerBetween, integer, Checked.andThen, if_neg (Int.not_lt.mpr above),
    if_neg (Int.not_lt.mpr below)]

theorem numberAbove_float {bound : Nat} {x : Binary64} (within : (Binary64.ofInt bound).lt x = true) :
    numberAbove bound (.float x) = .accepted x := if_pos within

theorem numberAtLeast_float {bound : Nat} {x : Binary64} (within : (Binary64.ofInt bound).le x = true) :
    numberAtLeast bound (.float x) = .accepted x := if_pos within

end Schema

namespace Config

open Schema

/-- The bounds that all accepted settings keep. -/
structure Bounded (c : Config) : Prop extends Valid c where
  port : 1 ≤ c.port ∧ c.port ≤ 65535
  requestTimeout : (Binary64.ofInt 0).lt c.requestTimeout = true

theorem bounded_of_accepted {fields : Fields} {c : Config} (accepted : ofFields fields = .accepted c) : Bounded c := by
  refine ⟨valid_of_accepted accepted, ?_, requestTimeout_positive accepted⟩
  exact holds_of_defaulted (P := fun n => 1 ≤ n ∧ n ≤ 65535) (checks_of_accepted accepted).port (by decide)
    fun _ checked => bound_of_integerBetween checked

def versionGiven (fields : Fields) : Value := (Fields.get? fields "api_version").getD (.text "v1")

theorem version_of_accepted {fields : Fields} {c : Config} (accepted : ofFields fields = .accepted c) :
    ∃ s, (versionGiven fields).Spells s ∧ c.apiVersion = normalizedVersion s ∧ c.apiVersion ≠ "" := by
  have checked := (checks_of_accepted accepted).apiVersion
  unfold versionGiven
  cases given : Fields.get? fields "api_version" with
  | none =>
      rw [defaulted_of_absent given] at checked
      rw [← Checked.accepted.inj checked]
      exact ⟨"v1", .text "v1", by decide +kernel⟩
  | some value =>
      simp only [defaulted, find?, given] at checked
      obtain ⟨s, read, normalized⟩ := accepted_of_andThen (accepted_of_under checked)
      refine ⟨s, text_accepted_iff.mp read, ?_⟩
      split at normalized
      next => cases normalized
      next nonempty =>
        rw [← Checked.accepted.inj normalized]
        exact ⟨rfl, nonempty⟩

def withVersion (c : Config) (version : String) : Checked Config :=
  if version = "" then .refused [⟨[.field "api_version"], .rule "api_version must not be empty"⟩]
  else .accepted { c with apiVersion := version }

/-- All settings but the version are accepted as they are. -/
theorem ofFields_toFields {c : Config} (bounded : c.Bounded) :
    ofFields c.toFields = c.withVersion (normalizedVersion c.apiVersion) := by
  have host : defaulted c.toFields "host" "host" "localhost" Schema.text = .accepted c.host :=
    defaulted_of_present rfl rfl
  have port : defaulted c.toFields "port" "port" 8080 (integerBetween 1 65535) = .accepted c.port :=
    defaulted_of_present rfl (integerBetween_int bounded.port.1 bounded.port.2)
  have ssl : defaulted c.toFields "ssl" "ssl" false boolean = .accepted c.ssl := defaulted_of_present rfl rfl
  have timeout : defaulted c.toFields "request_timeout" "request_timeout" (.ofInt 10) (numberAbove 0) =
      .accepted c.requestTimeout := defaulted_of_present rfl (numberAbove_float bounded.requestTimeout)
  have interval : defaulted c.toFields "poll_interval" "poll_interval" half (numberAbove 0) =
      .accepted c.pollInterval := defaulted_of_present rfl (numberAbove_float bounded.pollInterval)
  have longest : defaulted c.toFields "max_poll_interval" "max_poll_interval" (.ofInt 5) (numberAbove 0) =
      .accepted c.maxPollInterval := defaulted_of_present rfl (numberAbove_float bounded.maxPollInterval)
  have backoff : defaulted c.toFields "backoff_multiplier" "backoff_multiplier" (.ofInt 2) (numberAtLeast 1) =
      .accepted c.backoff := defaulted_of_present rfl (numberAtLeast_float bounded.backoff)
  have limit : defaulted c.toFields "max_consecutive_failures" "max_consecutive_failures" 5 (integerAtLeast 1) =
      .accepted c.maxFailures := defaulted_of_present rfl (integerAtLeast_int bounded.maxFailures)
  have version : defaulted c.toFields "api_version" "api_version" "v1" apiVersionOf =
      (apiVersionOf (.text c.apiVersion)).under (.field "api_version") := rfl
  rw [ofFields, host, port, ssl, version, timeout, interval, longest, backoff, limit]
  rw [apiVersionOf, Schema.text, Checked.andThen, withVersion]
  split
  · rfl
  · rfl

/-- What is known of settings that were accepted. -/
structure Normal (c : Config) : Prop extends Bounded c where
  nonempty : c.apiVersion ≠ ""
  lowerCase : Text.lower c.apiVersion = c.apiVersion
  slashless : Text.Trimmed (· = '/') c.apiVersion.toList

theorem normal_of_accepted {fields : Fields} {c : Config} (accepted : ofFields fields = .accepted c) : Normal c := by
  obtain ⟨s, _, stored, nonempty⟩ := version_of_accepted accepted
  refine ⟨bounded_of_accepted accepted, nonempty, ?_, ?_⟩
  · rw [stored]
    exact lower_normalizedVersion s
  · rw [stored]
    exact slashless_normalizedVersion s

theorem withVersion_empty (c : Config) :
    c.withVersion "" = .refused [⟨[.field "api_version"], .rule "api_version must not be empty"⟩] := if_pos rfl

theorem withVersion_of_nonempty {c : Config} {version : String} (nonempty : version ≠ "") :
    c.withVersion version = .accepted { c with apiVersion := version } := if_neg nonempty

theorem withVersion_replaced (c : Config) (first second : String) :
    { c with apiVersion := first }.withVersion second = c.withVersion second := rfl

theorem bareVersion_empty : bareVersion "" = "" := by decide +kernel

theorem baseUrl_eq (c : Config) :
    c.baseUrl = c.scheme ++ "://" ++ c.host ++ ":" ++ toString c.port ++ "/" ++ c.apiVersion := by
  simp only [baseUrl, location, String.append_assoc]

theorem baseUrl_withVersion (c : Config) (version : String) :
    { c with apiVersion := version }.baseUrl = c.baseUrl ↔ version = c.apiVersion := by
  rw [baseUrl_eq, baseUrl_eq c]
  exact String.append_right_inj _

section

variable {c : Config} (normal : c.Normal)

include normal

theorem withVersion_accepted_iff {version : String} : c.withVersion version = .accepted c ↔ version = c.apiVersion := by
  constructor
  · intro accepted
    unfold withVersion at accepted
    split at accepted
    · cases accepted
    · exact congrArg apiVersion (Checked.accepted.inj accepted)
  · rintro rfl
    exact withVersion_of_nonempty normal.nonempty

theorem rebuilding_accepted_iff : ofFields c.toFields = .accepted c ↔ Text.Trimmed Text.isMargin c.apiVersion.toList := by
  rw [ofFields_toFields normal.toBounded, withVersion_accepted_iff normal, normalizedVersion_eq_self_iff normal.lowerCase]

end

/-- Building so many times, each time from all values of the settings built last. -/
def rebuilt : Nat → Config → Checked Config
  | 0, c => .accepted c
  | n + 1, c => (ofFields c.toFields).andThen (rebuilt n)

theorem rebuilt_of_same {c : Config} (same : ofFields c.toFields = .accepted c) (n : Nat) : rebuilt n c = .accepted c := by
  induction n with
  | zero => rfl
  | succ n ih => rw [rebuilt, same, Checked.andThen, ih]

theorem rebuilt_bare (n : Nat) {c : Config} (normal : c.Normal) (enough : c.apiVersion.length ≤ n) :
    rebuilt n c = c.withVersion (bareVersion c.apiVersion) := by
  induction n generalizing c with
  | zero => exact absurd (String.length_eq_zero_iff.mp (Nat.le_zero.mp enough)) normal.nonempty
  | succ n ih =>
      by_cases same : normalizedVersion c.apiVersion = c.apiVersion
      · have margins := (normalizedVersion_eq_self_iff normal.lowerCase).mp same
        rw [rebuilt_of_same ((rebuilding_accepted_iff normal).mpr margins),
          (bareVersion_eq_self_iff normal.lowerCase).mpr margins, withVersion_of_nonempty normal.nonempty]
      · have shorter := length_normalizedVersion_lt normal.lowerCase same
        rw [rebuilt, ← bareVersion_normalizedVersion]
        have once := ofFields_toFields normal.toBounded
        by_cases empty : normalizedVersion c.apiVersion = ""
        · rw [once, empty, bareVersion_empty, withVersion_empty]
          rfl
        · rw [withVersion_of_nonempty empty] at once
          have enoughLeft : (normalizedVersion c.apiVersion).length ≤ n := by omega
          have settled := ih (normal_of_accepted once) enoughLeft
          rw [withVersion_replaced] at settled
          rw [once, Checked.andThen, settled]

/-- What becomes of settings with a version made of the given text when they are built again. -/
structure Rebuilds (given : String) (c : Config) : Prop where
  stored : c.apiVersion = normalizedVersion given
  nonempty : c.apiVersion ≠ ""
  slashless : Text.Trimmed (· = '/') c.apiVersion.toList
  lowerCase : Text.lower c.apiVersion = c.apiVersion
  once : ofFields c.toFields = c.withVersion (normalizedVersion c.apiVersion)
  /-- They are the same where no blank is left at an end of the version. -/
  same : ofFields c.toFields = .accepted c ↔ Text.Trimmed Text.isBlank c.apiVersion.toList
  /-- They are the same, in other words, where one pass over the given text was enough. -/
  bare : ofFields c.toFields = .accepted c ↔ c.apiVersion = bareVersion given
  address : ∀ d, ofFields c.toFields = .accepted d → (d.baseUrl = c.baseUrl ↔ d = c)
  settles : ∀ n, c.apiVersion.length ≤ n → rebuilt n c = c.withVersion (bareVersion given)

theorem rebuilding_settles {fields : Fields} {c : Config} (accepted : ofFields fields = .accepted c) :
    ∃ given, (versionGiven fields).Spells given ∧ c.Rebuilds given := by
  obtain ⟨given, spells, stored, _⟩ := version_of_accepted accepted
  have normal := normal_of_accepted accepted
  have once := ofFields_toFields normal.toBounded
  have left : bareVersion c.apiVersion = bareVersion given := by rw [stored, bareVersion_normalizedVersion]
  refine ⟨given, spells, ?_⟩
  constructor
  case stored => exact stored
  case nonempty => exact normal.nonempty
  case slashless => exact normal.slashless
  case lowerCase => exact normal.lowerCase
  case once => exact once
  case same =>
    rw [rebuilding_accepted_iff normal, trimmed_isMargin]
    exact and_iff_left normal.slashless
  case bare =>
    rw [rebuilding_accepted_iff normal, ← bareVersion_eq_self_iff normal.lowerCase, left, eq_comm]
  case address =>
    intro d built
    rw [once] at built
    unfold withVersion at built
    split at built
    · cases built
    · rw [← Checked.accepted.inj built, baseUrl_withVersion]
      constructor
      · intro same
        rw [same]
      · exact congrArg apiVersion
  case settles =>
    intro n enough
    rw [rebuilt_bare n normal enough, left]

/-- Two further passes are needed here: blanks, slashes and blanks again. -/
theorem rebuilding_settles_layered :
    ofFields [(.name "port", .text "443"), (.name "api_version", .text "/ / V1 / /")] =
      .accepted { standard with port := 443, apiVersion := " / v1 / " } ∧
    ∃ given, (versionGiven [(.name "port", .text "443"), (.name "api_version", .text "/ / V1 / /")]).Spells given ∧
      { standard with port := 443, apiVersion := " / v1 / " }.Rebuilds given := by
  have accepted : ofFields [(.name "port", .text "443"), (.name "api_version", .text "/ / V1 / /")] =
      .accepted { standard with port := 443, apiVersion := " / v1 / " } := by decide +kernel
  exact ⟨accepted, rebuilding_settles accepted⟩

/-- A blank between slash and version is kept at first and lost afterwards; a version of nothing else is accepted
at first and refused afterwards. -/
theorem rebuilding_changes :
    ofFields [(.name "api_version", .text "/ v1 /")] = .accepted { standard with apiVersion := " v1 " } ∧
    ofFields { standard with apiVersion := " v1 " }.toFields = .accepted standard ∧
    { standard with apiVersion := " v1 " }.baseUrl = "http://localhost:8080/ v1 " ∧
    standard.baseUrl = "http://localhost:8080/v1" ∧
    ofFields [(.name "api_version", .text "/ /")] = .accepted { standard with apiVersion := " " } ∧
    ofFields { standard with apiVersion := " " }.toFields =
      .refused [⟨[.field "api_version"], .rule "api_version must not be empty"⟩] := by
  decide +kernel

end Config

end WorkflowRuns
