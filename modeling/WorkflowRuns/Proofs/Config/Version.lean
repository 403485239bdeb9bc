import WorkflowRuns.Config
import WorkflowRuns.Proofs.Text.Lowering

/-!
A version is normalized in one pass: blanks at the ends, then slashes at the ends of what is left.  Further passes
come to the text without both, and the first pass is there already unless it leaves a blank at an end.
-/

namespace WorkflowRuns.Config

open Text

/-- The text without blanks and slashes at either end, in lower case. -/
def bareVersion (s : String) : String := lower (String.ofList (trimWith isMargin s.toList))

def onePass (text : List Char) : List Char := trimWith (· = '/') (trimWith isBlank text)

theorem isMargin_of_isBlank (c : Char) (blank : isBlank c = true) : isMargin c = true := by
  rw [isMargin, blank, Bool.true_or]

theorem isMargin_of_slash (c : Char) (slash : decide (c = '/') = true) : isMargin c = true := by
  rw [isMargin, slash, Bool.or_true]

theorem trimmed_isMargin {text : List Char} :
    Trimmed isMargin text ↔ Trimmed isBlank text ∧ Trimmed (· = '/') text := trimmed_or

theorem length_onePass_le (text : List Char) : (onePass text).length ≤ text.length :=
  (length_trimWith_le _ _).trans (length_trimWith_le _ _)

theorem trimmed_of_length_onePass {text : List Char} (same : (onePass text).length = text.length) :
    Trimmed isMargin text := by
  -- Neither step takes anything off, as together they do not.
  have slashes := length_trimWith_le (· = '/') (trimWith isBlank text)
  have blanks := length_trimWith_le isBlank text
  unfold onePass at same
  have kept : trimWith isBlank text = text := trimWith_eq_self_of_length (by omega)
  rw [kept] at same
  exact trimmed_isMargin.mpr ⟨trimWith_eq_self_iff.mp kept, trimWith_eq_self_iff.mp (trimWith_eq_self_of_length same)⟩

theorem onePass_eq_self_iff {text : List Char} : onePass text = text ↔ Trimmed isMargin text := by
  constructor
  · exact fun same => trimmed_of_length_onePass (congrArg List.length same)
  · intro trimmed
    obtain ⟨blank, slash⟩ := trimmed_isMargin.mp trimmed
    rw [onePass, trimWith_of_trimmed blank, trimWith_of_trimmed slash]

theorem trimWith_onePass (text : List Char) : trimWith isMargin (onePass text) = trimWith isMargin text := by
  rw [onePass, trimWith_trimWith isMargin_of_slash, trimWith_trimWith isMargin_of_isBlank]

theorem length_onePass_lt {text : List Char} (changed : onePass text ≠ text) :
    (onePass text).length < text.length := by
  apply lt_of_le_of_ne (length_onePass_le text)
  exact fun same => changed (onePass_eq_self_iff.mpr (trimmed_of_length_onePass same))

theorem toList_lower (s : String) : (lower s).toList = lowerFrom [] s.toList := String.toList_ofList

theorem toList_normalizedVersion (s : String) : (normalizedVersion s).toList = onePass (lowerFrom [] s.toList) := by
  rw [normalizedVersion, toList_lower, String.toList_ofList, lowerFrom_trimWith isMargin_of_slash,
    lowerFrom_trimWith isMargin_of_isBlank, onePass]

theorem toList_bareVersion (s : String) : (bareVersion s).toList = trimWith isMargin (lowerFrom [] s.toList) := by
  rw [bareVersion, toList_lower, String.toList_ofList, lowerFrom_trimWith fun _ margin => margin]

theorem lower_normalizedVersion (s : String) : lower (normalizedVersion s) = normalizedVersion s := by
  apply String.toList_inj.mp
  rw [toList_lower]
  apply lowerFrom_of_small
  rw [normalizedVersion, toList_lower]
  exact small_lowerFrom _ _

theorem slashless_normalizedVersion (s : String) : Trimmed (· = '/') (normalizedVersion s).toList := by
  rw [toList_normalizedVersion]
  exact trimmed_trimWith _ _

section

variable {version : String} (lowerCase : lower version = version)

include lowerCase

theorem lowerFrom_eq_self : lowerFrom [] version.toList = version.toList := by
  rw [← toList_lower, lowerCase]

theorem toList_normalizedVersion_again : (normalizedVersion version).toList = onePass version.toList := by
  rw [toList_normalizedVersion, lowerFrom_eq_self lowerCase]

theorem normalizedVersion_eq_self_iff : normalizedVersion version = version ↔ Trimmed isMargin version.toList := by
  rw [← String.toList_inj, toList_normalizedVersion_again lowerCase, onePass_eq_self_iff]

theorem bareVersion_eq_self_iff : bareVersion version = version ↔ Trimmed isMargin version.toList := by
  rw [← String.toList_inj, toList_bareVersion, lowerFrom_eq_self lowerCase, trimWith_eq_self_iff]

theorem length_normalizedVersion_lt (changed : normalizedVersion version ≠ version) :
    (normalizedVersion version).length < version.length := by
  rw [← String.length_toList, ← String.length_toList, toList_normalizedVersion_again lowerCase]
  apply length_onePass_lt
  rw [← toList_normalizedVersion_again lowerCase]
  exact fun same => changed (String.toList_inj.mp same)

end

theorem bareVersion_normalizedVersion (s : String) : bareVersion (normalizedVersion s) = bareVersion s := by
  apply String.toList_inj.mp
  rw [toList_bareVersion, lowerFrom_eq_self (lower_normalizedVersion s), toList_normalizedVersion, trimWith_onePass,
    toList_bareVersion]

end WorkflowRuns.Config
