import WorkflowRuns.Proofs.Text.Trimming
import WorkflowRuns.Text.Case

/-!
Lower case is final: no character of a text in lower case is changed again, and none becomes a blank or a slash
or stops being one.  Blanks and slashes around a text are out of sight of the sigma that ends a word.
-/

namespace WorkflowRuns.Text

theorem CaseRange.contains_iff {range : CaseRange} {n : Nat} : range.contains n = true ↔
    range.first ≤ n ∧ n ≤ range.last ∧ (n - range.first) % range.stride = 0 := by
  simp only [contains, Bool.and_eq_true, decide_eq_true_eq, and_assoc]

def CaseRange.misses (source target : CaseRange) : Bool :=
  let stride := if source.first = source.last then 0 else source.stride
  (source.last + source.offset).toNat.blt target.first || target.last.blt (source.first + source.offset).toNat
    || (source.first + source.offset - target.first) % (stride.gcd target.stride : Nat) ≠ 0

theorem CaseRange.not_contains_image {source target : CaseRange} (misses : source.misses target = true) {n m : Nat}
    (inside : source.contains n = true) (image : (m : Int) = n + source.offset) : target.contains m = false := by
  obtain ⟨above, below, step⟩ := contains_iff.mp inside
  rw [Bool.eq_false_iff]
  intro reached
  obtain ⟨low, high, place⟩ := contains_iff.mp reached
  simp only [CaseRange.misses, Bool.or_eq_true, Nat.blt_eq, decide_eq_true_eq] at misses
  rcases misses with (before | after) | between
  · omega
  · omega
  · apply between
    -- The common divisor divides the distance of both code points from the first of their range.
    have strides : (if source.first = source.last then 0 else source.stride) ∣ n - source.first := by
      split
      next single =>
        have only : n - source.first = 0 := by omega
        exact Nat.zero_dvd.mpr only
      next => exact Nat.dvd_of_mod_eq_zero step
    have distance : (source.first : Int) + source.offset - target.first =
        ((m - target.first : Nat) : Int) - ((n - source.first : Nat) : Int) := by
      omega
    rw [distance]
    apply Int.emod_eq_zero_of_dvd
    apply Int.dvd_sub
    · exact Int.natCast_dvd_natCast.mpr (Nat.dvd_trans (Nat.gcd_dvd_right _ _) (Nat.dvd_of_mod_eq_zero place))
    · exact Int.natCast_dvd_natCast.mpr (Nat.dvd_trans (Nat.gcd_dvd_left _ _) strides)

def capitalRanges : List CaseRange := ⟨0x41, 0x5a, 1, 32⟩ :: ⟨0x130, 0x130, 1, -199⟩ :: lowerRanges

def isCapital (c : Char) : Bool := capitalRanges.any (·.contains c.toNat)

def marginRanges : List CaseRange :=
  [⟨0x9, 0xd, 1, 0⟩, ⟨0x1c, 0x20, 1, 0⟩, ⟨0x2f, 0x2f, 1, 0⟩, ⟨0x85, 0x85, 1, 0⟩, ⟨0xa0, 0xa0, 1, 0⟩,
    ⟨0x1680, 0x1680, 1, 0⟩, ⟨0x2000, 0x200a, 1, 0⟩, ⟨0x2028, 0x2029, 1, 0⟩, ⟨0x202f, 0x202f, 1, 0⟩,
    ⟨0x205f, 0x205f, 1, 0⟩, ⟨0x3000, 0x3000, 1, 0⟩]

def isMargin (c : Char) : Bool := isBlank c || c = '/'

theorem isMargin_iff {c : Char} : isMargin c = true ↔ ∃ range ∈ marginRanges, range.contains c.toNat = true := by
  have slash : c = '/' ↔ c.toNat = 0x2f := Char.toNat_inj.symm
  simp only [isMargin, isBlank, isWhiteSpace, Bool.or_eq_true, Bool.and_eq_true, decide_eq_true_eq, slash,
    marginRanges, List.exists_mem_cons_iff, List.not_mem_nil, false_and, exists_false, or_false,
    CaseRange.contains_iff, Nat.mod_one, and_true]
  omega

theorem isCapital_iff {c : Char} : isCapital c = true ↔ ∃ range ∈ capitalRanges, range.contains c.toNat = true :=
  List.any_eq_true

theorem capitals_miss_capitals : (capitalRanges.all fun source => capitalRanges.all source.misses) = true := by
  decide +kernel

theorem capitals_miss_margins : (capitalRanges.all fun source => marginRanges.all source.misses) = true := by
  decide +kernel

theorem margins_miss_capitals : (marginRanges.all fun source => capitalRanges.all source.misses) = true := by
  decide +kernel

/-- What stands for a character in lower case. -/
structure Lowered (c : Char) (mapped : List Char) : Prop where
  nonempty : mapped ≠ []
  kept : isCapital c = false → mapped = [c]
  small : ∀ d ∈ mapped, isCapital d = false
  inner : isCapital c = true → ∀ d ∈ mapped, isMargin d = false

theorem lowered_self {c : Char} (small : isCapital c = false) : Lowered c [c] where
  nonempty := List.cons_ne_nil _ _
  kept _ := rfl
  small _ member := List.mem_singleton.mp member ▸ small
  inner capital := by
    rw [small] at capital
    cases capital

theorem toNat_ofNat_or (n : Nat) : (Char.ofNat n).toNat = n ∨ (Char.ofNat n).toNat = 0 := by
  by_cases valid : n.isValidChar
  · left
    rw [Char.ofNat, dif_pos valid]
    rfl
  · right
    rw [Char.ofNat, dif_neg valid]
    rfl

theorem not_contains_ofNat {source : CaseRange} {targets : List CaseRange} (misses : targets.all source.misses = true)
    (zero : (targets.any (·.contains 0)) = false) {n : Nat} (inside : source.contains n = true) :
    (targets.any (·.contains (Char.ofNat (n + source.offset).toNat).toNat)) = false := by
  have none : (Char.ofNat (n + source.offset).toNat).toNat = 0 ∨
      ((Char.ofNat (n + source.offset).toNat).toNat : Int) = n + source.offset := by
    rcases toNat_ofNat_or (n + source.offset).toNat with image | zero <;> omega
  rcases none with none | image
  · rw [none]
    exact zero
  · rw [List.any_eq_false]
    intro target member
    rw [Bool.not_eq_true]
    exact CaseRange.not_contains_image (List.all_eq_true.mp misses target member) inside image

theorem isMargin_eq_any (c : Char) : isMargin c = marginRanges.any (·.contains c.toNat) := by
  rw [Bool.eq_iff_iff, isMargin_iff, List.any_eq_true]

theorem lowered_of_range {range : CaseRange} {c : Char} (member : range ∈ capitalRanges)
    (inside : range.contains c.toNat = true) : Lowered c [Char.ofNat (c.toNat + range.offset).toNat] := by
  have capitals := List.all_eq_true.mp capitals_miss_capitals range member
  have margins := List.all_eq_true.mp capitals_miss_margins range member
  constructor
  case nonempty => exact List.cons_ne_nil _ _
  case kept =>
    intro small
    have capital : isCapital c = true := isCapital_iff.mpr ⟨range, member, inside⟩
    rw [small] at capital
    cases capital
  case small =>
    intro d only
    rw [List.mem_singleton.mp only]
    exact not_contains_ofNat capitals (by decide +kernel) inside
  case inner =>
    intro _ d only
    rw [List.mem_singleton.mp only, isMargin_eq_any]
    exact not_contains_ofNat margins (by decide +kernel) inside

theorem not_capital_of_lowerRanges {c : Char} (latin : ¬ (0x41 ≤ c.toNat ∧ c.toNat ≤ 0x5a)) (dotted : c.toNat ≠ 0x130)
    (none : ∀ range ∈ lowerRanges, range.contains c.toNat = false) : isCapital c = false := by
  have first : CaseRange.contains ⟨0x41, 0x5a, 1, 32⟩ c.toNat = false := by
    rw [Bool.eq_false_iff, ne_eq, CaseRange.contains_iff]
    exact fun inside => latin ⟨inside.1, inside.2.1⟩
  have second : CaseRange.contains ⟨0x130, 0x130, 1, -199⟩ c.toNat = false := by
    rw [Bool.eq_false_iff, ne_eq, CaseRange.contains_iff]
    rintro ⟨above, below, _⟩
    exact dotted (Nat.le_antisymm below above)
  have others : (lowerRanges.any (·.contains c.toNat)) = false := by
    rw [List.any_eq_false]
    exact fun range member => Bool.eq_false_iff.mp (none range member)
  rw [isCapital, capitalRanges, List.any_cons, List.any_cons, first, second, others]
  rfl

theorem lowerRanges_beyond_ascii : (lowerRanges.all fun range => Nat.ble 0x80 range.first) = true := by
  decide +kernel

theorem lowered_ascii {c : Char} (ascii : c.toNat < 0x80) : Lowered c [lowerAscii c] := by
  have low : 'A' ≤ c ↔ 0x41 ≤ c.toNat := Iff.rfl
  have high : c ≤ 'Z' ↔ c.toNat ≤ 0x5a := Iff.rfl
  unfold lowerAscii
  simp only [Bool.and_eq_true, decide_eq_true_eq, low, high]
  split
  next latin =>
    have inside : CaseRange.contains ⟨0x41, 0x5a, 1, 32⟩ c.toNat = true :=
      CaseRange.contains_iff.mpr ⟨latin.1, latin.2, Nat.mod_one _⟩
    exact lowered_of_range List.mem_cons_self inside
  next other =>
    apply lowered_self
    apply not_capital_of_lowerRanges other (by omega)
    intro range member
    have beyond := Nat.le_of_ble_eq_true (List.all_eq_true.mp lowerRanges_beyond_ascii range member)
    rw [Bool.eq_false_iff, ne_eq, CaseRange.contains_iff]
    omega

theorem lowered_mapThrough {c : Char} (beyond : 0x80 ≤ c.toNat) (dotted : c.toNat ≠ 0x130) :
    Lowered c [mapThrough lowerRanges c] := by
  unfold mapThrough
  split
  next range found =>
    have member : range ∈ capitalRanges := by
      iterate 2 apply List.mem_cons_of_mem
      exact List.mem_of_find?_eq_some found
    have inside := List.find?_some found
    exact lowered_of_range member inside
  next none =>
    apply lowered_self
    apply not_capital_of_lowerRanges (by omega) dotted
    exact fun range member => Bool.eq_false_iff.mpr (List.find?_eq_none.mp none range member)

theorem lowered_dotted : Lowered '\u0130' ['i', '\u0307'] where
  nonempty := List.cons_ne_nil _ _
  kept := by decide +kernel
  small := by
    rw [List.forall_mem_cons, List.forall_mem_singleton]
    decide +kernel
  inner _ := by
    rw [List.forall_mem_cons, List.forall_mem_singleton]
    decide +kernel

theorem lowered_sigma (final : Bool) : Lowered '\u03a3' [if final then '\u03c2' else '\u03c3'] where
  nonempty := List.cons_ne_nil _ _
  kept := by cases final <;> decide +kernel
  small := by
    rw [List.forall_mem_singleton]
    cases final <;> decide +kernel
  inner _ := by
    rw [List.forall_mem_singleton]
    cases final <;> decide +kernel

theorem exists_lowered (before : List Char) (c : Char) (rest : List Char) :
    ∃ mapped, Lowered c mapped ∧ lowerFrom before (c :: rest) = mapped ++ lowerFrom (c :: before) rest := by
  refine ⟨_, ?_, lowerFrom.eq_2 before c rest⟩
  split
  next ascii => exact lowered_ascii ascii
  next beyond =>
    split
    next dotted =>
      rw [dotted]
      exact lowered_dotted
    next other =>
      split
      next sigma =>
        rw [sigma]
        exact lowered_sigma _
      next => exact lowered_mapThrough (Nat.le_of_not_lt beyond) fun same => other (Char.toNat_inj.mp same)

theorem lowerFrom_of_small {text : List Char} (small : ∀ c ∈ text, isCapital c = false) (before : List Char) :
    lowerFrom before text = text := by
  induction text generalizing before with
  | nil => rfl
  | cons c rest ih =>
      obtain ⟨head, tail⟩ := List.forall_mem_cons.mp small
      obtain ⟨mapped, lowered, whole⟩ := exists_lowered before c rest
      rw [whole, lowered.kept head, ih tail]
      rfl

theorem small_lowerFrom (before text : List Char) : ∀ c ∈ lowerFrom before text, isCapital c = false := by
  induction text generalizing before with
  | nil => nofun
  | cons c rest ih =>
      obtain ⟨mapped, lowered, whole⟩ := exists_lowered before c rest
      rw [whole, List.forall_mem_append]
      exact ⟨lowered.small, ih (c :: before)⟩

theorem lowerFrom_cons_ne_nil (before : List Char) (c : Char) (rest : List Char) : lowerFrom before (c :: rest) ≠ [] := by
  obtain ⟨mapped, lowered, whole⟩ := exists_lowered before c rest
  rw [whole]
  exact fun empty => lowered.nonempty (List.append_eq_nil_iff.mp empty).1

section

variable {drop : Char → Bool} (margin : ∀ c, drop c = true → isMargin c = true)

include margin

theorem Lowered.outside {c : Char} {mapped : List Char} (lowered : Lowered c mapped) (outside : drop c = false) :
    ∀ d ∈ mapped, drop d = false := by
  intro d member
  cases capital : isCapital c with
  | true =>
      rw [Bool.eq_false_iff]
      intro inside
      have inner := lowered.inner capital d member
      rw [margin d inside] at inner
      cases inner
  | false =>
      rw [lowered.kept capital, List.mem_singleton] at member
      rw [member]
      exact outside

theorem Trimmed.lowerFrom {text : List Char} (trimmed : Trimmed drop text) (before : List Char) :
    Trimmed drop (lowerFrom before text) := by
  constructor
  case first =>
    cases text with
    | nil => nofun
    | cons c rest =>
        obtain ⟨mapped, lowered, whole⟩ := exists_lowered before c rest
        obtain ⟨d, others, front⟩ := List.exists_cons_of_ne_nil lowered.nonempty
        rw [whole, front]
        intro e first
        cases first
        apply lowered.outside margin (trimmed.first c rfl)
        rw [front]
        exact List.mem_cons_self
  case last =>
    have last := trimmed.last
    clear trimmed
    induction text generalizing before with
    | nil => nofun
    | cons c rest ih =>
        obtain ⟨mapped, lowered, whole⟩ := exists_lowered before c rest
        rw [whole]
        cases rest with
        | nil =>
            rw [Text.lowerFrom, List.append_nil]
            exact fun e member => lowered.outside margin (last c rfl) e (List.mem_of_getLast? member)
        | cons d others =>
            rw [List.getLast?_append_of_ne_nil _ (lowerFrom_cons_ne_nil (c :: before) d others)]
            exact ih (c :: before) last

end

theorem margins_neither_cased_nor_skipped :
    (marginRanges.all fun range => (List.range' range.first (range.last + 1 - range.first)).all fun n =>
      !within casedChanges n && !within skippedChanges n) = true := by
  decide +kernel

theorem unseen_of_margin {c : Char} (margin : isMargin c = true) : isCased c = false ∧ isSkipped c = false := by
  obtain ⟨range, member, inside⟩ := isMargin_iff.mp margin
  obtain ⟨above, below, _⟩ := CaseRange.contains_iff.mp inside
  have place : c.toNat ∈ List.range' range.first (range.last + 1 - range.first) :=
    List.mem_range'_1.mpr ⟨above, by omega⟩
  have unseen := List.all_eq_true.mp (List.all_eq_true.mp margins_neither_cased_nor_skipped range member) _ place
  simpa [isCased, isSkipped] using unseen

theorem small_of_margin {c : Char} (margin : isMargin c = true) : isCapital c = false := by
  obtain ⟨range, member, inside⟩ := isMargin_iff.mp margin
  have none : ∀ range ∈ marginRanges, range.offset = 0 := by decide
  have misses := List.all_eq_true.mp margins_miss_capitals range member
  rw [isCapital, List.any_eq_false]
  intro target capital
  rw [Bool.not_eq_true]
  apply CaseRange.not_contains_image (List.all_eq_true.mp misses target capital) inside
  rw [none range member, Int.add_zero]

section

variable {outer : List Char} (margins : ∀ c ∈ outer, isMargin c = true)

include margins

theorem firstCased_append (text : List Char) : ((text ++ outer).dropWhile isSkipped).head?.any isCased =
    (text.dropWhile isSkipped).head?.any isCased := by
  induction text with
  | nil =>
      cases outer with
      | nil => rfl
      | cons c others =>
          obtain ⟨uncased, stays⟩ := unseen_of_margin (margins c List.mem_cons_self)
          rw [List.nil_append, List.dropWhile_cons_of_neg (Bool.eq_false_iff.mp stays)]
          exact uncased
  | cons c rest ih =>
      cases skipped : isSkipped c with
      | true => rw [List.cons_append, List.dropWhile_cons_of_pos skipped, List.dropWhile_cons_of_pos skipped, ih]
      | false =>
          have stays := Bool.eq_false_iff.mp skipped
          rw [List.cons_append, List.dropWhile_cons_of_neg stays, List.dropWhile_cons_of_neg stays]
          rfl

theorem endsWord_append_before (before rest : List Char) : endsWord (before ++ outer) rest = endsWord before rest := by
  rw [endsWord, firstCased_append margins, endsWord]

theorem endsWord_append_after (before rest : List Char) : endsWord before (rest ++ outer) = endsWord before rest := by
  rw [endsWord, firstCased_append margins, endsWord]

theorem lowerFrom_append_before (before text : List Char) : lowerFrom (before ++ outer) text = lowerFrom before text := by
  induction text generalizing before with
  | nil => rfl
  | cons c rest ih =>
      have next := ih (c :: before)
      rw [List.cons_append] at next
      simp only [lowerFrom, endsWord_append_before margins, next]

theorem lowerFrom_append_after (before text : List Char) :
    lowerFrom before (text ++ outer) = lowerFrom before text ++ outer := by
  induction text generalizing before with
  | nil => exact lowerFrom_of_small (fun c member => small_of_margin (margins c member)) before
  | cons c rest ih =>
      simp only [List.cons_append, lowerFrom, endsWord_append_after margins, ih, List.append_assoc]

theorem lowerFrom_prepend (before text : List Char) :
    lowerFrom before (outer ++ text) = outer ++ lowerFrom (outer.reverse ++ before) text := by
  induction outer generalizing before with
  | nil => rfl
  | cons c others ih =>
      obtain ⟨head, tail⟩ := List.forall_mem_cons.mp margins
      obtain ⟨mapped, lowered, whole⟩ := exists_lowered before c (others ++ text)
      rw [List.cons_append, whole, lowered.kept (small_of_margin head), ih tail, List.reverse_cons, List.append_assoc]
      rfl

end

theorem lowerFrom_trimWith {drop : Char → Bool} (margin : ∀ c, drop c = true → isMargin c = true) (text : List Char) :
    lowerFrom [] (trimWith drop text) = trimWith drop (lowerFrom [] text) := by
  obtain ⟨before, after, whole, front, back⟩ := exists_dropped drop text
  have outside : ∀ c ∈ before.reverse, isMargin c = true := fun c member =>
    margin c (front c (List.mem_reverse.mp member))
  have lowered : lowerFrom [] text = before ++ lowerFrom [] (trimWith drop text) ++ after := by
    conv_lhs => rw [whole]
    rw [lowerFrom_append_after fun c member => margin c (back c member),
      lowerFrom_prepend fun c member => margin c (front c member), List.append_nil,
      ← List.nil_append before.reverse, lowerFrom_append_before outside]
  rw [lowered, trimWith_append front back]
  exact (trimWith_of_trimmed ((trimmed_trimWith drop text).lowerFrom margin [])).symm

end WorkflowRuns.Text
