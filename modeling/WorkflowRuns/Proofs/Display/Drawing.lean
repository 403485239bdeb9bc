import WorkflowRuns.Display.GraphTree
import WorkflowRuns.Proofs.Binary64.Monotone

/-!
What can be drawn.  Only a duration can fail to be drawn, and it fails from a bound on: where the nearest
number of seconds would be infinite.
-/

namespace WorkflowRuns.Display

section

variable {ε α β γ : Type}

theorem bind_ok_iff {made : Except ε α} {next : α → Except ε β} {b : β} :
    made.bind next = .ok b ↔ ∃ a, made = .ok a ∧ next a = .ok b := by
  cases made <;> simp [Except.bind]

theorem map_ok_iff {made : Except ε α} {change : α → β} {b : β} :
    made.map change = .ok b ↔ ∃ a, made = .ok a ∧ change a = b := by
  cases made <;> simp [Except.map]

theorem mapError_error_iff {ε' : Type} {made : Except ε α} {change : ε → ε'} {e : ε'} :
    made.mapError change = .error e ↔ ∃ fault, made = .error fault ∧ change fault = e := by
  cases made <;> simp [Except.mapError]

theorem mapM_cons_ok (f : α → Except ε β) (x : α) (xs : List α) :
    (x :: xs).mapM f = (f x).bind fun y => (xs.mapM f).map (y :: ·) := by
  rw [List.mapM_cons]
  cases f x with
  | error e => rfl
  | ok y => cases xs.mapM f <;> rfl

theorem mapM_append_ok (f : α → Except ε β) (xs ys : List α) :
    (xs ++ ys).mapM f = (xs.mapM f).bind fun first => (ys.mapM f).map (first ++ ·) := by
  rw [List.mapM_append]
  cases xs.mapM f with
  | error e => rfl
  | ok first => cases ys.mapM f <;> rfl

theorem mapM_concat_ok (f : α → Except ε β) (xs : List α) (x : α) :
    (xs ++ [x]).mapM f = (xs.mapM f).bind fun first => (f x).map (first ++ [·]) := by
  rw [mapM_append_ok, mapM_cons_ok]
  cases xs.mapM f with
  | error e => rfl
  | ok first => cases f x <;> rfl

theorem mapM_map_ok (f : α → Except ε β) (change : β → γ) (xs : List α) :
    (xs.mapM fun x => (f x).map change) = (xs.mapM f).map (List.map change) := by
  induction xs with
  | nil => rfl
  | cons x xs ih =>
      rw [mapM_cons_ok, mapM_cons_ok, ih]
      cases f x with
      | error e => rfl
      | ok y => cases xs.mapM f <;> rfl

theorem mapM_congr_ok {f g : α → Except ε β} {xs : List α} (same : ∀ x ∈ xs, f x = g x) : xs.mapM f = xs.mapM g := by
  induction xs with
  | nil => rfl
  | cons x xs ih =>
      obtain ⟨first, rest⟩ := List.forall_mem_cons.mp same
      rw [mapM_cons_ok, mapM_cons_ok, first, ih rest]

theorem mapM_ok_iff (f : α → Except ε β) (xs : List α) (ys : List β) :
    xs.mapM f = .ok ys ↔ List.Forall₂ (fun x y => f x = .ok y) xs ys := by
  induction xs generalizing ys with
  | nil => cases ys <;> simp [pure, Except.pure]
  | cons x xs ih =>
      rw [mapM_cons_ok]
      cases found : f x with
      | error e => cases ys <;> simp [Except.bind, found]
      | ok y =>
          cases rest : xs.mapM f with
          | error e => cases ys <;> simp [Except.bind, Except.map, found, ← ih, rest]
          | ok others => cases ys <;> simp [Except.bind, Except.map, found, ← ih, rest]

theorem length_mapM_ok {f : α → Except ε β} {xs : List α} {ys : List β} (made : xs.mapM f = .ok ys) :
    ys.length = xs.length := ((mapM_ok_iff f xs ys).mp made).length_eq.symm

theorem mem_mapM_ok {f : α → Except ε β} {xs : List α} {ys : List β} (made : xs.mapM f = .ok ys) (y : β) :
    y ∈ ys ↔ ∃ x ∈ xs, f x = .ok y := by
  have each := (mapM_ok_iff f xs ys).mp made
  clear made
  induction each with
  | nil => simp
  | cons first _ ih => simp [ih, first, eq_comm]

end

section

variable {α β : Type} {made : Except Overflow α}

def Drawn (made : Except Overflow α) : Prop := ∃ a, made = .ok a

theorem drawn_ok (a : α) : Drawn (.ok a) := ⟨a, rfl⟩

theorem not_drawn_iff : ¬ Drawn made ↔ made = .error .duration := by
  rcases made with ⟨⟨⟩⟩ | a <;> simp [Drawn]

theorem drawn_map (change : α → β) : Drawn (made.map change) ↔ Drawn made := by
  cases made <;> simp [Drawn, Except.map]

theorem drawn_bind (next : α → Except Overflow β) :
    Drawn (made.bind next) ↔ ∃ a, made = .ok a ∧ Drawn (next a) := by
  cases made <;> simp [Drawn, Except.bind]

theorem drawn_both {second : α → Except Overflow β} {holds : Prop} (same : ∀ a, Drawn (second a) ↔ holds) :
    Drawn (made.bind second) ↔ Drawn made ∧ holds := by
  rw [drawn_bind]
  exact ⟨fun ⟨a, given, rest⟩ => ⟨⟨a, given⟩, (same a).mp rest⟩,
    fun ⟨⟨a, given⟩, rest⟩ => ⟨a, given, (same a).mpr rest⟩⟩

theorem drawn_then {second : α → Except Overflow β} (always : ∀ a, Drawn (second a)) :
    Drawn (made.bind second) ↔ Drawn made :=
  (drawn_both fun a => iff_true_intro (always a)).trans (and_iff_left trivial)

theorem drawn_mapM (f : α → Except Overflow β) (xs : List α) : Drawn (xs.mapM f) ↔ ∀ x ∈ xs, Drawn (f x) := by
  induction xs with
  | nil => exact iff_of_true (drawn_ok []) (by simp)
  | cons x xs ih =>
      rw [mapM_cons_ok, drawn_both fun y => drawn_map (y :: ·), ih, List.forall_mem_cons]

end

/-- Below this many milliseconds the seconds are a finite number. -/
def Displayable (n : Int) : Prop := (n : ℚ) < 1000 * Binary64.overflowBound

theorem displayable_iff {n : Int} : Displayable n ↔ n < 1000 * (2 ^ 1024 - 2 ^ 970) := by
  have power : (2 : ℚ) ^ (Binary64.greatestExponent - 1) = 2 ^ 970 := zpow_natCast 2 970
  have bound : Binary64.overflowBound = 2 ^ (Binary64.precision + 1 + 970) - 2 ^ 970 := by
    rw [Binary64.overflowBound, power, sub_one_mul, ← pow_add]
  have whole : 1000 * Binary64.overflowBound = ((1000 * (2 ^ 1024 - 2 ^ 970) : Int) : ℚ) := by
    rw [bound, Int.cast_mul, Int.cast_sub, Int.cast_pow, Int.cast_pow, Int.cast_ofNat, Int.cast_ofNat]
    rfl
  rw [Displayable, whole, Int.cast_lt]

instance (n : Int) : Decidable (Displayable n) := decidable_of_iff _ displayable_iff.symm

example : Displayable (10 ^ 311) ∧ ¬ Displayable (10 ^ 312) := by decide +kernel

theorem displayable_of_small {n : Int} (small : n < 1000) : Displayable n := by
  have whole : (n : ℚ) < 1000 := by exact_mod_cast small
  have bound : (1 : ℚ) ≤ Binary64.overflowBound :=
    (one_le_zpow₀ one_le_two (by decide)).trans Binary64.le_overflowBound
  unfold Displayable
  linarith

theorem isFinite_thousandth (n : Nat) (nonzero : 0 < n) :
    (Binary64.roundNat false n 1000).isFinite = true ↔ Displayable n := by
  have bound : Binary64.overflowBound ≤ (n : ℚ) / (1000 : Nat) ↔ ¬ Displayable n := by
    rw [Displayable, not_lt, le_div_iff₀ (by norm_num)]
    push_cast
    rw [mul_comm]
  have infinite := Binary64.roundNat_infinite_iff nonzero (by decide : 0 < 1000)
  rw [bound] at infinite
  rcases Binary64.roundNat_rounded nonzero (by decide : 0 < 1000) with ⟨past, _⟩ | ⟨significand, exponent, within, _⟩
  · rw [past]
    exact iff_of_false nofun (infinite.mp past)
  · rw [within] at infinite ⊢
    exact iff_of_true rfl (by_contra fun never => nomatch infinite.mpr never)

theorem drawn_durationText (n : Int) : Drawn (durationText (.int n)) ↔ Displayable n := by
  by_cases small : n < 1000
  · refine iff_of_true ⟨toString n ++ "ms", ?_⟩ (displayable_of_small small)
    simp [durationText, Quantity.isBelow, Quantity.whole?, small]
  · obtain ⟨m, rfl⟩ := Int.eq_ofNat_of_zero_le (by omega : 0 ≤ n)
    have unsigned : ¬ ((m : Int) < 0) := by omega
    rw [show Displayable ((m : Nat) : Int) ↔ _ from (isFinite_thousandth m (by omega)).symm]
    simp only [durationText, Quantity.isBelow, small, Quantity.thousandth?, unsigned, decide_false,
      Int.natAbs_natCast]
    cases (Binary64.roundNat false m 1000).isFinite <;> simp [Drawn]

theorem drawn_durationCell (duration : Option Int) :
    Drawn (durationCell duration) ↔ ∀ n, duration = some n → Displayable n := by
  cases duration with
  | none => exact iff_of_true (drawn_ok _) nofun
  | some n =>
      rw [durationCell, drawn_durationText]
      simp

/-- How long the node waits and, once it has been executed, how long it took can be shown. -/
@[mk_iff]
structure Drawable (node : Node) : Prop where
  wait : ∀ duration extras, node.params = .wait duration extras → Displayable duration
  execution : node.status ≠ .pending → ∀ n, node.duration = some n → Displayable n

theorem drawn_describeParams (node : Node) :
    Drawn (describeParams node) ↔ ∀ duration extras, node.params = .wait duration extras → Displayable duration := by
  unfold describeParams
  cases node.params with
  | manualStart label extras => exact iff_of_true (drawn_ok _) nofun
  | httpRequest method url extras => exact iff_of_true (drawn_ok _) nofun
  | wait duration extras =>
      simp only [drawn_durationText]
      simp

theorem drawn_nodeLabel (node : Node) : Drawn (nodeLabel node) ↔ Drawable node := by
  rw [drawable_iff, ← drawn_describeParams]
  refine drawn_both fun summary => ?_
  by_cases pending : node.status = .pending
  · simp only [pending, if_true]
    exact iff_of_true (drawn_ok _) (by simp)
  · simp only [pending, if_false]
    cases took : node.duration with
    | none => exact iff_of_true (drawn_ok _) (by simp)
    | some n =>
        have only : (¬ node.status = .pending → ∀ m, some n = some m → Displayable m) ↔ Displayable n := by
          simp [pending]
        rw [only, ← drawn_durationText]
        exact drawn_then fun text => drawn_ok _

end WorkflowRuns.Display
