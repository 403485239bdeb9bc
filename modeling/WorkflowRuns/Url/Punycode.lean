/-!
Punycode: the code points of a label that are not ASCII, as ASCII letters and digits.  They are
inserted in ascending order; each is written as the distance from the insertion before it, in
digits of base 36 whose thresholds adapt to the distances seen.
-/

namespace WorkflowRuns.Punycode

def digit (n : Nat) : Char := if n < 26 then .ofNat (97 + n) else .ofNat (22 + n)

def threshold (place bias : Nat) : Nat :=
  if place ≤ bias + 1 then 1 else if bias + 26 ≤ place then 26 else place - bias

theorem threshold_pos (place bias : Nat) : 0 < threshold place bias := by
  unfold threshold
  split
  · decide
  · split <;> omega

def number (bias place n : Nat) : List Char :=
  if n < threshold place bias then [digit n]
  else
    digit (threshold place bias + (n - threshold place bias) % (36 - threshold place bias))
      :: number bias (place + 36) ((n - threshold place bias) / (36 - threshold place bias))
termination_by n
decreasing_by
  have := threshold_pos place bias
  exact Nat.lt_of_le_of_lt (Nat.div_le_self _ _) (by omega)

def reduce (delta steps : Nat) : Nat :=
  if 455 < delta then reduce (delta / 35) (steps + 36) else steps + 36 * delta / (delta + 38)
termination_by delta
decreasing_by exact Nat.div_lt_self (by omega) (by decide)

def adapt (delta points : Nat) (first : Bool) : Nat :=
  let delta := if first then delta / 700 else delta / 2
  reduce (delta + delta / points) 0

structure State where
  output : List Char
  delta : Nat
  bias : Nat
  handled : Nat

/-- Passes one character of the label: lesser ones count, equal ones are inserted. -/
def pass (basic code : Nat) (s : State) (c : Char) : State :=
  if c.toNat < code then { s with delta := s.delta + 1 }
  else if c.toNat = code then
    ⟨s.output ++ number s.bias 36 s.delta, 0, adapt s.delta (s.handled + 1) (s.handled = basic), s.handled + 1⟩
  else s

def insertAll (label : List Char) (basic : Nat) : List Nat → Nat → State → State
  | [], _, s => s
  | code :: codes, next, s =>
      let s := { s with delta := s.delta + (code - next) * (s.handled + 1) }
      let s := label.foldl (pass basic code) s
      insertAll label basic codes (code + 1) { s with delta := s.delta + 1 }

def encode (label : List Char) : List Char :=
  let basic := label.filter (·.toNat < 128)
  let codes := ((label.filter (128 ≤ ·.toNat)).map Char.toNat).mergeSort.eraseDups
  let output := if basic.isEmpty then [] else basic ++ ['-']
  (insertAll label basic.length codes 128 ⟨output, 0, 72, basic.length⟩).output

end WorkflowRuns.Punycode
