/-!
Binary64 numbers as exact dyadic values.  Every operation is the exact rational result rounded
once, to nearest with ties to even, so that laws about them reduce to laws about `round`.
-/

namespace WorkflowRuns

/-- A finite number is `± significand · 2 ^ exponent`, with `significand < 2 ^ 53` and the
smallest exponent not below `-1074` that allows it. -/
inductive Binary64
  | finite (negative : Bool) (significand : Nat) (exponent : Int)
  | infinite (negative : Bool)
  | nan
  deriving DecidableEq, Repr, Inhabited

namespace Binary64

def precision : Nat := 53
def leastExponent : Int := -1074
def greatestExponent : Int := 971

def zero : Binary64 := .finite false 0 leastExponent

def magnitude (significand : Nat) (exponent : Int) : Rat :=
  match exponent with
  | .ofNat up => (significand * Nat.pow 2 up : Nat)
  | .negSucc down => mkRat significand (Nat.pow 2 (down + 1))

def value? : Binary64 → Option Rat
  | .finite negative significand exponent =>
      some (if negative then -magnitude significand exponent else magnitude significand exponent)
  | _ => none

def isFinite (x : Binary64) : Bool := x.value?.isSome

def isNegative : Binary64 → Bool
  | .finite negative .. => negative
  | .infinite negative => negative
  | .nan => false

/-- The nearest integer to a quotient; a half goes to the even neighbour. -/
def roundQuotient (numerator denominator : Nat) : Nat :=
  let quotient := numerator / denominator
  let remainder := numerator % denominator
  if 2 * remainder < denominator then quotient
  else if denominator < 2 * remainder then quotient + 1
  else quotient + quotient % 2

def rescale (numerator denominator : Nat) : Int → Nat × Nat
  | .ofNat up => (numerator, denominator * Nat.pow 2 up)
  | .negSucc down => (numerator * Nat.pow 2 (down + 1), denominator)

/-- The exponent of the binade that holds a positive quotient: `2 ^ b ≤ q < 2 ^ (b + 1)`. -/
def binade (numerator denominator : Nat) : Int :=
  let estimate : Int := (numerator.log2 : Int) - denominator.log2
  let (n, d) := rescale numerator denominator estimate
  if n < d then estimate - 1 else estimate

def roundNat (negative : Bool) (numerator denominator : Nat) : Binary64 :=
  if numerator = 0 then .finite negative 0 leastExponent
  else
    let exponent := max leastExponent (binade numerator denominator - (precision - 1))
    let (n, d) := rescale numerator denominator exponent
    let significand := roundQuotient n d
    let (significand, exponent) :=
      if significand = Nat.pow 2 precision then (Nat.pow 2 (precision - 1), exponent + 1) else (significand, exponent)
    if greatestExponent < exponent then .infinite negative else .finite negative significand exponent

def round (q : Rat) : Binary64 := roundNat (decide (q < 0)) q.num.natAbs q.den

def ofInt (n : Int) : Binary64 := roundNat (decide (n < 0)) n.natAbs 1

/-- The number nearest to `± digits · 10 ^ exponent`.  Magnitudes that cannot be finite, or that
cannot differ from zero, are settled by the decimal exponent alone. -/
def ofDecimal (negative : Bool) (digits : Nat) (exponent : Int) : Binary64 :=
  if digits = 0 then .finite negative 0 leastExponent
  else
    let size : Int := (Nat.toDigits 10 digits).length + exponent
    if 400 < size then .infinite negative
    else if size < -400 then .finite negative 0 leastExponent
    else match exponent with
      | .ofNat up => roundNat negative (digits * Nat.pow 10 up) 1
      | .negSucc down => roundNat negative digits (Nat.pow 10 (down + 1))

def lt : Binary64 → Binary64 → Bool
  | .nan, _ => false
  | _, .nan => false
  | .infinite true, y => y != .infinite true
  | .infinite false, _ => false
  | _, .infinite negative => !negative
  | .finite n m e, .finite n' m' e' =>
      match value? (.finite n m e), value? (.finite n' m' e') with
      | some a, some b => a < b
      | _, _ => false

def le (x y : Binary64) : Bool :=
  match x, y with
  | .nan, _ => false
  | _, .nan => false
  | _, _ => !lt y x

def neg : Binary64 → Binary64
  | .finite negative m e => .finite (!negative) m e
  | .infinite negative => .infinite (!negative)
  | .nan => .nan

def isZero : Binary64 → Bool
  | .finite _ significand _ => significand = 0
  | _ => false

def mul (x y : Binary64) : Binary64 :=
  match x, y with
  | .nan, _ => .nan
  | _, .nan => .nan
  | .infinite s, y => if y.isZero then .nan else .infinite (s != y.isNegative)
  | x, .infinite s => if x.isZero then .nan else .infinite (x.isNegative != s)
  | .finite s m e, .finite s' m' e' =>
      match e + e' with
      | .ofNat up => roundNat (s != s') (m * m' * Nat.pow 2 up) 1
      | .negSucc down => roundNat (s != s') (m * m') (Nat.pow 2 (down + 1))

/-- A sum of zero is positive unless both numbers are negative. -/
def add (x y : Binary64) : Binary64 :=
  match x, y with
  | .nan, _ => .nan
  | _, .nan => .nan
  | .infinite s, .infinite s' => if s = s' then .infinite s else .nan
  | .infinite s, _ => .infinite s
  | _, .infinite s => .infinite s
  | .finite s m e, .finite s' m' e' =>
      match value? (.finite s m e), value? (.finite s' m' e') with
      | some a, some b => if a + b = 0 then .finite (s && s') 0 leastExponent else round (a + b)
      | _, _ => .nan

def divNat (x : Binary64) (divisor : Nat) : Binary64 :=
  match x with
  | .finite negative m e =>
      match e with
      | .ofNat up => roundNat negative (m * Nat.pow 2 up) divisor
      | .negSucc down => roundNat negative m (Nat.pow 2 (down + 1) * divisor)
  | other => other

/-- A base `1 + f` doubles at least once in `⌈1 / f⌉` factors, so this many factors overflow. -/
def overflowingPower (significand : Nat) (exponent : Int) : Nat :=
  let base := magnitude significand exponent
  if base ≤ 1 then 0 else 1024 * (1 / (base - 1)).ceil.toNat

def reduceTwos : Nat → Nat → Int → Nat × Int
  | 0, m, e => (m, e)
  | fuel + 1, m, e => if m % 2 = 0 ∧ m ≠ 0 then reduceTwos fuel (m / 2) (e + 1) else (m, e)

/-- A natural power of a number that is at least one: the exact power, rounded once.  A mathematical
library may be off in the last place. -/
def pow (x : Binary64) (n : Nat) : Binary64 :=
  match x with
  | .finite negative significand exponent =>
      let (m, e) := reduceTwos precision significand exponent
      if m = 1 ∧ e = 0 then .finite false (Nat.pow 2 (precision - 1)) (1 - precision)
      else if overflowingPower m e ≤ n then .infinite false
      else match e * n with
        | .ofNat up => roundNat (negative && n % 2 = 1) (Nat.pow m n * Nat.pow 2 up) 1
        | .negSucc down => roundNat (negative && n % 2 = 1) (Nat.pow m n) (Nat.pow 2 (down + 1))
  | .infinite negative => .infinite (negative && n % 2 = 1)
  | .nan => .nan

def truncate? : Binary64 → Option Int
  | .finite negative significand exponent =>
      let whole : Nat := match exponent with
        | .ofNat up => significand * Nat.pow 2 up
        | .negSucc down => significand / Nat.pow 2 (down + 1)
      some (if negative then -(whole : Int) else whole)
  | _ => none

def isWhole (x : Binary64) : Bool :=
  match x.value? with
  | some q => q.den = 1
  | none => false

end Binary64

end WorkflowRuns
