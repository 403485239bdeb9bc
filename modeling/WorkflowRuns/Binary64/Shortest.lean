import WorkflowRuns.Binary64

/-!
The decimal text of a binary64 number: the fewest digits that read back as the number, of those the
nearest, of two as near the even one.  Decimal exponents from -4 to 15 are written positionally.
-/

namespace WorkflowRuns.Binary64

/-- The decimal grid `10 ^ exponent` around a quotient: the grid point below it. -/
def gridBelow (numerator denominator : Nat) : Int → Nat
  | .ofNat up => numerator / (denominator * Nat.pow 10 up)
  | .negSucc down => numerator * Nat.pow 10 (down + 1) / denominator

def upperHalf (numerator denominator : Nat) (exponent : Int) : Bool :=
  let (n, d) := match exponent with
    | .ofNat up => (numerator, denominator * Nat.pow 10 up)
    | .negSucc down => (numerator * Nat.pow 10 (down + 1), denominator)
  d < 2 * (n % d) || (d = 2 * (n % d) && n / d % 2 = 1)

def leadingExponent (numerator denominator : Nat) : Int :=
  let whole := numerator / denominator
  if 0 < whole then (Nat.toDigits 10 whole).length - 1
  else
    let estimate : Int := -((Nat.toDigits 10 (denominator / numerator)).length : Int)
    if gridBelow numerator denominator estimate = 0 then estimate - 1
    else if 10 ≤ gridBelow numerator denominator estimate then estimate + 1 else estimate

/-- Searches the grids from coarse to fine for one with a point that reads back as the number. -/
def searchDigits (significand : Nat) (exponent : Int) (numerator denominator : Nat) (leading : Int) :
    Nat → Nat → Nat × Int
  | 0, count => (gridBelow numerator denominator (leading - count), leading - count)
  | fuel + 1, count =>
      let grid := leading - count
      let below := gridBelow numerator denominator grid
      let readsBack (digits : Nat) : Bool :=
        ofDecimal false digits grid == .finite false significand exponent
      let nearer := if upperHalf numerator denominator grid then below + 1 else below
      let farther := if upperHalf numerator denominator grid then below else below + 1
      if readsBack nearer then (nearer, grid)
      else if readsBack farther then (farther, grid)
      else searchDigits significand exponent numerator denominator leading fuel (count + 1)

/-- The shortest digits `(d, e)` with `d · 10 ^ e` reading back as a positive finite number. -/
def shortestDigits (significand : Nat) (exponent : Int) : Nat × Int :=
  let q := magnitude significand exponent
  let numerator := q.num.natAbs
  searchDigits significand exponent numerator q.den (leadingExponent numerator q.den) 17 0

def stripZeros : Nat → Nat → Int → Nat × Int
  | 0, digits, exponent => (digits, exponent)
  | fuel + 1, digits, exponent =>
      if digits % 10 = 0 ∧ digits ≠ 0 then stripZeros fuel (digits / 10) (exponent + 1)
      else (digits, exponent)

def positional (digits : List Char) (point : Int) : String :=
  if point ≤ 0 then
    "0." ++ String.ofList (List.replicate point.natAbs '0' ++ digits)
  else
    let count := point.toNat
    let whole := digits.take count ++ List.replicate (count - digits.length) '0'
    let fraction := digits.drop count
    String.ofList whole ++ "." ++ (if fraction.isEmpty then "0" else String.ofList fraction)

def scientific (digits : List Char) (exponent : Int) : String :=
  let mark := if exponent < 0 then "e-" else "e+"
  let size := toString exponent.natAbs
  let size := if size.length < 2 then "0" ++ size else size
  match digits with
  | [] => "0"
  | [d] => String.singleton d ++ mark ++ size
  | d :: rest => String.ofList (d :: '.' :: rest) ++ mark ++ size

def magnitudeText (significand : Nat) (exponent : Int) : String :=
  if significand = 0 then "0.0"
  else
    let (digits, scale) := shortestDigits significand exponent
    let (digits, scale) := stripZeros 20 digits scale
    let digits := Nat.toDigits 10 digits
    let leading : Int := scale + digits.length - 1
    if -4 ≤ leading ∧ leading < 16 then positional digits (leading + 1) else scientific digits leading

def text : Binary64 → String
  | .finite negative significand exponent =>
      (if negative then "-" else "") ++ magnitudeText significand exponent
  | .infinite negative => if negative then "-inf" else "inf"
  | .nan => "nan"

def twoPlaces (x : Binary64) : String :=
  match x.value? with
  | some q =>
      let hundredths := roundQuotient (q.num.natAbs * 100) q.den
      let fraction := toString (hundredths % 100)
      let fraction := if fraction.length < 2 then "0" ++ fraction else fraction
      (if x.isNegative then "-" else "") ++ toString (hundredths / 100) ++ "." ++ fraction
  | none => x.text

end WorkflowRuns.Binary64
