import WorkflowRuns.Binary64.Shortest
import WorkflowRuns.Value

/-!
Durations and times of day as text.
-/

namespace WorkflowRuns.Display

/-- Nothing can be shown of a duration that no number of seconds comes near. -/
inductive Overflow
  | duration
  deriving DecidableEq, Repr

inductive Quantity
  | int (n : Int)
  | float (x : Binary64)
  deriving DecidableEq, Repr

namespace Quantity

def ofValue? : Value → Option Quantity
  | .bool b => some (.int (if b then 1 else 0))
  | .int n => some (.int n)
  | .float x => some (.float x)
  | _ => none

def isZero : Quantity → Bool
  | .int n => n = 0
  | .float x => x.isZero

def isBelow (bound : Int) : Quantity → Bool
  | .int n => n < bound
  | .float x => x.lt (.ofInt bound)

def whole? : Quantity → Option Int
  | .int n => some n
  | .float x => x.truncate?

def thousandth? : Quantity → Option Binary64
  | .int n =>
      let x := Binary64.roundNat (n < 0) n.natAbs 1000
      if x.isFinite then some x else none
  | .float x => some (x.divNat 1000)

end Quantity

/-- Milliseconds below a second, else seconds with two places.  An integer is spelled in full, which it
can be if it has at most `Text.digitLimit` digits; documents hold no other. -/
def durationText (q : Quantity) : Except Overflow String :=
  let text? :=
    if q.isBelow 1000 then q.whole?.map fun n => toString n ++ "ms"
    else q.thousandth?.map fun x => x.twoPlaces ++ "s"
  match text? with
  | some text => .ok text
  | none => .error .duration

def durationCell : Option Int → Except Overflow String
  | some n => durationText (.int n)
  | none => .ok "-"

/-- The integer nearest to a rational, a half going to the even neighbour. -/
def nearest (q : Rat) : Int :=
  let size : Int := Binary64.roundQuotient q.num.natAbs q.den
  if q < 0 then -size else size

def microsecondsPerSecond : Int := 1000000

/-- The second that a time falls in, once it is rounded to microseconds. -/
def second? : Quantity → Option Int
  | .int n => some n
  | .float x =>
      match x.value?, x.truncate? with
      | some q, some whole =>
          let scaled := Binary64.round ((q - whole) * microsecondsPerSecond)
          let micros := nearest (scaled.value?.getD 0)
          some (if microsecondsPerSecond ≤ micros then whole + 1 else if micros < 0 then whole - 1 else whole)
      | _, _ => none

/-- The first second of the second day of year 1, and the first second after year 9999. -/
def firstSecond : Int := -62135510400
def pastSecond : Int := 253402300800

def twoDigits (n : Int) : String :=
  let s := toString n
  if s.length < 2 then "0" ++ s else s

/-- The time of day of a time in seconds; none for zero and out of range. -/
def timeText (q : Quantity) : String :=
  match second? q with
  | some s =>
      if q.isZero ∨ s < firstSecond ∨ pastSecond ≤ s then "N/A"
      else
        let clock := s % 86400
        twoDigits (clock / 3600) ++ ":" ++ twoDigits (clock / 60 % 60) ++ ":" ++ twoDigits (clock % 60)
  | none => "N/A"

def timeCell : Option Int → String
  | some n => timeText (.int n)
  | none => "N/A"

end WorkflowRuns.Display
