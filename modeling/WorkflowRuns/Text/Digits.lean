/-!
Decimal digits of the basic Latin block, and the length limit of integer literals.
-/

namespace WorkflowRuns.Text

/-- The most digits that an integer may be written with. -/
def digitLimit : Nat := 4300

def isAsciiDigit (c : Char) : Bool := '0' ≤ c && c ≤ '9'

def natOfDigits (digits : List Char) : Nat :=
  digits.foldl (fun n c => n * 10 + (c.toNat - '0'.toNat)) 0

def digitLimitMessage (count : Nat) : String :=
  "Exceeds the limit (" ++ toString digitLimit ++ " digits) for integer string conversion: value has "
    ++ toString count ++ " digits; use sys.set_int_max_str_digits() to increase the limit"

end WorkflowRuns.Text
