import WorkflowRuns.Binary64
import WorkflowRuns.Text.Digits

/-!
Numbers written in decimal digits, with a point and an exponent, or as a word.
-/

namespace WorkflowRuns.Text

def signed : List Char → Bool × List Char
  | '+' :: rest => (false, rest)
  | '-' :: rest => (true, rest)
  | rest => (false, rest)

def exponentOfText : List Char → Option Int
  | [] => some 0
  | c :: rest =>
      if c = 'e' || c = 'E' then
        let (negative, digits) := signed rest
        if digits.isEmpty || !digits.all isAsciiDigit then none
        else
          let size : Int := natOfDigits digits
          some (if negative then -size else size)
      else none

def lowerWord (word : List Char) : String :=
  String.ofList (word.map fun c => if 'A' ≤ c && c ≤ 'Z' then Char.ofNat (c.toNat + 32) else c)

def plainNumber? (text : List Char) : Option Binary64 :=
  let (negative, body) := signed text
  let word := lowerWord body
  if word = "inf" ∨ word = "infinity" then some (.infinite negative)
  else if word = "nan" then some .nan
  else
    let whole := body.takeWhile isAsciiDigit
    let rest := body.dropWhile isAsciiDigit
    let (fraction, rest) := match rest with
      | '.' :: tail => (tail.takeWhile isAsciiDigit, tail.dropWhile isAsciiDigit)
      | rest => ([], rest)
    if whole.isEmpty && fraction.isEmpty then none
    else (exponentOfText rest).map fun exponent =>
      .ofDecimal negative (natOfDigits (whole ++ fraction)) (exponent - fraction.length)

end WorkflowRuns.Text
