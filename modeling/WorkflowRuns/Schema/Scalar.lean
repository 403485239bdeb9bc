import WorkflowRuns.Schema.Checked
import WorkflowRuns.Text.Classes
import WorkflowRuns.Text.Number

/-!
Numbers and truth values in a record, which may also be written as texts.
-/

namespace WorkflowRuns.Schema

open Text (isAsciiDigit natOfDigits digitLimit signed lowerWord plainNumber?)

/-- Digits with single underscores between them; the digits alone and what follows. -/
def groupedDigits : List Char → Option (List Char × List Char)
  | c :: '_' :: rest =>
      if isAsciiDigit c then (groupedDigits rest).map fun (digits, rest) => (c :: digits, rest) else none
  | c :: d :: rest =>
      if isAsciiDigit c then
        if isAsciiDigit d then (groupedDigits (d :: rest)).map fun (digits, rest) => (c :: digits, rest)
        else some ([c], d :: rest)
      else none
  | [c] => if isAsciiDigit c then some ([c], []) else none
  | [] => none

/-- An integer with an optional sign and fraction of zeros, white space aside. -/
def integerOfText (s : String) : Checked Int :=
  let (negative, body) := signed (Text.trimWith Text.isWhiteSpace s.toList)
  match groupedDigits body with
  | none => fail .integerText
  | some (digits, rest) =>
      let zerosOnly := match rest with
        | [] => true
        | '.' :: zeros => zeros.all (· = '0')
        | _ => false
      if !zerosOnly then fail .integerText
      else if digitLimit < digits.length then fail .integerSize
      else
        let n : Int := natOfDigits digits
        .accepted (if negative then -n else n)

/-- The integer a number stands for; it has to be whole and within 64 bits. -/
def integerOfFloat (x : Binary64) : Checked Int :=
  match x.truncate? with
  | none => fail .notFinite
  | some n =>
      if !x.isWhole then fail .fractional
      else if -9223372036854775808 < n ∧ n < 9223372036854775808 then .accepted n
      else fail .integerSize

def integer : Value → Checked Int
  | .bool b => .accepted (if b then 1 else 0)
  | .int n => .accepted n
  | .float x => integerOfFloat x
  | .text s => integerOfText s
  | .foreign kind content => encoded .integerText .integer integerOfText kind content
  | _ => fail .integer

def integerAtLeast (bound : Nat) (value : Value) : Checked Int :=
  (integer value).andThen fun n => if (bound : Int) ≤ n then .accepted n else fail (.atLeast bound)

def integerBetween (low high : Nat) (value : Value) : Checked Int :=
  (integer value).andThen fun n =>
    if n < low then fail (.atLeast low) else if (high : Int) < n then fail (.atMost high) else .accepted n

def hasDoubledUnderscore : List Char → Bool
  | '_' :: '_' :: _ => true
  | _ :: rest => hasDoubledUnderscore rest
  | [] => false

/-- A text without its underscores, which must be single and inside. -/
def ungrouped? (text : List Char) : Option (List Char) :=
  if text.head? = some '_' || text.getLast? = some '_' || hasDoubledUnderscore text then none
  else some (text.filter (· ≠ '_'))

def numberOfText (s : String) : Checked Binary64 :=
  match plainNumber? (Text.trimWith Text.isWhiteSpace s.toList) with
  | some x => .accepted x
  | none =>
      match (ungrouped? s.toList).bind plainNumber? with
      | some x => .accepted x
      | none => fail .numberText

def number : Value → Checked Binary64
  | .bool b => .accepted (.ofInt (if b then 1 else 0))
  | .int n => if (Binary64.ofInt n).isFinite then .accepted (.ofInt n) else fail .number
  | .float x => .accepted x
  | .text s => numberOfText s
  | .foreign kind content => encoded .numberText .number numberOfText kind content
  | _ => fail .number

def numberAbove (bound : Nat) (value : Value) : Checked Binary64 :=
  (number value).andThen fun x => if (Binary64.ofInt bound).lt x then .accepted x else fail (.above bound)

def numberAtLeast (bound : Nat) (value : Value) : Checked Binary64 :=
  (number value).andThen fun x => if (Binary64.ofInt bound).le x then .accepted x else fail (.atLeast bound)

def booleanOfText (s : String) : Checked Bool :=
  let word := lowerWord s.toList
  if ["0", "off", "f", "false", "n", "no"].contains word then .accepted false
  else if ["1", "on", "t", "true", "y", "yes"].contains word then .accepted true
  else fail .booleanText

def boolean : Value → Checked Bool
  | .bool b => .accepted b
  | .int n => if n = 0 then .accepted false else if n = 1 then .accepted true else fail .booleanText
  | .float x =>
      if x = .ofInt 0 ∨ x = .neg (.ofInt 0) then .accepted false
      else if x = .ofInt 1 then .accepted true
      else match integerOfFloat x with
        | .accepted _ => fail .booleanText
        | .refused _ => fail .boolean
  | .text s => booleanOfText s
  | .foreign kind content => encoded .booleanText .boolean booleanOfText kind content
  | _ => fail .boolean

end WorkflowRuns.Schema
