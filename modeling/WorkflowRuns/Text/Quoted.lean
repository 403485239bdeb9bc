import WorkflowRuns.Text.Classes

/-!
Quoted text: single quotes, unless the text holds a single quote and no double one; characters
that do not print are escaped.
-/

namespace WorkflowRuns.Text

def hexText (width n : Nat) : String :=
  let digits := Nat.toDigits 16 n
  String.ofList (List.replicate (width - digits.length) '0' ++ digits)

def quoteMark (s : String) : Char :=
  if s.contains '\'' && !s.contains '"' then '"' else '\''

def quotedChar (mark c : Char) : String :=
  if c = mark || c = '\\' then String.ofList ['\\', c]
  else if c = '\t' then "\\t"
  else if c = '\n' then "\\n"
  else if c = '\r' then "\\r"
  else if isPrintable c then String.singleton c
  else if c.toNat < 0x100 then "\\x" ++ hexText 2 c.toNat
  else if c.toNat < 0x10000 then "\\u" ++ hexText 4 c.toNat
  else "\\U" ++ hexText 8 c.toNat

def quoted (s : String) : String :=
  let mark := quoteMark s
  String.singleton mark ++ String.join (s.toList.map (quotedChar mark)) ++ String.singleton mark

end WorkflowRuns.Text
