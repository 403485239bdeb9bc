/-!
Markup: text with style tags in square brackets.  Escaped text shows as it is, whatever brackets
and backslashes it holds.
-/

namespace WorkflowRuns.Display

def startsTag (c : Char) : Bool := ('a' ≤ c && c ≤ 'z') || c = '#' || c = '/' || c = '@'

def closes : List Char → Bool
  | [] => false
  | c :: rest => if c = ']' then true else if c = '[' then false else closes rest

/-- What follows an opening bracket would make it a tag. -/
def isTag : List Char → Bool
  | [] => false
  | c :: rest => startsTag c && closes rest

/-- Escapes a text before which `slashes` backslashes stand: those in front of a tag are doubled, and
one more is put there. -/
def escapeAfter (slashes : Nat) : List Char → List Char
  | [] => List.replicate slashes '\\'
  | c :: rest =>
      if c = '\\' then escapeAfter (slashes + 1) rest
      else if c = '[' ∧ isTag rest then List.replicate (2 * slashes + 1) '\\' ++ c :: escapeAfter 0 rest
      else List.replicate slashes '\\' ++ c :: escapeAfter 0 rest

/-- A lone backslash at the end is doubled, so that it escapes nothing that follows. -/
def closeEnd (text : List Char) : List Char :=
  match text.reverse with
  | '\\' :: '\\' :: _ => text
  | '\\' :: _ => text ++ ['\\']
  | _ => text

def escape (s : String) : String := String.ofList (closeEnd (escapeAfter 0 s.toList))

def styled (style body : String) : String := "[" ++ style ++ "]" ++ body ++ "[/]"

end WorkflowRuns.Display
