/-!
A place in YAML text, and what can go wrong there.  Line breaks are the line feed and the two Unicode
separators; other breaks are taken for line feeds before the text is read.
-/

namespace WorkflowRuns.Yaml

/-- Why a text has no value.  All faults of syntax are one; the others arise from well-formed text
whose scalars do not have the form that their tags ask for. -/
inductive Error
  | malformed
  | badValue (words : String)
  | tooLarge
  | unknownWord
  | noTimestamp
  | emptyNumber
  deriving DecidableEq, Repr

def isBreak (c : Char) : Bool := c = '\n' || c = '\u2028' || c = '\u2029'

def isGap (c : Char) : Bool := c = ' ' || c = '\t' || isBreak c

def atGap : Option Char → Bool
  | none => true
  | some c => isGap c

def atLineEnd : Option Char → Bool
  | none => true
  | some c => isBreak c

def atBlank : Option Char → Bool
  | none => true
  | some c => c = ' ' || isBreak c

structure Cursor where
  rest : List Char
  index : Nat
  line : Nat
  column : Nat
  deriving Repr

namespace Cursor

def start (text : List Char) : Cursor := ⟨text, 0, 0, 0⟩

def peek (c : Cursor) (ahead : Nat) : Option Char := c.rest[ahead]?

/-- A byte order mark takes no column. -/
def step (c : Cursor) : Cursor :=
  match c.rest with
  | [] => c
  | char :: rest =>
      if isBreak char then ⟨rest, c.index + 1, c.line + 1, 0⟩
      else if char = '\ufeff' then ⟨rest, c.index + 1, c.line, c.column⟩
      else ⟨rest, c.index + 1, c.line, c.column + 1⟩

def skip : Nat → Cursor → Cursor
  | 0, c => c
  | n + 1, c => skip n c.step

def span (c : Cursor) (p : Char → Bool) : List Char × Cursor :=
  let run := c.rest.takeWhile p
  (run, c.skip run.length)

def skipBlanks (c : Cursor) : Cursor := (c.span (· = ' ')).2

def skipComment (c : Cursor) : Cursor :=
  if c.peek 0 = some '#' then (c.span fun char => !isBreak char).2 else c

def skipBreak (c : Cursor) : Cursor :=
  match c.rest with
  | [] => c
  | char :: _ => if isBreak char then c.step else c

def atSeparator (c : Cursor) : Bool :=
  (c.rest.take 3 = ['-', '-', '-'] || c.rest.take 3 = ['.', '.', '.']) && atGap (c.peek 3)

def endLine (c : Cursor) : Except Error Cursor :=
  let c := c.skipBlanks.skipComment
  if atLineEnd (c.peek 0) then .ok c.skipBreak else .error .malformed

end Cursor

end WorkflowRuns.Yaml
