import WorkflowRuns.Yaml.Cursor

/-!
Block scalars: literal ones keep their line breaks, folded ones turn a break between two lines that do
not begin with a blank into a blank.  The header may give the indentation and what is done with the
line breaks at the end.
-/

namespace WorkflowRuns.Yaml

inductive Chomping
  | strip
  | clip
  | keep
  deriving DecidableEq, Repr

def chomping? (c : Option Char) : Option Chomping :=
  if c = some '+' then some .keep else if c = some '-' then some .strip else none

def digit? (c : Option Char) : Option Nat :=
  match c with
  | some c => if '0' ≤ c && c ≤ '9' then some (c.toNat - 48) else none
  | none => none

def blockHeader (c : Cursor) : Except Error (Chomping × Option Nat × Cursor) := do
  let (chomping, increment, c) := match chomping? (c.peek 0), digit? (c.peek 0) with
    | some chomping, _ =>
        match digit? (c.peek 1) with
        | some n => (chomping, some n, c.skip 2)
        | none => (chomping, none, c.step)
    | none, some n =>
        match chomping? (c.peek 1) with
        | some chomping => (chomping, some n, c.skip 2)
        | none => (.clip, some n, c.step)
    | none, none => (.clip, none, c)
  if increment = some 0 ∨ !atBlank (c.peek 0) then throw .malformed
  return (chomping, increment, ← c.endLine)

def skipIndent (indent : Nat) (c : Cursor) : Cursor :=
  c.skip (min (indent - c.column) (c.rest.takeWhile (· = ' ')).length)

/-- Empty lines, whose blanks do not reach past the indentation. -/
def blockBreaks (indent : Nat) : Nat → Cursor → List Char × Cursor
  | 0, c => ([], c)
  | fuel + 1, c =>
      let c := skipIndent indent c
      match c.peek 0 with
      | some char =>
          if isBreak char then
            let (breaks, c) := blockBreaks indent fuel c.step
            (char :: breaks, c)
          else ([], c)
      | none => ([], c)

def blockIndent : Nat → Cursor → List Char × Nat × Cursor
  | 0, c => ([], 0, c)
  | fuel + 1, c =>
      let c := c.skipBlanks
      match c.peek 0 with
      | some char =>
          if isBreak char then
            let (breaks, deepest, after) := blockIndent fuel c.step
            (char :: breaks, max c.column deepest, after)
          else ([], c.column, c)
      | none => ([], c.column, c)

def startsBlank (c : Cursor) : Bool := c.peek 0 = some ' ' || c.peek 0 = some '\t'

/-- The lines from here on, each after the breaks before it; last the break that ends the last line
and the empty lines after it. -/
def blockLines (folded : Bool) (indent : Nat) : Nat → Cursor → List Char → List Char × List Char × List Char × Cursor
  | 0, c, breaks => ([], [], breaks, c)
  | fuel + 1, c, breaks =>
      if c.column ≠ indent ∨ c.peek 0 = none then ([], [], breaks, c)
      else
        let begins := !startsBlank c
        let (line, c) := c.span fun char => !isBreak char
        let lineBreak := (c.rest.take 1)
        let (after, c) := blockBreaks indent fuel c.skipBreak
        if c.column = indent ∧ c.peek 0 ≠ none then
          let joint :=
            if folded && lineBreak = ['\n'] && begins && !startsBlank c then
              (if after.isEmpty then [' '] else [])
            else lineBreak
          let (more, last, tail, c) := blockLines folded indent fuel c after
          (breaks ++ line ++ joint ++ more, last, tail, c)
        else (breaks ++ line, lineBreak, after, c)

def blockScalar (folded : Bool) (outer : Int) (c : Cursor) : Except Error (String × Cursor) := do
  let (chomping, increment, c) ← blockHeader c.step
  let least := max 1 (outer + 1).toNat
  let fuel := c.rest.length + 1
  let (breaks, indent, c) := match increment with
    | some n =>
        let (breaks, c) := blockBreaks (least + n - 1) fuel c
        (breaks, least + n - 1, c)
    | none =>
        let (breaks, deepest, c) := blockIndent fuel c
        (breaks, max least deepest, c)
  let (body, last, tail, c) := blockLines folded indent fuel c breaks
  let ending := match chomping with
    | .strip => []
    | .clip => last
    | .keep => last ++ tail
  return (String.ofList (body ++ ending), c)

end WorkflowRuns.Yaml
