import WorkflowRuns.Yaml.Cursor

/-!
Scalars between quotes.  A single quote is written twice; between double quotes there are escapes.
A line break folds into a blank, and further ones are kept.
-/

namespace WorkflowRuns.Yaml

def hexValue? (c : Char) : Option Nat :=
  if '0' ≤ c && c ≤ '9' then some (c.toNat - 48)
  else if 'a' ≤ c && c ≤ 'f' then some (c.toNat - 87)
  else if 'A' ≤ c && c ≤ 'F' then some (c.toNat - 55)
  else none

def escapes : List (Char × Char) :=
  [('0', '\x00'), ('a', '\x07'), ('b', '\x08'), ('t', '\t'), ('\t', '\t'), ('n', '\n'), ('v', '\x0b'),
    ('f', '\x0c'), ('r', '\r'), ('e', '\x1b'), (' ', ' '), ('"', '"'), ('\\', '\\'), ('/', '/'), ('N', '\u0085'),
    ('_', '\u00a0'), ('L', '\u2028'), ('P', '\u2029')]

def codeLengths : List (Char × Nat) := [('x', 2), ('u', 4), ('U', 8)]

/-- The character of a code in hexadecimal; a surrogate is replaced. -/
def codeCharacter (digits : List Char) : Except Error Char :=
  match digits.mapM hexValue? with
  | none => .error .malformed
  | some values =>
      let code := values.foldl (fun n digit => n * 16 + digit) 0
      if 0x7fffffff < code then .error .tooLarge
      else if 0x110000 ≤ code then .error (.badValue "chr() arg not in range(0x110000)")
      else .ok (if 0xd800 ≤ code && code < 0xe000 then '\ufffd' else .ofNat code)

def foldedBreaks : Nat → Cursor → Except Error (List Char × Cursor)
  | 0, _ => .error .malformed
  | fuel + 1, c =>
      if c.atSeparator then .error .malformed
      else
        let c := (c.span fun char => char = ' ' || char = '\t').2
        match c.peek 0 with
        | some char =>
            if isBreak char then do
              let (breaks, c) ← foldedBreaks fuel c.step
              return (char :: breaks, c)
            else .ok ([], c)
        | none => .ok ([], c)

def escaped (fuel : Nat) (c : Cursor) : Except Error (List Char × Cursor) :=
  match c.peek 0 with
  | none => .error .malformed
  | some char =>
      match escapes.lookup char, codeLengths.lookup char with
      | some plain, _ => .ok ([plain], c.step)
      | none, some length => do
          let digits := c.step.rest.take length
          if digits.length ≠ length then throw .malformed
          return ([← codeCharacter digits], c.step.skip length)
      | none, none => if isBreak char then foldedBreaks fuel c.step else .error .malformed

/-- Blanks inside a line are kept; around line breaks they are not. -/
def quotedGap (fuel : Nat) (c : Cursor) : Except Error (List Char × Cursor) :=
  let (blanks, c) := c.span fun char => char = ' ' || char = '\t'
  match c.peek 0 with
  | none => .error .malformed
  | some char =>
      if isBreak char then do
        let (breaks, c) ← foldedBreaks fuel c.step
        let first := if char ≠ '\n' then [char] else if breaks.isEmpty then [' '] else []
        return (first ++ breaks, c)
      else .ok (blanks, c)

def isQuotedPlain (c : Char) : Bool := c ≠ '\'' && c ≠ '"' && c ≠ '\\' && !isGap c

def quotedRest (double : Bool) : Nat → Cursor → Except Error (List Char × Cursor)
  | 0, _ => .error .malformed
  | fuel + 1, c => do
      let (run, c) := c.span isQuotedPlain
      let (piece, c, ended) ← (match c.peek 0 with
        | none => .error .malformed
        | some '\'' =>
            if double then .ok (['\''], c.step, false)
            else if c.peek 1 = some '\'' then .ok (['\''], c.skip 2, false)
            else .ok ([], c.step, true)
        | some '"' => if double then .ok ([], c.step, true) else .ok (['"'], c.step, false)
        | some '\\' =>
            if double then (escaped fuel c.step).map fun (piece, c) => (piece, c, false)
            else .ok (['\\'], c.step, false)
        | some _ => (quotedGap fuel c).map fun (piece, c) => (piece, c, false) :
          Except Error (List Char × Cursor × Bool))
      if ended then return (run ++ piece, c)
      let (more, c) ← quotedRest double fuel c
      return (run ++ piece ++ more, c)

def quoted (double : Bool) (c : Cursor) : Except Error (String × Cursor) := do
  let (text, after) ← quotedRest double (c.rest.length + 1) c.step
  return (String.ofList text, after)

end WorkflowRuns.Yaml
