import WorkflowRuns.Yaml.Cursor

/-!
Plain scalars.  They end before a comment, a colon with a gap after it, and in a flow collection before
its punctuation.  They may go on over lines that are indented enough.
-/

namespace WorkflowRuns.Yaml

def isFlowMark (c : Char) : Bool := ",?[]\x7b\x7d".toList.contains c

def endsAfterColon (inFlow : Bool) (c : Option Char) : Bool :=
  atGap c || (inFlow && (match c with
    | some c => ",[]\x7b\x7d".toList.contains c
    | none => false))

def plainRun (inFlow : Bool) : List Char → List Char
  | [] => []
  | c :: rest =>
      if isGap c || (c = ':' && endsAfterColon inFlow rest.head?) || (inFlow && isFlowMark c) then []
      else c :: plainRun inFlow rest

/-- Empty lines and the blanks around them; none past a separator. -/
def plainBreaks : Nat → Cursor → Option (List Char) × Cursor
  | 0, c => (none, c)
  | fuel + 1, c =>
      if c.atSeparator then (none, c)
      else
        let c := c.skipBlanks
        match c.peek 0 with
        | some char =>
            if isBreak char then
              let (breaks, c) := plainBreaks fuel c.step
              (breaks.map (char :: ·), c)
            else (some [], c)
        | none => (some [], c)

structure Gap where
  text : List Char
  crossedLine : Bool
  after : Cursor

/-- A gap inside a plain scalar; an empty text means that the scalar ends here. -/
def plainGap (fuel : Nat) (c : Cursor) : Gap :=
  let (blanks, c) := c.span (· = ' ')
  match c.peek 0 with
  | some char =>
      if isBreak char then
        let (breaks, after) := plainBreaks fuel c.step
        let text := match breaks with
          | none => []
          | some breaks =>
              (if char ≠ '\n' then [char] else if breaks.isEmpty then [' '] else []) ++ breaks
        ⟨text, true, after⟩
      else ⟨blanks, false, c⟩
  | none => ⟨blanks, false, c⟩

structure PlainScalar where
  text : List Char
  /-- A line was crossed after the last character. -/
  crossedLine : Bool
  after : Cursor

def plainRest (inFlow : Bool) (indent : Nat) : Nat → Cursor → Gap → PlainScalar
  | 0, c, _ => ⟨[], false, c⟩
  | fuel + 1, c, gap =>
      let run := if c.peek 0 = some '#' then [] else plainRun inFlow c.rest
      if run.isEmpty then ⟨[], gap.crossedLine, c⟩
      else
        let next := plainGap fuel (c.skip run.length)
        let ends := next.text.isEmpty || next.after.peek 0 = some '#' || (!inFlow && next.after.column < indent)
        if ends then ⟨gap.text ++ run, next.crossedLine, next.after⟩
        else
          let more := plainRest inFlow indent fuel next.after next
          ⟨gap.text ++ run ++ more.text, more.crossedLine, more.after⟩

def plain (inFlow : Bool) (outer : Int) (c : Cursor) : PlainScalar :=
  plainRest inFlow (outer + 1).toNat (c.rest.length + 1) c ⟨[], false, c⟩

end WorkflowRuns.Yaml
