import WorkflowRuns.Yaml.Block
import WorkflowRuns.Yaml.Plain
import WorkflowRuns.Yaml.Quoted
import WorkflowRuns.Text.Encoding

/-!
The tokens of YAML text.  Indentation is turned into tokens that open and close blocks.  That a token
begins a key is known only when its colon is met: until then its place is kept, and filled in later.
-/

namespace WorkflowRuns.Yaml

inductive Directive
  | version (major : Nat)
  | tag (handle lead : String)
  | other
  deriving DecidableEq, Repr

inductive Token
  | directive (d : Directive)
  | documentStart
  | documentEnd
  | blockSequenceStart
  | blockMappingStart
  | blockEnd
  | flowSequenceStart
  | flowSequenceEnd
  | flowMappingStart
  | flowMappingEnd
  | blockEntry
  | flowEntry
  | key
  | value
  | alias (name : String)
  | anchor (name : String)
  | tag (handle : Option String) (suffix : String)
  | scalar (plain : Bool) (text : String)
  deriving DecidableEq, Repr

/-- A token, or the place of a key that may begin here. -/
inductive Slot
  | token (t : Token)
  | place (id : Nat)
  deriving DecidableEq, Repr

/-- What follows its place may be a key on one line, and at the indentation of its block it has to be. -/
structure Candidate where
  place : Nat
  required : Bool
  index : Nat
  line : Nat
  column : Nat
  deriving DecidableEq, Repr

/-- `output` is in reverse; `keys` has at most one candidate for each depth of flow collections. -/
structure Scan where
  cursor : Cursor
  flow : Nat
  indent : Int
  outer : List Int
  keyAllowed : Bool
  keys : List (Nat × Candidate)
  places : Nat
  opened : List (Nat × Bool)
  output : List Slot

namespace Scan

def start (text : List Char) : Scan := ⟨.start text, 0, -1, [], true, [], 0, [], []⟩

def inFlow (s : Scan) : Bool := s.flow ≠ 0

def column (s : Scan) : Int := s.cursor.column

def emit (s : Scan) (t : Token) : Scan := { s with output := .token t :: s.output }

def emitWide (s : Scan) (width : Nat) (t : Token) : Scan := { s.emit t with cursor := s.cursor.skip width }

/-- No key is longer than this. -/
def keyLimit : Nat := 1024

def isStale (s : Scan) (k : Candidate) : Bool :=
  k.line ≠ s.cursor.line || k.index + keyLimit < s.cursor.index

/-- Gives up the candidates that are on another line or too far back. -/
def dropStale (s : Scan) : Except Error Scan :=
  if s.keys.any fun (_, k) => s.isStale k && k.required then .error .malformed
  else .ok { s with keys := s.keys.filter fun (_, k) => !s.isStale k }

def dropKey (s : Scan) : Except Error Scan :=
  if s.keys.any fun (flow, k) => flow = s.flow && k.required then .error .malformed
  else .ok { s with keys := s.keys.filter fun (flow, _) => flow ≠ s.flow }

def saveKey (s : Scan) : Except Error Scan := do
  if !s.keyAllowed then return s
  let s ← s.dropKey
  let candidate : Candidate :=
    ⟨s.places, !s.inFlow && s.indent = s.column, s.cursor.index, s.cursor.line, s.cursor.column⟩
  return { s with
    keys := (s.flow, candidate) :: s.keys, places := s.places + 1, output := .place s.places :: s.output }

def deeper (column : Int) : Int → List Int → Int × List Int × Nat
  | indent, [] => (indent, [], 0)
  | indent, outer :: rest =>
      if column < indent then
        let (indent, outer, count) := deeper column outer rest
        (indent, outer, count + 1)
      else (indent, outer :: rest, 0)

def unwind (s : Scan) (column : Int) : Scan :=
  if s.inFlow then s
  else
    let (indent, outer, count) := deeper column s.indent s.outer
    { s with indent, outer, output := List.replicate count (.token .blockEnd) ++ s.output }

def addIndent (s : Scan) (column : Int) : Option Scan :=
  if s.indent < column then some { s with indent := column, outer := s.indent :: s.outer } else none

def openBlock (s : Scan) (t : Token) : Scan :=
  match s.addIndent s.column with
  | some s => s.emit t
  | none => s

/-- Past blanks, comments and line breaks; in a block a key may begin on a new line. -/
def skipToToken : Nat → Scan → Scan
  | 0, s => s
  | fuel + 1, s =>
      let cursor := s.cursor.skipBlanks.skipComment
      match cursor.peek 0 with
      | some c =>
          if isBreak c then
            skipToToken fuel { s with cursor := cursor.step, keyAllowed := s.keyAllowed || !s.inFlow }
          else { s with cursor }
      | none => { s with cursor }

def isNameChar (c : Char) : Bool :=
  ('0' ≤ c && c ≤ '9') || ('A' ≤ c && c ≤ 'Z') || ('a' ≤ c && c ≤ 'z') || c = '-' || c = '_'

def readNumber (c : Cursor) : Except Error (Nat × Cursor) :=
  let (digits, c) := c.span fun char => '0' ≤ char && char ≤ '9'
  if digits.isEmpty then .error .malformed
  else .ok (digits.foldl (fun n char => n * 10 + (char.toNat - 48)) 0, c)

def readHandle (c : Cursor) : Except Error (String × Cursor) :=
  if c.peek 0 ≠ some '!' then .error .malformed
  else if c.peek 1 = some ' ' then .ok ("!", c.step)
  else
    let name := c.step.rest.takeWhile isNameChar
    if c.peek (name.length + 1) = some '!' then
      .ok ("!" ++ String.ofList name ++ "!", c.skip (name.length + 2))
    else .error .malformed

def isTagChar (c : Char) : Bool := isNameChar c || ";/?:@&=+$,.!~*'()[]".toList.contains c

def readPercents : List Char → List UInt8 × Nat
  | '%' :: a :: b :: rest =>
      match hexValue? a, hexValue? b with
      | some a, some b =>
          let (bytes, count) := readPercents rest
          (UInt8.ofNat (a * 16 + b) :: bytes, count + 1)
      | _, _ => ([], 0)
  | _ => ([], 0)

def readTagText : Nat → Cursor → Except Error (List Char × Cursor)
  | 0, _ => .error .malformed
  | fuel + 1, c => do
      let (run, c) := c.span isTagChar
      if c.peek 0 ≠ some '%' then return (run, c)
      let (bytes, count) := readPercents c.rest
      if count = 0 then throw .malformed
      match Text.decodeUtf8 .refused bytes with
      | .error _ => throw .malformed
      | .ok decoded =>
          let (more, c) ← readTagText fuel (c.skip (3 * count))
          return (run ++ decoded.map Text.CodePoint.shown ++ more, c)

def readTagUri (c : Cursor) : Except Error (String × Cursor) := do
  let (text, after) ← readTagText (c.rest.length + 1) c
  if after.index = c.index then throw .malformed
  return (String.ofList text, after)

def readTag (c : Cursor) : Except Error (Option String × String × Cursor) := do
  let (handle, suffix, after) ← (match c.peek 1 with
    | some '<' => do
        let (suffix, c) ← readTagUri (c.skip 2)
        if c.peek 0 ≠ some '>' then throw .malformed
        return (none, suffix, c.step)
    | next =>
        if atGap next then .ok (none, "!", c.step)
        else do
          let word := c.step.rest.takeWhile fun char => !(char = ' ' || isBreak char)
          let (handle, c) ← if word.contains '!' then readHandle c else pure ("!", c.step)
          let (suffix, c) ← readTagUri c
          return (some handle, suffix, c) : Except Error (Option String × String × Cursor))
  if !atBlank (after.peek 0) then throw .malformed
  return (handle, suffix, after)

def readDirective (c : Cursor) : Except Error (Directive × Cursor) := do
  let (name, c) := c.span isNameChar
  if name.isEmpty || !atBlank (c.peek 0) then throw .malformed
  if name = "YAML".toList then
    let (major, c) ← readNumber c.skipBlanks
    if c.peek 0 ≠ some '.' then throw .malformed
    let (_, c) ← readNumber c.step
    if !atBlank (c.peek 0) then throw .malformed
    return (.version major, ← c.endLine)
  if name = "TAG".toList then
    let (handle, c) ← readHandle c.skipBlanks
    if c.peek 0 ≠ some ' ' then throw .malformed
    let (lead, c) ← readTagUri c.skipBlanks
    if !atBlank (c.peek 0) then throw .malformed
    return (.tag handle lead, ← c.endLine)
  return (.other, ← (c.span fun char => !isBreak char).2.endLine)

def readName (c : Cursor) : Except Error (String × Cursor) := do
  let (name, c) := c.span isNameChar
  let ends := match c.peek 0 with
    | none => true
    | some char => isGap char || "?:,]\x7d%@\x60".toList.contains char
  if name.isEmpty || !ends then throw .malformed
  return (String.ofList name, c)

def beginDocument (s : Scan) : Except Error Scan := do
  let s ← (s.unwind (-1)).dropKey
  return { s with keyAllowed := false }

def openFlow (s : Scan) (t : Token) : Except Error Scan := do
  let s ← s.saveKey
  return { s.emitWide 1 t with flow := s.flow + 1, keyAllowed := true }

def closeFlow (s : Scan) (t : Token) : Except Error Scan := do
  let s ← s.dropKey
  return { s.emitWide 1 t with flow := s.flow - 1, keyAllowed := false }

def scanBlockEntry (s : Scan) : Except Error Scan := do
  if !s.inFlow && !s.keyAllowed then throw .malformed
  let s := if s.inFlow then s else s.openBlock .blockSequenceStart
  let s ← { s with keyAllowed := true }.dropKey
  return s.emitWide 1 .blockEntry

def scanKey (s : Scan) : Except Error Scan := do
  if !s.inFlow && !s.keyAllowed then throw .malformed
  let s := if s.inFlow then s else s.openBlock .blockMappingStart
  let s ← { s with keyAllowed := !s.inFlow }.dropKey
  return s.emitWide 1 .key

/-- A colon makes a key of the candidate before it, if there is one. -/
def scanValue (s : Scan) : Except Error Scan := do
  match s.keys.lookup s.flow with
  | some k =>
      let opening := if s.inFlow then none else s.addIndent k.column
      let s := { (opening.getD s) with
        keys := s.keys.filter fun (flow, _) => flow ≠ s.flow
        opened := (k.place, opening.isSome) :: s.opened
        keyAllowed := false }
      return s.emitWide 1 .value
  | none =>
      if !s.inFlow && !s.keyAllowed then throw .malformed
      let s := if s.inFlow then s else s.openBlock .blockMappingStart
      let s ← { s with keyAllowed := !s.inFlow }.dropKey
      return s.emitWide 1 .value

def scanProperty (s : Scan) (read : Cursor → Except Error (Token × Cursor)) : Except Error Scan := do
  let s ← s.saveKey
  let (t, cursor) ← read s.cursor
  return { s.emit t with cursor, keyAllowed := false }

def scanBlockScalar (s : Scan) (folded : Bool) : Except Error Scan := do
  let s ← { s with keyAllowed := true }.dropKey
  let (text, cursor) ← blockScalar folded s.indent s.cursor
  return { s.emit (.scalar false text) with cursor }

def scanPlain (s : Scan) : Except Error Scan := do
  let s ← s.saveKey
  let scalar := plain s.inFlow s.indent s.cursor
  return { s.emit (.scalar true (String.ofList scalar.text)) with
    cursor := scalar.after, keyAllowed := scalar.crossedLine }

/-- A plain scalar begins with none of the marks, or with one of three that has no gap after it. -/
def startsPlain (s : Scan) (c : Char) : Bool :=
  !(isGap c || "-?:,[]\x7b\x7d#&*!|>'\"%@\x60".toList.contains c)
    || (!atGap (s.cursor.peek 1) && (c = '-' || (!s.inFlow && (c = '?' || c = ':'))))

def scanToken (s : Scan) (c : Char) : Except Error Scan :=
  let alone := s.inFlow || atGap (s.cursor.peek 1)
  let atStart := s.cursor.column = 0
  if c = '%' && atStart then do
    let s ← s.beginDocument
    let (d, cursor) ← readDirective s.cursor.step
    return { s.emit (.directive d) with cursor }
  else if c = '-' && atStart && s.cursor.atSeparator then
    s.beginDocument.map fun s => s.emitWide 3 .documentStart
  else if c = '.' && atStart && s.cursor.atSeparator then
    s.beginDocument.map fun s => s.emitWide 3 .documentEnd
  else if c = '[' then s.openFlow .flowSequenceStart
  else if c = '\x7b' then s.openFlow .flowMappingStart
  else if c = ']' then s.closeFlow .flowSequenceEnd
  else if c = '\x7d' then s.closeFlow .flowMappingEnd
  else if c = ',' then do
    let s ← { s with keyAllowed := true }.dropKey
    return s.emitWide 1 .flowEntry
  else if c = '-' && atGap (s.cursor.peek 1) then s.scanBlockEntry
  else if c = '?' && alone then s.scanKey
  else if c = ':' && alone then s.scanValue
  else if c = '*' then s.scanProperty fun c => (readName c.step).map fun (name, c) => (.alias name, c)
  else if c = '&' then s.scanProperty fun c => (readName c.step).map fun (name, c) => (.anchor name, c)
  else if c = '!' then
    s.scanProperty fun c => (readTag c).map fun (handle, suffix, c) => (.tag handle suffix, c)
  else if c = '|' && !s.inFlow then s.scanBlockScalar false
  else if c = '>' && !s.inFlow then s.scanBlockScalar true
  else if c = '\'' then s.scanProperty fun c => (quoted false c).map fun (text, c) => (.scalar false text, c)
  else if c = '"' then s.scanProperty fun c => (quoted true c).map fun (text, c) => (.scalar false text, c)
  else if s.startsPlain c then s.scanPlain
  else .error .malformed

def tokens (s : Scan) : List Token :=
  s.output.reverse.flatMap fun
    | .token t => [t]
    | .place id =>
        match s.opened.lookup id with
        | some true => [.blockMappingStart, .key]
        | some false => [.key]
        | none => []

def run : Nat → Scan → Except Error (List Token)
  | 0, _ => .error .malformed
  | fuel + 1, s => do
      let s := skipToToken (s.cursor.rest.length + 1) s
      let s ← s.dropStale
      let s := s.unwind s.column
      match s.cursor.peek 0 with
      | none => return (← (s.unwind (-1)).dropKey).tokens
      | some c => run fuel (← s.scanToken c)

end Scan

def isAllowed (c : Char) : Bool :=
  let n := c.toNat
  n = 9 || n = 10 || n = 13 || (0x20 ≤ n && n ≤ 0x7e) || n = 0x85 || (0xa0 ≤ n && n ≤ 0xd7ff)
    || (0xe000 ≤ n && n ≤ 0xfffd) || 0x10000 ≤ n

def lineFeeds : List Char → List Char
  | '\r' :: '\n' :: rest => '\n' :: lineFeeds rest
  | '\r' :: rest => '\n' :: lineFeeds rest
  | '\u0085' :: rest => '\n' :: lineFeeds rest
  | c :: rest => c :: lineFeeds rest
  | [] => []

def tokenize (text : String) : Except Error (List Token) :=
  let chars := lineFeeds text.toList
  if !chars.all isAllowed then .error .malformed
  else
    let chars := if chars.head? = some '\ufeff' then chars.tail else chars
    Scan.run (chars.length + 1) (.start chars)

end WorkflowRuns.Yaml
