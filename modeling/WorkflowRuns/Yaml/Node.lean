import WorkflowRuns.Yaml.Scalar
import WorkflowRuns.Yaml.Token

/-!
Tagged nodes, made of tokens.  A scalar without a tag gets one by its form if it is plain.  An alias
stands for the node with its anchor; inside that node itself only the kind of it is known.
-/

namespace WorkflowRuns.Yaml

inductive Node
  | scalar (tag text : String)
  | sequence (tag : String) (items : List Node)
  | mapping (tag : String) (entries : List (Node × Node))
  | enclosing (kind : String)
  deriving Repr

def coreTag (name : String) : String := "tag:yaml.org,2002:" ++ name

def ScalarKind.tag : ScalarKind → String
  | .null => coreTag "null"
  | .bool => coreTag "bool"
  | .int => coreTag "int"
  | .float => coreTag "float"
  | .timestamp => coreTag "timestamp"
  | .merge => coreTag "merge"
  | .default => coreTag "value"
  | .text => coreTag "str"

/-- Tokens that are left, anchors of the document, and what tag handles stand for. -/
structure Reading where
  rest : List Token
  anchors : List (String × Node)
  handles : List (String × String)

abbrev Read := StateT Reading (Except Error)

namespace Read

def refuse {α : Type} : Read α := throw .malformed

def peek : Read (Option Token) := do return (← get).rest.head?

def skip : Read Unit := modify fun r => { r with rest := r.rest.tail }

def take? (t : Token) : Read Bool := do
  if (← peek) = some t then
    skip
    return true
  return false

def atAny (ts : List Token) : Read Bool := do
  match ← peek with
  | some t => return ts.contains t
  | none => return true

def expect (t : Token) : Read Unit := do
  unless ← take? t do refuse

end Read

open Read

def plainNode (text : String) : Node := .scalar (kindOf text).tag text

def emptyNode : Node := plainNode ""

def readProperties : Read (Option String × Option (Option String × String)) := do
  match ← peek with
  | some (.anchor name) =>
      skip
      match ← peek with
      | some (.tag handle suffix) =>
          skip
          return (some name, some (handle, suffix))
      | _ => return (some name, none)
  | some (.tag handle suffix) =>
      skip
      match ← peek with
      | some (.anchor name) =>
          skip
          return (some name, some (handle, suffix))
      | _ => return (none, some (handle, suffix))
  | _ => return (none, none)

def fullTag : Option (Option String × String) → Read (Option String)
  | none => return none
  | some (none, suffix) => return some suffix
  | some (some handle, suffix) => do
      match (← get).handles.lookup handle with
      | some lead => return some (lead ++ suffix)
      | none => refuse

def isOpenTag (tag : Option String) : Bool := tag = none || tag = some "!"

/-- A collection's tag is that of its kind unless it has one of its own. -/
def collectionTag (tag : Option String) (kind : String) : String :=
  if isOpenTag tag then coreTag kind else tag.getD ""

def scalarNode (tag : Option String) (isPlain : Bool) (text : String) : Node :=
  if tag = none then (if isPlain then plainNode text else .scalar (coreTag "str") text)
  else if tag = some "!" then plainNode text
  else .scalar (tag.getD "") text

def bindNew (anchor : Option String) (node : Node) : Read Unit := do
  match anchor with
  | none => return
  | some name =>
      if ((← get).anchors.lookup name).isSome then refuse
      modify fun r => { r with anchors := (name, node) :: r.anchors }

def rebind (anchor : Option String) (node : Node) : Read Unit :=
  match anchor with
  | none => return
  | some name => modify fun r => { r with anchors := (name, node) :: r.anchors }

mutual
/-- A node; block collections and sequences without indentation are read where they are allowed. -/
def readNode (fuel : Nat) (block indentless : Bool) : Read Node := do
  match fuel with
  | 0 => refuse
  | fuel + 1 =>
    match ← peek with
    | some (.alias name) =>
        skip
        match (← get).anchors.lookup name with
        | some node => return node
        | none => refuse
    | _ =>
        let (anchor, tag) ← readProperties
        let tag ← fullTag tag
        match ← peek with
        | some (.scalar isPlain text) =>
            skip
            let node := scalarNode tag isPlain text
            bindNew anchor node
            return node
        | some .flowSequenceStart =>
            skip
            readSequence fuel anchor tag .flowSequenceEnd
        | some .flowMappingStart =>
            skip
            readMapping fuel anchor tag .flowMappingEnd
        | other =>
            if other = some .blockEntry && indentless then readSequence fuel anchor tag .blockEntry
            else if other = some .blockSequenceStart && block then
              skip
              readSequence fuel anchor tag .blockEnd
            else if other = some .blockMappingStart && block then
              skip
              readMapping fuel anchor tag .blockEnd
            else if anchor.isSome || tag.isSome then
              let node := if isOpenTag tag then emptyNode else .scalar (tag.getD "") ""
              bindNew anchor node
              return node
            else refuse

def readSequence (fuel : Nat) (anchor tag : Option String) (closing : Token) : Read Node := do
  match fuel with
  | 0 => refuse
  | fuel + 1 =>
    bindNew anchor (.enclosing "list")
    let items ←
      if closing = .flowSequenceEnd then readFlowItems fuel true
      else if closing = .blockEntry then readIndentlessItems fuel
      else readBlockItems fuel
    let node := .sequence (collectionTag tag "seq") items
    rebind anchor node
    return node

def readMapping (fuel : Nat) (anchor tag : Option String) (closing : Token) : Read Node := do
  match fuel with
  | 0 => refuse
  | fuel + 1 =>
    bindNew anchor (.enclosing "dict")
    let entries ← if closing = .flowMappingEnd then readFlowEntries fuel true else readBlockEntries fuel
    let node := .mapping (collectionTag tag "map") entries
    rebind anchor node
    return node

def readBlockItems (fuel : Nat) : Read (List Node) := do
  match fuel with
  | 0 => refuse
  | fuel + 1 =>
    if ← take? .blockEntry then
      let item ← if ← atAny [.blockEntry, .blockEnd] then pure emptyNode else readNode fuel true false
      return item :: (← readBlockItems fuel)
    expect .blockEnd
    return []

def readIndentlessItems (fuel : Nat) : Read (List Node) := do
  match fuel with
  | 0 => refuse
  | fuel + 1 =>
    if ← take? .blockEntry then
      let item ← if ← atAny [.blockEntry, .key, .value, .blockEnd] then pure emptyNode else readNode fuel true false
      return item :: (← readIndentlessItems fuel)
    return []

/-- A node of a block mapping, which may be left out. -/
def readBlockPart (fuel : Nat) : Read Node := do
  match fuel with
  | 0 => refuse
  | fuel + 1 =>
    if ← atAny [.key, .value, .blockEnd] then return emptyNode
    readNode fuel true true

def readBlockEntries (fuel : Nat) : Read (List (Node × Node)) := do
  match fuel with
  | 0 => refuse
  | fuel + 1 =>
    if ← take? .blockEnd then return []
    let key ← if ← take? .key then readBlockPart fuel else refuse
    let value ← if ← take? .value then readBlockPart fuel else pure emptyNode
    return (key, value) :: (← readBlockEntries fuel)

def readFlowPart (fuel : Nat) (before : List Token) : Read Node := do
  match fuel with
  | 0 => refuse
  | fuel + 1 =>
    if ← atAny before then return emptyNode
    readNode fuel false false

def readFlowItems (fuel : Nat) (first : Bool) : Read (List Node) := do
  match fuel with
  | 0 => refuse
  | fuel + 1 =>
    if ← take? .flowSequenceEnd then return []
    unless first do expect .flowEntry
    if ← take? .flowSequenceEnd then return []
    if ← take? .key then
      let key ← readFlowPart fuel [.value, .flowEntry, .flowSequenceEnd]
      let value ← if ← take? .value then readFlowPart fuel [.flowEntry, .flowSequenceEnd] else pure emptyNode
      return .mapping (coreTag "map") [(key, value)] :: (← readFlowItems fuel false)
    let item ← readNode fuel false false
    return item :: (← readFlowItems fuel false)

def readFlowEntries (fuel : Nat) (first : Bool) : Read (List (Node × Node)) := do
  match fuel with
  | 0 => refuse
  | fuel + 1 =>
    if ← take? .flowMappingEnd then return []
    unless first do expect .flowEntry
    if ← take? .flowMappingEnd then return []
    if ← take? .key then
      let key ← readFlowPart fuel [.value, .flowEntry, .flowMappingEnd]
      let value ← if ← take? .value then readFlowPart fuel [.flowEntry, .flowMappingEnd] else pure emptyNode
      return (key, value) :: (← readFlowEntries fuel false)
    let key ← readNode fuel false false
    return (key, emptyNode) :: (← readFlowEntries fuel false)
end

def standardHandles : List (String × String) := [("!", "!"), ("!!", coreTag "")]

def readDirectives : Nat → Bool → List (String × String) → Read (List (String × String))
  | 0, _, _ => refuse
  | fuel + 1, versioned, handles => do
      match ← peek with
      | some (.directive d) =>
          skip
          match d with
          | .version major =>
              if versioned || major ≠ 1 then refuse
              readDirectives fuel true handles
          | .tag handle lead =>
              if (handles.lookup handle).isSome then refuse
              readDirectives fuel versioned ((handle, lead) :: handles)
          | .other => readDirectives fuel versioned handles
      | _ => return handles ++ standardHandles

def isDirective : Option Token → Bool
  | some (.directive _) => true
  | _ => false

def skipEnds : Nat → Read Unit
  | 0 => return
  | fuel + 1 => do
      if ← take? .documentEnd then skipEnds fuel

def readDocument (fuel : Nat) : Read (Option Node) := do
  let next ← peek
  if next = none then return none
  let node ←
    if isDirective next || next = some .documentStart then do
      let handles ← readDirectives fuel false []
      modify fun r => { r with handles }
      expect .documentStart
      let next ← peek
      if isDirective next || next = none || next = some .documentStart || next = some .documentEnd then
        pure emptyNode
      else readNode fuel true false
    else readNode fuel true false
  skipEnds fuel
  if (← peek) ≠ none then refuse
  return some node

def Node.read (text : String) : Except Error (Option Node) := do
  let ts ← tokenize text
  let (node, _) ← (readDocument (4 * ts.length + 8)).run ⟨ts, [], standardHandles⟩
  return node

end WorkflowRuns.Yaml
