import WorkflowRuns.Yaml.Node

/-!
The value of YAML text.  Tags decide what a node stands for; an unknown tag has no value.  A merge key
puts the entries of other mappings before those of its own.  A set has its items in the order in which
they first occurred, and where a value contains itself it stands without content.
-/

namespace WorkflowRuns

namespace Key

def number? : Key → Option Rat
  | .bool b => some (if b then 1 else 0)
  | .int n => some n
  | .float x => x.value?
  | _ => none

/-- Keys are the same if they are equal or are equal numbers. -/
def same (a b : Key) : Bool :=
  match a.number?, b.number? with
  | some x, some y => x = y
  | none, none => a = b && a != .float .nan
  | _, _ => false

end Key

namespace Yaml

/-- A key that is present keeps its place and its first form. -/
def putEntry (fields : Fields) (entry : Key × Value) : Fields :=
  if fields.any (·.1.same entry.1) then
    fields.map fun old => if old.1.same entry.1 then (old.1, entry.2) else old
  else fields ++ [entry]

def collect (entries : List (Key × Value)) : Fields := entries.foldl putEntry []

def keyOf : Value → Except Error Key
  | .null => .ok .null
  | .bool b => .ok (.bool b)
  | .int n => .ok (.int n)
  | .float x => .ok (.float x)
  | .text s => .ok (.name s)
  | .foreign kind content =>
      if ["dict", "list", "set"].contains kind then .error .malformed else .ok (.foreign kind (Value.word content))
  | .list _ | .record _ => .error .malformed

def scalarValue (tag text : String) : Except Error Value :=
  if tag = coreTag "str" then .ok (.text text)
  else if tag = coreTag "null" then .ok .null
  else if tag = coreTag "bool" then boolValue text
  else if tag = coreTag "int" then intValue text
  else if tag = coreTag "float" then floatValue text
  else if tag = coreTag "timestamp" then timestampValue text
  else if tag = coreTag "binary" then binaryValue text
  else .error .malformed

def isMerge : Node → Bool
  | .scalar tag _ => tag = coreTag "merge"
  | _ => false

def isDefault : Node → Bool
  | .scalar tag _ => tag = coreTag "value"
  | _ => false

def joined (entries : Except Error (List (Key × Value) × List (Key × Value))) : Except Error Fields :=
  entries.map fun (merged, own) => collect (merged ++ own)

mutual
def construct : Node → Except Error Value
  | .scalar tag text => scalarValue tag text
  | .sequence tag items => do
      if tag = coreTag "seq" then return .list (← constructItems items)
      if tag = coreTag "omap" ∨ tag = coreTag "pairs" then return .list (← constructPairs items)
      throw .malformed
  | .mapping tag entries => do
      let fields ← joined (constructEntries entries)
      if tag = coreTag "map" then return .record fields
      if tag = coreTag "set" then return .foreign "set" (fields.map fun entry => entry.1.value)
      throw .malformed
  | .enclosing kind => .ok (.foreign kind [])

def constructItems : List Node → Except Error (List Value)
  | [] => .ok []
  | item :: rest => do
      let first ← construct item
      let others ← constructItems rest
      return first :: others

/-- Mappings of a single entry, each as the pair of key and value. -/
def constructPairs : List Node → Except Error (List Value)
  | [] => .ok []
  | .mapping _ [(key, value)] :: rest => do
      let first ← construct key
      let second ← construct value
      let others ← constructPairs rest
      return .foreign "tuple" [first, second] :: others
  | _ => .error .malformed

def constructEntries : List (Node × Node) → Except Error (List (Key × Value) × List (Key × Value))
  | [] => .ok ([], [])
  | (key, value) :: rest =>
      if isMerge key then do
        let merged ← mergedEntries value
        let (others, own) ← constructEntries rest
        return (merged ++ others, own)
      else do
        let key ← if isDefault key then pure (Key.name "=") else (construct key).bind keyOf
        let value ← construct value
        let (merged, own) ← constructEntries rest
        return (merged, (key, value) :: own)

/-- What a merge key brings in: the entries of one mapping, or of several, the first of which wins. -/
def mergedEntries : Node → Except Error (List (Key × Value))
  | .mapping _ entries => joined (constructEntries entries)
  | .sequence _ items => mergedItems items
  | _ => .error .malformed

def mergedItems : List Node → Except Error (List (Key × Value))
  | [] => .ok []
  | .mapping _ entries :: rest => do
      let first ← joined (constructEntries entries)
      let others ← mergedItems rest
      return others ++ first
  | _ => .error .malformed
end

def read (text : String) : Except Error Value := do
  match ← Node.read text with
  | some node => construct node
  | none => return .null

end Yaml

end WorkflowRuns
