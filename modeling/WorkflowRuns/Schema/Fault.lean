/-!
What can be wrong with a field of a record, where, and the wording of it.
-/

namespace WorkflowRuns.Schema

inductive Place
  | field (name : String)
  | item (index : Nat)
  deriving DecidableEq, Repr

inductive Problem
  | missing
  | text
  | unicode
  | integer
  | integerText
  | fractional
  | notFinite
  | integerSize
  | number
  | numberText
  | boolean
  | booleanText
  | list
  | dictionary
  | model (name : String)
  | choice (options : List String)
  | above (bound : Nat)
  | atLeast (bound : Nat)
  | atMost (bound : Nat)
  | keys
  | rule (words : String)
  deriving DecidableEq, Repr

structure Fault where
  path : List Place
  problem : Problem
  deriving DecidableEq, Repr

def Place.text : Place → String
  | .field name => name
  | .item index => toString index

def alternatives : List String → String
  | [] => ""
  | [only] => "'" ++ only ++ "'"
  | [first, last] => "'" ++ first ++ "' or '" ++ last ++ "'"
  | first :: rest => "'" ++ first ++ "', " ++ alternatives rest

def Problem.message : Problem → String
  | .missing => "Field required"
  | .text => "Input should be a valid string"
  | .unicode => "Input should be a valid string, unable to parse raw data as a unicode string"
  | .integer => "Input should be a valid integer"
  | .integerText => "Input should be a valid integer, unable to parse string as an integer"
  | .fractional => "Input should be a valid integer, got a number with a fractional part"
  | .notFinite => "Input should be a finite number"
  | .integerSize => "Unable to parse input string as an integer, exceeded maximum size"
  | .number => "Input should be a valid number"
  | .numberText => "Input should be a valid number, unable to parse string as a number"
  | .boolean => "Input should be a valid boolean"
  | .booleanText => "Input should be a valid boolean, unable to interpret input"
  | .list => "Input should be a valid list"
  | .dictionary => "Input should be a valid dictionary"
  | .model name => "Input should be a valid dictionary or instance of " ++ name
  | .choice options => "Input should be " ++ alternatives options
  | .above bound => "Input should be greater than " ++ toString bound
  | .atLeast bound => "Input should be greater than or equal to " ++ toString bound
  | .atMost bound => "Input should be less than or equal to " ++ toString bound
  | .keys => "Keys should be strings"
  | .rule words => "Value error, " ++ words

def Fault.location (fault : Fault) : String := ".".intercalate (fault.path.map Place.text)

def Fault.message (fault : Fault) : String :=
  (if fault.path.isEmpty then "<root>" else fault.location) ++ ": " ++ fault.problem.message

def describe (faults : List Fault) : String := "; ".intercalate (faults.map Fault.message)

end WorkflowRuns.Schema
