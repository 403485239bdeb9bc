import WorkflowRuns.Value
import WorkflowRuns.Binary64.Shortest
import WorkflowRuns.Text.Quoted

/-!
The text of a value in a table cell: plain for a text, and the literal form of anything else.
-/

namespace WorkflowRuns

def Key.literal : Key → String
  | .name s => Text.quoted s
  | .null => "None"
  | .bool b => if b then "True" else "False"
  | .int n => toString n
  | .float x => x.text
  | .foreign _ word => word

namespace Value

mutual
def literal : Value → String
  | .null => "None"
  | .bool b => if b then "True" else "False"
  | .int n => toString n
  | .float x => x.text
  | .text s => Text.quoted s
  | .list items => "[" ++ ", ".intercalate (literalItems items) ++ "]"
  | .record fields => "\x7b" ++ ", ".intercalate (literalFields fields) ++ "\x7d"
  | .foreign _ content => word content

def literalItems : List Value → List String
  | [] => []
  | item :: items => literal item :: literalItems items

def literalFields : List (Key × Value) → List String
  | [] => []
  | (key, value) :: fields => (key.literal ++ ": " ++ literal value) :: literalFields fields
end

def shown : Value → String
  | .text s => s
  | value => value.literal

end Value

end WorkflowRuns
