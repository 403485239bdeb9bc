import WorkflowRuns.Graph
import WorkflowRuns.Json.Writer

/-!
The form in which a graph is sent to the service.  Numbers that JSON cannot write become null, and
null parameters are left out; the execution overlay is not sent.  Bytes are sent as the text that they
encode; a refusal of others is not modelled, nor one of halves of characters.
-/

namespace WorkflowRuns

namespace Value

mutual
/-- The value in JSON terms: names for keys, and finite numbers only. -/
def plain : Value → Value
  | .float x => if x.isFinite then .float x else .null
  | .list items => .list (plainItems items)
  | .record fields => .record (plainFields fields)
  | .foreign kind content =>
      if groupKinds.contains kind then .list (plainItems content)
      else .text (Json.foreignText kind (word content))
  | value => value

def plainItems : List Value → List Value
  | [] => []
  | item :: items => plain item :: plainItems items

def plainFields : List (Key × Value) → List (Key × Value)
  | [] => []
  | (key, value) :: fields =>
      (match key with
        | .name s => .name s
        | key => .name (Json.keyText key), plain value) :: plainFields fields
end

end Value

def Params.payload (params : Params) : Value :=
  .record (Value.plainFields (params.dump.filter fun (_, value) => value != .null))

def Node.payload (node : Node) : Value :=
  .record [(.name "id", .text node.id), (.name "type", .text node.kind.word), (.name "data", node.params.payload)]

def Edge.payload (edge : Edge) : Value :=
  .record [(.name "id", .text edge.id), (.name "source", .text edge.source), (.name "target", .text edge.target),
    (.name "type", (edge.style.map Value.text).getD .null)]

def Graph.payload (g : Graph) (runId : String) : Value :=
  .record [(.name "nodes", .list (g.nodes.map Node.payload)), (.name "edges", .list (g.edges.map Edge.payload)),
    (.name "id", .text runId)]

end WorkflowRuns
