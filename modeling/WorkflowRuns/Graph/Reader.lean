import WorkflowRuns.Graph
import WorkflowRuns.Schema.Scalar
import WorkflowRuns.Text.Case
import WorkflowRuns.Text.Quoted
import WorkflowRuns.Value.Literal

/-!
Reading graphs and nodes from editor records.  The parameters of a node are checked against the
record of its type, and keys which that record does not declare are kept as extras.
-/

namespace WorkflowRuns

open Schema

namespace Params

def methods : List (String × Method) :=
  [("GET", .get), ("POST", .post), ("PUT", .put), ("PATCH", .patch), ("DELETE", .delete), ("HEAD", .head),
    ("OPTIONS", .options)]

def method : Value → Checked Method
  | .text s => choice methods (.text (Text.upper s))
  | value => choice methods value

def integerOfDigits (s : String) : Checked Int :=
  let (negative, digits) := match s.toList with
    | '-' :: digits => (true, digits)
    | digits => (false, digits)
  let values := digits.map Text.decimalValue?
  let count := (values.takeWhile Option.isSome).length
  if Text.digitLimit < count then fail (.rule (Text.digitLimitMessage count))
  else if digits.isEmpty || count < values.length then
    fail (.rule ("invalid literal for int() with base 10: " ++ Text.quoted s))
  else
    let n : Nat := values.foldl (fun n value => n * 10 + value.getD 0) 0
    .accepted (if negative then -n else n)

/-- A text holds digits only, after any number of minus signs. -/
def isDurationText (s : String) : Bool :=
  let digits := s.toList.dropWhile (· = '-')
  !digits.isEmpty && digits.all Text.isDigit

def durationOfText (s : String) : Checked Int :=
  if s = "" then .accepted 0
  else
    let trimmed := Text.trim s
    if isDurationText trimmed then integerOfDigits trimmed
    else fail (.rule ("Invalid duration: '" ++ trimmed ++ "'"))

/-- Milliseconds, not below zero; null and the empty text stand for zero. -/
def duration (value : Value) : Checked Int :=
  let n : Checked Int := match value with
    | .null => .accepted 0
    | .text s => durationOfText s
    | value => integer value
  n.andThen fun n => if 0 ≤ n then .accepted n else fail (.atLeast 0)

/-- Keys other than the declared names, which must be names themselves. -/
def undeclared (declared : List String) (fields : Fields) : Checked Fields :=
  let extras := fields.filter fun (key, _) => !declared.any fun name => key = .name name
  let unnamed := extras.filterMap fun (key, _) => match key with
    | .name _ => none
    | key => some ⟨[.field key.literal], .keys⟩
  if unnamed.isEmpty then .accepted extras else .refused unnamed

def check (kind : NodeKind) (fields : Fields) : Checked Params :=
  match kind with
  | .manualStart =>
      manualStart <$> defaulted fields "label" "label" none (nullable Schema.text)
        <*> undeclared ["label"] fields
  | .httpRequest =>
      httpRequest <$> defaulted fields "method" "method" .get method
        <*> defaulted fields "url" "url" "" Schema.text
        <*> undeclared ["method", "url"] fields
  | .wait => wait <$> defaulted fields "duration" "duration" 0 duration <*> undeclared ["duration"] fields

def recordName : NodeKind → String
  | .manualStart => "ManualStartParams"
  | .httpRequest => "HttpRequestParams"
  | .wait => "WaitParams"

def checkValue (kind : NodeKind) : Value → Checked Params
  | .record fields => check kind fields
  | _ => fail (.model (recordName kind))

/-- Without a node type any record will do; the faults of all kinds are reported together. -/
def checkAny (value : Value) : Checked Params :=
  let attempt (kind : NodeKind) := (checkValue kind value).under (.field (recordName kind))
  match attempt .manualStart, attempt .httpRequest, attempt .wait with
  | .accepted params, _, _ => .accepted params
  | _, .accepted params, _ => .accepted params
  | _, _, .accepted params => .accepted params
  | .refused a, .refused b, .refused c => .refused (a ++ b ++ c)

/-- What becomes of a mapping that is taken for a record of some kind, whatever the node's type. -/
def checkTaken (taken : NodeKind) (fields : Fields) : Checked Params :=
  match check taken fields with
  | .accepted params => .accepted params
  | .refused _ => checkAny (.record fields)

end Params

/-- The parameters given for a node: a value; a record, whoever made it; or a mapping that is no dictionary, with
the kind whose record the union of all kinds takes it for. -/
inductive GivenParams
  | absent
  | value (value : Value)
  | checked (params : Params)
  | mapping (fields : Fields) (taken : NodeKind)
  deriving Repr

namespace Node

def kinds : List (String × NodeKind) :=
  [("manualStartNode", .manualStart), ("httpRequestNode", .httpRequest), ("waitingNode", .wait)]

def statuses : List (String × NodeStatus) :=
  [("pending", .pending), ("success", .success), ("error", .error), ("skipped", .skipped)]

def nodeId (value : Value) : Checked String :=
  (Schema.text value).andThen fun id =>
    if Text.isAllBlank id then fail (.rule "Node ID must not be empty") else .accepted id

def coordinates : Fields → Checked (List (Key × Binary64))
  | [] => .accepted []
  | (key, value) :: rest =>
      let coordinate := match key with
        | .name name => ((number value).under (.field name)).map fun x => (key, x)
        | key => ((fail .text : Checked (Key × Binary64)).under (.field "[key]")).under (.field key.literal)
      (coordinate.map List.cons).both (coordinates rest)

def checkPosition : Value → Checked (List (Key × Binary64))
  | .record fields => coordinates fields
  | _ => fail .dictionary

def checkData : Value → Checked Fields
  | .record fields => .accepted fields
  | _ => fail .dictionary

def kindOf? (fields : Fields) : Option NodeKind :=
  match Fields.get fields "type" with
  | .text word => kinds.lookup word
  | _ => none

def assemble (fields : Fields) (params : Checked Params) : Checked Node :=
  (fun id _ params position status duration data => Node.mk id params position status duration data)
    <$> required fields "id" "id" nodeId
    <*> required fields "type" "type" (choice kinds)
    <*> params.under (.field "params")
    <*> defaulted fields "position" "position" none (nullable checkPosition)
    <*> defaulted fields "execution_status" "execution_status" .pending (choice statuses)
    <*> defaulted fields "execution_duration" "execution_duration" none (nullable integer)
    <*> defaulted fields "execution_data" "execution_data" none (nullable checkData)

/-- A node of a known type has its parameters checked first, and their faults hide all others.  A record of
another kind is dumped and checked again; one of the node's own kind is not checked at all. -/
def build (fields : Fields) (given : GivenParams) : Checked Node :=
  let checkedAs (kind : NodeKind) (params : Fields) : Checked Node :=
    (Params.check kind params).andThen fun params => assemble fields (.accepted params)
  match kindOf? fields, given with
  | some kind, .absent => checkedAs kind []
  | some kind, .value .null => checkedAs kind []
  | some kind, .value (.record params) => checkedAs kind params
  | some kind, .checked params =>
      if params.kind = kind then assemble fields (.accepted params) else checkedAs kind params.dump
  | none, .absent => assemble fields (fail .missing)
  | none, .checked params => assemble fields (.accepted params)
  | _, .mapping params taken => assemble fields (Params.checkTaken taken params)
  | _, .value value => assemble fields (Params.checkAny value)

def ofValue : Value → Checked Node
  | .record fields =>
      build fields (match Fields.get? fields "params" with
        | some value => .value value
        | none => .absent)
  | _ => fail (.model "Node")

end Node

inductive ExportFault
  | noFields (kind : String)
  | notIterable (kind : String)
  | notMapping (kind : String)
  | unnamedKeyword
  | fields (faults : List Fault)
  deriving DecidableEq, Repr

namespace Node

def ofEditor : Value → Except ExportFault Node
  | .record fields =>
      let data := Fields.get fields "data"
      let params := if data.isBlank then .record [] else data
      ((build [(.name "id", Fields.get fields "id"), (.name "type", Fields.get fields "type"),
        (.name "position", Fields.get fields "position")] (.value params)).toExcept).mapError .fields
  | value => .error (.noFields value.kind)

end Node

namespace Edge

def check (fields : Fields) : Checked Edge :=
  Edge.mk <$> required fields "id" "id" Schema.text
    <*> required fields "source" "source" Schema.text
    <*> required fields "target" "target" Schema.text
    <*> defaulted fields "type" "type" none (nullable Schema.text)

def isNamed : Key × Value → Bool
  | (.name _, _) => true
  | _ => false

def ofEditor : Value → Except ExportFault Edge
  | .record fields =>
      if fields.all isNamed then (check fields).toExcept.mapError .fields else .error .unnamedKeyword
  | value => .error (.notMapping value.kind)

end Edge

namespace Graph

/-- The items of a collection; a text or a record has texts or keys for items. -/
def itemsOf : Value → Except ExportFault (List Value)
  | .list items => .ok items
  | .record fields => .ok (fields.map fun (key, _) => key.value)
  | .foreign kind content =>
      if Value.groupKinds.contains kind then .ok content
      else if kind = "bytes" then .ok ((Value.word content).toList.map fun c => .int c.toNat)
      else .error (.notIterable kind)
  | .text s => .ok (s.toList.map fun c => .text (String.singleton c))
  | value => .error (.notIterable value.kind)

def collection (fields : Fields) (name : String) : Except ExportFault (List Value) :=
  let value := Fields.get fields name
  if value.isBlank then .ok [] else itemsOf value

def ofEditor : Value → Except ExportFault Graph
  | .record fields => do
      let nodes ← (← collection fields "nodes").mapM Node.ofEditor
      let edges ← (← collection fields "edges").mapM Edge.ofEditor
      let id ← (defaulted fields "id" "id" none (nullable Schema.text)).toExcept.mapError .fields
      return ⟨id, nodes, edges⟩
  | value => .error (.noFields value.kind)

end Graph

end WorkflowRuns
