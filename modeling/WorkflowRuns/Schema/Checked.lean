import WorkflowRuns.Schema.Fault
import WorkflowRuns.Text.Encoding
import WorkflowRuns.Value

/-!
Checking records field by field.  Faults of all fields are collected, in the order of the fields.  Bytes
are taken for texts, but not for one of several words.
-/

namespace WorkflowRuns.Schema

inductive Checked (α : Type)
  | accepted (value : α)
  | refused (faults : List Fault)
  deriving DecidableEq, Repr

namespace Checked

variable {α β : Type}

def map (f : α → β) : Checked α → Checked β
  | .accepted a => .accepted (f a)
  | .refused faults => .refused faults

/-- Faults of both sides, the left ones first. -/
def both (f : Checked (α → β)) (x : Checked α) : Checked β :=
  match f, x with
  | .accepted f, .accepted a => .accepted (f a)
  | .accepted _, .refused faults => .refused faults
  | .refused faults, .accepted _ => .refused faults
  | .refused faults, .refused more => .refused (faults ++ more)

instance : Applicative Checked where
  pure := .accepted
  map := map
  seq f x := both f (x ())

def andThen (x : Checked α) (f : α → Checked β) : Checked β :=
  match x with
  | .accepted a => f a
  | .refused faults => .refused faults

def under (place : Place) : Checked α → Checked α
  | .accepted a => .accepted a
  | .refused faults => .refused (faults.map fun fault => { fault with path := place :: fault.path })

def toExcept : Checked α → Except (List Fault) α
  | .accepted a => .ok a
  | .refused faults => .error faults

end Checked

variable {α : Type}

def fail (problem : Problem) : Checked α := .refused [⟨[], problem⟩]

/-- The value of a field under its wire name, or else under its plain name. -/
def find? (fields : Fields) (wire plain : String) : Option (String × Value) :=
  match Fields.get? fields wire with
  | some value => some (wire, value)
  | none => (Fields.get? fields plain).map (plain, ·)

def required (fields : Fields) (wire plain : String) (check : Value → Checked α) : Checked α :=
  match find? fields wire plain with
  | some (name, value) => (check value).under (.field name)
  | none => (fail .missing).under (.field wire)

def defaulted (fields : Fields) (wire plain : String) (absent : α) (check : Value → Checked α) : Checked α :=
  match find? fields wire plain with
  | some (name, value) => (check value).under (.field name)
  | none => .accepted absent

def nullable (check : Value → Checked α) : Value → Checked (Option α)
  | .null => .accepted none
  | value => (check value).map some

def items (check : Value → Checked α) : Nat → List Value → Checked (List α)
  | _, [] => .accepted []
  | index, value :: rest =>
      ((check value).under (.item index) |>.map List.cons).both (items check (index + 1) rest)

def listOf (check : Value → Checked α) : Value → Checked (List α)
  | .list values => items check 0 values
  | _ => fail .list

def choice (options : List (String × α)) : Value → Checked α
  | .text s =>
      match options.lookup s with
      | some a => .accepted a
      | none => fail (.choice (options.map (·.1)))
  | _ => fail (.choice (options.map (·.1)))

def anything : Value → Checked Value := .accepted

/-- Bytes are read as the text that they encode. -/
def encoded (unread wrong : Problem) (read : String → Checked α) (kind : String) (content : List Value) : Checked α :=
  if kind = "bytes" then
    match Text.textOfBytes? (Value.word content) with
    | some s => read s
    | none => fail unread
  else fail wrong

def text : Value → Checked String
  | .text s => .accepted s
  | .foreign kind content => encoded .unicode .text .accepted kind content
  | _ => fail .text

end WorkflowRuns.Schema
