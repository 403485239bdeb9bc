import WorkflowRuns.Text.CodePoint
import WorkflowRuns.Value

/-!
Documents: what JSON text says, before it is used.  Their texts and names are code points, of which
values keep the characters only.
-/

namespace WorkflowRuns.Json

open Text

inductive Document
  | null
  | bool (b : Bool)
  | int (n : Int)
  | float (x : Binary64)
  | text (s : List CodePoint)
  | list (items : List Document)
  | record (fields : List (List CodePoint × Document))
  deriving Repr, Inhabited

namespace Document

mutual
def decEq : (a b : Document) → Decidable (a = b)
  | .null, .null => isTrue rfl
  | .bool a, .bool b => if h : a = b then isTrue (h ▸ rfl) else isFalse (by simp [h])
  | .int a, .int b => if h : a = b then isTrue (h ▸ rfl) else isFalse (by simp [h])
  | .float a, .float b => if h : a = b then isTrue (h ▸ rfl) else isFalse (by simp [h])
  | .text a, .text b => if h : a = b then isTrue (h ▸ rfl) else isFalse (by simp [h])
  | .list a, .list b =>
      match decEqItems a b with
      | isTrue h => isTrue (h ▸ rfl)
      | isFalse h => isFalse (by simp [h])
  | .record a, .record b =>
      match decEqFields a b with
      | isTrue h => isTrue (h ▸ rfl)
      | isFalse h => isFalse (by simp [h])
  | .null, .bool _ | .null, .int _ | .null, .float _ | .null, .text _ | .null, .list _ | .null, .record _
  | .bool _, .null | .bool _, .int _ | .bool _, .float _ | .bool _, .text _ | .bool _, .list _
  | .bool _, .record _ | .int _, .null | .int _, .bool _ | .int _, .float _ | .int _, .text _
  | .int _, .list _ | .int _, .record _ | .float _, .null | .float _, .bool _ | .float _, .int _
  | .float _, .text _ | .float _, .list _ | .float _, .record _ | .text _, .null | .text _, .bool _
  | .text _, .int _ | .text _, .float _ | .text _, .list _ | .text _, .record _ | .list _, .null
  | .list _, .bool _ | .list _, .int _ | .list _, .float _ | .list _, .text _ | .list _, .record _
  | .record _, .null | .record _, .bool _ | .record _, .int _ | .record _, .float _
  | .record _, .text _ | .record _, .list _ => isFalse (by simp)

def decEqItems : (a b : List Document) → Decidable (a = b)
  | [], [] => isTrue rfl
  | [], _ :: _ => isFalse (by simp)
  | _ :: _, [] => isFalse (by simp)
  | x :: xs, y :: ys =>
      match decEq x y, decEqItems xs ys with
      | isTrue h, isTrue t => isTrue (by rw [h, t])
      | isFalse h, _ => isFalse (by simp [h])
      | _, isFalse t => isFalse (by simp [t])

def decEqFields : (a b : List (List CodePoint × Document)) → Decidable (a = b)
  | [], [] => isTrue rfl
  | [], _ :: _ => isFalse (by simp)
  | _ :: _, [] => isFalse (by simp)
  | (k, x) :: xs, (l, y) :: ys =>
      match decEq x y, decEqFields xs ys with
      | isTrue h, isTrue t =>
          if e : k = l then isTrue (by rw [e, h, t]) else isFalse (by simp [e])
      | isFalse h, _ => isFalse (by simp [h])
      | _, isFalse t => isFalse (by simp [t])
end

instance : DecidableEq Document := decEq

def isBlank : Document → Bool
  | .null => true
  | .bool b => !b
  | .int n => n = 0
  | .float x => x.isZero
  | .text s => s = []
  | .list items => items.isEmpty
  | .record fields => fields.isEmpty

def field? (d : Document) (name : String) : Option Document :=
  match d with
  | .record fields => fields.lookup (points name)
  | _ => none

mutual
/-- The value of a document.  Its texts are strings, so that halves of characters are lost here. -/
def value : Document → Value
  | .null => .null
  | .bool b => .bool b
  | .int n => .int n
  | .float x => .float x
  | .text s => .text (shown s)
  | .list items => .list (values items)
  | .record fields => .record (Fields.merge (entries fields))

def values : List Document → List Value
  | [] => []
  | item :: items => value item :: values items

def entries : List (List CodePoint × Document) → Fields
  | [] => []
  | (name, content) :: fields => (.name (shown name), value content) :: entries fields
end

end Document

end WorkflowRuns.Json
