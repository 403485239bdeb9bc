import WorkflowRuns.Binary64

/-!
Document values, as they are read from JSON or YAML text.  Records keep the order in which their
keys first occurred, and integers are distinct from numbers with a binary64 value.
-/

namespace WorkflowRuns

/-- A record key.  JSON has names only; a YAML mapping may use other scalars. -/
inductive Key
  | name (text : String)
  | null
  | bool (b : Bool)
  | int (n : Int)
  | float (x : Binary64)
  | foreign (kind text : String)
  deriving DecidableEq, Repr, Inhabited

instance : Coe String Key := ⟨.name⟩

/-- `foreign` stands for a value of a kind that JSON lacks: a scalar, such as a date, by its text, and a set or a
tuple by its items.  Bytes are a text of characters with their numbers. -/
inductive Value
  | null
  | bool (b : Bool)
  | int (n : Int)
  | float (x : Binary64)
  | text (s : String)
  | list (items : List Value)
  | record (fields : List (Key × Value))
  | foreign (kind : String) (content : List Value)
  deriving Repr, Inhabited

abbrev Fields := List (Key × Value)

def Key.value : Key → Value
  | .name s => .text s
  | .null => .null
  | .bool b => .bool b
  | .int n => .int n
  | .float x => .float x
  | .foreign kind word => .foreign kind [.text word]

namespace Value

mutual
def decEq : (a b : Value) → Decidable (a = b)
  | .null, .null => isTrue rfl
  | .bool a, .bool b => if h : a = b then isTrue (h ▸ rfl) else isFalse (by simp [h])
  | .int a, .int b => if h : a = b then isTrue (h ▸ rfl) else isFalse (by simp [h])
  | .float a, .float b => if h : a = b then isTrue (h ▸ rfl) else isFalse (by simp [h])
  | .text a, .text b => if h : a = b then isTrue (h ▸ rfl) else isFalse (by simp [h])
  | .list a, .list b =>
      match decEqItems a b with
      | isTrue h => isTrue (h ▸ rfl)
      | isFalse h => isFalse (by simp [h])
  | .record a, .record b =>
      match decEqFields a b with
      | isTrue h => isTrue (h ▸ rfl)
      | isFalse h => isFalse (by simp [h])
  | .foreign a s, .foreign b t =>
      match decEqItems s t with
      | isTrue h => if e : a = b then isTrue (by rw [h, e]) else isFalse (by simp [e])
      | isFalse h => isFalse (by simp [h])
  | .null, .bool _ | .null, .int _ | .null, .float _ | .null, .text _ | .null, .list _
  | .null, .record _ | .null, .foreign .. | .bool _, .null | .bool _, .int _ | .bool _, .float _
  | .bool _, .text _ | .bool _, .list _ | .bool _, .record _ | .bool _, .foreign .. | .int _, .null
  | .int _, .bool _ | .int _, .float _ | .int _, .text _ | .int _, .list _ | .int _, .record _
  | .int _, .foreign .. | .float _, .null | .float _, .bool _ | .float _, .int _
  | .float _, .text _ | .float _, .list _ | .float _, .record _ | .float _, .foreign ..
  | .text _, .null | .text _, .bool _ | .text _, .int _ | .text _, .float _ | .text _, .list _
  | .text _, .record _ | .text _, .foreign .. | .list _, .null | .list _, .bool _ | .list _, .int _
  | .list _, .float _ | .list _, .text _ | .list _, .record _ | .list _, .foreign ..
  | .record _, .null | .record _, .bool _ | .record _, .int _ | .record _, .float _
  | .record _, .text _ | .record _, .list _ | .record _, .foreign .. | .foreign .., .null
  | .foreign .., .bool _ | .foreign .., .int _ | .foreign .., .float _ | .foreign .., .text _
  | .foreign .., .list _ | .foreign .., .record _ => isFalse (by simp)

def decEqItems : (a b : List Value) → Decidable (a = b)
  | [], [] => isTrue rfl
  | [], _ :: _ => isFalse (by simp)
  | _ :: _, [] => isFalse (by simp)
  | x :: xs, y :: ys =>
      match decEq x y, decEqItems xs ys with
      | isTrue h, isTrue t => isTrue (by rw [h, t])
      | isFalse h, _ => isFalse (by simp [h])
      | _, isFalse t => isFalse (by simp [t])

def decEqFields : (a b : List (Key × Value)) → Decidable (a = b)
  | [], [] => isTrue rfl
  | [], _ :: _ => isFalse (by simp)
  | _ :: _, [] => isFalse (by simp)
  | (k, x) :: xs, (l, y) :: ys =>
      match decEq x y, decEqFields xs ys with
      | isTrue h, isTrue t =>
          if e : k = l then isTrue (by rw [e, h, t]) else isFalse (by simp [e])
      | isFalse h, _ => isFalse (by simp [h])
      | _, isFalse t => isFalse (by simp [t])
end

instance : DecidableEq Value := decEq

def kind : Value → String
  | .null => "NoneType"
  | .bool _ => "bool"
  | .int _ => "int"
  | .float _ => "float"
  | .text _ => "str"
  | .list _ => "list"
  | .record _ => "dict"
  | .foreign kind _ => kind

/-- The text that stands for a scalar of another kind. -/
def word : List Value → String
  | [.text s] => s
  | _ => ""

def groupKinds : List String := ["set", "tuple"]

/-- Empty values, zeros and null count as absent where a default applies. -/
def isBlank : Value → Bool
  | .null => true
  | .bool b => !b
  | .int n => n = 0
  | .float x => x.isZero
  | .text s => s = ""
  | .list items => items.isEmpty
  | .record fields => fields.isEmpty
  | .foreign kind content => (kind = "set" && content.isEmpty) || (kind = "bytes" && word content = "")

end Value

namespace Fields

def get? (fields : Fields) (name : String) : Option Value :=
  fields.lookup (.name name)

def get (fields : Fields) (name : String) : Value :=
  (get? fields name).getD .null

/-- A key that is present keeps its place and takes the new value; a new key goes to the end. -/
def put {κ α : Type} [DecidableEq κ] (fields : List (κ × α)) (key : κ) (value : α) : List (κ × α) :=
  if fields.any (·.1 = key) then
    fields.map fun entry => if entry.1 = key then (key, value) else entry
  else fields ++ [(key, value)]

/-- Of a repeated key the last value wins, at the place of the first. -/
def merge {κ α : Type} [DecidableEq κ] (entries : List (κ × α)) : List (κ × α) :=
  entries.foldl (fun fields (key, value) => put fields key value) []

end Fields

end WorkflowRuns
