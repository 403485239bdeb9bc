import WorkflowRuns.Binary64.Shortest
import WorkflowRuns.Json.Document
import WorkflowRuns.Text.Encoding

/-!
Writing JSON text, in ASCII: on one line, or with each item on a line of its own.
-/

namespace WorkflowRuns.Json

open Text

def hexDigits : List Char := "0123456789abcdef".toList

def hex4 (n : Nat) : String :=
  String.ofList ([n / 4096, n / 256, n / 16, n].map fun k => hexDigits.getD (k % 16) '0')

/-- Characters outside the basic plane are written as two halves. -/
def escapeUnits (c : Char) : String :=
  let n := c.toNat
  if n < 0x10000 then "\\u" ++ hex4 n
  else "\\u" ++ hex4 (0xd800 + (n - 0x10000) / 1024) ++ "\\u" ++ hex4 (0xdc00 + (n - 0x10000) % 1024)

def escapeChar (c : Char) : String :=
  match c with
  | '"' => "\\\""
  | '\\' => "\\\\"
  | '\n' => "\\n"
  | '\r' => "\\r"
  | '\t' => "\\t"
  | '\x08' => "\\b"
  | '\x0c' => "\\f"
  | c => if 0x20 ≤ c.toNat && c.toNat < 0x7f then String.singleton c else escapeUnits c

def escapePoint : CodePoint → String
  | .char c => escapeChar c
  | .half offset => "\\u" ++ hex4 (0xd800 + offset)

def quote (s : List CodePoint) : String := "\"" ++ String.join (s.map escapePoint) ++ "\""

def floatText : Binary64 → String
  | .nan => "NaN"
  | .infinite negative => if negative then "-Infinity" else "Infinity"
  | x => x.text

def newLine (depth : Nat) : String := "\n" ++ String.ofList (List.replicate (2 * depth) ' ')

def block (opening closing : String) (depth : Nat) (pieces : List String) : String :=
  if pieces.isEmpty then opening ++ closing
  else opening ++ newLine (depth + 1) ++ ("," ++ newLine (depth + 1)).intercalate pieces
    ++ newLine depth ++ closing

namespace Document

mutual
def write : Document → String
  | .null => "null"
  | .bool b => if b then "true" else "false"
  | .int n => toString n
  | .float x => floatText x
  | .text s => quote s
  | .list items => "[" ++ ", ".intercalate (writeItems items) ++ "]"
  | .record fields => "\x7b" ++ ", ".intercalate (writeFields fields) ++ "\x7d"

def writeItems : List Document → List String
  | [] => []
  | item :: items => write item :: writeItems items

def writeFields : List (List CodePoint × Document) → List String
  | [] => []
  | (name, content) :: fields => (quote name ++ ": " ++ write content) :: writeFields fields
end

mutual
def indented (depth : Nat) : Document → String
  | .list items => block "[" "]" depth (indentedItems (depth + 1) items)
  | .record fields => block "\x7b" "\x7d" depth (indentedFields (depth + 1) fields)
  | d => write d

def indentedItems (depth : Nat) : List Document → List String
  | [] => []
  | item :: items => indented depth item :: indentedItems depth items

def indentedFields (depth : Nat) : List (List CodePoint × Document) → List String
  | [] => []
  | (name, content) :: fields => (quote name ++ ": " ++ indented depth content) :: indentedFields depth fields
end

end Document

/-- The text of a scalar of a kind that JSON lacks, where bytes have to be a text in UTF-8. -/
def foreignText (kind word : String) : String :=
  if kind = "bytes" then (textOfBytes? word).getD "" else word

def keyText : Key → String
  | .name s => s
  | .null => "null"
  | .bool b => if b then "true" else "false"
  | .int n => toString n
  | .float x => floatText x
  | .foreign kind word => foreignText kind word

mutual
def documentOf : Value → Document
  | .null => .null
  | .bool b => .bool b
  | .int n => .int n
  | .float x => .float x
  | .text s => .text (points s)
  | .list items => .list (documentsOf items)
  | .record fields => .record (fieldsOf fields)
  | .foreign kind content =>
      if Value.groupKinds.contains kind then .list (documentsOf content)
      else .text (points (foreignText kind (Value.word content)))

def documentsOf : List Value → List Document
  | [] => []
  | item :: items => documentOf item :: documentsOf items

def fieldsOf : List (Key × Value) → List (List CodePoint × Document)
  | [] => []
  | (key, value) :: fields => (points (keyText key), documentOf value) :: fieldsOf fields
end

def write (v : Value) : String := (documentOf v).write

def writeIndented (depth : Nat) (v : Value) : String := (documentOf v).indented depth

end WorkflowRuns.Json
