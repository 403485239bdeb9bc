/-!
Texts as code points.  Besides characters there are the two halves by which UTF-16 spells a character
outside the basic plane; in a document either of them may stand alone.
-/

namespace WorkflowRuns.Text

/-- A half is counted from U+D800 on: first the high ones, then the low ones. -/
inductive CodePoint
  | char (c : Char)
  | half (offset : Fin 2048)
  deriving DecidableEq, Repr

namespace CodePoint

def code : CodePoint → Nat
  | .char c => c.toNat
  | .half offset => 0xd800 + offset

def ofNat (n : Nat) : CodePoint :=
  if h : 0xd800 ≤ n ∧ n < 0xe000 then .half ⟨n - 0xd800, by omega⟩ else .char (.ofNat n)

def shown : CodePoint → Char
  | .char c => c
  | .half _ => '\ufffd'

end CodePoint

def isHighHalf (n : Nat) : Bool := 0xd800 ≤ n && n < 0xdc00
def isLowHalf (n : Nat) : Bool := 0xdc00 ≤ n && n < 0xe000

def joinHalves (high low : Nat) : Char :=
  .ofNat (0x10000 + (high - 0xd800) * 1024 + (low - 0xdc00))

def points (s : String) : List CodePoint := s.toList.map .char

/-- The text as characters; this is where halves are lost. -/
def shown (text : List CodePoint) : String := String.ofList (text.map CodePoint.shown)

instance : Coe String (List CodePoint) := ⟨points⟩

end WorkflowRuns.Text
