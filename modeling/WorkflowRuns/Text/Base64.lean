import WorkflowRuns.Text.Digits

/-!
Base 64: every character of the alphabet stands for six bits, and eight bits make a byte.
-/

namespace WorkflowRuns.Text

def sextet? (c : Char) : Option Nat :=
  if 'A' ≤ c && c ≤ 'Z' then some (c.toNat - 65)
  else if 'a' ≤ c && c ≤ 'z' then some (c.toNat - 71)
  else if isAsciiDigit c then some (c.toNat + 4)
  else if c = '+' then some 62
  else if c = '/' then some 63
  else none

/-- The bytes that `count` held bits and further sextets make; bits that fill no byte are dropped. -/
def bytesOfSextets (held count : Nat) : List Nat → List UInt8
  | [] => []
  | sextet :: rest =>
      let bits := held * 64 + sextet
      if 2 ≤ count then
        let left := count - 2
        UInt8.ofNat (bits / Nat.pow 2 left) :: bytesOfSextets (bits % Nat.pow 2 left) left rest
      else bytesOfSextets bits (count + 6) rest

def decodeBase64 (s : String) : List UInt8 := bytesOfSextets 0 0 (s.toList.filterMap sextet?)

/-- The bytes of a text whose last sextets are filled up to four by equals signs, `marks` of which were met; what
follows the last one that is needed is passed over. -/
def paddedBytes? (held count marks : Nat) : List Char → Option (List UInt8)
  | [] => if count = 0 then some [] else none
  | c :: rest =>
      match sextet? c with
      | some sextet =>
          let bits := held * 64 + sextet
          if 2 ≤ count then
            let left := count - 2
            (paddedBytes? (bits % Nat.pow 2 left) left 0 rest).map (UInt8.ofNat (bits / Nat.pow 2 left) :: ·)
          else paddedBytes? bits (count + 6) 0 rest
      | none =>
          if c = '=' ∧ (count = 2 ∨ count = 4) then
            if count ≤ 2 * (marks + 1) then some [] else paddedBytes? held count (marks + 1) rest
          else paddedBytes? held count marks rest

end WorkflowRuns.Text
