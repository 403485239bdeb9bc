import WorkflowRuns.Text.Case
import WorkflowRuns.Text.Digits
import WorkflowRuns.Url.Encoded
import WorkflowRuns.Url.Punycode

/-!
Host names and addresses.
-/

namespace WorkflowRuns.Host

inductive Fault
  | address4 (host : String)
  | address6 (host : String)
  deriving DecidableEq, Repr

/-- Four runs of digits with one character between two of them. -/
def looksNumeric : Nat → Bool → List Char → Bool
  | runs, started, [] => started && runs = 0
  | runs, started, c :: rest =>
      (Text.isAsciiDigit c && looksNumeric runs true rest)
        || (started && 0 < runs && looksNumeric (runs - 1) false rest)

def isOctet (text : List Char) : Bool :=
  !text.isEmpty && text.length ≤ 3 && text.all Text.isAsciiDigit && Text.natOfDigits text < 256
    && (text.length = 1 || text.head? ≠ some '0')

def parts (mark : Char) : List Char → List (List Char)
  | [] => [[]]
  | c :: rest =>
      if c = mark then [] :: parts mark rest
      else match parts mark rest with
        | first :: others => (c :: first) :: others
        | [] => [[c]]

def isAddress4 (text : List Char) : Bool :=
  let octets := parts '.' text
  octets.length = 4 && octets.all isOctet

def isHexDigit (c : Char) : Bool :=
  Text.isAsciiDigit c || ('a' ≤ c && c ≤ 'f') || ('A' ≤ c && c ≤ 'F')

def isHextet (text : List Char) : Bool := text.length ≤ 4 && !text.isEmpty && text.all isHexDigit

/-- Hextets, of which the last two may be written as an address of four octets. -/
def hextetCount (groups : List (List Char)) : Option Nat :=
  match groups.getLast? with
  | none => some 0
  | some last =>
      if isAddress4 last && groups.dropLast.all isHextet then some (groups.length + 1)
      else if groups.all isHextet then some groups.length
      else none

def countBefore (groups : List (List Char)) : Option Nat :=
  if groups = [[]] then some 0 else if groups.all isHextet then some groups.length else none

def countAfter (groups : List (List Char)) : Option Nat :=
  if groups = [[]] then some 0 else hextetCount groups

def splitGap : List Char → Option (List Char × List Char)
  | ':' :: ':' :: rest => some ([], rest)
  | c :: rest => (splitGap rest).map fun (before, after) => (c :: before, after)
  | [] => none

def isAddress6 (text : List Char) : Bool :=
  let address := text.takeWhile (· ≠ '%')
  let zone := text.dropWhile (· ≠ '%')
  let zoneFits := zone.isEmpty || (1 < zone.length && !zone.tail.contains '%')
  let addressFits := match splitGap address with
    | none => hextetCount (parts ':' address) = some 8
    | some (before, after) =>
        match countBefore (parts ':' before), countAfter (parts ':' after) with
        | some n, some m => n + m < 8
        | _, _ => false
  zoneFits && addressFits

def isPlainMark (c : Char) : Bool := "!$&'()*+,;=\"`\x7b\x7d%|\\".contains c

/-- A label that is not ASCII is written in Punycode. -/
def label (text : List Char) : List Char :=
  if text.all (·.toNat < 128) then text else "xn--".toList ++ Punycode.encode text

def normalize (host : String) : Except Fault String :=
  let chars := host.toList
  if looksNumeric 3 false chars then
    if isAddress4 chars then .ok host else .error (.address4 host)
  else match chars with
    | '[' :: rest =>
        if rest.getLast? = some ']' then
          if isAddress6 rest.dropLast then .ok (String.ofList rest.dropLast) else .error (.address6 host)
        else .ok (percentEncode (fun c => isUnreserved c || isPlainMark c) (Text.lower host))
    | _ =>
        let name := Text.lower host
        if name.toList.all (·.toNat < 128) then
          .ok (percentEncode (fun c => isUnreserved c || isPlainMark c) name)
        else .ok (String.ofList (List.intercalate ['.'] ((parts '.' name.toList).map label)))

end WorkflowRuns.Host
