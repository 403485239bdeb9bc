import WorkflowRuns.Json.Document
import WorkflowRuns.Text.Digits

/-!
Reading JSON text.  Failures carry the text from the offending character on, so that a position is
the length of what was read before it.  Bare `NaN` and `Infinity` are accepted, and of a repeated
key the last value wins at the place of the first.  A document may be nested as deep as its text
allows.
-/

namespace WorkflowRuns.Json

open Text

inductive Problem
  | value
  | propertyName
  | colon
  | comma
  | trailing
  | unterminated
  | controlCharacter
  | escape
  | unicodeEscape
  | byteOrderMark
  | tooManyDigits (count : Nat)
  deriving DecidableEq, Repr

structure Failure where
  problem : Problem
  rest : List CodePoint
  deriving Repr

def isSpace (p : CodePoint) : Bool := p = .char ' ' || p = .char '\t' || p = .char '\n' || p = .char '\r'

def skipSpace (text : List CodePoint) : List CodePoint := text.dropWhile isSpace

def hexDigit? : CodePoint → Option Nat
  | .half _ => none
  | .char c =>
      if isAsciiDigit c then some (c.toNat - '0'.toNat)
      else if 'a' ≤ c && c ≤ 'f' then some (c.toNat - 'a'.toNat + 10)
      else if 'A' ≤ c && c ≤ 'F' then some (c.toNat - 'A'.toNat + 10)
      else none

def hex4? (a b c d : CodePoint) : Option Nat := do
  return (← hexDigit? a) * 4096 + (← hexDigit? b) * 256 + (← hexDigit? c) * 16 + (← hexDigit? d)

def simpleEscape? : CodePoint → Option Char
  | .char '"' => some '"'
  | .char '\\' => some '\\'
  | .char '/' => some '/'
  | .char 'b' => some '\x08'
  | .char 'f' => some '\x0c'
  | .char 'n' => some '\n'
  | .char 'r' => some '\r'
  | .char 't' => some '\t'
  | _ => none

def readUnit : List CodePoint → Option (Nat × List CodePoint)
  | a :: b :: c :: d :: next :: rest => (hex4? a b c d).map (·, next :: rest)
  | _ => none

def readLow : List CodePoint → Option (Nat × List CodePoint)
  | .char '\\' :: .char 'u' :: rest => (readUnit rest).filter (isLowHalf ·.1)
  | _ => none

/-- The code point of an escaped unit; a low half that follows a high one belongs to it. -/
def readEscape (text : List CodePoint) : Option (CodePoint × List CodePoint) :=
  (readUnit text).map fun (unit, rest) =>
    match if isHighHalf unit then readLow rest else none with
    | some (low, rest) => (.char (joinHalves unit low), rest)
    | none => (.ofNat unit, rest)

theorem readUnit_length {text rest : List CodePoint} {unit : Nat} (read : readUnit text = some (unit, rest)) :
    rest.length < text.length := by
  unfold readUnit at read
  split at read
  · obtain ⟨n, _, same⟩ := Option.map_eq_some_iff.mp read
    cases same
    simp only [List.length_cons]
    omega
  · cases read

theorem readLow_length {text rest : List CodePoint} {unit : Nat} (read : readLow text = some (unit, rest)) :
    rest.length < text.length := by
  unfold readLow at read
  split at read
  · have shorter := readUnit_length (Option.filter_eq_some_iff.mp read).1
    simp only [List.length_cons]
    omega
  · cases read

theorem readEscape_length {text rest : List CodePoint} {point : CodePoint}
    (read : readEscape text = some (point, rest)) : rest.length < text.length := by
  obtain ⟨⟨unit, after⟩, first, same⟩ := Option.map_eq_some_iff.mp read
  have shorter := readUnit_length first
  simp only at same
  split at same
  next low later found =>
    cases same
    split at found
    · exact Nat.lt_trans (readLow_length found) shorter
    · cases found
  next =>
    cases same
    exact shorter

def readString (opening done : List CodePoint) (text : List CodePoint) :
    Except Failure (List CodePoint × List CodePoint) :=
  match text with
  | .char '"' :: rest => .ok (done.reverse, rest)
  | .char '\\' :: .char 'u' :: rest =>
      match _h : readEscape rest with
      | none => .error ⟨.unicodeEscape, .char 'u' :: rest⟩
      | some (point, rest) => readString opening (point :: done) rest
  | .char '\\' :: p :: rest =>
      match simpleEscape? p with
      | none => .error ⟨.escape, .char '\\' :: p :: rest⟩
      | some plain => readString opening (.char plain :: done) rest
  | [.char '\\'] => .error ⟨.unterminated, opening⟩
  | p :: rest =>
      if p.code < 0x20 then .error ⟨.controlCharacter, p :: rest⟩
      else readString opening (p :: done) rest
  | [] => .error ⟨.unterminated, opening⟩
termination_by text.length
decreasing_by
  · have shorter := readEscape_length ‹_›
    simp only [List.length_cons]
    omega
  all_goals simp only [List.length_cons]; omega

def readFraction : List Char → Option (List Char × List Char)
  | '.' :: rest =>
      let digits := rest.takeWhile isAsciiDigit
      if digits.isEmpty then none else some (digits, rest.dropWhile isAsciiDigit)
  | _ => none

def readSign : List Char → Bool × List Char
  | '-' :: rest => (true, rest)
  | '+' :: rest => (false, rest)
  | rest => (false, rest)

def readExponent : List Char → Option (Int × List Char)
  | c :: rest =>
      if c = 'e' || c = 'E' then
        let (negative, rest) := readSign rest
        let digits := rest.takeWhile isAsciiDigit
        if digits.isEmpty then none
        else
          let size : Int := natOfDigits digits
          some (if negative then -size else size, rest.dropWhile isAsciiDigit)
      else none
  | [] => none

def readWhole : List Char → Option (List Char × List Char)
  | '0' :: rest => some (['0'], rest)
  | rest =>
      let digits := rest.takeWhile isAsciiDigit
      if digits.isEmpty then none else some (digits, rest.dropWhile isAsciiDigit)

def readMinus : List Char → Bool × List Char
  | '-' :: rest => (true, rest)
  | rest => (false, rest)

def readNumber (text : List Char) : Except Problem (Document × List Char) :=
  let (negative, body) := readMinus text
  match readWhole body with
  | none => .error .value
  | some (whole, rest) =>
      let (fraction, rest, hasFraction) := match readFraction rest with
        | some (digits, rest) => (digits, rest, true)
        | none => ([], rest, false)
      let (exponent, rest, hasExponent) := match readExponent rest with
        | some (exponent, rest) => (exponent, rest, true)
        | none => (0, rest, false)
      if hasFraction || hasExponent then
        .ok (.float (.ofDecimal negative (natOfDigits (whole ++ fraction)) (exponent - fraction.length)), rest)
      else if digitLimit < whole.length then .error (.tooManyDigits whole.length)
      else
        let n : Int := natOfDigits whole
        .ok (.int (if negative then -n else n), rest)

def readWord (word : String) (text : List Char) : Option (List Char) :=
  if word.toList.isPrefixOf text then some (text.drop word.length) else none

def readBare (text : List Char) : Except Problem (Document × List Char) :=
  match readWord "null" text, readWord "true" text, readWord "false" text,
    readWord "NaN" text, readWord "Infinity" text, readWord "-Infinity" text with
  | some rest, _, _, _, _, _ => .ok (.null, rest)
  | _, some rest, _, _, _, _ => .ok (.bool true, rest)
  | _, _, some rest, _, _, _ => .ok (.bool false, rest)
  | _, _, _, some rest, _, _ => .ok (.float .nan, rest)
  | _, _, _, _, some rest, _ => .ok (.float (.infinite false), rest)
  | _, _, _, _, _, some rest => .ok (.float (.infinite true), rest)
  | _, _, _, _, _, _ => readNumber text

def isBare (c : Char) : Bool := c.isAlphanum || c = '-' || c = '+' || c = '.'

def spanBare : List CodePoint → List Char × List CodePoint
  | .char c :: rest => if isBare c then (spanBare rest).map (c :: ·) id else ([], .char c :: rest)
  | rest => ([], rest)

def readFront (text after : List CodePoint) (read : Except Problem (Document × List Char)) :
    Except Failure (Document × List CodePoint) :=
  (read.map fun (d, rest) => (d, rest.map .char ++ after)).mapError (⟨·, text⟩)

def readScalar (text : List CodePoint) : Except Failure (Document × List CodePoint) :=
  match text with
  | .char '"' :: rest => do
      let (s, rest) ← readString text [] rest
      return (.text s, rest)
  | _ =>
      let (bare, after) := spanBare text
      readFront text after (readBare bare)

mutual
/-- `depth` bounds the recursion; an odd number over twice the length of the text is enough. -/
def readValue : Nat → List CodePoint → Except Failure (Document × List CodePoint)
  | 0, text => .error ⟨.value, text⟩
  | depth + 1, text =>
      match text with
      | .char '[' :: rest =>
          match skipSpace rest with
          | .char ']' :: rest => .ok (.list [], rest)
          | rest => do
              let (items, rest) ← readItems depth rest
              return (.list items, rest)
      | .char '\x7b' :: rest =>
          match skipSpace rest with
          | .char '\x7d' :: rest => .ok (.record [], rest)
          | rest => do
              let (fields, rest) ← readMembers depth rest
              return (.record (Fields.merge fields), rest)
      | _ => readScalar text

def readItems : Nat → List CodePoint → Except Failure (List Document × List CodePoint)
  | 0, text => .error ⟨.value, text⟩
  | depth + 1, text => do
      let (item, rest) ← readValue depth text
      match skipSpace rest with
      | .char ']' :: rest => return ([item], rest)
      | .char ',' :: rest => do
          let (items, rest) ← readItems depth (skipSpace rest)
          return (item :: items, rest)
      | rest => throw ⟨.comma, rest⟩

def readMembers : Nat → List CodePoint → Except Failure (List (List CodePoint × Document) × List CodePoint)
  | 0, text => .error ⟨.value, text⟩
  | depth + 1, text =>
      match text with
      | .char '"' :: body => do
          let (name, rest) ← readString text [] body
          match skipSpace rest with
          | .char ':' :: rest => do
              let (content, rest) ← readValue depth (skipSpace rest)
              match skipSpace rest with
              | .char '\x7d' :: rest => return ([(name, content)], rest)
              | .char ',' :: rest => do
                  let (fields, rest) ← readMembers depth (skipSpace rest)
                  return ((name, content) :: fields, rest)
              | rest => throw ⟨.comma, rest⟩
          | rest => throw ⟨.colon, rest⟩
      | _ => .error ⟨.propertyName, text⟩
end

def readAll (text : List CodePoint) : Except Failure Document :=
  match text with
  | .char '\ufeff' :: _ => .error ⟨.byteOrderMark, text⟩
  | _ => do
      let (d, rest) ← readValue (2 * text.length + 1) (skipSpace text)
      match skipSpace rest with
      | [] => return d
      | rest => throw ⟨.trailing, rest⟩

/-- Why a text is not JSON, and where: line and column count from one, the offset from zero. -/
structure SyntaxError where
  problem : Problem
  line : Nat
  column : Nat
  offset : Nat
  deriving DecidableEq, Repr

/-- A text that breaks the grammar, or an integer literal with too many digits. -/
inductive Error
  | grammar (error : SyntaxError)
  | digits (count : Nat)
  deriving DecidableEq, Repr

def locate (text : List CodePoint) (failure : Failure) : Error :=
  match failure.problem with
  | .tooManyDigits count => .digits count
  | problem =>
      let before := text.take (text.length - failure.rest.length)
      let lastLine := before.reverse.takeWhile (· ≠ .char '\n')
      .grammar ⟨problem, before.count (.char '\n') + 1, lastLine.length + 1, before.length⟩

def readDocument (text : List CodePoint) : Except Error Document := (readAll text).mapError (locate text)

def read (text : List CodePoint) : Except Error Value := (readDocument text).map Document.value

def Problem.message : Problem → String
  | .value => "Expecting value"
  | .propertyName => "Expecting property name enclosed in double quotes"
  | .colon => "Expecting ':' delimiter"
  | .comma => "Expecting ',' delimiter"
  | .trailing => "Extra data"
  | .unterminated => "Unterminated string starting at"
  | .controlCharacter => "Invalid control character at"
  | .escape => "Invalid \\escape"
  | .unicodeEscape => "Invalid \\uXXXX escape"
  | .byteOrderMark => "Unexpected UTF-8 BOM (decode using utf-8-sig)"
  | .tooManyDigits _ => ""

def SyntaxError.message (error : SyntaxError) : String :=
  error.problem.message ++ ": line " ++ toString error.line ++ " column " ++ toString error.column
    ++ " (char " ++ toString error.offset ++ ")"

def Error.message : Error → String
  | .grammar error => error.message
  | .digits count => digitLimitMessage count

end WorkflowRuns.Json
