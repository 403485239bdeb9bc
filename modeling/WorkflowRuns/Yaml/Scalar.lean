import WorkflowRuns.Binary64.Shortest
import WorkflowRuns.Text.Base64
import WorkflowRuns.Text.Case
import WorkflowRuns.Text.Number
import WorkflowRuns.Text.Quoted
import WorkflowRuns.Value
import WorkflowRuns.Yaml.Cursor

/-!
Plain scalars that stand for nulls, truth values, numbers and times: their forms, and their values.
A base of sixty is written with colons between the places.
-/

namespace WorkflowRuns.Yaml

open Text (isAsciiDigit natOfDigits)

inductive ScalarKind
  | null
  | bool
  | int
  | float
  | timestamp
  | merge
  | default
  | text
  deriving DecidableEq, Repr

def trueWords : List String := ["yes", "true", "on"]
def falseWords : List String := ["no", "false", "off"]

def inThreeCases (word : String) : List String :=
  let capital := match word.toList with
    | c :: rest => String.ofList (Text.upperAscii c :: rest)
    | [] => ""
  [word, capital, Text.upper word]

def boolWords : List String := (trueWords ++ falseWords).flatMap inThreeCases

def nullWords : List String := ["~", "null", "Null", "NULL", ""]

def unsigned (text : List Char) : List Char := (Text.signed text).2

def isGrouped (c : Char) : Bool := isAsciiDigit c || c = '_'

def isOctal (c : Char) : Bool := ('0' ≤ c && c ≤ '7') || c = '_'

def isHex (c : Char) : Bool :=
  isGrouped c || ('a' ≤ c && c ≤ 'f') || ('A' ≤ c && c ≤ 'F')

def splitAt (mark : Char) : List Char → List (List Char)
  | [] => [[]]
  | c :: rest =>
      if c = mark then [] :: splitAt mark rest
      else match splitAt mark rest with
        | first :: others => (c :: first) :: others
        | [] => [[c]]

/-- A place in base sixty: one digit, or two of which the first is at most five. -/
def isSixtieth : List Char → Bool
  | [c] => isAsciiDigit c
  | [a, b] => '0' ≤ a && a ≤ '5' && isAsciiDigit b
  | _ => false

def startsWithDigit (least : Char) : List Char → Bool
  | c :: _ => least ≤ c && c ≤ '9'
  | [] => false

def isSexagesimal (least : Char) (text : List Char) : Bool :=
  match splitAt ':' text with
  | first :: second :: rest =>
      startsWithDigit least first && first.all isGrouped && (second :: rest).all isSixtieth
  | _ => false

def isInt (text : List Char) : Bool :=
  let body := unsigned text
  match body with
  | '0' :: 'b' :: digits => !digits.isEmpty && digits.all fun c => c = '0' || c = '1' || c = '_'
  | '0' :: 'x' :: digits => !digits.isEmpty && digits.all isHex
  | '0' :: digits => digits.all isOctal
  | _ => (startsWithDigit '1' body && body.all isGrouped) || isSexagesimal '1' body

def isExponent : List Char → Bool
  | [] => true
  | mark :: sign :: digits =>
      (mark = 'e' || mark = 'E') && (sign = '+' || sign = '-') && !digits.isEmpty && digits.all isAsciiDigit
  | _ => false

def isFractionPart (text : List Char) : Bool := isExponent (text.dropWhile isGrouped)

def isFloat (text : List Char) : Bool :=
  let body := unsigned text
  let whole := body.takeWhile (· ≠ '.')
  match body.dropWhile (· ≠ '.') with
  | [] => false
  | _ :: fraction =>
      if whole.isEmpty then
        (body = text && startsWithDigit '0' fraction && isFractionPart fraction)
          || [".inf", ".Inf", ".INF"].contains (String.ofList body)
          || [".nan", ".NaN", ".NAN"].contains (String.ofList text)
      else
        (startsWithDigit '0' whole && whole.all isGrouped && isFractionPart fraction)
          || (isSexagesimal '0' whole && fraction.all isGrouped)

structure Timestamp where
  year : Nat
  month : Nat
  day : Nat
  time : Option (Nat × Nat × Nat × List Char)
  /-- Minutes from the zero meridian. -/
  zone : Option Int
  /-- Month and day have two digits each, so that the date may stand alone. -/
  full : Bool
  deriving Repr

def readDigits (least most : Nat) (text : List Char) : Option (Nat × Nat × List Char) :=
  let digits := (text.take most).takeWhile isAsciiDigit
  if digits.length < least then none
  else some (natOfDigits digits, digits.length, text.drop digits.length)

def readMark (mark : Char) : List Char → Option (List Char)
  | c :: rest => if c = mark then some rest else none
  | [] => none

def skipSpaces (text : List Char) : List Char := text.dropWhile fun c => c = ' ' || c = '\t'

def readZone (text : List Char) : Option (Option Int) :=
  if text.isEmpty then some none
  else match skipSpaces text with
    | ['Z'] => some (some 0)
    | sign :: rest =>
        if sign ≠ '+' ∧ sign ≠ '-' then none
        else do
          let (hours, _, rest) ← readDigits 1 2 rest
          let minutes ← if rest.isEmpty then some 0 else do
            let (minutes, _, rest) ← readDigits 2 2 (← readMark ':' rest)
            if rest.isEmpty then some minutes else none
          let offset : Int := hours * 60 + minutes
          return some (if sign = '-' then -offset else offset)
    | [] => none

def readTime (text : List Char) : Option ((Nat × Nat × Nat × List Char) × Option Int) := do
  let (hour, _, rest) ← readDigits 1 2 text
  let (minute, _, rest) ← readDigits 2 2 (← readMark ':' rest)
  let (second, _, rest) ← readDigits 2 2 (← readMark ':' rest)
  let (fraction, rest) := match rest with
    | '.' :: rest => (rest.takeWhile isAsciiDigit, rest.dropWhile isAsciiDigit)
    | rest => ([], rest)
  return ((hour, minute, second, fraction), ← readZone rest)

def readTimestamp (text : List Char) : Option Timestamp := do
  let (year, _, rest) ← readDigits 4 4 text
  let (month, monthWidth, rest) ← readDigits 1 2 (← readMark '-' rest)
  let (day, dayWidth, rest) ← readDigits 1 2 (← readMark '-' rest)
  let full := monthWidth = 2 && dayWidth = 2
  match rest with
  | [] => return ⟨year, month, day, none, none, full⟩
  | c :: after =>
      let clock ← if c = 't' ∨ c = 'T' then some after else if c = ' ' ∨ c = '\t' then some (skipSpaces rest) else none
      let (time, zone) ← readTime clock
      return ⟨year, month, day, some time, zone, full⟩

def isTimestamp (text : List Char) : Bool :=
  match readTimestamp text with
  | some t => t.time.isSome || t.full
  | none => false

def kindOf (text : String) : ScalarKind :=
  let chars := text.toList
  if boolWords.contains text then .bool
  else if isFloat chars then .float
  else if isInt chars then .int
  else if text = "<<" then .merge
  else if nullWords.contains text then .null
  else if isTimestamp chars then .timestamp
  else if text = "=" then .default
  else .text

def boolValue (text : String) : Except Error Value :=
  let word := Text.lower text
  if trueWords.contains word then .ok (.bool true)
  else if falseWords.contains word then .ok (.bool false)
  else .error .unknownWord

def ungrouped (text : String) : List Char := text.toList.filter (· ≠ '_')

def digitValue (c : Char) : Nat :=
  if isAsciiDigit c then c.toNat - 48 else (Text.lowerAscii c).toNat - 87

def isDigitOf (base : Nat) (c : Char) : Bool :=
  (isAsciiDigit c || ('a' ≤ Text.lowerAscii c && Text.lowerAscii c ≤ 'z')) && digitValue c < base

/-- A number in a base; only decimal ones are limited in length. -/
def natInBase (base : Nat) (digits : List Char) : Except Error Nat :=
  if digits.isEmpty || !digits.all (isDigitOf base) then
    .error (.badValue ("invalid literal for int() with base " ++ toString base ++ ": "
      ++ Text.quoted (String.ofList digits)))
  else if base = 10 && Text.digitLimit < digits.length then
    .error (.badValue (Text.digitLimitMessage digits.length))
  else .ok (digits.foldl (fun n c => n * base + digitValue c) 0)

def sexagesimal (places : List Nat) : Nat := places.foldl (fun n place => n * 60 + place) 0

def magnitudeOf : List Char → Except Error Nat
  | ['0'] => .ok 0
  | '0' :: 'b' :: digits => natInBase 2 digits
  | '0' :: 'x' :: digits => natInBase 16 digits
  | '0' :: digits => natInBase 8 ('0' :: digits)
  | text =>
      if text.contains ':' then do
        let places ← (splitAt ':' text).mapM (natInBase 10)
        return sexagesimal places
      else natInBase 10 text

def intValue (text : String) : Except Error Value :=
  match ungrouped text with
  | [] => .error .emptyNumber
  | sign :: rest => do
      let body := unsigned (sign :: rest)
      if body.isEmpty then throw .emptyNumber
      let n ← magnitudeOf body
      return .int (if sign = '-' then -(n : Int) else n)

def decimalValue (text : List Char) : Except Error Binary64 :=
  match Text.plainNumber? (Text.trimWith Text.isWhiteSpace text) with
  | some x => .ok x
  | none => .error (.badValue ("could not convert string to float: " ++ Text.quoted (String.ofList text)))

/-- Places in base sixty, the last first, each step rounded. -/
def sexagesimalFloat (places : List Binary64) : Binary64 :=
  (places.reverse.foldl (fun (sum, base) place =>
    (sum.add (place.mul (.ofInt (base : Nat))), base * 60)) (Binary64.zero, 1)).1

def floatValue (text : String) : Except Error Value :=
  match (ungrouped text).map Text.lowerAscii with
  | [] => .error .emptyNumber
  | sign :: rest => do
      let body := unsigned (sign :: rest)
      let x ← if body = ".inf".toList then .ok (.infinite false)
        else if body = ".nan".toList then .ok .nan
        else if body.contains ':' then (splitAt ':' body).mapM decimalValue |>.map sexagesimalFloat
        else decimalValue body
      return .float (if sign = '-' then x.neg else x)

def isLeapYear (year : Nat) : Bool := year % 4 = 0 && (year % 100 ≠ 0 || year % 400 = 0)

def daysInMonth (year month : Nat) : Nat :=
  if month = 2 then (if isLeapYear year then 29 else 28)
  else if [4, 6, 9, 11].contains month then 30 else 31

def padded (width n : Nat) : String :=
  let digits := toString n
  String.ofList (List.replicate (width - digits.length) '0') ++ digits

def dateFault (t : Timestamp) : Option String :=
  if t.year = 0 then some "year 0 is out of range"
  else if t.month = 0 ∨ 12 < t.month then some "month must be in 1..12"
  else if t.day = 0 ∨ daysInMonth t.year t.month < t.day then some "day is out of range for month"
  else none

def timeFault (hour minute second : Nat) : Option String :=
  if 23 < hour then some "hour must be in 0..23"
  else if 59 < minute then some "minute must be in 0..59"
  else if 59 < second then some "second must be in 0..59"
  else none

def zoneText : Option Int → String
  | none => ""
  | some offset =>
      if offset = 0 then "Z"
      else (if offset < 0 then "-" else "+") ++ padded 2 (offset.natAbs / 60) ++ ":" ++ padded 2 (offset.natAbs % 60)

def dayMinutes : Int := 1440

/-- A zone has to be less than a day off; the offset is given in days and seconds. -/
def zoneFault : Option Int → Option String
  | none => none
  | some offset =>
      if offset.natAbs < 1440 then none
      else
        let seconds := offset % dayMinutes * 60
        some ("offset must be a timedelta strictly between -timedelta(hours=24) and timedelta(hours=24), "
          ++ "not datetime.timedelta(days=" ++ toString (offset / dayMinutes)
          ++ (if seconds = 0 then "" else ", seconds=" ++ toString seconds) ++ ")")

def microseconds (fraction : List Char) : Nat :=
  natOfDigits (fraction.take 6 ++ List.replicate (6 - fraction.length) '0')

def timestampValue (text : String) : Except Error Value :=
  match readTimestamp text.toList with
  | none => .error .noTimestamp
  | some t =>
      let date := padded 4 t.year ++ "-" ++ padded 2 t.month ++ "-" ++ padded 2 t.day
      match t.time with
      | none =>
          match dateFault t with
          | some words => .error (.badValue words)
          | none => .ok (.foreign "date" [.text date])
      | some (hour, minute, second, fraction) =>
          match (zoneFault t.zone).or ((dateFault t).or (timeFault hour minute second)) with
          | some words => .error (.badValue words)
          | none =>
              let micros := microseconds fraction
              .ok (.foreign "datetime" [.text (date ++ "T" ++ padded 2 hour ++ ":" ++ padded 2 minute ++ ":"
                ++ padded 2 second ++ (if micros = 0 then "" else "." ++ padded 6 micros) ++ zoneText t.zone)])

/-- Bytes in base 64, each a character with its number. -/
def binaryValue (text : String) : Except Error Value :=
  if text.toList.all (·.toNat < 128) then
    match Text.paddedBytes? 0 0 0 text.toList with
    | some bytes => .ok (.foreign "bytes" [.text (String.ofList (bytes.map fun b => Char.ofNat b.toNat))])
    | none => .error .malformed
  else .error .malformed

end WorkflowRuns.Yaml
