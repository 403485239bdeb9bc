import WorkflowRuns.Text.CodePoint

/-!
Decoding bytes to text: UTF-8, UTF-16 and UTF-32.  A failure names the bytes that begin a character
and do not complete it, and nothing after them.
-/

namespace WorkflowRuns.Text

inductive DecodeReason
  | invalidStart
  | invalidContinuation
  | unexpectedEnd
  | truncated
  | outOfRange
  deriving DecidableEq, Repr

structure DecodeError where
  encoding : String
  first : Nat
  count : Nat
  byte : UInt8
  reason : DecodeReason
  deriving DecidableEq, Repr

def DecodeReason.message : DecodeReason → String
  | .invalidStart => "invalid start byte"
  | .invalidContinuation => "invalid continuation byte"
  | .unexpectedEnd => "unexpected end of data"
  | .truncated => "truncated data"
  | .outOfRange => "code point not in range(0x110000)"

def hexByte (b : UInt8) : String :=
  String.ofList ([b.toNat / 16, b.toNat % 16].map fun k => "0123456789abcdef".toList.getD k '0')

def DecodeError.message (e : DecodeError) : String :=
  "'" ++ e.encoding ++ "' codec can't decode "
    ++ (if e.count = 1 then "byte 0x" ++ hexByte e.byte ++ " in position " ++ toString e.first
        else "bytes in position " ++ toString e.first ++ "-" ++ toString (e.first + e.count - 1))
    ++ ": " ++ e.reason.message

def isContinuation (b : UInt8) : Bool := 0x80 ≤ b && b < 0xc0

/-- What becomes of halves that are written as three bytes. -/
inductive Halves
  | refused
  | kept
  deriving DecidableEq, Repr

def secondInRange (halves : Halves) (lead second : UInt8) : Bool :=
  isContinuation second &&
    (lead != 0xe0 || 0xa0 ≤ second) &&
    (lead != 0xed || second < 0xa0 || halves == .kept) &&
    (lead != 0xf0 || 0x90 ≤ second) &&
    (lead != 0xf4 || second < 0x90)

def low6 (b : UInt8) : Nat := b.toNat % 64

inductive Step
  | point (point : CodePoint) (width : Nat)
  | failure (count : Nat) (reason : DecodeReason)

def utf8Step (halves : Halves) (lead : UInt8) (rest : List UInt8) : Step :=
  if lead < 0x80 then .point (.ofNat lead.toNat) 1
  else if lead < 0xc2 || 0xf4 < lead then .failure 1 .invalidStart
  else match rest with
    | [] => .failure 1 .unexpectedEnd
    | second :: rest =>
        if !secondInRange halves lead second then .failure 1 .invalidContinuation
        else if lead < 0xe0 then .point (.ofNat ((lead.toNat - 0xc0) * 64 + low6 second)) 2
        else
          let half := lead = 0xed && 0xa0 ≤ second
          match rest with
          | [] => if half then .failure 1 .invalidContinuation else .failure 2 .unexpectedEnd
          | third :: rest =>
              if !isContinuation third then .failure (if half then 1 else 2) .invalidContinuation
              else if lead < 0xf0 then
                .point (.ofNat ((lead.toNat - 0xe0) * 4096 + low6 second * 64 + low6 third)) 3
              else match rest with
                | [] => .failure 3 .unexpectedEnd
                | fourth :: _ =>
                    if !isContinuation fourth then .failure 3 .invalidContinuation
                    else .point (.ofNat ((lead.toNat - 0xf0) * 262144 + low6 second * 4096
                      + low6 third * 64 + low6 fourth)) 4

/-- `skip` bytes belong to the code point decoded last. -/
def utf8Points (halves : Halves) : Nat → Nat → List UInt8 → Except DecodeError (List CodePoint)
  | _, _, [] => .ok []
  | position, skip + 1, _ :: rest => utf8Points halves (position + 1) skip rest
  | position, 0, lead :: rest =>
      match utf8Step halves lead rest with
      | .point point width => do
          let points ← utf8Points halves (position + 1) (width - 1) rest
          return point :: points
      | .failure count reason => .error ⟨"utf-8", position, count, lead, reason⟩

def decodeUtf8 (halves : Halves) (bytes : List UInt8) : Except DecodeError (List CodePoint) :=
  utf8Points halves 0 0 bytes

/-- The text in UTF-8 whose bytes are the numbers of these characters. -/
def textOfBytes? (bytes : String) : Option String :=
  match decodeUtf8 .refused (bytes.toList.map fun c => UInt8.ofNat c.toNat) with
  | .ok text => some (shown text)
  | .error _ => none

inductive ByteOrder
  | little
  | big
  deriving DecidableEq, Repr

def unit16 (order : ByteOrder) (a b : UInt8) : Nat :=
  match order with
  | .little => a.toNat + b.toNat * 256
  | .big => a.toNat * 256 + b.toNat

def utf16Name : ByteOrder → String
  | .little => "utf-16-le"
  | .big => "utf-16-be"

def utf16Units (order : ByteOrder) : Nat → List UInt8 → Except DecodeError (List Nat)
  | _, [] => .ok []
  | position, [last] => .error ⟨utf16Name order, position, 1, last, .truncated⟩
  | position, a :: b :: rest => do
      let units ← utf16Units order (position + 2) rest
      return unit16 order a b :: units

def joinUnits : List Nat → List CodePoint
  | [] => []
  | [unit] => [.ofNat unit]
  | unit :: next :: rest =>
      if isHighHalf unit && isLowHalf next then .char (joinHalves unit next) :: joinUnits rest
      else .ofNat unit :: joinUnits (next :: rest)

def decodeUtf16 (order : ByteOrder) (start : Nat) (bytes : List UInt8) : Except DecodeError (List CodePoint) :=
  (utf16Units order start bytes).map joinUnits

def utf32Name : ByteOrder → String
  | .little => "utf-32-le"
  | .big => "utf-32-be"

def decodeUtf32 (order : ByteOrder) : Nat → List UInt8 → Except DecodeError (List CodePoint)
  | _, [] => .ok []
  | position, a :: b :: c :: d :: rest => do
      let n := match order with
        | .little => unit16 .little a b + unit16 .little c d * 65536
        | .big => unit16 .big a b * 65536 + unit16 .big c d
      if 0x110000 ≤ n then throw ⟨utf32Name order, position, 4, a, .outOfRange⟩
      let points ← decodeUtf32 order (position + 4) rest
      return .ofNat n :: points
  | position, first :: rest => .error ⟨utf32Name order, position, rest.length + 1, first, .truncated⟩

/-- Decodes a document body: a byte order mark decides, else the pattern of zero bytes. -/
def decodeDetected (bytes : List UInt8) : Except DecodeError (List CodePoint) :=
  match bytes with
  | 0x00 :: 0x00 :: 0xfe :: 0xff :: rest => decodeUtf32 .big 4 rest
  | 0xff :: 0xfe :: 0x00 :: 0x00 :: rest => decodeUtf32 .little 4 rest
  | 0xfe :: 0xff :: rest => decodeUtf16 .big 2 rest
  | 0xff :: 0xfe :: rest => decodeUtf16 .little 2 rest
  | 0xef :: 0xbb :: 0xbf :: rest => decodeUtf8 .kept rest
  | a :: b :: c :: d :: _ =>
      if a = 0 then (if b = 0 then decodeUtf32 .big 0 bytes else decodeUtf16 .big 0 bytes)
      else if b = 0 then
        (if c = 0 && d = 0 then decodeUtf32 .little 0 bytes else decodeUtf16 .little 0 bytes)
      else decodeUtf8 .kept bytes
  | [a, b] =>
      if a = 0 then decodeUtf16 .big 0 bytes
      else if b = 0 then decodeUtf16 .little 0 bytes
      else decodeUtf8 .kept bytes
  | _ => decodeUtf8 .kept bytes

end WorkflowRuns.Text
