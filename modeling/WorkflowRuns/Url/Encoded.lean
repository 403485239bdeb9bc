/-!
Percent-encoding: characters outside a safe set are written as their UTF-8 bytes in hexadecimal.
-/

namespace WorkflowRuns

def upperHexDigit (n : Nat) : Char := "0123456789ABCDEF".toList.getD (n % 16) '0'

def percentByte (b : UInt8) : List Char :=
  ['%', upperHexDigit (b.toNat / 16), upperHexDigit b.toNat]

def percentEncode (safe : Char → Bool) (s : String) : String :=
  String.ofList (s.toList.flatMap fun c =>
    if safe c then [c] else (String.singleton c).toUTF8.toList.flatMap percentByte)

def isUnreserved (c : Char) : Bool :=
  ('a' ≤ c && c ≤ 'z') || ('A' ≤ c && c ≤ 'Z') || ('0' ≤ c && c ≤ '9') || "-._~".toList.contains c

def isPrintableAscii (c : Char) : Bool := 0x20 ≤ c.toNat && c.toNat < 0x7f

def querySafe (c : Char) : Bool := isPrintableAscii c && !" \"#<>".toList.contains c

def pathSafe (c : Char) : Bool := querySafe c && !"?`\x7b\x7d".toList.contains c

def userInfoSafe (c : Char) : Bool := pathSafe c && !"/;=@[\\]^|".toList.contains c

end WorkflowRuns
