import WorkflowRuns.Text.Quoted
import WorkflowRuns.Url.Host

/-!
Addresses of the service and of what it holds.  An address is read from text, written in one normal
form, and extended by references below it.
-/

namespace WorkflowRuns

/-- A port that is the scheme's own is left out.  There is no fragment, which is never sent. -/
structure Url where
  scheme : String
  userInfo : String
  host : String
  port : Option Nat
  path : String
  query : Option String
  deriving DecidableEq, Repr

structure Reference where
  path : String
  query : Option String
  deriving DecidableEq, Repr

inductive UrlFault
  | tooLong
  | unprintable (c : Char) (position : Nat)
  | componentTooLong (name : String)
  | port (text : String)
  | host (fault : Host.Fault)
  deriving DecidableEq, Repr

def UrlFault.message : UrlFault → String
  | .tooLong => "URL too long"
  | .unprintable c position =>
      "Invalid non-printable ASCII character in URL, " ++ Text.quoted (String.singleton c)
        ++ " at position " ++ toString position ++ "."
  | .componentTooLong name => "URL component '" ++ name ++ "' too long"
  | .port text => "Invalid port: " ++ Text.quoted text
  | .host (.address4 name) => "Invalid IPv4 address: " ++ Text.quoted name
  | .host (.address6 name) => "Invalid IPv6 address: " ++ Text.quoted name

namespace Reference

def isControl (c : Char) : Bool := c.toNat < 0x20 || c.toNat = 0x7f

def lengthLimit : Nat := 65536

/-- A text that may be read: not too long and without control characters. -/
def readable (s : String) : Except UrlFault (List Char) :=
  let chars := s.toList
  if lengthLimit < chars.length then .error .tooLong
  else match chars.find? isControl with
    | some c => .error (.unprintable c (chars.takeWhile (· ≠ c)).length)
    | none => .ok chars

/-- Segments without dots; two dots take back the segment before them, but not the root. -/
def resolveSegments (done : List (List Char)) : List (List Char) → List (List Char)
  | [] => done
  | segment :: rest =>
      if segment = ['.'] then resolveSegments done rest
      else if segment = ['.', '.'] then
        resolveSegments (if done = [[]] then done else done.dropLast) rest
      else resolveSegments (done ++ [segment]) rest

def resolveDots (path : List Char) : List Char :=
  List.intercalate ['/'] (resolveSegments [] (Host.parts '/' path))

/-- Path and query of a text that begins with the path; a fragment is dropped.  Dots are left in the path until it
belongs to an address. -/
def split (chars : List Char) : Reference :=
  let sent := chars.takeWhile (· ≠ '#')
  { path := percentEncode pathSafe (String.ofList (sent.takeWhile (· ≠ '?')))
    query := match sent.dropWhile (· ≠ '?') with
      | [] => none
      | _ :: query => some (percentEncode querySafe (String.ofList query)) }

def read (s : String) : Except UrlFault Reference := (readable s).map split

def text (r : Reference) : String :=
  (if r.path = "" then "/" else r.path) ++ (match r.query with
    | some query => "?" ++ query
    | none => "")

end Reference

namespace Url

def schemePort (scheme : String) : Nat := if scheme = "https" then 443 else 80

def readPort (scheme : String) (text : List Char) : Except UrlFault (Option Nat) :=
  if text.isEmpty then .ok none
  else if text.all Text.isAsciiDigit then
    let port := Text.natOfDigits text
    .ok (if port = schemePort scheme then none else some port)
  else .error (.port (String.ofList text))

def splitLast (mark : Char) (text : List Char) : List Char × List Char :=
  let back := text.reverse
  ((back.dropWhile (· ≠ mark)).tail.reverse, (back.takeWhile (· ≠ mark)).reverse)

def splitHost (text : List Char) : List Char × List Char :=
  let (host, rest) :=
    if text.head? = some '[' && text.contains ']' then
      let (inside, rest) := splitLast ']' text
      (inside ++ [']'], rest)
    else (text.takeWhile (· ≠ ':'), text.dropWhile (· ≠ ':'))
  (host, if rest.head? = some ':' then rest.tail else rest)

def read (scheme rest : String) : Except UrlFault Url := do
  let chars ← Reference.readable (scheme ++ "://" ++ rest)
  let after := chars.drop (scheme.length + 3)
  let ends := fun (c : Char) => c = '/' || c = '?' || c = '#'
  let (userInfo, place) := splitLast '@' (after.takeWhile fun c => !ends c)
  let (host, port) := splitHost place
  let host ← (Host.normalize (String.ofList host)).mapError .host
  let port ← readPort scheme port
  let reference := Reference.split (after.dropWhile fun c => !ends c)
  let path := String.ofList (Reference.resolveDots reference.path.toList)
  return ⟨scheme, percentEncode userInfoSafe (String.ofList userInfo), host, port, path, reference.query⟩

def authority (url : Url) : String :=
  (if url.userInfo = "" then "" else url.userInfo ++ "@")
    ++ (if url.host.toList.contains ':' then "[" ++ url.host ++ "]" else url.host)
    ++ (match url.port with
      | some port => ":" ++ toString port
      | none => "")

def location (url : Url) : String := (Reference.mk url.path url.query).text

/-- An address with another path, its dots resolved, and another query, unless a part of it is too long. -/
def located (url : Url) (location : String) : Except UrlFault Url :=
  let path := location.toList.takeWhile (· ≠ '?')
  let query := match location.toList.dropWhile (· ≠ '?') with
    | [] => none
    | _ :: query => some (String.ofList query)
  if Reference.lengthLimit < url.authority.length then .error (.componentTooLong "authority")
  else if Reference.lengthLimit < path.length then .error (.componentTooLong "path")
  else if query.any fun query => Reference.lengthLimit < query.length then .error (.componentTooLong "query")
  else .ok { url with path := String.ofList (Reference.resolveDots path), query }

def rooted (url : Url) : Except UrlFault Url :=
  if url.location.toList.getLast? = some '/' then .ok url else url.located (url.location ++ "/")

/-- The address of a reference below an address. -/
def extend (url : Url) (r : Reference) : Except UrlFault Url :=
  url.located (url.location ++ String.ofList (r.text.toList.dropWhile (· = '/')))

def text (url : Url) : String :=
  url.scheme ++ ":" ++ (if url.authority = "" then "" else "//" ++ url.authority)
    ++ url.path ++ (match url.query with
      | some query => "?" ++ query
      | none => "")

end Url

end WorkflowRuns
