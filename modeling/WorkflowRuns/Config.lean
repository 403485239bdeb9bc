import WorkflowRuns.Schema.Scalar
import WorkflowRuns.Text.Case

/-!
Connection and polling settings.  Times are in seconds.
-/

namespace WorkflowRuns

structure Config where
  host : String
  port : Int
  ssl : Bool
  apiVersion : String
  requestTimeout : Binary64
  pollInterval : Binary64
  maxPollInterval : Binary64
  backoff : Binary64
  maxFailures : Int
  deriving DecidableEq, Repr, Inhabited

namespace Config

open Schema

def half : Binary64 := .roundNat false 1 2

/-- Without blanks around it, then without slashes around that, in lower case. -/
def normalizedVersion (s : String) : String :=
  Text.lower (String.ofList (Text.trimWith (· = '/') (Text.trimWith Text.isBlank s.toList)))

def apiVersionOf (value : Value) : Checked String :=
  (Schema.text value).andThen fun s =>
    if normalizedVersion s = "" then fail (.rule "api_version must not be empty")
    else .accepted (normalizedVersion s)

/-- Settings from named values; names that are no settings are ignored. -/
def ofFields (fields : Fields) : Checked Config :=
  Config.mk
    <$> defaulted fields "host" "host" "localhost" Schema.text
    <*> defaulted fields "port" "port" 8080 (integerBetween 1 65535)
    <*> defaulted fields "ssl" "ssl" false boolean
    <*> defaulted fields "api_version" "api_version" "v1" apiVersionOf
    <*> defaulted fields "request_timeout" "request_timeout" (.ofInt 10) (numberAbove 0)
    <*> defaulted fields "poll_interval" "poll_interval" half (numberAbove 0)
    <*> defaulted fields "max_poll_interval" "max_poll_interval" (.ofInt 5) (numberAbove 0)
    <*> defaulted fields "backoff_multiplier" "backoff_multiplier" (.ofInt 2) (numberAtLeast 1)
    <*> defaulted fields "max_consecutive_failures" "max_consecutive_failures" 5 (integerAtLeast 1)

def standard : Config :=
  ⟨"localhost", 8080, false, "v1", .ofInt 10, half, .ofInt 5, .ofInt 2, 5⟩

def toFields (c : Config) : Fields :=
  [(.name "host", .text c.host), (.name "port", .int c.port), (.name "ssl", .bool c.ssl),
    (.name "api_version", .text c.apiVersion), (.name "request_timeout", .float c.requestTimeout),
    (.name "poll_interval", .float c.pollInterval), (.name "max_poll_interval", .float c.maxPollInterval),
    (.name "backoff_multiplier", .float c.backoff), (.name "max_consecutive_failures", .int c.maxFailures)]

def scheme (c : Config) : String := if c.ssl then "https" else "http"

def location (c : Config) : String := c.host ++ ":" ++ toString c.port ++ "/" ++ c.apiVersion

def baseUrl (c : Config) : String := c.scheme ++ "://" ++ c.location

/-- The longest delay between ticks; never below the plain interval. -/
def delayCap (c : Config) : Binary64 :=
  if c.maxPollInterval.lt c.pollInterval then c.pollInterval else c.maxPollInterval

/-- The power of the multiplier, if it is not too large; so has to be the exponent. -/
def backoffPower? (c : Config) (failures : Nat) : Option Binary64 :=
  if (Binary64.ofInt failures).isFinite then
    let power := c.backoff.pow failures
    if c.backoff.isFinite && !power.isFinite then none else some power
  else none

/-- The delay before the next tick after so many failures in a row.  The power is taken before the
cap applies, so that there is none where the power overflows. -/
def retryDelay? (c : Config) (failures : Int) : Option Binary64 :=
  if failures ≤ 0 then some c.pollInterval
  else (c.backoffPower? failures.toNat).map fun power =>
    let delay := c.pollInterval.mul power
    if c.delayCap.lt delay then c.delayCap else delay

end Config

end WorkflowRuns
