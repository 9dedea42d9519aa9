import LoadHarness.CommandLine.Refusal
import LoadHarness.Json.Reader
import LoadHarness.Url.Error

/-!
# Failures

What keeps a run from starting, or ends it before its report. A single request that fails is
no failure: the clients count those. `Failure.message` is what the user reads, and
`Failure.isUsage` says whether the invocation was at fault, so that a usage text helps.

A failure that comes from somewhere else is given a context: `ofError` puts a text before
the reason, and `ofMissing` turns an absent value into a failure.
-/

namespace LoadHarness

/-- Why there is no run, or no report of it. -/
inductive Failure where
  /-- Settings that do not make sense. -/
  | configuration (reason : String)
  /-- A run of no size. -/
  | invalidArgument (reason : String)
  | commandLine (refusal : CommandLine.Refusal)
  /-- A connection that cannot be set up. -/
  | transport (reason : String)
  /-- The target did not answer the probe. -/
  | probe (target : String)
  /-- A message without what it must hold. -/
  | message (reason : String)
  | url (error : Url.ParseError)
  | httpRequest (reason : String)
  | json (error : Json.ReadError)
  | webSocket (reason : String)
deriving DecidableEq, Repr

namespace Failure

/-- What a text that is no JSON suffers from. -/
def jsonText : Json.ReadError → String
  | .truncated => "unexpected end of the text"
  | .malformed => "malformed text"

/-- What the user reads. -/
def text : Failure → String
  | .configuration reason => "Configuration error: " ++ reason
  | .invalidArgument reason => "Invalid argument: " ++ reason
  | .commandLine refusal => refusal.message
  | .transport reason => "Transport error: " ++ reason
  | .probe target => "Probe request to " ++ target ++ " failed"
  | .message reason => "Message error: " ++ reason
  | .url error => "URL parse error: " ++ error.message
  | .httpRequest reason => "HTTP request error: " ++ reason
  | .json error => "JSON serialization error: " ++ jsonText error
  | .webSocket reason => "WebSocket error: " ++ reason

/-- Whether the invocation itself was at fault. -/
def isUsage : Failure → Bool
  | .configuration _ | .invalidArgument _ | .commandLine _ | .url _ => true
  | _ => false

/-! ## Context -/

/-- A result whose error, a text, becomes a failure of kind `kind` behind a context. -/
def ofError {α : Type} (kind : String → Failure) (context : String) :
    Except String α → Except Failure α
  | .ok a => .ok a
  | .error e => .error (kind (context ++ ": " ++ e))

/-- A value that must be there. -/
def ofMissing {α : Type} (kind : String → Failure) (context : String) :
    Option α → Except Failure α
  | some a => .ok a
  | none => .error (kind context)

end Failure

end LoadHarness
