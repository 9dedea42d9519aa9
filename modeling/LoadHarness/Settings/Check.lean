import LoadHarness.Header
import LoadHarness.Settings.Basic
import LoadHarness.Url.Basic

/-!
# Checking settings

`Settings.check` looks for what would make a run pointless before anything of it is shown:
a target that is no URL of a known scheme with a host, a run of no size, no time to wait, or
a header without a colon. Of several faults it names the first in this order.
-/

namespace LoadHarness.Settings

/-- The schemes of targets. -/
def schemes : List String := ["http", "https", "ws", "wss"]

/-- The scheme of the target. -/
def scheme (s : Settings) : Except Failure String :=
  match Url.parse s.target with
  | .error e => .error (.url e)
  | .ok url => .ok url.scheme

/-- The headers, cut into keys and values. -/
def customHeaders (s : Settings) : Except Failure (List (String × String)) :=
  match Header.readAll s.headers with
  | .error e => .error (.configuration e.message)
  | .ok pairs => .ok pairs

def checkTarget (s : Settings) : Except Failure Unit :=
  match Url.parse s.target with
  | .error e =>
    .error (.configuration ("Invalid target URI '" ++ s.target ++ "': " ++ e.message))
  | .ok url =>
    if url.scheme ∉ schemes then
      .error (.configuration ("Unsupported URI scheme '" ++ url.scheme
        ++ "'. Use http, https, ws or wss"))
    else if url.host.isNone then
      .error (.configuration ("Target URI '" ++ s.target ++ "' has no host"))
    else .ok ()

def checkSizing (s : Settings) : Except Failure Unit :=
  (Sizing.configure s.sizing.clients s.sizing.requests s.sizing.stopOnFailure).map fun _ => ()

def checkTiming (s : Settings) : Except Failure Unit :=
  if s.ackTimeout.isZero then .error (.configuration "Ack timeout must be greater than 0")
  else if s.interval.isZero then
    .error (.configuration "Monitor interval must be greater than 0")
  else .ok ()

def checkHeaders (s : Settings) : Except Failure Unit :=
  match Header.checkAll s.headers with
  | .error e => .error (.configuration e.message)
  | .ok () => .ok ()

/-- Accepts settings that a run can start from. -/
def check (s : Settings) : Except Failure Unit := do
  s.checkTarget
  s.checkSizing
  s.checkTiming
  s.checkHeaders

end LoadHarness.Settings
