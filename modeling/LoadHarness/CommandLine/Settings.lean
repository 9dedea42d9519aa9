import LoadHarness.CommandLine.Reading
import LoadHarness.Settings.Check

/-!
# Settings from a command line

What a command line does not give has its usual value : that of `Settings.ofTarget`, or, where the
usual value is itself written as users would write it, what that text is read as.
`Settings.ofArguments` reads the settings, and `Settings.ofCommandLine` checks them as well.
-/

namespace LoadHarness

namespace CommandLine

/-- The word that lets clients go on when a request of theirs fails. -/
def tolerantMode : String := "nonestop"

/-- Whether clients stop when a request of theirs fails. The case of the mode is free. -/
def stopOnFailure : Option String → Except Failure Bool
  | none => .ok true
  | some mode =>
    if String.ofList (mode.toList.map Char.toLower) = tolerantMode then .ok false
    else
      .error (.configuration ("Unknown mode '" ++ mode ++ "', expected '" ++ tolerantMode ++ "'"))

/-- The texts that are read where a command line gives none. -/
def usualInterval : String := "10s"

def usualAckTimeout : String := "2s"

def usualMethod : String := "post"

/-- The duration that a text stands for, or else the usual text. -/
def duration (usual : String) (given : Option String) : Except Failure Duration :=
  let text := match given with
    | none => usual
    | some text => text
  match Duration.read text with
  | .error e => .error (.configuration e.message)
  | .ok d => .ok d

/-- The method that is given, or else the one of the usual name. -/
def method : Option Method → Except Failure Method
  | some m => .ok m
  | none =>
    match Invocation.choice .httpMethod usualMethod with
    | .error refusal => .error (.commandLine refusal)
    | .ok m => .ok m

/-- The settings that an invocation asks for. -/
def Invocation.settings (v : Invocation) : Except Failure Settings := do
  let usual := Settings.ofTarget (v.target.getD "")
  let method ← CommandLine.method v.method
  let stopOnFailure ← CommandLine.stopOnFailure v.mode
  let ackTimeout ← duration usualAckTimeout v.ackTimeout
  let interval ← duration usualInterval v.interval
  return {
    target := usual.target
    insecure := v.insecure
    headers := v.headers
    sizing :=
      ⟨v.clients.getD usual.sizing.clients, v.requests.getD usual.sizing.requests, stopOnFailure⟩
    ackTimeout
    maxRetransmit := v.maxRetransmit.getD usual.maxRetransmit
    method
    payload := v.payload.getD usual.payload
    interval
    verbose := v.verbose }

end CommandLine

namespace Settings

/-- The settings that the arguments of a command line ask for. -/
def ofArguments (arguments : List String) : Except Failure Settings :=
  match CommandLine.Invocation.read arguments with
  | .error refusal => .error (.commandLine refusal)
  | .ok v => v.settings

/-- The same, checked. -/
def ofCommandLine (arguments : List String) : Except Failure Settings := do
  let s ← ofArguments arguments
  s.check
  return s

end Settings

end LoadHarness
