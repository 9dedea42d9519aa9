import LoadHarness.Settings.Check

/-!
# The way to the target

The scheme of the target decides by which protocol requests travel and whether the channel is
secured. `Settings.route` takes that decision and puts the headers into the form that requests
carry. `Settings.plan` is what a run needs: a sizing that is one, and a route.
-/

namespace LoadHarness

inductive Protocol where
  | http
  | webSocket
deriving DecidableEq, Repr

inductive Security where
  | plain
  | secure
deriving DecidableEq, Repr

/-- How requests reach the target. -/
structure Route where
  protocol : Protocol
  security : Security
  /-- The headers of every request, with names in lower case. -/
  headers : List (String × String)
deriving DecidableEq, Repr

/-- What a run needs to start. -/
structure Plan where
  settings : Settings
  sizing : Sizing
  route : Route
deriving DecidableEq, Repr

/-- The protocol and the security that a scheme stands for. -/
def Route.ofScheme? : String → Option (Protocol × Security)
  | "http" => some (.http, .plain)
  | "https" => some (.http, .secure)
  | "ws" => some (.webSocket, .plain)
  | "wss" => some (.webSocket, .secure)
  | _ => none

namespace Settings

/-- The headers in the form that requests carry. -/
def carriedHeaders (s : Settings) : Except Failure (List (String × String)) :=
  match s.customHeaders with
  | .error e => .error e
  | .ok pairs =>
    match Header.carryAll pairs with
    | .error e => .error (.configuration e.message)
    | .ok headers => .ok headers

/-- The way to the target. -/
def route (s : Settings) : Except Failure Route :=
  match s.scheme with
  | .error e => .error e
  | .ok scheme =>
    match Route.ofScheme? scheme with
    | none => .error (.configuration ("Unsupported URI scheme '" ++ scheme ++ "'"))
    | some (protocol, security) => s.carriedHeaders.map (⟨protocol, security, ·⟩)

/-- What a run of these settings needs. -/
def plan (s : Settings) : Except Failure Plan :=
  match Sizing.configure s.sizing.clients s.sizing.requests s.sizing.stopOnFailure with
  | .error e => .error e
  | .ok sizing => s.route.map (⟨s, sizing, ·⟩)

end Settings

end LoadHarness
