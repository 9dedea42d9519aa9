import LoadHarness.Settings.Route
import LoadHarness.Transport.Behaviour

/-!
# Exchanges over a WebSocket

A request over a WebSocket is a frame of text, and its answer is the first frame of text from
which its identifier can be read. The connection is opened with the first exchange and kept
for the next ones. An attempt ends without answer when its time is over, and then the same
frame is sent again; when the connection is lost, so is the request, and the next exchange
opens another connection.

`WebSocket.attempts` is one exchange on an open connection, given what arrives in the time of
each attempt (`Span`), with all that the transport does (`Act`). `WebSocket.Hands` is what an
exchange needs of the world, and `Hands.attempts` the same exchange with whatever hands there are.
`WebSocket.Transport` is the transport between exchanges.
-/

namespace LoadHarness.WebSocket

/-- What can arrive. -/
inductive Incoming where
  | text (frame : String)
  /-- A binary, ping or pong frame. -/
  | other
  | close
  | error
  /-- The connection has ended. -/
  | ended
deriving DecidableEq, Repr

/-- What happens in the time of an attempt. -/
structure Span where
  sendFails : Bool
  incoming : List Incoming
deriving DecidableEq, Repr

/-- What comes of waiting for an answer. -/
inductive Echo where
  | found (frame : String)
  | lost
  /-- Nothing came in time. -/
  | missing
deriving DecidableEq, Repr

/-- Whether a frame answers a request. -/
def answers (id : RequestId) (frame : String) : Bool :=
  match idOfFrame frame with
  | .ok echo => echo == id
  | .error _ => false

/-- What one arrival means to a request, if it means anything. -/
def Incoming.echo? (id : RequestId) : Incoming → Option Echo
  | .text frame => if answers id frame then some (.found frame) else none
  | .other => none
  | .close | .error | .ended => some .lost

/-- Looks for the answer to a request among what arrives. -/
def awaitEcho (id : RequestId) (incoming : List Incoming) : Echo :=
  (incoming.findSome? (·.echo? id)).getD .missing

/-- What a transport does in an exchange. -/
inductive Act where
  | connect
  | frame (text : String)
  /-- Tells the observer of a retransmission. -/
  | retransmission
  /-- Gives the connection up. -/
  | drop
deriving DecidableEq, Repr

/-- The status of an answer, which has none of its own. -/
def echoStatus : Nat := 200

/-- The attempts from number `j` on, of which `left` may follow the first. The flag says
whether the connection is kept. -/
def attempts (span : Nat → Span) (r : Request) : Nat → Nat → Outcome × Bool × List Act
  | left, j =>
    let act := Act.frame r.frame
    if (span j).sendFails then (.noResponse, false, [act, .drop])
    else
      match awaitEcho r.id (span j).incoming, left with
      | .found text, _ => (.response ⟨echoStatus, text⟩, true, [act])
      | .lost, _ => (.noResponse, false, [act, .drop])
      | .missing, 0 => (.noResponse, true, [act])
      | .missing, left + 1 =>
        let (outcome, kept, acts) := attempts span r left (j + 1)
        (outcome, kept, act :: .retransmission :: acts)

/-- What an exchange can do on an open connection, in a world of whatever kind. -/
structure Hands (M : Type → Type) where
  /-- Sends the frame of a request, and waits for its answer. -/
  attempt (r : Request) (timeout : Duration) : M Echo
  /-- Tells the observer of a retransmission. -/
  retransmit : M Unit
  /-- Gives the connection up. -/
  drop : M Unit

namespace Hands

variable {M : Type → Type} [Monad M]

/-- What an exchange comes to, and whether the connection is kept. -/
def finish (h : Hands M) : Echo → M (Outcome × Bool)
  | .found text => return (.response ⟨echoStatus, text⟩, true)
  | .lost => do
    h.drop
    return (.noResponse, false)
  | .missing => return (.noResponse, true)

/-- The attempts of a request, of which so many may follow the first. -/
def attempts (h : Hands M) (r : Request) : Nat → Duration → M (Outcome × Bool)
  | 0, timeout => do h.finish (← h.attempt r timeout)
  | left + 1, timeout => do
    match ← h.attempt r timeout with
    | .missing =>
      h.retransmit
      attempts h r left timeout.doubled
    | echo => h.finish echo

end Hands

/-- How often the observer is told of a retransmission. -/
def retransmissions (acts : List Act) : Nat := acts.count .retransmission

/-- The transport of one client. -/
structure Transport where
  started : Bool
  stopped : Bool
  /-- Whether there is a connection. -/
  connected : Bool
deriving DecidableEq, Repr

namespace Transport

def create : Transport := ⟨false, false, false⟩

def start (t : Transport) : Transport := { t with started := true }

def stop (t : Transport) : Transport := { t with stopped := true }

def destroy (t : Transport) : Transport := { t with connected := false }

/-- An exchange, which ends at once where nothing may be sent, or where there is no connection
and the target does not open one. -/
def exchange (p : Plan) (opens : Bool) (span : Nat → Span) (r : Request) (t : Transport) :
    Transport × Outcome × List Act :=
  if !t.started || t.stopped then (t, .noResponse, [])
  else if !t.connected && !opens then (t, .noResponse, [.connect])
  else
    let (outcome, kept, acts) := attempts span r p.settings.maxRetransmit.toNat 0
    ({ t with connected := kept }, outcome,
      if t.connected then acts else .connect :: acts)

end Transport

end LoadHarness.WebSocket
