import LoadHarness.Settings.Route
import LoadHarness.Transport.Behaviour
import LoadHarness.Url.Credentials

/-!
# Exchanges over HTTP

A request over HTTP is attempted until an attempt is answered, or fails in a way that makes
another one pointless. Each attempt waits twice as long as the one before, and the observer
hears of every attempt but the first. A connection that is refused fails at once, so the
transport waits for the rest of the time before the next attempt, if there is one.

`Http.attempts` is one exchange against a target that treats each attempt in a given way, with
all that the transport does (`Act`). `Http.Hands` is what an exchange needs of the world, and
`Hands.attempts` the same exchange with whatever hands there are. `Http.Transport` is the transport
between exchanges: it sends nothing unless it is bound and not stopped.
-/

namespace LoadHarness.Http

/-- The header that carries the identifier of a request. -/
def idHeader : String := "x-request-id"

/-- The header that tells what a body is. -/
def typeHeader : String := "content-type"

/-- The header that tells who asks. -/
def authorizationHeader : String := "authorization"

/-- What travels in every attempt of a request, apart from the headers that frame it and those
that tell what the sender of any request can take. -/
structure Message where
  verb : String
  target : String
  headers : List (String × String)
  body : Option String
deriving DecidableEq, Repr

/-- The headers of the request itself: the credentials of its target, if there are any, its
identifier, and the type of its body. -/
def ownHeaders (s : Settings) (id : RequestId) : List (String × String) :=
  ((Url.authorization? s.target).map (authorizationHeader, ·)).toList
    ++ (idHeader, id)
      :: if s.method.hasBody then [(typeHeader, "text/plain; charset=utf-8")] else []

/-- The headers of a request behind those of the settings that it does not set itself. -/
def mergeHeaders (usual own : List (String × String)) : List (String × String) :=
  usual.filter (fun p => !own.any (·.1 == p.1)) ++ own

/-- What travels for a request. -/
def message (p : Plan) (r : Request) : Message where
  verb := p.settings.method.verb
  target := p.settings.target
  headers := mergeHeaders p.route.headers (ownHeaders p.settings r.id)
  body := if p.settings.method.hasBody then some r.payload else none

/-- What comes of an attempt. -/
inductive Reply where
  | response (r : Response)
  | timeout
  /-- No connection. -/
  | refused
  /-- A connection that fails in any other way. -/
  | broken
deriving DecidableEq, Repr

/-- The outcome that an attempt settles; none if another attempt may do better. -/
def Reply.settled? : Reply → Option Outcome
  | .response r => some (.response r)
  | .broken => some .noResponse
  | .timeout | .refused => none

/-- How long a transport waits after an attempt that had a given time and settled nothing. -/
def Reply.pause? (timeout : Duration) : Reply → Option Duration
  | .refused => some timeout
  | _ => none

/-- What a transport does in an exchange. -/
inductive Act where
  | attempt (m : Message) (timeout : Duration)
  | pause (d : Duration)
  /-- Tells the observer of a retransmission. -/
  | retransmission
deriving DecidableEq, Repr

/-- The attempts from number `j` on, of which `left` may follow the first. -/
def attempts (reply : Nat → Reply) (m : Message) : Nat → Nat → Duration → Outcome × List Act
  | left, j, timeout =>
    match (reply j).settled?, left with
    | some outcome, _ => (outcome, [.attempt m timeout])
    | none, 0 => (.noResponse, [.attempt m timeout])
    | none, left + 1 =>
      let (outcome, acts) := attempts reply m left (j + 1) timeout.doubled
      (outcome, .attempt m timeout :: (((reply j).pause? timeout).map Act.pause).toList
        ++ .retransmission :: acts)

/-- What an exchange can do, in a world of whatever kind. -/
structure Hands (M : Type → Type) where
  attempt (m : Message) (timeout : Duration) : M Reply
  pause (d : Duration) : M Unit
  /-- Tells the observer of a retransmission. -/
  retransmit : M Unit

/-- The attempts of a request, of which so many may follow the first. -/
def Hands.attempts {M : Type → Type} [Monad M] (h : Hands M) (m : Message) :
    Nat → Duration → M Outcome
  | 0, timeout => do return (← h.attempt m timeout).settled?.getD .noResponse
  | left + 1, timeout => do
    let reply ← h.attempt m timeout
    match reply.settled? with
    | some outcome => return outcome
    | none =>
      (reply.pause? timeout).forM h.pause
      h.retransmit
      attempts h m left timeout.doubled

/-- An exchange that goes out to the target. -/
def exchange (p : Plan) (reply : Nat → Reply) (r : Request) : Outcome × List Act :=
  attempts reply (message p r) p.settings.maxRetransmit.toNat 0 p.settings.ackTimeout

/-- How often the observer is told of a retransmission. -/
def retransmissions (acts : List Act) : Nat := acts.count .retransmission

/-- The transport of one client. -/
structure Transport where
  /-- Started, and not destroyed since. -/
  bound : Bool
  stopped : Bool
deriving DecidableEq, Repr

namespace Transport

def create : Transport := ⟨false, false⟩

def start (t : Transport) : Transport := { t with bound := true }

def stop (t : Transport) : Transport := { t with stopped := true }

def destroy (t : Transport) : Transport := { t with bound := false }

/-- An exchange, which ends at once where nothing may be sent. -/
def exchange (p : Plan) (reply : Nat → Reply) (r : Request) (t : Transport) :
    Outcome × List Act :=
  if t.stopped || !t.bound then (.noResponse, []) else Http.exchange p reply r

end Transport

end LoadHarness.Http
