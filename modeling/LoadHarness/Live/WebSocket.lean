import LoadHarness.Live.Connection
import LoadHarness.Transport.WebSocket
import LoadHarness.Wire.Frame

/-!
# WebSockets to a real target

The connection of a client is opened by its first exchange and kept as long as it lasts. Frames
that come in pieces are put together, and a ping is answered, before anything is an
`Incoming` by which the exchange goes on (`Hands.attempts`).
-/

namespace LoadHarness.Live.WebSocket

open Std.Async LoadHarness.WebSocket LoadHarness.Wire

/-- Random bytes. -/
def randomBytes (n : Nat) : Async (List UInt8) := do
  return (← IO.getRandomBytes n.toUSize).toList

/-- Waits until a server has answered the handshake. -/
partial def awaitHandshake (c : Connection) (key : String) (t : Deadline) : Async Bool := do
  match Wire.head (← c.pending.get) with
  | .complete (head, rest) =>
    c.pending.set rest
    return opensConnection head key
  | .malformed => return false
  | .incomplete =>
    match ← c.receive t with
    | .more => awaitHandshake c key t
    | _ => return false

/-- Opens a connection. -/
def connect? (p : Plan) (u : Url) : Async (Option Connection) := do
  if p.route.security = .secure then return none
  let t ← after p.settings.ackTimeout
  match ← Connection.open? u t with
  | .error _ => return none
  | .ok c =>
    let key := String.ofList (base64 (← randomBytes 16))
    let headers := p.route.headers.foldl Header.insert (handshakeHeaders u.hostHeader key)
    if ← c.send (Wire.request "GET" u.path headers none) then
      if ← awaitHandshake c key t then return some c
    c.close
    return none

/-- Sends a frame. -/
def sendFrame (c : Connection) (kind : FrameKind) (payload : List UInt8) : Async Bool := do
  c.send (Frame.toBytes (← randomBytes 4) ⟨true, kind, payload⟩)

/-- What a whole text stands for. -/
def textOf (payload : List UInt8) : Incoming :=
  match Text.decode? payload with
  | none => .error
  | some cs => .text (String.ofList cs)

/-- The next arrival, none if it is late. `parts` is what has come of a text in pieces. -/
partial def next (c : Connection) (t : Deadline) (parts : Option (List UInt8)) :
    Async (Option Incoming) := do
  match Frame.read (← c.pending.get) with
  | .malformed => return some .error
  | .incomplete =>
    match ← c.receive t with
    | .late => return none
    | .ended => return some .ended
    | .more => next c t parts
  | .complete (frame, rest) =>
    c.pending.set rest
    match frame.kind, frame.isLast, parts with
    | .close, _, _ => return some .close
    | .ping, _, _ =>
      discard <| sendFrame c .pong frame.payload
      next c t parts
    | .pong, _, _ => next c t parts
    | .text, true, none => return some (textOf frame.payload)
    | .text, false, none => next c t (some frame.payload)
    | .continuation, true, some front => return some (textOf (front ++ frame.payload))
    | .continuation, false, some front => next c t (some (front ++ frame.payload))
    | .text, _, some _ => return some .error
    | _, _, _ => return some .other

/-- Waits for the answer to a request. -/
partial def awaitAnswer (c : Connection) (id : RequestId) (t : Deadline) : Async Echo := do
  match ← next c t none with
  | none => return .missing
  | some incoming =>
    match incoming.echo? id with
    | some echo => return echo
    | none => awaitAnswer c id t

/-- One attempt. -/
def attempt (c : Connection) (r : Request) (timeout : Duration) : Async Echo := do
  let t ← after timeout
  if ← sendFrame c .text (Wire.bytes r.frame) then awaitAnswer c r.id t
  else return .lost

/-- An exchange on the connection of a client; `retransmission` tells the observer. -/
def exchange (p : Plan) (u : Url) (connection : IO.Ref (Option Connection)) (r : Request)
    (retransmission : Async Unit) : Async Outcome := do
  let opened ← match ← connection.get with
    | some c => pure (some c)
    | none => connect? p u
  match opened with
  | none => return .noResponse
  | some c =>
    let hands : Hands Async := ⟨attempt c, retransmission, c.close⟩
    let (outcome, kept) ← hands.attempts r p.settings.maxRetransmit.toNat p.settings.ackTimeout
    connection.set (if kept then some c else none)
    return outcome

end LoadHarness.Live.WebSocket
