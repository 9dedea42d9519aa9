import LoadHarness.Live.Connection
import LoadHarness.Transport.Http

/-!
# HTTP to a real target

Every attempt of a request opens a connection of its own, sends the request and waits for its
answer. What comes of it is an `Http.Reply`, by which the exchange goes on (`Hands.attempts`). A
secured channel cannot be opened, so its target counts as one that refuses.
-/

namespace LoadHarness.Live.Http

open Std.Async LoadHarness.Http

/-- Waits for the answer to a request. -/
partial def awaitAnswer (c : Connection) (t : Deadline) (ended : Bool) : Async Reply := do
  match Wire.answer ended (← c.pending.get) with
  | .complete (head, body) =>
    return .response ⟨head.status, String.ofList (Text.decodeLossy body)⟩
  | .malformed => return .broken
  | .incomplete =>
    match ← c.receive t with
    | .late => return .timeout
    | .ended => awaitAnswer c t true
    | .more => awaitAnswer c t false

/-- One attempt. -/
def attempt (p : Plan) (u : Url) (m : LoadHarness.Http.Message) (timeout : Duration) :
    Async Reply := do
  if p.route.security = .secure then return .refused
  let t ← after timeout
  match ← Connection.open? u t with
  | .error .refused => return .refused
  | .error .late => return .timeout
  | .ok c =>
    let headers := [("host", u.hostHeader), ("accept", "*/*"), ("connection", "close")]
    let reply ←
      if ← c.send (Wire.request m.verb u.path (mergeHeaders headers m.headers) m.body) then
        awaitAnswer c t false
      else pure .broken
    c.close
    return reply

/-- An exchange; `retransmission` tells the observer. -/
def exchange (p : Plan) (u : Url) (r : Request) (retransmission : Async Unit) :
    Async Outcome :=
  let hands : Hands Async := ⟨attempt p u, Live.pause, retransmission⟩
  hands.attempts (message p r) p.settings.maxRetransmit.toNat p.settings.ackTimeout

end LoadHarness.Live.Http
