import LoadHarness.Transport.Http
import LoadHarness.Transport.WebSocket

/-!
# A target that cannot be reached

Where every connection to the target is refused, transports start and no request is answered.
`Behaviour.unreachable` is that behaviour, by either protocol.
-/

namespace LoadHarness

/-- A request to a target that refuses every connection, as far as it goes. -/
def Cue.unreachable (p : Plan) (r : Request) : Cue :=
  match p.route.protocol with
  | .http =>
    let (outcome, acts) := Http.exchange p (fun _ => .refused) r
    ⟨Http.retransmissions acts, 0, .answer outcome⟩
  | .webSocket =>
    let (_, outcome, acts) :=
      ({ WebSocket.Transport.create with started := true }).exchange p false
        (fun _ => ⟨true, []⟩) r
    ⟨WebSocket.retransmissions acts, 0, .answer outcome⟩

/-- The transports of a run whose target refuses every connection. -/
def Behaviour.unreachable (p : Plan) : Behaviour :=
  ⟨none, fun k => .unreachable p (.ofPayload p.settings.payload k)⟩

end LoadHarness
