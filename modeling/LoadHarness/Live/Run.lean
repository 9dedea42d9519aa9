import LoadHarness.Live.Http
import LoadHarness.Live.WebSocket
import LoadHarness.Run.Campaign
import Std.Async.Signal
import Std.Sync.CancellationToken

/-!
# Runs against a real target

From its launch on a real run is a `Campaign`. Its manager, the tasks of its clients, the timer and
the keyboard each take their steps of it when what these stand for has happened, every step at once
and undivided, at the time that the clock shows then. A run prints what its steps print.
-/

namespace LoadHarness.Live

open Std.Async

/-- One exchange of a client with its connection. The request has a fresh identifier. -/
def exchange (p : Plan) (u : Url) (connection : IO.Ref (Option Connection))
    (retransmission : Async Unit) : Async Outcome := do
  let bits := Wire.Frame.number (← WebSocket.randomBytes 16)
  let r := Request.ofPayload p.settings.payload bits
  match p.route.protocol with
  | .http => Http.exchange p u r retransmission
  | .webSocket => WebSocket.exchange p u connection r retransmission

/-- A run that is launched. -/
structure Session where
  plan : Plan
  url : Url
  campaign : IO.Ref Campaign
  /-- Set off by the wake-up that follows the last unit of the budget. -/
  awake : Std.CancellationToken

namespace Session

/-- Takes a step, and prints what it prints. -/
def take (s : Session) (step : Campaign.Step) : Async Unit := do
  let now ← IO.monoNanosNow
  let lines ← s.campaign.modifyGet fun c =>
    let c' := c.apply s.plan [.pass (now - c.now), step]
    (c'.printed.drop c.printed.length, c')
  lines.forM fun line => IO.println line

/-- The task of a client: one exchange after the other, until the chain is done. -/
partial def drive (s : Session) (i : Nat) (connection : IO.Ref (Option Connection)) :
    Async Unit := do
  if (← s.campaign.get).fleet.isWaiting i then
    let outcome ← exchange s.plan s.url connection (s.take (.move i .retransmit))
    s.take (.move i (.resolve outcome))
    s.take .wake
    if 0 < (← s.campaign.get).wakes then s.awake.cancel
    drive s i connection
  else Move.departure.forM fun m => s.take (.move i m)

/-- A client that the manager has launched begins. -/
def begin (s : Session) (i : Nat) (connection : IO.Ref (Option Connection)) : Async Unit := do
  s.take (.move i .first)
  s.drive i connection

/-- Sleeps until something happens that the manager waits for, which is a step. -/
def sleep (s : Session) (interrupt : Selector Unit) (due : Nat) : Async Campaign.Step := do
  let timer ← Selector.sleep (← untilDeadline ((due + 999999) / 1000000))
  Selectable.one #[
    .case s.awake.selector (fun _ => return .proceed),
    .case interrupt (fun _ => return .interrupt),
    .case timer (fun _ => return .timer)]

/-- The manager. Client 0 has the connection with which it has probed the target. -/
partial def manage (s : Session) (interrupt : Selector Unit)
    (first : IO.Ref (Option Connection)) : Async Conclusion := do
  let c ← s.campaign.get
  match c.phase with
  | .ended _ conclusion => return conclusion
  | .launching i =>
    s.take .proceed
    if i < c.fleet.chains.length then
      background (s.begin i (← if i = 0 then pure first else IO.mkRef none))
  | .waiting due w =>
    s.take (← if w.isBlocked c.wakes then s.sleep interrupt due else pure .proceed)
  | .joining _ =>
    if !c.fleet.chains.all Chain.isDone then Live.pause (.ofMilliseconds 1)
    s.take .proceed
  | _ => s.take .proceed
  manage s interrupt first

end Session

/-- A run of a plan against a target. -/
def run (p : Plan) (u : Url) : Async Conclusion := do
  IO.println (Run.announcement p)
  let connection ← IO.mkRef none
  -- Nobody counts how often a probe retransmits.
  let outcome ← exchange p u connection (pure ())
  if !outcome.isSuccess then return .failure (.probe p.settings.target)
  let others := p.sizing.clients.toNat - 1
  let f := (Fleet.create p.sizing.total []).apply
    ([.build .probe p.sizing.stopOnFailure, .move 0 (.start none), .move 0 .probe,
        .move 0 (.probeResolve outcome)]
      ++ Run.enrolment p others
      ++ (List.range others).map fun k => .move (k + 1) (.start none))
  IO.println "Benchmark clients created."
  let s : Session :=
    ⟨p, u, ← IO.mkRef (.start p f (← IO.monoNanosNow)), ← Std.CancellationToken.new⟩
  let interrupt ← Signal.Waiter.mk .sigint false
  let conclusion ← s.manage interrupt.selector connection
  interrupt.stop
  return conclusion

end LoadHarness.Live
