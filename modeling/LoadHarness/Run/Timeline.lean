import LoadHarness.Fleet
import LoadHarness.Transport.Behaviour

/-!
# A fleet in time

A `Timeline` drives a fleet whose transports have a given behaviour, on a clock that moves
from one event to the next, and keeps the history of all events. Whatever is ready happens
before the clock moves, so an exchange without delay ends as soon as it begins.

`Timeline.advance` lets everything happen that is due before a limit, until a condition holds.
-/

namespace LoadHarness

/-- An exchange in flight that will end. -/
structure Flight where
  /-- The time of its end, in nanoseconds. -/
  due : Nat
  effect : Effect
deriving DecidableEq, Repr

/-- A fleet in time. -/
structure Timeline where
  /-- In nanoseconds from the start. -/
  now : Nat
  fleet : Fleet
  /-- The flight of each chain, which counts only while the chain waits. -/
  flights : List (Option Flight)
  /-- Whether somebody interrupted the run. -/
  interrupted : Bool
  /-- What happened to the fleet so far, the latest first. -/
  past : List Event
deriving DecidableEq, Repr

namespace Timeline

/-- A fleet at the start of time. -/
def ofFleet (f : Fleet) : Timeline := ⟨0, f, f.chains.map fun _ => none, false, []⟩

/-- What happened to the fleet so far, in order. -/
def history (t : Timeline) : List Event := t.past.reverse

/-- The tick that the clock shows. -/
def tick (t : Timeline) : Nat := t.now / tickLength

/-- Lets events happen now. -/
def apply (t : Timeline) (events : List Event) : Timeline :=
  { t with fleet := t.fleet.apply events, past := events.reverse ++ t.past }

/-! ## Exchanges -/

/-- The cue of the exchange that a chain began last. -/
def cue (transports : Nat → Behaviour) (t : Timeline) (i : Nat) : Cue :=
  (transports i).cue (t.fleet.ask i 0 (·.calls.exchanges) - 1)

/-- An exchange of a chain has begun: it retransmits, and is in flight or has its effect at
once. -/
def send (transports : Nat → Behaviour) (i : Nat) (t : Timeline) : Timeline × Option Effect :=
  let cue := t.cue transports i
  let t := t.apply (List.replicate cue.retransmissions (.move i .retransmit))
  if cue.delay.isNone then (t, some cue.effect)
  else
    ({ t with flights := t.flights.set i (some ⟨cue.delay.after i t.now, cue.effect⟩) }, none)

/-- The exchange of a chain has its effect, and so have the exchanges without delay that it
leads to. Each of them takes a unit of the budget or is the last one, so that `fuel` need not
exceed the budget. -/
def follow (transports : Nat → Behaviour) (i : Nat) : Nat → Effect → Timeline → Timeline
  | _, .silence, t => t
  | _, .death, t => t.apply [.move i .die]
  | _, .interrupt, t => { t with interrupted := true }
  | fuel, .answer outcome, t =>
    let t := t.apply [.move i (.resolve outcome)]
    if t.fleet.isWaiting i then
      match t.send transports i, fuel with
      | (t, some effect), fuel + 1 => follow transports i fuel effect t
      | (t, _), _ => t
    else t.apply (Event.departure i)

/-- The exchange of a chain has its effect now. -/
def meet (transports : Nat → Behaviour) (i : Nat) (effect : Effect) (t : Timeline) : Timeline :=
  t.follow transports i t.fleet.counters.remaining effect

/-! ## Start, launch and stop -/

/-- Starts a chain. -/
def start (transports : Nat → Behaviour) (i : Nat) (t : Timeline) :
    Timeline × Except Failure Unit :=
  let refusal := (transports i).refusal
  (t.apply [.move i (.start refusal)], t.fleet.ask i (.ok ()) fun c => (c.start refusal).2)

/-- Launches a chain, whose task is yet to begin; `true` if it was one to launch. -/
def enlist (i : Nat) (t : Timeline) : Timeline × Bool :=
  (t.apply [.move i .launch], t.fleet.ask i false (·.stage == .started))

/-- The task of a launched chain begins. -/
def enter (transports : Nat → Behaviour) (i : Nat) (t : Timeline) : Timeline :=
  if t.fleet.ask i false (·.task == .ready) then
    match (t.apply [.move i .first]).send transports i with
    | (t, some effect) => t.meet transports i effect
    | (t, none) => t
  else t

/-- Launches a chain, whose task begins. -/
def launch (transports : Nat → Behaviour) (i : Nat) (t : Timeline) : Timeline × Bool :=
  let (t, launched) := t.enlist i
  (t.enter transports i, launched)

/-- Stops a chain, and tells how many requests it accounted for. -/
def stop (i : Nat) (t : Timeline) : Timeline × Nat :=
  let t := t.apply (Event.stop i)
  (t, t.fleet.ask i 0 Chain.sent)

/-- Stops all chains. -/
def stopAll (t : Timeline) : Timeline × List Nat :=
  let t := t.apply (Event.stopAll t.fleet.chains.length)
  (t, t.fleet.chains.map Chain.sent)

/-! ## The clock -/

/-- Of two flights the one that is due first, `a` if both are due at once. -/
def sooner (a b : Nat × Flight) : Nat × Flight := if b.2.due < a.2.due then b else a

/-- The flights that count, each with the number of its chain. -/
def inFlight (t : Timeline) : List (Nat × Flight) :=
  (t.fleet.chains.zip t.flights).zipIdx.filterMap fun p =>
    if p.1.1.isWaiting then p.1.2.map (p.2, ·) else none

/-- The flight that is due first. -/
def next? (t : Timeline) : Option (Nat × Flight) :=
  match t.inFlight with
  | [] => none
  | p :: ps => some (ps.foldl sooner p)

/-- Ends the first flight that is due before a limit. -/
def land? (transports : Nat → Behaviour) (limit : Nat) (t : Timeline) : Option Timeline :=
  match t.next? with
  | none => none
  | some (i, flight) =>
    if flight.due < limit then
      let t := { t with now := flight.due, flights := t.flights.set i none }
      some (t.meet transports i flight.effect)
    else none

/-- Ends one flight after the other, as long as there is one due before a limit and `enough`
does not hold. -/
def landAll (transports : Nat → Behaviour) (enough : Timeline → Bool) (limit : Nat) :
    Nat → Timeline → Timeline
  | 0, t => t
  | fuel + 1, t =>
    if enough t then t
    else
      match t.land? transports limit with
      | none => t
      | some t => landAll transports enough limit fuel t

/-- Lets everything happen that is due before a limit, until `enough` holds. Every flight that
ends takes a unit of the budget or leaves its chain without a flight. -/
def advance (transports : Nat → Behaviour) (enough : Timeline → Bool) (limit : Nat)
    (t : Timeline) : Timeline :=
  t.landAll transports enough limit (t.fleet.counters.remaining + t.fleet.chains.length)

/-- Lets everything happen that is due in the current tick. -/
def finishTick (transports : Nat → Behaviour) (t : Timeline) : Timeline :=
  t.advance transports (fun _ => false) (tickStart (t.tick + 1))

/-- Lets so many ticks pass. -/
def pass (transports : Nat → Behaviour) (ticks : Nat) (t : Timeline) : Timeline :=
  let target := t.tick + ticks
  let t := t.advance transports (fun _ => false) (tickStart (target + 1))
  { t with now := max t.now (tickStart target) }

/-- Lets time pass up to a moment. -/
def passUntil (transports : Nat → Behaviour) (moment : Nat) (t : Timeline) : Timeline :=
  let t := t.advance transports (fun _ => false) moment
  { t with now := max t.now moment }

/-- Probes the target with a chain, which takes the time of the exchange. The answer is missing
if it never comes. -/
def probe (transports : Nat → Behaviour) (i : Nat) (t : Timeline) : Timeline × Option Bool :=
  if t.fleet.ask i false Chain.canProbe then
    let t := t.apply [.move i .probe]
    let cue := t.cue transports i
    let t := t.apply (List.replicate cue.retransmissions (.move i .probeRetransmit))
    match cue.effect with
    | .answer outcome =>
      let t := t.passUntil transports (cue.delay.after i t.now)
      (t.apply [.move i (.probeResolve outcome)], some outcome.isSuccess)
    | _ => (t, none)
  else (t, some false)

end Timeline

end LoadHarness
