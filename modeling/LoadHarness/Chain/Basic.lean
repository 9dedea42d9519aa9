import LoadHarness.Counters.Basic
import LoadHarness.Message

/-!
# Chains of requests

A chain is one client of a run: it keeps one request in flight on a transport of its own and
sends the next when that one is resolved. It goes through four stages (`Stage`). Starting
binds the transport; launching creates the task (`Task`) that sends the requests; stopping
ends both.

A stop begins by marking the chain as stopped (`Chain.mark`). Whoever finds it not marked yet
has a teardown to do, step by step (`Teardown`, `Chain.tearDown`); everyone else has nothing
to do. A task that is done stops its own chain in the same way (`Chain.leave`).

What a chain does to the counters it shares goes through the functions on pairs of a chain and
counters. `Calls` counts how often the chain called its transport.
-/

namespace LoadHarness

/-- How far a chain has come. -/
inductive Stage where
  | created
  | started
  | running
  | stopped
deriving DecidableEq, Repr

namespace Stage

/-- The place of a stage in the order in which chains go through them. -/
def rank : Stage → Nat
  | created => 0
  | started => 1
  | running => 2
  | stopped => 3

end Stage

/-- The task that sends the requests of a chain. -/
inductive Task where
  /-- Never launched. -/
  | none
  /-- Launched, and yet to send its first request. -/
  | ready
  /-- Waiting for the exchange in flight. -/
  | waiting
  /-- Done with its requests, and about to stop its chain. -/
  | leaving
  | ended
  /-- Died in an exchange. -/
  | dead
deriving DecidableEq, Repr

/-- How often a chain called its transport. -/
structure Calls where
  starts : Nat
  exchanges : Nat
  stops : Nat
  destroys : Nat
deriving DecidableEq, Repr

/-- A step of the teardown that follows the mark of a stop. -/
inductive Teardown where
  /-- Tells the task to end, which cancels its exchange. -/
  | shutdown
  | stopTransport
  | destroyTransport
  /-- Takes the client out of the count of active ones. -/
  | leave
deriving DecidableEq, Repr

/-- The teardown of a chain that is stopped; `wasRunning` says whether it was active. -/
def Teardown.steps (wasRunning : Bool) : List Teardown :=
  [shutdown, stopTransport, destroyTransport] ++ if wasRunning then [leave] else []

/-- One client of a run. -/
structure Chain where
  id : ClientId
  /-- Whether the first failed request ends the chain. -/
  stopOnFailure : Bool
  stage : Stage
  /-- The requests it accounted for. -/
  sent : Nat
  task : Task
  calls : Calls
  /-- What is left of a teardown. -/
  teardown : List Teardown
deriving DecidableEq, Repr

namespace Chain

/-- A chain whose transport is built and nothing more. -/
def create (id : ClientId) (stopOnFailure : Bool) : Chain :=
  ⟨id, stopOnFailure, .created, 0, .none, ⟨0, 0, 0, 0⟩, []⟩

/-- Whether an exchange of its task is in flight. -/
def isWaiting (c : Chain) : Bool := c.task == .waiting

/-- Whether its task is launched and not over. -/
def isBusy (c : Chain) : Bool :=
  c.task == .ready || c.task == .waiting || c.task == .leaving

/-- Whether its task is over, and any stop of it. -/
def isDone (c : Chain) : Bool := !c.isBusy && c.teardown.isEmpty

/-! ## Start and launch -/

/-- The chain with one more call to start its transport. -/
def callStart (c : Chain) : Chain :=
  { c with calls := { c.calls with starts := c.calls.starts + 1 } }

/-- The chain with one more exchange begun. -/
def callExchange (c : Chain) : Chain :=
  { c with calls := { c.calls with exchanges := c.calls.exchanges + 1 } }

/-- Binds the transport of a chain that is not started, which fails if the transport refuses.
Other chains stay as they are. -/
def start (refusal : Option Failure) (c : Chain) : Chain × Except Failure Unit :=
  if c.stage = .created then
    match refusal with
    | some e => (c.callStart, .error e)
    | none => ({ c.callStart with stage := .started }, .ok ())
  else (c, .ok ())

/-- Whether a chain can send a request that only probes the target. -/
def canProbe (c : Chain) : Bool := c.stage == .started

/-- Sends a request that only probes the target, if the chain can. -/
def probe (c : Chain) : Chain := if c.canProbe then c.callExchange else c

/-- Launches the task of a started chain; `true` if it did. -/
def launch (s : Chain × Counters) : (Chain × Counters) × Bool :=
  if s.1.stage = .started then
    (({ s.1 with stage := .running, task := .ready }, s.2.clientStarted), true)
  else (s, false)

/-- The first request of a launched task. -/
def first (c : Chain) : Chain :=
  if c.task = .ready then { c.callExchange with task := .waiting } else c

/-! ## Stop -/

/-- Marks a chain as stopped. The teardown is left to whoever did it first. -/
def mark (c : Chain) : Chain :=
  if c.stage = .stopped then c
  else { c with stage := .stopped, teardown := Teardown.steps (c.stage == .running) }

/-- A task that is done begins to stop its chain, and is over. -/
def leave (c : Chain) : Chain :=
  if c.task = .leaving then { c.mark with task := .ended } else c

/-- What one step of a teardown does. -/
def perform (s : Chain × Counters) : Teardown → Chain × Counters
  | .shutdown => (if s.1.isBusy then { s.1 with task := .ended } else s.1, s.2)
  | .stopTransport =>
    ({ s.1 with calls := { s.1.calls with stops := s.1.calls.stops + 1 } }, s.2)
  | .destroyTransport =>
    ({ s.1 with calls := { s.1.calls with destroys := s.1.calls.destroys + 1 } }, s.2)
  | .leave => (s.1, s.2.clientStopped.1)

/-- The next step of a teardown, if there is one left. -/
def tearDown (s : Chain × Counters) : Chain × Counters :=
  match s.1.teardown with
  | [] => s
  | step :: steps => perform ({ s.1 with teardown := steps }, s.2) step

end Chain

end LoadHarness
