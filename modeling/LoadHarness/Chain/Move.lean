import LoadHarness.Chain.Resolution

/-!
# Moves of a chain

Everything that happens to a chain is a `Move`, one indivisible step of its task or of somebody
who uses it, and `Move.run` says what it does to the chain and to the counters it shares. A
probe is three kinds of moves: it begins, it retransmits, which nobody counts, and it has an
outcome, which only whoever probes learns.

What is done in one go when nothing interferes is a list of moves (`Move.runAll`): `Move.stop`
is a stop with its teardown, and `Move.departure` the same for a chain that its own task stops.
-/

namespace LoadHarness

/-- One step of a chain. -/
inductive Move where
  | start (refusal : Option Failure)
  /-- A started chain sends a request that counts for nothing. -/
  | probe
  | probeRetransmit
  | probeResolve (outcome : Outcome)
  | launch
  /-- The task of a launched chain sends its first request. -/
  | first
  | retransmit
  | resolve (outcome : Outcome)
  | die
  /-- Somebody begins to stop the chain. -/
  | mark
  /-- The task of the chain begins to stop it. -/
  | leave
  | tearDown
deriving DecidableEq, Repr

namespace Move

/-- What a move does to a chain and the counters it shares. -/
def run : Move → Chain × Counters → Chain × Counters
  | start refusal, s => ((s.1.start refusal).1, s.2)
  | probe, s => (s.1.probe, s.2)
  | probeRetransmit, s => s
  | probeResolve _, s => s
  | launch, s => (Chain.launch s).1
  | first, s => (s.1.first, s.2)
  | retransmit, s => Chain.retransmit s
  | resolve outcome, s => Chain.resolve outcome s
  | die, s => (s.1.die, s.2)
  | mark, s => (s.1.mark, s.2)
  | leave, s => (s.1.leave, s.2)
  | tearDown, s => Chain.tearDown s

/-- Whether it is the task of a chain, or the transport in its exchange, that makes a move. -/
def isTask : Move → Bool
  | first | retransmit | resolve _ | die | leave | tearDown => true
  | _ => false

/-- One move after the other. -/
def runAll (moves : List Move) (s : Chain × Counters) : Chain × Counters :=
  moves.foldl (fun s m => m.run s) s

/-- The steps of a teardown; where fewer are left, the last ones do nothing. -/
def teardown : List Move := [tearDown, tearDown, tearDown, tearDown]

/-- A stop from outside. -/
def stop : List Move := mark :: teardown

/-- A stop by the task of the chain, if it is done. -/
def departure : List Move := leave :: teardown

end Move

end LoadHarness
