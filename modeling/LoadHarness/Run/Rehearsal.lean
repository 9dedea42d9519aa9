import LoadHarness.Run.Basic

/-!
# Rehearsing a run

A run is rehearsed with scripted transports, one script for each client. The scripts tell how
many samples are enough to see whether the run ends: between two of them that show the same
counters lies at most the longest delay.
-/

namespace LoadHarness

/-- The transports of a rehearsal. -/
structure Cast where
  /-- One for each client; the last one stands for all further clients. -/
  scripts : List Script
  /-- What the first exchange of client 0 does, before its script begins. -/
  probe : Cue
  /-- The client whose transport cannot be built. -/
  missing : Option Nat
deriving DecidableEq, Repr

namespace Cast

/-- The script of a client. -/
def script (c : Cast) (i : Nat) : Script :=
  c.scripts.getD i (c.scripts.getLastD ⟨false, [], none⟩)

/-- The transport of a client. -/
def build (c : Cast) (i : Nat) : Except Failure Behaviour :=
  if c.missing = some i then
    .error (.transport ("No transport for client #" ++ Text.numeral i))
  else
    let b := (c.script i).behaviour
    .ok (if i = 0 then b.after c.probe else b)

/-- The greatest delay of any exchange. -/
def longestDelay (c : Cast) : Nat := (c.scripts.map Script.longestDelay).foldl max 0

/-- As many samples as a run can take that ends. -/
def samples (c : Cast) (p : Plan) : Nat :=
  let perExchange := (c.longestDelay + 2) * tickLength / p.settings.interval.nanoseconds + 2
  (p.sizing.total + p.sizing.clients.toNat + 1) * perExchange

/-- What there is to tell of a run with these transports. -/
def rehearse (c : Cast) (p : Plan) : Record := Run.record p c.build (c.samples p)

end Cast

end LoadHarness
