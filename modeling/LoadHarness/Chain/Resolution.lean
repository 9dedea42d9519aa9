import LoadHarness.Chain.Basic

/-!
# Resolving a request

When the exchange of a chain has an outcome, the request is accounted for: it takes a unit of
the shared budget, as long as there is one. A failed request does so only in a chain that
tolerates failures, and is counted as an error then; any other chain ends with it. The chain
goes on while there is budget left.

`Chain.resolve` is that one step, up to the next request or the decision to stop.
-/

namespace LoadHarness.Chain

/-- Accounts for a request. `true` says that there is budget for another. -/
def account (failed : Bool) (s : Chain × Counters) : (Chain × Counters) × Bool :=
  match s.2.consume with
  | (_, none) => (s, false)
  | (counters, some left) =>
    (({ s.1 with sent := s.1.sent + 1 }, if failed then counters.recordError else counters),
      0 < left)

/-- What an outcome does to the counts. `true` says that the chain goes on. -/
def settle (outcome : Outcome) (s : Chain × Counters) : (Chain × Counters) × Bool :=
  if outcome.isSuccess then account false s
  else if s.1.stopOnFailure then (s, false)
  else account true s

/-- The outcome of the exchange in flight arrives: the next request is sent, or the task is
done. Where no exchange is in flight, an outcome changes nothing. -/
def resolve (outcome : Outcome) (s : Chain × Counters) : Chain × Counters :=
  if s.1.isWaiting then
    let (s, more) := settle outcome s
    if more then (s.1.callExchange, s.2) else ({ s.1 with task := .leaving }, s.2)
  else s

/-- The transport calls the observer of the exchange in flight: a retransmission. -/
def retransmit (s : Chain × Counters) : Chain × Counters :=
  if s.1.isWaiting then (s.1, s.2.recordRetransmission) else s

/-- The task dies in its exchange: nothing is accounted for, and the chain stays running. -/
def die (c : Chain) : Chain := if c.isWaiting then { c with task := .dead } else c

end LoadHarness.Chain
