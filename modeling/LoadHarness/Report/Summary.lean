import LoadHarness.Report.Distribution
import LoadHarness.Report.Progress

/-!
# Final report of a run

`Report` holds the figures of a run that ended, `headline` and `summary` the lines printed
for it. A run that sent less than it expected names the share it reached. That share is
computed in words of 64 bits, so a count of requests beyond a hundredth of the greatest word
is a `Fault` and no figure; `percent` says which of the three applies.
-/

namespace LoadHarness

/-- How a run ended. -/
inductive Ending where
  /-- The budget is spent. -/
  | finished
  /-- A window without progress, or no client left. -/
  | stale
  /-- Interrupted from the keyboard. -/
  | interrupted
deriving DecidableEq, Repr

/-- A programming fault that ends the computation at hand. -/
inductive Fault where
  /-- A product beyond 64 bits. -/
  | multiplyOverflow
  /-- A client left a run in which no client was active. -/
  | noRunningClient
deriving DecidableEq, Repr

def Fault.message : Fault → String
  | .multiplyOverflow => "attempt to multiply with overflow"
  | .noRunningClient => "client_stopped without a running client"

/-- The figures of a run that ended. -/
structure Report where
  clients : Nat
  expected : Nat
  sent : Nat
  elapsed : Duration
  ending : Ending
  retransmissions : Nat
  errors : Nat
  /-- The requests each client accounted for, ascending. -/
  perClient : List Nat
deriving DecidableEq, Repr

namespace Report

def isStale (r : Report) : Bool := r.ending == .stale

/-- The share of the expected requests that were sent, in whole percent, if some are
missing. -/
def percent (r : Report) : Except Fault (Option Nat) :=
  if r.sent < r.expected then
    if r.sent * 100 ≤ Duration.wordMax then .ok (some (r.sent * 100 / r.expected))
    else .error .multiplyOverflow
  else .ok none

/-- The line that announces how the clients ended. -/
def headline (r : Report) : String :=
  match r.ending with
  | .finished => "Benchmark clients finished."
  | .stale | .interrupted => "Benchmark clients stopped."

/-- The two lines that every summary starts with. -/
def totals (r : Report) : List String :=
  [Text.numeral r.sent ++ " requests sent, " ++ Text.numeral r.expected ++ " expected",
    Text.numeral r.sent ++ " requests in " ++ Text.numeral r.elapsed.milliseconds ++ "ms"
      ++ throughput r.sent r.elapsed]

/-- The line on the share reached. -/
def shortfallLine (sent percent : Nat) : String :=
  "Stale at " ++ Text.numeral sent ++ " messages (" ++ Text.numeral percent ++ "%)"

/-- The summary lines in the order printed. -/
def summary (r : Report) : Except Fault (List String) :=
  r.percent.map fun percent =>
    r.totals
      ++ (if 0 < r.retransmissions then [retransmissionRatio r.retransmissions r.sent] else [])
      ++ (if 0 < r.errors then [errorRatio r.errors r.sent] else [])
      ++ (percent.map (shortfallLine r.sent)).toList
      ++ (if 1 < r.clients then distribution r.perClient r.expected else [])

/-- Everything printed for a report. -/
def printed (r : Report) : Except Fault (List String) :=
  r.summary.map (r.headline :: ·)

end Report

end LoadHarness
