import LoadHarness.Counters.Basic
import LoadHarness.Duration
import LoadHarness.Text.Percent

/-!
# Ratios, rates and the progress line

The pieces of a report that relate one number to another: a count as a share of the requests
(`ratio`), requests over a measured time (`throughput`), and the line that a running
benchmark prints for every window (`progressLine`).
-/

namespace LoadHarness.Report

/-- A count and its share of the requests. -/
def ratio (count requests : Nat) (label : String) : String :=
  if 0 < requests then
    Text.numeral count ++ " " ++ label ++ " (" ++ Text.percentage count requests ++ "%)"
  else Text.numeral count ++ " " ++ label ++ " (no responses received!)"

def retransmissionRatio (count requests : Nat) : String :=
  ratio count requests "retransmissions"

def errorRatio (count requests : Nat) : String :=
  ratio count requests "transmission errors"

/-- Requests per second, or nothing when less than a millisecond passed. -/
def throughput (requests : Nat) (elapsed : Duration) : String :=
  if 0 < elapsed.milliseconds then
    ", " ++ Text.numeral (requests * 1000 / elapsed.milliseconds) ++ " reqs/s"
  else ""

/-- The whole requests per second of a window, in floating point and at most the greatest
word of 64 bits; zero for a window of no length. -/
def rate (sent : Nat) (window : Duration) : Nat :=
  let seconds := window.toFloat
  if 0 < seconds then (sent.toUInt64.toFloat / seconds).toUInt64.toNat else 0

/-- The line printed for a window that ends in `current`. -/
def progressLine (window : Delta) (current : Snapshot) (interval : Duration) : String :=
  Text.numeral window.sent ++ " requests (" ++ Text.numeral (rate window.sent interval)
    ++ " reqs/s, " ++ retransmissionRatio window.retransmissions window.sent ++ ", "
    ++ errorRatio window.errors window.sent ++ ", " ++ Text.numeral current.active
    ++ " clients)"

end LoadHarness.Report
