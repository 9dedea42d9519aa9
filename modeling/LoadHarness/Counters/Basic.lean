/-!
# Counters of a run

All clients of a run share one `Counters`: the budget of requests that are still to be
accounted for, the retransmissions, the failed requests that took budget, and the clients
that are running. Clients change them one unit at a time; whoever watches the run takes a
`Snapshot` and compares it with an earlier one, which gives the `Delta` of that window.

The count of active clients is a word of 64 bits: it wraps, and taking a client from a count
of zero is a fault of the caller that `clientStopped` reports beside the wrapped word.
-/

namespace LoadHarness

/-- What the clients of a run count together. -/
structure Counters where
  /-- Requests still to be accounted for. -/
  remaining : Nat
  retransmissions : Nat := 0
  /-- Failed requests that took a unit of the budget. -/
  errors : Nat := 0
  /-- Clients that entered the run and have not left it. -/
  active : Nat := 0
deriving DecidableEq, Repr

/-- The counters at one moment. -/
abbrev Snapshot := Counters

/-- Activity between two snapshots. -/
structure Delta where
  sent : Nat
  retransmissions : Nat
  errors : Nat
deriving DecidableEq, Repr

namespace Counters

/-- The number of values of the word that counts the active clients. -/
def wordSize : Nat := 0x10000000000000000

/-- The counters of a run that may account for at most `budget` requests. -/
def ofBudget (budget : Nat) : Counters := ⟨budget, 0, 0, 0⟩

/-- Takes one unit from the budget. The result is the budget left, or nothing when it was
exhausted; it never grows back. -/
def consume (c : Counters) : Counters × Option Nat :=
  match c.remaining with
  | 0 => (c, none)
  | left + 1 => ({ c with remaining := left }, some left)

/-- Whether the budget is spent. -/
def isDrained (c : Counters) : Bool := c.remaining == 0

def recordRetransmission (c : Counters) : Counters :=
  { c with retransmissions := c.retransmissions + 1 }

def recordError (c : Counters) : Counters := { c with errors := c.errors + 1 }

def clientStarted (c : Counters) : Counters := { c with active := (c.active + 1) % wordSize }

/-- One client less, and whether there was one. -/
def clientStopped (c : Counters) : Counters × Bool :=
  match c.active with
  | 0 => ({ c with active := wordSize - 1 }, false)
  | left + 1 => ({ c with active := left }, true)

/-- The activity since an earlier snapshot. -/
def since (current earlier : Counters) : Delta :=
  ⟨earlier.remaining - current.remaining, current.retransmissions - earlier.retransmissions,
    current.errors - earlier.errors⟩

theorem consume_zero {c : Counters} (h : c.remaining = 0) : c.consume = (c, none) := by
  simp [consume, h]

theorem consume_succ {c : Counters} {n : Nat} (h : c.remaining = n + 1) :
    c.consume = ({ c with remaining := n }, some n) := by
  simp [consume, h]

theorem remaining_consume (c : Counters) : c.consume.1.remaining = c.remaining - 1 := by
  rcases h : c.remaining with _ | n
  · simp [consume_zero h, h]
  · simp [consume_succ h]

theorem consume_none_iff (c : Counters) : c.consume.2 = none ↔ c.remaining = 0 := by
  rcases h : c.remaining with _ | n
  · simp [consume_zero h]
  · simp [consume_succ h]

end Counters

end LoadHarness
