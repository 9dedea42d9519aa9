import LoadHarness.Counters.Basic

/-!
# Waiting for the budget to be spent

Anybody may wait until the budget is spent. A waiter first registers for a wake-up and reads
the budget only then, so that no wake-up is lost between the two (`Waiter.step`). A consumer
takes its unit in one step, and in a second one, if it took the last unit, wakes everybody who
is registered. `Drain` holds what both sides see; `wakes` counts the wake-ups that were sent, and
a registration is the count at its time, so that it is woken by every later one.
-/

namespace LoadHarness

/-- How far a waiter has come. -/
inductive Waiter where
  /-- About to register. -/
  | arriving
  /-- Registered, and about to read the budget. -/
  | registered (seen : Nat)
  /-- Asleep, until a wake-up comes that it has not seen. -/
  | asleep (seen : Nat)
  | released
deriving DecidableEq, Repr

namespace Waiter

/-- The next step of a waiter. -/
def step (remaining wakes : Nat) : Waiter → Waiter
  | .arriving => .registered wakes
  | .registered seen => if remaining = 0 then .released else .asleep seen
  | .asleep seen => if seen < wakes then .arriving else .asleep seen
  | .released => .released

def isReleased (w : Waiter) : Bool := w == .released

/-- Whether a waiter can do nothing by itself. -/
def isBlocked (wakes : Nat) : Waiter → Bool
  | .asleep seen => wakes ≤ seen
  | _ => false

end Waiter

/-- Counters with those who wait for their budget to be spent. -/
structure Drain where
  counters : Counters
  /-- The wake-ups that were sent. -/
  wakes : Nat
  /-- The consumers that took the last unit and have yet to send their wake-up. -/
  owed : Nat
  waiters : List Waiter
deriving DecidableEq, Repr

namespace Drain

def ofBudget (budget : Nat) : Drain := ⟨.ofBudget budget, 0, 0, []⟩

/-- A consumer takes a unit. -/
def consume (d : Drain) : Drain × Option Nat :=
  match d.counters.consume with
  | (counters, some 0) => ({ d with counters, owed := d.owed + 1 }, some 0)
  | (counters, left) => ({ d with counters }, left)

/-- A consumer that took the last unit sends its wake-up. -/
def wake (d : Drain) : Drain :=
  match d.owed with
  | 0 => d
  | owed + 1 => { d with owed, wakes := d.wakes + 1 }

/-- One more waiter. -/
def join (d : Drain) : Drain := { d with waiters := d.waiters ++ [.arriving] }

/-- The next step of one waiter. -/
def proceed (d : Drain) (i : Nat) : Drain :=
  { d with waiters := d.waiters.modify i (Waiter.step d.counters.remaining d.wakes) }

/-- All waiters go on until they sleep or are released. From waking up, that is four steps. -/
def settle (d : Drain) : Drain :=
  let step := Waiter.step d.counters.remaining d.wakes
  { d with waiters := d.waiters.map fun w => step (step (step (step w))) }

end Drain

end LoadHarness
