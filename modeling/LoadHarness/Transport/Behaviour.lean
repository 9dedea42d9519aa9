import LoadHarness.Failure
import LoadHarness.Message

/-!
# Behaviour of a transport

To rehearse a run without a target, transports are described by what they will do. A
`Behaviour` tells whether the transport starts, and for its first exchange, its second and so
on how often it retransmits and what happens after how long (`Cue`). A `Script` is a behaviour
written down: cues with their numbers of repetitions, and one for all exchanges beyond.

An exchange takes any number of nanoseconds, or is said to end so many ticks later (`Delay`).
Within a tick the exchanges end in the order of their clients, each a little after the one
before.
-/

namespace LoadHarness

/-! ## Delays -/

/-- The length of a tick, in nanoseconds. -/
def tickLength : Nat := 100000000

/-- The time between two clients within a tick, in nanoseconds. -/
def clientOffset : Nat := 1000000

/-- The start of a tick. -/
def tickStart (tick : Nat) : Nat := tick * tickLength

/-- How long an exchange takes. -/
inductive Delay where
  | nanoseconds (count : Nat)
  /-- It ends in the tick that comes so many later, unless it takes no time at all. -/
  | ticks (count : Nat)
deriving DecidableEq, Repr

namespace Delay

instance (count : Nat) : OfNat Delay count := ⟨.ticks count⟩

instance : Coe Nat Delay := ⟨.ticks⟩

/-- Whether something happens at once. -/
def isNone : Delay → Bool
  | nanoseconds count | ticks count => count == 0

/-- When an exchange of the client `i` ends that begins at the time `start`. -/
def after (i start : Nat) (d : Delay) : Nat :=
  if d.isNone then start
  else
    match d with
    | nanoseconds count => start + count
    | ticks count => tickStart (start / tickLength + count) + (i + 1) * clientOffset

/-- As many ticks as the delay has at most. -/
def longest : Delay → Nat
  | nanoseconds count => count / tickLength + 1
  | ticks count => count

end Delay

/-! ## Cues and scripts -/

/-- What happens at the end of an exchange. -/
inductive Effect where
  | answer (outcome : Outcome)
  /-- Nothing, ever. -/
  | silence
  /-- The task of the chain dies. -/
  | death
  /-- Somebody interrupts the run from the keyboard, and nothing else ever happens. -/
  | interrupt
deriving DecidableEq, Repr

/-- What a transport does in one exchange: it retransmits so many times at once, and after a
delay comes the effect. -/
structure Cue where
  retransmissions : Nat
  delay : Delay
  effect : Effect
deriving DecidableEq, Repr

/-- An exchange in which nothing happens. -/
def Cue.silent : Cue := ⟨0, 0, .silence⟩

/-- What a transport does. -/
structure Behaviour where
  /-- Why it does not start, if it does not. -/
  refusal : Option Failure
  /-- Its exchanges, counted from zero. -/
  cue : Nat → Cue

/-- A behaviour written down. -/
structure Script where
  startFails : Bool
  /-- Cues in order, each for so many exchanges. -/
  entries : List (Nat × Cue)
  /-- The cue for all further exchanges. -/
  beyond : Option Cue
deriving DecidableEq, Repr

namespace Script

/-- The cue at a place of a list in which every cue stands for a number of places. -/
def lookup : List (Nat × Cue) → Nat → Option Cue
  | [], _ => none
  | (count, cue) :: entries, k => if k < count then some cue else lookup entries (k - count)

/-- The cue of an exchange. Beyond the end of a script without a last word there is silence. -/
def cue (s : Script) (k : Nat) : Cue := (lookup s.entries k).getD (s.beyond.getD .silent)

/-- What a scripted transport that does not start answers. -/
def refusal (s : Script) : Option Failure :=
  if s.startFails then some (.transport "start failed") else none

/-- The behaviour that a script writes down. -/
def behaviour (s : Script) : Behaviour := ⟨s.refusal, s.cue⟩

/-- The greatest delay in a script, in ticks. -/
def longestDelay (s : Script) : Nat :=
  (s.entries.map fun e => e.2.delay.longest).foldl max (s.beyond.getD .silent).delay.longest

end Script

/-- A behaviour behind one more exchange in front. -/
def Behaviour.after (first : Cue) (b : Behaviour) : Behaviour where
  refusal := b.refusal
  cue
    | 0 => first
    | k + 1 => b.cue k

end LoadHarness
