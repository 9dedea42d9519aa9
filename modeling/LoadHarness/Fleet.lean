import LoadHarness.Chain.Move

/-!
# Chains that share their counters

A `Fleet` is the chains of a run with the counters they share. Everything that happens to it is
an `Event`: a chain is built or makes a move, or somebody outside acts on the counters.
`Fleet.step` says what an event does. Whoever drives a fleet in whatever order and time only
applies events, so that what holds after every list of events holds of every run.
-/

namespace LoadHarness

/-- The chains of a run and the counters they share. -/
structure Fleet where
  counters : Counters
  chains : List Chain
deriving DecidableEq, Repr

/-- One step of a fleet. -/
inductive Event where
  /-- One more chain is there. -/
  | build (id : ClientId) (stopOnFailure : Bool)
  /-- The chain of a number makes a move. -/
  | move (i : Nat) (m : Move)
  /-- Somebody outside takes a unit of the budget. -/
  | consume
  /-- Somebody outside counts as an active client. -/
  | enter
deriving DecidableEq, Repr

namespace Event

/-- A stop from outside. -/
def stop (i : Nat) : List Event := Move.stop.map (move i)

/-- A stop by the task of the chain, if it is done. -/
def departure (i : Nat) : List Event := Move.departure.map (move i)

/-- A stop of so many chains, the first one first. -/
def stopAll (count : Nat) : List Event := (List.range count).flatMap stop

end Event

namespace Fleet

/-- Chains on a budget. -/
def create (budget : Nat) (chains : List Chain) : Fleet := ⟨.ofBudget budget, chains⟩

/-- Lets one chain act on the counters. -/
def act (f : Fleet) (i : Nat) (g : Chain × Counters → Chain × Counters) : Fleet :=
  match f.chains[i]? with
  | none => f
  | some c =>
    let s := g (c, f.counters)
    ⟨s.2, f.chains.set i s.1⟩

/-- What an event does. -/
def step (f : Fleet) : Event → Fleet
  | .build id stopOnFailure => { f with chains := f.chains ++ [.create id stopOnFailure] }
  | .move i m => f.act i m.run
  | .consume => { f with counters := f.counters.consume.1 }
  | .enter => { f with counters := f.counters.clientStarted }

/-- What a list of events does. -/
def apply (f : Fleet) (events : List Event) : Fleet := events.foldl step f

/-- Stops all chains. -/
def stopAll (f : Fleet) : Fleet := f.apply (Event.stopAll f.chains.length)

/-- What the chain of a number answers to a question, or else `default`. -/
def ask {α : Type} (f : Fleet) (i : Nat) (default : α) (question : Chain → α) : α :=
  (f.chains[i]?.map question).getD default

/-- Whether an exchange of the task of a chain is in flight. -/
def isWaiting (f : Fleet) (i : Nat) : Bool := f.ask i false Chain.isWaiting

/-- The requests all chains accounted for together. -/
def sent (f : Fleet) : Nat := f.chains.foldl (fun n c => n + c.sent) 0

end Fleet

end LoadHarness
