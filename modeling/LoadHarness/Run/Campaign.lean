import LoadHarness.Counters.Drain
import LoadHarness.Run.Basic

/-!
# Runs step by step

A `Campaign` is a run from its launch on, cut into steps that nothing divides (`Campaign.Step`).
The manager of the run, the tasks of the clients, the clock, the wake-up that the last unit of the
budget leads to, and the keyboard take their steps in whatever order, so that tasks are at work
while the manager launches others, reads one counter after the other or stops the clients one by
one.

What the manager does next is its `Phase`. It launches every client, takes a first look at the
counters, and then waits for the budget to be spent, as a `Waiter` does, an interval at most. When
the interval is over it takes the next look and compares it with the last one. However the watch
ends (`Verdict`), every client is stopped, one after the other, and every task awaited before the
report. A call that never returns is a step that is never taken.

`Run.record` follows one order of these steps, in which a look or a stop takes no time.
-/

namespace LoadHarness

/-- What a look at the counters has read, as long as it is not complete. -/
inductive Reading where
  | nothing
  | budget (remaining : Nat)
  | repeated (remaining retransmissions : Nat)
  | failed (remaining retransmissions errors : Nat)
deriving DecidableEq, Repr

/-- One more word of the counters is read. The fourth one makes a snapshot. -/
def Reading.next (n : Counters) : Reading → Reading ⊕ Snapshot
  | nothing => .inl (.budget n.remaining)
  | budget remaining => .inl (.repeated remaining n.retransmissions)
  | repeated remaining retransmissions => .inl (.failed remaining retransmissions n.errors)
  | failed remaining retransmissions errors =>
    .inr ⟨remaining, retransmissions, errors, n.active⟩

/-- How the watch over a run ended, and after which time. -/
structure Verdict where
  ending : Ending
  /-- In nanoseconds from the launch. -/
  time : Nat
deriving DecidableEq, Repr

/-- What the manager of a run is about. -/
inductive Phase where
  /-- The next client to launch. -/
  | launching (next : Nat)
  | looking (r : Reading)
  /-- The interval is over at the time `due`. -/
  | waiting (due : Nat) (w : Waiter)
  /-- The next client to stop. -/
  | stopping (v : Verdict) (next : Nat)
  /-- In the teardown of a client that was not stopped before. -/
  | tearingDown (v : Verdict) (i : Nat)
  /-- Waiting for all tasks to be over. -/
  | joining (v : Verdict)
  | ended (v : Verdict) (c : Conclusion)
deriving DecidableEq, Repr

/-- The verdict, once there is one. -/
def Phase.verdict? : Phase → Option Verdict
  | launching _ | looking _ | waiting _ _ => none
  | stopping v _ | tearingDown v _ | joining v | ended v _ => some v

/-- A run from its launch on. -/
structure Campaign where
  fleet : Fleet
  /-- The clock, in nanoseconds. -/
  now : Nat
  /-- The wake-ups that were sent. -/
  wakes : Nat
  /-- The tasks that took the last unit of the budget and have yet to send their wake-up. -/
  owed : Nat
  /-- The time of the launch. -/
  began : Nat
  phase : Phase
  /-- The first look, or the last one that was shown. -/
  last : Option Snapshot
  printed : List String
deriving DecidableEq, Repr

namespace Campaign

/-- A run whose clients are created, at some time. -/
def start (p : Plan) (f : Fleet) (now : Nat) : Campaign where
  fleet := f
  now := now
  wakes := 0
  owed := 0
  began := now
  phase := .launching 0
  last := none
  printed := [Run.announcement p, "Benchmark clients created."]

/-- An event happens to the clients. Whoever takes the last unit of the budget owes a wake-up. -/
def happen (c : Campaign) (e : Event) : Campaign :=
  let f := c.fleet.step e
  let spent := f.counters.isDrained && !c.fleet.counters.isDrained
  { c with fleet := f, owed := c.owed + spent.toNat }

/-- Whether a move is left to a task. A teardown that the manager is about is not. -/
def leaves (c : Campaign) (i : Nat) (m : Move) : Bool :=
  m.isTask && match c.phase with
    | .tearingDown _ j => !(m == .tearDown && i == j)
    | _ => true

/-! ## The manager -/

/-- The manager goes on to something else. -/
def turnTo (phase : Phase) (c : Campaign) : Campaign := { c with phase }

/-- The next interval begins. -/
def await (p : Plan) (c : Campaign) : Campaign :=
  c.turnTo (.waiting (c.now + p.settings.interval.nanoseconds) .arriving)

/-- The watch is over. -/
def halt (ending : Ending) (c : Campaign) : Campaign :=
  c.turnTo (.stopping ⟨ending, c.now - c.began⟩ 0)

/-- A look is complete. The first one is only remembered; any other finds the run stale, or its
window is shown. -/
def look (p : Plan) (current : Snapshot) (c : Campaign) : Campaign :=
  match c.last with
  | none => { c with last := some current }.await p
  | some last =>
    let w : Window := ⟨current.since last, current⟩
    if isStale current w.activity p.sizing.total then c.halt .stale
    else
      { c with
          last := some current
          printed := c.printed ++ [w.line p.settings.interval] }.await p

/-- All clients are stopped and all tasks over, and the report is made. -/
def close (p : Plan) (v : Verdict) (c : Campaign) : Campaign :=
  let conclusion := (Run.report p v.ending v.time c.fleet).conclusion
  { c with phase := .ended v conclusion, printed := c.printed ++ conclusion.lines }

/-- The next step of the manager. -/
def proceed (p : Plan) (c : Campaign) : Campaign :=
  match c.phase with
  | .launching i =>
    if i < c.fleet.chains.length then (c.happen (.move i .launch)).turnTo (.launching (i + 1))
    else { c with phase := .looking .nothing, printed := c.printed ++ ["Benchmark started."] }
  | .looking r =>
    match r.next c.fleet.counters with
    | .inl r => c.turnTo (.looking r)
    | .inr current => c.look p current
  | .waiting due w =>
    if w.isReleased then c.halt .finished
    else c.turnTo (.waiting due (w.step c.fleet.counters.remaining c.wakes))
  | .stopping v i =>
    if i < c.fleet.chains.length then
      (c.happen (.move i .mark)).turnTo
        (if c.fleet.ask i true (·.stage == .stopped) then .stopping v (i + 1)
          else .tearingDown v i)
    else c.turnTo (.joining v)
  | .tearingDown v i =>
    if c.fleet.ask i true (·.teardown.isEmpty) then c.turnTo (.stopping v (i + 1))
    else c.happen (.move i .tearDown)
  | .joining v => if c.fleet.chains.all Chain.isDone then c.close p v else c
  | .ended _ _ => c

/-! ## All steps -/

/-- Whether the interval is over before the wake-up. -/
def isDue (c : Campaign) : Bool :=
  match c.phase with
  | .waiting due w => due ≤ c.now && w.isBlocked c.wakes
  | _ => false

/-- Whether the manager hears of an interrupt. -/
def isWaiting (c : Campaign) : Bool :=
  match c.phase with
  | .waiting _ _ => true
  | _ => false

/-- One step of somebody. -/
inductive Step where
  /-- Time passes. -/
  | pass (nanoseconds : Nat)
  /-- The task of a client, or the transport in its exchange, makes a move. -/
  | move (i : Nat) (m : Move)
  /-- A task that took the last unit of the budget sends its wake-up. -/
  | wake
  /-- The manager goes on. -/
  | proceed
  /-- The interval is over. -/
  | timer
  /-- The manager is interrupted. -/
  | interrupt
deriving DecidableEq, Repr

/-- What a step does, if it can be taken. -/
def step (p : Plan) (c : Campaign) : Step → Campaign
  | .pass d => { c with now := c.now + d }
  | .move i m => if c.leaves i m then c.happen (.move i m) else c
  | .wake =>
    match c.owed with
    | 0 => c
    | owed + 1 => { c with owed, wakes := c.wakes + 1 }
  | .proceed => c.proceed p
  | .timer => if c.isDue then c.turnTo (.looking .nothing) else c
  | .interrupt => if c.isWaiting then c.halt .interrupted else c

/-- What a list of steps does. -/
def apply (p : Plan) (c : Campaign) (steps : List Step) : Campaign := steps.foldl (step p) c

end Campaign

end LoadHarness
