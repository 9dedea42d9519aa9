import LoadHarness.Run.Monitor
import LoadHarness.Settings.Route

/-!
# Runs

A run builds client 0, starts it and probes the target with it. If the probe succeeds, it
builds and starts all other clients; one that does not start is stopped and takes no part.
Then all are launched and watched until the run ends, and all are stopped. `Run.record` tells
how a run of a plan ends whose transports behave in a given way, what it prints, and what
became of the clients that were built.

A run is followed in the order that rehearsed transports keep: nothing else happens while the
clients are launched, the counters read, or the clients stopped. In which orders everybody may
take their steps is told by `Campaign`.

A client that never gets an answer can keep a run from ever ending. So a run is followed for a
given number of samples, and a record says `unending` if it did not end by then.
-/

namespace LoadHarness

/-- How a run came to its end. -/
inductive Conclusion where
  | report (r : Report)
  | failure (e : Failure)
  | fault (e : Fault)
  /-- It had not ended when the look at it did. -/
  | unending
deriving DecidableEq, Repr

/-- What a run comes to with its report, which may fail to be printed. -/
def Report.conclusion (r : Report) : Conclusion :=
  match r.printed with
  | .error e => .fault e
  | .ok _ => .report r

/-- What is printed when a run comes to its end. -/
def Conclusion.lines : Conclusion → List String
  | .report r => r.printed.toOption.getD []
  | _ => []

/-- What there is to tell of a run. -/
structure Record where
  conclusion : Conclusion
  printed : List String
  /-- The clients that were built, with what they counted. -/
  fleet : Fleet
  /-- All that happened to them, in order. -/
  history : List Event
  /-- Whether somebody interrupted the run. -/
  interrupted : Bool
deriving DecidableEq, Repr

/-- The clients that were built, in this order. -/
def Record.chains (r : Record) : List Chain := r.fleet.chains

namespace Run

/-- The line that announces a run. -/
def announcement (p : Plan) : String :=
  "Create " ++ Text.numeral p.sizing.clients.toNat ++ " "
    ++ (if p.sizing.stopOnFailure then "" else "none-stop ")
    ++ (match p.route.security with | .plain => "" | .secure => "secure ")
    ++ "benchmark clients, expect to send " ++ Text.numeral p.sizing.total
    ++ " request overall to " ++ p.settings.target

/-! ## Before the launch -/

/-- The transports of so many clients from the number `k` on, up to the first that cannot be
built. -/
def buildFrom (build : Nat → Except Failure Behaviour) :
    Nat → Nat → List Behaviour × Option Failure
  | _, 0 => ([], none)
  | k, count + 1 =>
    match build k with
    | .error e => ([], some e)
    | .ok b =>
      let (bs, e) := buildFrom build (k + 1) count
      (b :: bs, e)

/-- The behaviour of a client among those that were built. -/
def transport (built : List Behaviour) (i : Nat) : Behaviour :=
  built.getD i ⟨none, fun _ => .silent⟩

/-- A timeline on which nothing has happened. -/
def opening (p : Plan) : Timeline := .ofFleet (.create p.sizing.total [])

/-- Client 0 is built, started if its transport lets it, and then used to probe the target. The
answer is missing if it never comes. -/
def probed (p : Plan) (b : Behaviour) : Timeline × Option Bool :=
  let t := (opening p).apply
    [.build .probe p.sizing.stopOnFailure, .move 0 (.start b.refusal)]
  if b.refusal.isSome then (t, some false)
  else
    let cue := b.cue 0
    let t := t.apply
      (.move 0 .probe :: List.replicate cue.retransmissions (.move 0 .probeRetransmit))
    match cue.effect with
    | .answer outcome => (t.apply [.move 0 (.probeResolve outcome)], some outcome.isSuccess)
    | _ => (t, none)

/-- The clients behind client 0, so many, are built. -/
def enrolment (p : Plan) (count : Nat) : List Event :=
  (List.range count).map fun k => .build ⟨k + 1⟩ p.sizing.stopOnFailure

/-- The clients behind client 0 are started, and then those stopped that did not start. -/
def muster (built : List Behaviour) : List Event :=
  let others := (List.range built.length).drop 1
  others.map (fun i => .move i (.start (transport built i).refusal))
    ++ (others.filter fun i => (transport built i).refusal.isSome).flatMap Event.stop

/-! ## The launch and all that follows -/

/-- The first look at a fleet that is launched, here before any of its tasks begins. -/
def launched (t : Timeline) : Watch :=
  let t := t.apply ((List.range t.fleet.chains.length).map fun i => .move i .launch)
  .ofTimeline { t with flights := t.fleet.chains.map fun _ => none }

/-- The tasks of a launched fleet begin, one after the other. -/
def begun (built : List Behaviour) (w : Watch) : Watch :=
  { w with timeline :=
      (List.range built.length).foldl (fun t i => t.enter (transport built) i) w.timeline }

/-- A launched fleet is watched. -/
def watched (p : Plan) (built : List Behaviour) (samples : Nat) (t : Timeline) :
    Watch × Option Ending :=
  (begun built (launched t)).run (transport built) p.sizing.total p.settings.interval samples

/-- The figures of a run that ended, after all its clients are stopped. The last interval of a
stale run does not count. -/
def report (p : Plan) (ending : Ending) (time : Nat) (f : Fleet) : Report where
  clients := p.sizing.clients.toNat
  expected := p.sizing.total
  sent := p.sizing.total - f.counters.remaining
  elapsed := if ending = .stale then Duration.without ⟨time⟩ p.settings.interval else ⟨time⟩
  ending
  retransmissions := f.counters.retransmissions
  errors := f.counters.errors
  perClient := (f.chains.map Chain.sent).mergeSort

/-- The record of a run that is over after what happened on a timeline. -/
def close (conclusion : Conclusion) (printed : List String) (t : Timeline) : Record :=
  ⟨conclusion, printed, t.fleet, t.history, t.interrupted⟩

/-- What there is to tell of a run that was watched to its end, and whose clients are all stopped
then, here at the same time. -/
def concluded (p : Plan) (before : List String) (ending : Ending) (w : Watch) : Record :=
  let t := w.timeline.stopAll.1
  let c := (report p ending w.timeline.now t.fleet).conclusion
  close c (before ++ w.windows.map (Window.line p.settings.interval) ++ c.lines) t

/-- A run from its launch on. -/
def launch (p : Plan) (built : List Behaviour) (samples : Nat) (before : List String)
    (t : Timeline) : Record :=
  match watched p built samples t with
  | (w, some ending) => concluded p before ending w
  | (w, none) =>
    close .unending (before ++ w.windows.map (Window.line p.settings.interval)) w.timeline

/-- What there is to tell of a run, followed for so many samples. -/
def record (p : Plan) (build : Nat → Except Failure Behaviour) (samples : Nat) : Record :=
  let announced := [announcement p]
  match build 0 with
  | .error e => close (.failure e) announced (opening p)
  | .ok b =>
    match probed p b with
    | (t, none) => close .unending announced t
    | (t, some false) =>
      close (.failure (.probe p.settings.target)) announced (t.apply (Event.stop 0))
    | (t, some true) =>
      match buildFrom build 1 (p.sizing.clients.toNat - 1) with
      | (bs, some e) =>
        close (.failure e) announced ((t.apply (enrolment p bs.length)).apply (Event.stop 0))
      | (bs, none) =>
        launch p (b :: bs) samples
          (announced ++ ["Benchmark clients created.", "Benchmark started."])
          ((t.apply (enrolment p bs.length)).apply (muster (b :: bs)))

end Run

end LoadHarness
