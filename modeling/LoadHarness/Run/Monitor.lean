import LoadHarness.Report.Summary
import LoadHarness.Run.Timeline

/-!
# Watching a run

While a run goes on, the counters are sampled at the end of every interval. The run is over as
soon as the budget is spent or somebody interrupts it, and it is stale if a sample shows that
no client is active, or that nothing was accounted for since the sample before though
something had been earlier (`isStale`). Every other sample is shown as a `Window`.

`Watch.interval` goes to the next sample, `Watch.run` on to the end of the run or a given
number of samples. A sample comes before the exchanges that end at the same time, and nothing
happens while it is taken. It is otherwise in a `Campaign`, which reads one counter after the
other.
-/

namespace LoadHarness

/-- Whether a run is stale that shows these counters, and this activity since the sample
before. -/
def isStale (current : Snapshot) (window : Delta) (expected : Nat) : Bool :=
  (window.sent == 0 && current.remaining < expected) || current.active == 0

/-- What is shown of an interval: its activity, and the counters at its end. -/
structure Window where
  activity : Delta
  current : Snapshot
deriving DecidableEq, Repr

/-- The line printed for a window. -/
def Window.line (interval : Duration) (w : Window) : String :=
  Report.progressLine w.activity w.current interval

/-- A run that is watched. -/
structure Watch where
  timeline : Timeline
  /-- The time of the sample before. -/
  sampled : Nat
  /-- The counters at the sample before. -/
  last : Snapshot
  /-- What was shown, in order. -/
  windows : List Window
deriving DecidableEq, Repr

namespace Watch

/-- The first look at a fleet. -/
def ofTimeline (t : Timeline) : Watch := ⟨t, t.now, t.fleet.counters, []⟩

/-- Whether a run is over whatever a sample shows. -/
def isOver (t : Timeline) : Bool := t.fleet.counters.isDrained || t.interrupted

/-- How a run ended that is over. -/
def ending (t : Timeline) : Ending :=
  if t.fleet.counters.isDrained then .finished else .interrupted

/-- Looks at the counters: the run is stale, or the window is shown. -/
def sample (expected : Nat) (w : Watch) : Watch × Option Ending :=
  let current := w.timeline.fleet.counters
  let activity := current.since w.last
  if isStale current activity expected then (w, some .stale)
  else
    ({ w with sampled := w.timeline.now, last := current,
              windows := w.windows ++ [⟨activity, current⟩] }, none)

/-- Goes on until the run is over, or to the next sample. -/
def interval (transports : Nat → Behaviour) (expected : Nat) (length : Duration) (w : Watch) :
    Watch × Option Ending :=
  let due := w.sampled + length.nanoseconds
  let t := w.timeline.advance transports isOver due
  if isOver t then ({ w with timeline := t }, some (ending t))
  else { w with timeline := { t with now := due } }.sample expected

/-- Goes on until the run is over or stale, for at most so many samples. -/
def run (transports : Nat → Behaviour) (expected : Nat) (length : Duration) :
    Nat → Watch → Watch × Option Ending
  | 0, w => (w, none)
  | samples + 1, w =>
    match w.interval transports expected length with
    | (w, some e) => (w, some e)
    | (w, none) => run transports expected length samples w

end Watch

end LoadHarness
