import LoadHarness.Proofs.Fleet.Lifecycle
import LoadHarness.Proofs.Run.Turn
import LoadHarness.Run.Basic

/-!
# The history of a run

Whatever the transports of a run do, and however it ends, its fleet is what its history made of
one without chains, and nobody but its own clients had a part in that (`record_traced`). From the
launch on to the last sample, nothing happens but what tasks do (`leads_watched`).
-/

namespace LoadHarness

/-- Whether an event comes from a chain : it is there, or makes a move. -/
def Event.isInner : Event → Bool
  | build _ _ | move _ _ => true
  | consume | enter => false

namespace Timeline

variable {origin : Fleet} {t t' : Timeline}

/-- A fleet on a timeline is what happened to it. -/
structure Traced (origin : Fleet) (t : Timeline) : Prop where
  fleet : t.fleet = origin.apply t.history
  inner : ∀ e ∈ t.history, e.isInner = true

theorem traced_ofFleet (f : Fleet) : Traced f (ofFleet f) := ⟨rfl, by simp [history, ofFleet]⟩

theorem Traced.of_events (h : Traced origin t) (events : List Event)
    (he : ∀ e ∈ events, e.isInner = true) (hf : t'.fleet = t.fleet.apply events)
    (hp : t'.past = events.reverse ++ t.past) : Traced origin t' := by
  have hh : t'.history = t.history ++ events := by simp [history, hp]
  refine ⟨?_, fun e hm => ?_⟩
  · rw [hf, hh, h.fleet, Fleet.apply_append]
  · rw [hh] at hm
    rcases List.mem_append.1 hm with hm | hm
    · exact h.inner e hm
    · exact he e hm

theorem Traced.apply (h : Traced origin t) (events : List Event)
    (he : ∀ e ∈ events, e.isInner = true) : Traced origin (t.apply events) :=
  h.of_events events he rfl rfl

theorem Traced.leads (h : Traced origin t) (hl : Leads t t') : Traced origin t' := by
  obtain ⟨events, he, hf, hp⟩ := hl.events
  refine h.of_events events (fun e hm => ?_) hf hp
  obtain ⟨i, m, rfl, -⟩ := he e hm
  rfl

end Timeline

namespace Event

theorem isInner_stop (i : Nat) : ∀ e ∈ stop i, e.isInner = true := by
  intro e he
  obtain ⟨m, -, rfl⟩ := List.mem_map.1 he
  rfl

theorem isInner_flatMap_stop (l : List Nat) : ∀ e ∈ l.flatMap stop, e.isInner = true := by
  intro e he
  obtain ⟨i, m, -, rfl⟩ := Fleet.of_mem_moves (fun _ => Move.stop) he
  rfl

end Event

/-! ## The watch -/

namespace Watch

variable {transports : Nat → Behaviour} {expected : Nat} {length : Duration}

theorem interval_of_isOver (expected : Nat) {w : Watch} {t : Timeline}
    (ht : w.timeline.advance transports isOver (w.sampled + length.nanoseconds) = t)
    (ho : isOver t = true) :
    w.interval transports expected length = ({ w with timeline := t }, some (ending t)) := by
  simp [interval, ht, ho]

theorem interval_of_not_isOver (expected : Nat) {w : Watch} {t : Timeline}
    (ht : w.timeline.advance transports isOver (w.sampled + length.nanoseconds) = t)
    (ho : isOver t = false) :
    w.interval transports expected length
      = { w with timeline := { t with now := w.sampled + length.nanoseconds } }.sample
          expected := by
  simp [interval, ht, ho]

theorem timeline_sample (expected : Nat) (w : Watch) :
    (w.sample expected).1.timeline = w.timeline := by
  unfold sample
  dsimp only
  split <;> rfl

theorem leads_interval (transports : Nat → Behaviour) (expected : Nat) (length : Duration)
    (w : Watch) :
    Timeline.Leads w.timeline (w.interval transports expected length).1.timeline := by
  have hl := Timeline.leads_advance transports isOver (w.sampled + length.nanoseconds) w.timeline
  generalize ht : w.timeline.advance transports isOver (w.sampled + length.nanoseconds) = t at hl
  cases ho : isOver t with
  | true =>
    rw [interval_of_isOver expected ht ho]
    exact hl
  | false =>
    rw [interval_of_not_isOver expected ht ho, timeline_sample]
    exact hl.trans (Timeline.leads_setNow t _)

theorem leads_run (transports : Nat → Behaviour) (expected : Nat) (length : Duration)
    (samples : Nat) (w : Watch) :
    Timeline.Leads w.timeline (w.run transports expected length samples).1.timeline := by
  induction samples generalizing w with
  | zero => exact .refl _
  | succ samples ih =>
    have hi := leads_interval transports expected length w
    unfold run
    split
    · rename_i w' e h
      rwa [h] at hi
    · rename_i w' h
      rw [h] at hi
      exact hi.trans (ih w')

end Watch

/-! ## The run -/

namespace Run

open Timeline

variable {p : Plan} {b : Behaviour} {t : Timeline} {origin : Fleet}

theorem leads_begun (built : List Behaviour) (w : Watch) :
    Leads w.timeline (begun built w).timeline := by
  change Leads w.timeline
    ((List.range built.length).foldl (fun t i => t.enter (transport built) i) w.timeline)
  generalize w.timeline = t, List.range built.length = l
  induction l generalizing t with
  | nil => exact .refl t
  | cons i l ih => exact (turn_enter (transport built) i t).leads.trans (ih _)

/-- From the launch to the end of the watch, only the tasks are at work. -/
theorem leads_watched (p : Plan) (built : List Behaviour) (samples : Nat) (t : Timeline) :
    Leads (launched t).timeline (watched p built samples t).1.timeline :=
  (leads_begun built _).trans (Watch.leads_run _ _ _ _ _)

theorem traced_opening (p : Plan) : Traced (.create p.sizing.total []) (opening p) :=
  traced_ofFleet _

theorem traced_probed (p : Plan) (b : Behaviour) :
    Traced (.create p.sizing.total []) (probed p b).1 := by
  have hs := (traced_opening p).apply
    [.build .probe p.sizing.stopOnFailure, .move 0 (.start b.refusal)]
    (by simp [Event.isInner])
  unfold probed
  dsimp only
  split
  · exact hs
  · have hp := hs.apply (.move 0 .probe ::
      List.replicate (b.cue 0).retransmissions (.move 0 .probeRetransmit)) (by
        simp +contextual [Event.isInner])
    split
    · exact hp.apply [_] (by simp [Event.isInner])
    · exact hp

theorem isInner_enrolment (p : Plan) (count : Nat) :
    ∀ e ∈ enrolment p count, e.isInner = true := by
  intro e he
  obtain ⟨k, -, rfl⟩ := List.mem_map.1 he
  rfl

theorem isInner_muster (built : List Behaviour) : ∀ e ∈ muster built, e.isInner = true := by
  intro e he
  rcases List.mem_append.1 he with he | he
  · obtain ⟨k, -, rfl⟩ := List.mem_map.1 he
    rfl
  · exact Event.isInner_flatMap_stop _ e he

theorem traced_launched (h : Traced origin t) : Traced origin (launched t).timeline :=
  h.of_events ((List.range t.fleet.chains.length).map fun i => .move i .launch)
    (by simp +contextual [Event.isInner]) rfl rfl

theorem traced_watched (h : Traced origin t) (p : Plan) (built : List Behaviour)
    (samples : Nat) : Traced origin (watched p built samples t).1.timeline :=
  (traced_launched h).leads (leads_watched p built samples t)

theorem traced_stopAll (h : Traced origin t) : Traced origin t.stopAll.1 :=
  h.apply _ (Event.isInner_flatMap_stop _)

/-- The chains of a record are what the events of its history made of none. -/
def IsTraced (origin : Fleet) (r : Record) : Prop :=
  r.fleet = origin.apply r.history ∧ ∀ e ∈ r.history, e.isInner = true

theorem isTraced_close (h : Traced origin t) (conclusion : Conclusion) (printed : List String) :
    IsTraced origin (close conclusion printed t) :=
  ⟨h.fleet, h.inner⟩

theorem isTraced_concluded {w : Watch} (h : Traced origin w.timeline) (before : List String)
    (ending : Ending) : IsTraced origin (concluded p before ending w) :=
  isTraced_close (traced_stopAll h) _ _

theorem isTraced_launch (h : Traced origin t) (built : List Behaviour) (samples : Nat)
    (before : List String) : IsTraced origin (launch p built samples before t) := by
  have hw := traced_watched h p built samples
  unfold launch
  split
  · rename_i w ending hw'
    rw [hw'] at hw
    exact isTraced_concluded hw before ending
  · rename_i w hw'
    rw [hw'] at hw
    exact isTraced_close hw _ _

/-- A run is what happened to its own chains, whatever the transports do. -/
theorem record_traced (p : Plan) (build : Nat → Except Failure Behaviour) (samples : Nat) :
    IsTraced (.create p.sizing.total []) (record p build samples) := by
  unfold record
  dsimp only
  split
  · exact isTraced_close (traced_opening p) _ _
  · rename_i b _
    have hp := traced_probed p b
    split
    · rename_i t h
      rw [h] at hp
      exact isTraced_close hp _ _
    · rename_i t h
      rw [h] at hp
      exact isTraced_close (hp.apply _ (Event.isInner_stop 0)) _ _
    · rename_i t h
      rw [h] at hp
      split
      · rename_i bs e _
        have he := hp.apply _ (isInner_enrolment p bs.length)
        exact isTraced_close (he.apply _ (Event.isInner_stop 0)) _ _
      · rename_i bs _
        have he := hp.apply _ (isInner_enrolment p bs.length)
        exact isTraced_launch (he.apply _ (isInner_muster (b :: bs))) _ _ _

end Run

end LoadHarness
