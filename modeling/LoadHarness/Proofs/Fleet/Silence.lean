import LoadHarness.Proofs.Chain.Silence
import LoadHarness.Proofs.Fleet.Tally
import LoadHarness.Run.Timeline

/-!
# A stopped chain takes no part any more

The events of others leave a chain alone, so what its own moves keep of it, every list of events
keeps (`Fleet.getElem?_apply_keeps`). A silent chain is kept as it is, and its own events might as
well not happen (`Fleet.apply_eq_filter`) : neither the counters nor any other chain can tell.

Every task heeds a stop (`Fleet.heeds_of_create`), at whatever point of its life it is told, so a
chain whose stop is complete is silent. It stays what it is, whatever is asked of it and whatever
answers still arrive, and a chain whose task was told before it began never calls for an exchange
(`Fleet.gone_for_good`).
-/

namespace LoadHarness

/-- Whether an event is a move of the chain of a number. -/
def Event.isOf (i : Nat) : Event → Bool
  | .move j _ => j == i
  | _ => false

namespace Fleet

variable {f : Fleet} {i : Nat} {c c' : Chain} {e : Event} {events : List Event}

/-! ## What a chain keeps -/

theorem getElem?_step_of_other (he : e.isOf i = false) (hc : f.chains[i]? = some c) :
    (f.step e).chains[i]? = some c := by
  cases e with
  | build id stopOnFailure =>
    rw [step, List.getElem?_append_left (List.getElem?_eq_some_iff.1 hc).1, hc]
  | move j m =>
    rw [step, getElem?_act_ne (beq_eq_false_iff_ne.1 he).symm, hc]
  | consume | enter => exact hc

/-- What the moves of a chain keep of it, all events keep. -/
theorem getElem?_apply_keeps {P : Chain → Prop} {Q : Move → Prop} (events : List Event)
    (hrun : ∀ m c n, Q m → P c → P (m.run (c, n)).1) (hQ : ∀ m, .move i m ∈ events → Q m)
    (hc : f.chains[i]? = some c) (hP : P c) :
    ∃ c', (f.apply events).chains[i]? = some c' ∧ P c' := by
  induction events generalizing f c with
  | nil => exact ⟨c, hc, hP⟩
  | cons e events ih =>
    have hrest : ∀ m, .move i m ∈ events → Q m := fun m hm => hQ m (List.mem_cons_of_mem e hm)
    rw [apply_cons]
    cases ho : e.isOf i with
    | false => exact ih hrest (getElem?_step_of_other ho hc) hP
    | true =>
      cases e with
      | move j m =>
        obtain rfl : j = i := beq_iff_eq.1 ho
        have hm : Q m := hQ m List.mem_cons_self
        exact ih hrest (getElem?_act_self hc) (hrun m c f.counters hm hP)
      | build | consume | enter => simp [Event.isOf] at ho

/-! ## Silent chains -/

theorem step_of_silent (hc : f.chains[i]? = some c) (h : c.Silent) (m : Move) :
    f.step (.move i m) = f := by
  obtain ⟨hi, rfl⟩ := List.getElem?_eq_some_iff.1 hc
  rw [step, act_of_some hc, h.run_eq m f.counters, List.set_getElem_self]

theorem apply_of_silent (hc : f.chains[i]? = some c) (h : c.Silent) (events : List Event) :
    (f.apply events).chains[i]? = some c := by
  obtain ⟨c', hc', rfl⟩ := getElem?_apply_keeps (P := (· = c)) (Q := fun _ => True)
    events (fun m _ n _ hP => by rw [hP, h.run_eq m n]) (fun _ _ => trivial) hc rfl
  exact hc'

/-- The events of a silent chain might as well not happen. -/
theorem apply_eq_filter (hc : f.chains[i]? = some c) (h : c.Silent) (events : List Event) :
    f.apply events = f.apply (events.filter fun e => !e.isOf i) := by
  induction events generalizing f with
  | nil => rfl
  | cons e events ih =>
    cases ho : e.isOf i with
    | false =>
      rw [List.filter_cons_of_pos (by simp [ho]), apply_cons, apply_cons]
      exact ih (getElem?_step_of_other ho hc)
    | true =>
      rw [List.filter_cons_of_neg (by simp [ho]), apply_cons]
      cases e with
      | move j m =>
        obtain rfl : j = i := beq_iff_eq.1 ho
        rw [step_of_silent hc h]
        exact ih hc
      | build | consume | enter => simp [Event.isOf] at ho

variable {budget : Nat} {crew : List (ClientId × Bool)}

theorem heeds_of_create
    (hc : ((create budget (crew.map fun p => .create p.1 p.2)).apply events).chains[i]? = some c) :
    c.Heeds := by
  refine movesOf_induction (P := fun _ c => c.Heeds) Chain.heeds_create
    (fun _ c n m h => (m.effect_run c n).heeds h) (fun c hc => ?_) hc
  obtain ⟨p, -, rfl⟩ := List.mem_map.1 (List.mem_of_getElem? hc)
  exact Chain.heeds_create p.1 p.2

/-! ## Chains that are stopped before they begin -/

/-- Until a launched task makes its first move it calls for no exchange. -/
theorem unbegun_of_launch {d : Chain} (hd : f.chains[i]? = some d) (hs : d.stage = .started)
    (hfirst : .move i .first ∉ events)
    (hc : (f.apply (.move i .launch :: events)).chains[i]? = some c) : d.Unbegun c := by
  obtain ⟨c', hc', hkeeps⟩ := getElem?_apply_keeps (Q := (· ≠ .first)) events
    (fun m c n hm h => (m.effect_run c n).unbegun hm h) (fun m hm hn => hfirst (hn ▸ hm))
    (getElem?_act_self (g := Move.launch.run) hd) (Chain.unbegun_launch f.counters hs)
  obtain rfl := Option.some.inj (hc'.symm.trans hc)
  exact hkeeps

/-- A task that was told to end before that never does. -/
theorem barren_apply {d : Chain} (hd : f.chains[i]? = some c) (h : d.Barren c)
    (hc : (f.apply events).chains[i]? = some c') : d.Barren c' := by
  obtain ⟨e, he, hkeeps⟩ := getElem?_apply_keeps (Q := fun _ => True) events
    (fun m c n _ h => (m.effect_run c n).barren h) (fun _ _ => trivial) hd h
  obtain rfl := Option.some.inj (he.symm.trans hc)
  exact hkeeps

end Fleet

/-! ## What is asked of a silent chain -/

namespace Timeline

/-- Whatever is asked of a chain has no effect, and the answer says so. -/
structure Ignores (transports : Nat → Behaviour) (i sent : Nat) (t : Timeline) : Prop where
  start : (t.start transports i).1.fleet = t.fleet ∧ (t.start transports i).2 = .ok ()
  probe : t.probe transports i = (t, some false)
  launch : (t.launch transports i).1.fleet = t.fleet ∧ (t.launch transports i).2 = false
  stop : (t.stop i).1.fleet = t.fleet ∧ (t.stop i).2 = sent

variable {t : Timeline} {i : Nat} {c : Chain}

theorem fleet_apply_of_silent (hc : t.fleet.chains[i]? = some c) (h : c.Silent) (ms : List Move) :
    (t.apply (ms.map (.move i))).fleet = t.fleet := by
  induction ms with
  | nil => rfl
  | cons m ms ih =>
    rw [← ih]
    exact congrArg (Fleet.apply · (ms.map (.move i))) (Fleet.step_of_silent hc h m)

theorem enter_of_silent (transports : Nat → Behaviour) (hc : t.fleet.chains[i]? = some c)
    (h : c.Silent) : t.enter transports i = t := by
  obtain ⟨hready, -, -⟩ := Chain.isBusy_eq_false_iff.1 h.ended
  simp [enter, Fleet.ask_of_some hc, hready]

theorem ignores_of_silent (transports : Nat → Behaviour) (hc : t.fleet.chains[i]? = some c)
    (h : c.Silent) : t.Ignores transports i c.sent := by
  have hstage := h.gone.stopped
  have hlaunch : (t.enlist i).1.fleet = t.fleet := fleet_apply_of_silent hc h [.launch]
  have hstop : (t.apply (Event.stop i)).fleet = t.fleet := fleet_apply_of_silent hc h Move.stop
  refine ⟨⟨fleet_apply_of_silent hc h [.start _], ?_⟩, ?_, ⟨?_, ?_⟩, hstop, ?_⟩
  · simp [start, Fleet.ask_of_some hc, Chain.start, hstage]
  · simp [probe, Fleet.ask_of_some hc, Chain.canProbe, hstage]
  · have henter := enter_of_silent transports (t := (t.enlist i).1) (hlaunch.symm ▸ hc) h
    exact (congrArg fleet henter).trans hlaunch
  · simp [launch, enlist, Fleet.ask_of_some hc, hstage]
  · rw [stop, hstop, Fleet.ask_of_some hc]

end Timeline

namespace Fleet

/-- What becomes of a chain of a fleet when its stop is complete, whatever happened before and
whatever happens after. It stays as it is, its own events count for nothing, and whoever asks
anything of it learns that. If its task was told to end before its first move, it calls for no
exchange beyond those it had called for when it was launched. -/
theorem gone_for_good (budget : Nat) (crew : List (ClientId × Bool)) (before after : List Event)
    {i : Nat} {c : Chain}
    (hc : ((create budget (crew.map fun p => .create p.1 p.2)).apply before).chains[i]? = some c)
    (hgone : c.Gone) :
    let origin := create budget (crew.map fun p => .create p.1 p.2)
    let f := origin.apply before
    let f' := f.apply after
    f'.chains[i]? = some c ∧
      f' = f.apply (after.filter fun e => !e.isOf i) ∧
      (∀ transports (t : Timeline), t.fleet = f' → t.Ignores transports i c.sent) ∧
      ∀ early mid late d told, before = early ++ .move i .launch :: mid ++ late →
        (origin.apply early).chains[i]? = some d → d.stage = .started → .move i .first ∉ mid →
        (origin.apply (early ++ .move i .launch :: mid)).chains[i]? = some told →
        told.stage = .stopped → .shutdown ∉ told.teardown →
        c.calls.exchanges = d.calls.exchanges ∧ c.sent = d.sent := by
  intro origin f f'
  have hsilent := hgone.silent (heeds_of_create hc)
  have hkept : f'.chains[i]? = some c := apply_of_silent hc hsilent after
  refine ⟨hkept, apply_eq_filter hc hsilent after, fun transports t ht => ?_,
    fun early mid late d told hsplit hd hs hfirst htold hstopped hshutdown => ?_⟩
  · exact Timeline.ignores_of_silent transports (ht ▸ hkept) hsilent
  · have hheeds : told.Heeds := heeds_of_create htold
    rw [hsplit, apply_append] at hc
    have hbarren := barren_apply htold
      ((unbegun_of_launch hd hs hfirst (apply_append origin early _ ▸ htold)).barren hheeds
        hstopped hshutdown) hc
    exact ⟨hbarren.exchanges, hbarren.sent⟩

/-- Client 0 is launched and stopped before its task begins, which gets its turn when the stop is
half done, while client 1 waits for an answer. -/
def lateStop : List Event :=
  [.move 0 (.start none), .move 1 (.start none), .move 0 .launch, .move 1 .launch,
    .move 1 .first, .move 0 .mark, .move 0 .tearDown, .move 0 .first]
    ++ [.tearDown, .tearDown, .tearDown].map (.move 0)

/-- Client 0 gets another turn and an answer all the same, and is launched and stopped once more. -/
def lateAnswer : List Event :=
  [.move 0 .first, .move 0 (.resolve .noResponse), .move 1 (.resolve .noResponse),
    .move 0 .launch] ++ Event.stop 0

theorem gone_for_good_lateStop :
    let f := (create 3 [.create ⟨0⟩ true, .create ⟨1⟩ false]).apply lateStop
    let c : Chain := ⟨⟨0⟩, true, .stopped, 0, .ended, ⟨1, 0, 1, 1⟩, []⟩
    f.chains[0]? = some c ∧ c.Gone ∧ (f.apply lateAnswer).chains[0]? = some c ∧
      (f.apply lateAnswer).counters = ⟨2, 0, 1, 1⟩ ∧
      f.apply lateAnswer = f.apply (lateAnswer.filter fun e => !e.isOf 0) ∧
      (∀ transports (t : Timeline), t.fleet = f.apply lateAnswer → t.Ignores transports 0 c.sent) ∧
      c.calls.exchanges = 0 := by
  intro f c
  let origin := create 3 [.create ⟨0⟩ true, .create ⟨1⟩ false]
  have hc : f.chains[0]? = some c := by decide
  have hgone : c.Gone := ⟨rfl, rfl⟩
  obtain ⟨hkept, hfilter, hignores, hbarren⟩ :=
    gone_for_good 3 [(⟨0⟩, true), (⟨1⟩, false)] lateStop lateAnswer hc hgone
  have hsplit : lateStop = lateStop.take 2 ++ .move 0 .launch :: (lateStop.take 7).drop 3
      ++ lateStop.drop 7 := rfl
  have hd : (origin.apply (lateStop.take 2)).chains[0]?
      = some ⟨⟨0⟩, true, .started, 0, .none, ⟨1, 0, 0, 0⟩, []⟩ := by decide
  have htold :
      (origin.apply (lateStop.take 2 ++ .move 0 .launch :: (lateStop.take 7).drop 3)).chains[0]?
        = some ⟨⟨0⟩, true, .stopped, 0, .ended, ⟨1, 0, 0, 0⟩,
          [.stopTransport, .destroyTransport, .leave]⟩ := by
    decide
  have hearly := hbarren _ _ _ _ _ hsplit hd rfl (by decide) htold rfl (by decide)
  exact ⟨hc, hgone, hkept, by decide, hfilter, hignores, hearly.1⟩

end Fleet

end LoadHarness
