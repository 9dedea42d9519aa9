import LoadHarness.Proofs.Campaign.Completion
import LoadHarness.Proofs.Run.Conclusion
import LoadHarness.Proofs.Run.Flight

/-!
# Rehearsed runs

A rehearsed run looks at the counters, and stops its clients, while nothing else happens, and it is
followed for a number of samples only. Such a run is one of the runs that there are
(`Run.reached_of_record`) : from its launch on, everybody takes steps of a `Campaign` that lead to the
same clients, the same lines and the same conclusion. So what holds of every campaign holds of it.

At the beginning of an interval, the campaign is the one of `Campaign.ofWatch`, and it goes on to
the next one, or to the end of the watch, as the watch does (`Campaign.reaches_interval`).
-/

namespace LoadHarness

namespace Fleet

variable {f : Fleet} {i : Nat}

theorem isEmpty_teardown_iff :
    f.ask i true (·.teardown.isEmpty) = true ↔ f.remains i = 0 := by
  cases hd : f.chains[i]? with
  | none => simp [remains, ask_of_none hd]
  | some d => simp [remains, ask_of_some hd]

/-- A teardown that is done has no further step. -/
theorem step_tearDown (h : f.remains i = 0) : f.step (.move i .tearDown) = f := by
  cases hd : f.chains[i]? with
  | none => exact act_of_none hd
  | some d =>
    rw [remains_eq hd, List.length_eq_zero_iff] at h
    have hrun : Move.tearDown.run (d, f.counters) = (d, f.counters) :=
      Move.run_of_not_applies (by simp [Move.applies, h]) f.counters
    obtain ⟨hi, rfl⟩ := List.getElem?_eq_some_iff.1 hd
    rw [step, act_of_some hd, hrun, List.set_getElem_self]

end Fleet

/-- Once an interval is over, whatever is in flight ends after it. -/
theorem Watch.notBefore_interval {w : Watch} (transports : Nat → Behaviour) (expected : Nat)
    (length : Duration) (hflights : w.timeline.flights.length ≤ w.timeline.fleet.chains.length)
    (h : (w.interval transports expected length).2 = none) :
    (w.interval transports expected length).1.timeline.NotBefore
      (w.interval transports expected length).1.sampled := by
  have hsettled := Timeline.advance_settled transports isOver
    (w.sampled + length.nanoseconds) hflights
  generalize ht : w.timeline.advance transports isOver (w.sampled + length.nanoseconds) = t
    at hsettled
  cases ho : isOver t with
  | true => simp [interval_of_isOver expected ht ho] at h
  | false =>
    rw [interval_of_not_isOver expected ht ho] at h ⊢
    have hdue := hsettled.resolve_left (by simp [ho])
    unfold sample at h ⊢
    dsimp only at h ⊢
    split
    case isTrue hs => simp [hs] at h
    case isFalse => exact ⟨Nat.le_refl _, hdue⟩

namespace Campaign

variable {p : Plan} {c c' c'' : Campaign} {f : Fleet} {phase : Phase} {owed due i : Nat}
  {v : Verdict}

/-- Steps lead from one moment of a run to another. -/
def Reaches (p : Plan) (c c' : Campaign) : Prop := ∃ steps, c.apply p steps = c'

theorem Reaches.refl (p : Plan) (c : Campaign) : Reaches p c c := ⟨[], rfl⟩

theorem Reaches.trans (h : Reaches p c c') (h' : Reaches p c' c'') : Reaches p c c'' := by
  obtain ⟨steps, rfl⟩ := h
  obtain ⟨steps', rfl⟩ := h'
  exact ⟨steps ++ steps', apply_append p c steps steps'⟩

theorem reaches_step (p : Plan) (c : Campaign) (s : Step) : Reaches p c (c.step p s) := ⟨[s], rfl⟩

/-- A run in which something has happened to the clients, and the manager is somewhere else. -/
def later (c : Campaign) (f : Fleet) (phase : Phase) (owed : Nat) : Campaign :=
  { c with fleet := f, phase, owed }

/-! ## What the tasks do in the meantime -/

theorem reaches_pass {now : Nat} (h : c.now ≤ now) : Reaches p c { c with now } := by
  refine ⟨[.pass (now - c.now)], ?_⟩
  change { c with now := c.now + (now - c.now) } = _
  rw [Nat.add_sub_cancel' h]

theorem leaves_of_isTask {m : Move} (hm : m.isTask = true)
    (hc : ∀ v j, c.phase ≠ .tearingDown v j) (i : Nat) : c.leaves i m = true := by
  rw [leaves, hm, Bool.true_and]
  split
  case h_1 v j hp => exact absurd hp (hc v j)
  case h_2 => rfl

/-- Tasks make their moves while the manager is about anything but a teardown. -/
theorem reaches_events {events : List Event} (c : Campaign) (owed : Nat)
    (he : ∀ e ∈ events, ∃ i m, e = .move i m ∧ m.isTask = true)
    (hphase : ∀ v j, phase ≠ .tearingDown v j) :
    ∃ owed', Reaches p (c.later f phase owed) (c.later (f.apply events) phase owed') := by
  induction events generalizing f owed with
  | nil => exact ⟨owed, .refl p _⟩
  | cons e events ih =>
    obtain ⟨hfirst, hrest⟩ := List.forall_mem_cons.1 he
    obtain ⟨i, m, rfl, hm⟩ := hfirst
    have hstep := reaches_step p (c.later f phase owed) (.move i m)
    rw [step, if_pos (leaves_of_isTask hm hphase i)] at hstep
    obtain ⟨owed', hreaches⟩ := ih (f := f.step (.move i m)) _ hrest
    exact ⟨owed', hstep.trans hreaches⟩

/-! ## From the launch to the first look -/

theorem reaches_launching (c : Campaign) (f : Fleet) (owed : Nat) {k : Nat}
    (hk : k ≤ f.chains.length) :
    ∃ owed', Reaches p (c.later f (.launching 0) owed)
      (c.later (f.apply ((List.range k).map fun i => .move i .launch)) (.launching k) owed') := by
  induction k with
  | zero => exact ⟨owed, .refl p _⟩
  | succ k ih =>
    obtain ⟨owed', hreaches⟩ := ih (Nat.le_of_succ_le hk)
    rw [List.range_succ, List.map_append, Fleet.apply_append]
    generalize hg : f.apply ((List.range k).map fun i => .move i .launch) = g at hreaches ⊢
    have hlength : k < g.chains.length := by
      rw [← hg, Fleet.length_apply (by simp)]
      exact hk
    have hstep := reaches_step p (c.later g (.launching k) owed') .proceed
    simp only [step, proceed, later, hlength, if_true] at hstep
    exact ⟨_, hreaches.trans hstep⟩

theorem look_turnTo (p : Plan) (current : Snapshot) (phase : Phase) (c : Campaign) :
    (c.turnTo phase).look p current = c.look p current := by
  unfold look
  cases hl : c.last with
  | none => simp only [turnTo, hl, await]
  | some last => simp only [turnTo, hl, await, halt]

/-- Nothing happens while the manager takes a look. -/
theorem reaches_look (hp : c.phase = .looking .nothing) :
    Reaches p c (c.look p c.fleet.counters) := by
  refine ⟨[.proceed, .proceed, .proceed, .proceed], ?_⟩
  simp only [apply, List.foldl, step, proceed, hp, turnTo, Reading.next]
  exact look_turnTo p _ _ c

/-! ## The watch -/

/-- The run at the beginning of an interval. -/
def ofWatch (p : Plan) (before : List String) (w : Watch) (owed : Nat) : Campaign where
  fleet := w.timeline.fleet
  now := w.sampled
  wakes := 0
  owed
  began := 0
  phase := .waiting (w.sampled + p.settings.interval.nanoseconds) .arriving
  last := some w.last
  printed := before ++ w.windows.map (Window.line p.settings.interval)

/-- The run at the end of its watch. -/
def ofEnd (p : Plan) (before : List String) (w : Watch) (ending : Ending) (owed : Nat) :
    Campaign where
  fleet := w.timeline.fleet
  now := w.timeline.now
  wakes := 0
  owed
  began := 0
  phase := .stopping ⟨ending, w.timeline.now⟩ 0
  last := some w.last
  printed := before ++ w.windows.map (Window.line p.settings.interval)

/-- The run at the beginning of the next interval, or at the end of its watch. -/
def ofResult (p : Plan) (before : List String) (result : Watch × Option Ending) (owed : Nat) :
    Campaign :=
  match result with
  | (w, none) => ofWatch p before w owed
  | (w, some ending) => ofEnd p before w ending owed

variable {transports : Nat → Behaviour} {before : List String} {w w' : Watch} {ending : Ending}

/-- From the launch to the first interval. -/
theorem reaches_awaited (hfleet : w.timeline.fleet
      = f.apply ((List.range f.chains.length).map fun i => .move i .launch))
    (hsampled : w.sampled = 0) (hlast : w.last = w.timeline.fleet.counters)
    (hwindows : w.windows = []) (p : Plan) :
    ∃ owed, Reaches p (start p f 0) (ofWatch p
      [Run.announcement p, "Benchmark clients created.", "Benchmark started."] w owed) := by
  obtain ⟨owed, hreaches⟩ := reaches_launching (p := p) (start p f 0) f 0
    (Nat.le_refl f.chains.length)
  rw [← hfleet] at hreaches
  have hlength : w.timeline.fleet.chains.length = f.chains.length := by
    rw [hfleet, Fleet.length_apply (by simp)]
  have hopened := reaches_step p
    ((start p f 0).later w.timeline.fleet (.launching f.chains.length) owed) .proceed
  simp only [step, proceed, later, hlength, Nat.lt_irrefl, if_false] at hopened
  have hlooked := hopened.trans (reaches_look rfl)
  simp only [look, start, await, turnTo] at hlooked
  refine ⟨owed, hreaches.trans ?_⟩
  rw [ofWatch, hsampled, hlast, hwindows]
  exact hlooked

/-- The manager finds the budget spent. -/
theorem reaches_finished (hp : c.phase = .waiting due .arriving)
    (hr : c.fleet.counters.remaining = 0) : Reaches p c (c.halt .finished) := by
  refine ⟨[.proceed, .proceed, .proceed], ?_⟩
  simp [apply, step, proceed, hp, turnTo, Waiter.step, Waiter.isReleased, hr, halt]

theorem reaches_interrupted {w : Waiter} (hp : c.phase = .waiting due w) :
    Reaches p c (c.halt .interrupted) := by
  refine ⟨[.interrupt], ?_⟩
  change c.step p .interrupt = _
  rw [step, if_pos (isWaiting_iff.2 ⟨due, w, hp⟩)]

/-- The interval is over and the manager takes the next look. -/
theorem reaches_sample (hp : c.phase = .waiting due .arriving)
    (hr : c.fleet.counters.remaining ≠ 0) (hdue : due ≤ c.now) :
    Reaches p c (c.look p c.fleet.counters) := by
  have hfell : Reaches p c (c.turnTo (.looking .nothing)) := by
    refine ⟨[.proceed, .proceed, .timer], ?_⟩
    simp [apply, step, proceed, hp, turnTo, Waiter.step, Waiter.isReleased, Waiter.isBlocked, hr,
      isDue, hdue]
  have hlook := reaches_look (p := p) (c := c.turnTo (.looking .nothing)) rfl
  rw [look_turnTo] at hlook
  exact hfell.trans hlook

theorem reaches_leads {t : Timeline} (h : w.timeline.Leads t) (p : Plan) (before : List String)
    (owed : Nat) :
    ∃ owed', Reaches p (ofWatch p before w owed)
      (ofWatch p before { w with timeline := t } owed') := by
  obtain ⟨events, he, hf, -⟩ := h.events
  have hphase : ∀ v j, (ofWatch p before w owed).phase ≠ .tearingDown v j := by simp [ofWatch]
  obtain ⟨owed', hreaches⟩ := reaches_events (p := p) (f := w.timeline.fleet)
    (ofWatch p before w owed) owed he hphase
  rw [← hf] at hreaches
  exact ⟨owed', hreaches⟩

/-- What the manager makes of a look is what the watch makes of a sample. -/
theorem look_ofWatch (p : Plan) (before : List String) (w : Watch) (owed : Nat) :
    look p w.timeline.fleet.counters { ofWatch p before w owed with now := w.timeline.now }
      = ofResult p before (w.sample p.sizing.total) owed := by
  simp only [look, ofWatch, Watch.sample]
  cases isStale w.timeline.fleet.counters (w.timeline.fleet.counters.since w.last) p.sizing.total with
  | true => rfl
  | false => simp [await, turnTo, ofResult, ofWatch]

/-- The watch is over before the interval is. -/
theorem reaches_over {t : Timeline} (h : w.timeline.Leads t) (hnow : w.sampled ≤ t.now)
    (p : Plan) (before : List String) (owed : Nat) :
    ∃ owed', Reaches p (ofWatch p before w owed)
      (ofEnd p before { w with timeline := t } (Watch.ending t) owed') := by
  obtain ⟨owed', hreaches⟩ := reaches_leads h p before owed
  have hpass := reaches_pass (p := p) (c := ofWatch p before { w with timeline := t } owed') hnow
  refine ⟨owed', (hreaches.trans hpass).trans ?_⟩
  cases hd : t.fleet.counters.isDrained with
  | true =>
    have hspent : t.fleet.counters.remaining = 0 := by simpa [Counters.isDrained] using hd
    rw [Watch.ending, if_pos hd]
    exact reaches_finished rfl hspent
  | false =>
    rw [Watch.ending, if_neg (by simp [hd])]
    exact reaches_interrupted rfl

/-- The interval is over, and a sample is taken. -/
theorem reaches_sampled {t : Timeline} (h : w.timeline.Leads t) (ho : Watch.isOver t = false)
    {due : Nat} (hdue : w.sampled + p.settings.interval.nanoseconds = due) (before : List String)
    (owed : Nat) :
    ∃ owed', Reaches p (ofWatch p before w owed)
      (ofResult p before
        (Watch.sample p.sizing.total { w with timeline := { t with now := due } }) owed') := by
  obtain ⟨owed', hreaches⟩ := reaches_leads h p before owed
  have hnow : w.sampled ≤ due := hdue ▸ Nat.le_add_right _ _
  have hpass := reaches_pass (p := p) (c := ofWatch p before { w with timeline := t } owed') hnow
  have hleft : t.fleet.counters.remaining ≠ 0 := by
    have hd := (Bool.or_eq_false_iff.1 ho).1
    simpa [Counters.isDrained] using hd
  refine ⟨owed', (hreaches.trans hpass).trans ?_⟩
  rw [← look_ofWatch]
  exact reaches_sample rfl hleft (Nat.le_of_eq hdue)

/-- The interval of a watch is one of the run. -/
theorem reaches_interval (h : w.timeline.NotBefore w.sampled) (transports : Nat → Behaviour)
    (p : Plan) (before : List String) (owed : Nat) :
    ∃ owed', Reaches p (ofWatch p before w owed)
      (ofResult p before (w.interval transports p.sizing.total p.settings.interval) owed') := by
  have hleads := Timeline.leads_advance transports Watch.isOver
    (w.sampled + p.settings.interval.nanoseconds) w.timeline
  have hnot := h.advance transports Watch.isOver (w.sampled + p.settings.interval.nanoseconds)
  generalize ht : w.timeline.advance transports Watch.isOver
    (w.sampled + p.settings.interval.nanoseconds) = t at hleads hnot
  cases ho : Watch.isOver t with
  | true =>
    rw [Watch.interval_of_isOver _ ht ho]
    exact reaches_over hleads hnot.now p before owed
  | false =>
    rw [Watch.interval_of_not_isOver _ ht ho]
    exact reaches_sampled hleads ho rfl before owed

/-- A watch goes on as the run does, for as many samples as it is followed. -/
theorem reaches_run (h : w.timeline.NotBefore w.sampled)
    (hflights : w.timeline.flights.length ≤ w.timeline.fleet.chains.length)
    (transports : Nat → Behaviour) (p : Plan) (before : List String) (samples owed : Nat) :
    ∃ owed', Reaches p (ofWatch p before w owed)
      (ofResult p before (w.run transports p.sizing.total p.settings.interval samples) owed') := by
  induction samples generalizing w owed with
  | zero => exact ⟨owed, .refl p _⟩
  | succ samples ih =>
    obtain ⟨owed', hinterval⟩ := reaches_interval h transports p before owed
    have hleads := Watch.leads_interval transports p.sizing.total p.settings.interval w
    have hnot := Watch.notBefore_interval transports p.sizing.total p.settings.interval hflights
    unfold Watch.run
    rcases hw : w.interval transports p.sizing.total p.settings.interval with ⟨w', verdict⟩
    rw [hw] at hinterval hleads hnot
    cases verdict with
    | some ending => exact ⟨owed', hinterval⟩
    | none =>
      obtain ⟨owed'', hrest⟩ := ih (hnot rfl)
        (by rw [hleads.length, hleads.length_chains]; exact hflights) owed'
      exact ⟨owed'', hinterval.trans hrest⟩

/-! ## The shutdown -/

/-- A teardown that takes as many steps as are left of it, or more. -/
theorem reaches_tornDown (c : Campaign) (v : Verdict) (owed : Nat) {k : Nat}
    (hk : f.remains i ≤ k) :
    ∃ owed', Reaches p (c.later f (.tearingDown v i) owed)
      (c.later (f.apply (List.replicate k (.move i .tearDown))) (.stopping v (i + 1)) owed') := by
  induction k generalizing f owed with
  | zero =>
    have hproceed := reaches_step p (c.later f (.tearingDown v i) owed) .proceed
    simp only [step, proceed, later, Fleet.isEmpty_teardown_iff, Nat.le_zero.1 hk, if_true]
      at hproceed
    exact ⟨owed, hproceed⟩
  | succ k ih =>
    rw [List.replicate_succ, Fleet.apply_cons]
    by_cases hzero : f.remains i = 0
    · rw [Fleet.step_tearDown hzero]
      exact ih owed (by omega)
    · have hproceed := reaches_step p (c.later f (.tearingDown v i) owed) .proceed
      simp only [step, proceed, later, Fleet.isEmpty_teardown_iff, hzero, if_false] at hproceed
      have hlt := f.remains_tearDown_lt (Nat.pos_of_ne_zero hzero)
      obtain ⟨owed', hrest⟩ := ih (f := f.step (.move i .tearDown)) _ (by omega)
      exact ⟨owed', hproceed.trans hrest⟩

/-- One client is stopped. -/
theorem reaches_stopped (c : Campaign) (v : Verdict) (owed : Nat) (hi : i < f.chains.length) :
    ∃ owed', Reaches p (c.later f (.stopping v i) owed)
      (c.later (f.apply (Event.stop i)) (.stopping v (i + 1)) owed') := by
  have hd := List.getElem?_eq_getElem hi
  have hproceed := reaches_step p (c.later f (.stopping v i) owed) .proceed
  simp only [step, proceed, later, hi, if_true, Fleet.ask_of_some hd, beq_iff_eq] at hproceed
  change ∃ owed', Reaches p _ (c.later ((f.step (.move i .mark)).apply
    (List.replicate 4 (.move i .tearDown))) (.stopping v (i + 1)) owed')
  by_cases hs : f.chains[i].stage = .stopped
  · rw [if_pos hs] at hproceed
    have hphase : ∀ v' j, Phase.stopping v (i + 1) ≠ .tearingDown v' j := by simp
    have hsteps : ∀ e ∈ List.replicate 4 (.move i .tearDown),
        ∃ j m, e = Event.move j m ∧ m.isTask = true := fun e he =>
      ⟨i, .tearDown, List.eq_of_mem_replicate he, rfl⟩
    obtain ⟨owed', hrest⟩ := reaches_events (p := p) (f := f.step (.move i .mark)) c _ hsteps hphase
    exact ⟨owed', hproceed.trans hrest⟩
  · rw [if_neg hs] at hproceed
    have hremains : (f.step (.move i .mark)).remains i ≤ 4 := by
      rw [Fleet.step, Fleet.remains_eq (Fleet.getElem?_act_self hd)]
      simp only [Move.run, Chain.mark, hs, if_false, Teardown.steps]
      split <;> simp
    obtain ⟨owed', hrest⟩ := reaches_tornDown (p := p) c v _ hremains
    exact ⟨owed', hproceed.trans hrest⟩

theorem reaches_stopping (c : Campaign) (f : Fleet) (v : Verdict) (owed : Nat) {k : Nat}
    (hk : k ≤ f.chains.length) :
    ∃ owed', Reaches p (c.later f (.stopping v 0) owed)
      (c.later (f.apply (Event.stopAll k)) (.stopping v k) owed') := by
  induction k with
  | zero => exact ⟨owed, .refl p _⟩
  | succ k ih =>
    obtain ⟨owed', hreaches⟩ := ih (Nat.le_of_succ_le hk)
    have hlength : (f.apply (Event.stopAll k)).chains.length = f.chains.length :=
      Fleet.length_moves (fun _ => Move.stop) _
    obtain ⟨owed'', hstopped⟩ := reaches_stopped (p := p) c v owed'
      (show k < (f.apply (Event.stopAll k)).chains.length by omega)
    have hsucc : Event.stopAll (k + 1) = Event.stopAll k ++ Event.stop k := by
      simp [Event.stopAll, List.range_succ]
    rw [hsucc, Fleet.apply_append]
    exact ⟨owed'', hreaches.trans hstopped⟩

/-- All clients are stopped, and the report is made. -/
theorem reaches_closed (c : Campaign) (f : Fleet) (v : Verdict) (owed : Nat)
    (hdone : ∀ d ∈ f.stopAll.chains, d.isDone = true) :
    ∃ owed', Reaches p (c.later f (.stopping v 0) owed)
      ((c.later f.stopAll (.joining v) owed').close p v) := by
  obtain ⟨owed', hreaches⟩ := reaches_stopping (p := p) c f v owed (Nat.le_refl _)
  have hjoined := reaches_step p (c.later f.stopAll (.stopping v f.chains.length) owed') .proceed
  simp only [step, proceed, later, Fleet.length_stopAll, Nat.lt_irrefl, if_false] at hjoined
  have hclosed := reaches_step p (c.later f.stopAll (.joining v) owed') .proceed
  simp only [step, proceed, later, List.all_eq_true.2 hdone, if_true] at hclosed
  exact ⟨owed', (hreaches.trans hjoined).trans hclosed⟩

end Campaign

namespace Run

open Timeline

variable {p : Plan} {b : Behaviour} {bs : List Behaviour} {t : Timeline}

/-! ## The run -/

/-- The clients of a rehearsed run are ready for their launch. -/
theorem ready_assembled (hN : 1 ≤ p.sizing.clients.toNat) (hp : probed p b = (t, some true))
    (hl : bs.length = p.sizing.clients.toNat - 1) :
    (assembled p (b :: bs) t).fleet.Ready p.sizing := by
  have hfleet := (of_probed hp).2
  have hprobed : ∀ e ∈ [.build .probe p.sizing.stopOnFailure, .move 0 (.start none),
      .move 0 .probe], Event.prepares p.sizing.stopOnFailure e = true := by
    simp [Event.prepares, Move.prepares]
  have henrolled : ∀ e ∈ enrolment p bs.length, e.prepares p.sizing.stopOnFailure = true := by
    simp [enrolment, Event.prepares]
  have hstarted : ∀ m ∈ Move.stop, m.prepares = true := by decide
  have hmustered : ∀ e ∈ muster (b :: bs), e.prepares p.sizing.stopOnFailure = true := by
    intro e he
    rcases List.mem_append.1 he with he | he
    · obtain ⟨i, -, rfl⟩ := List.mem_map.1 he
      rfl
    · obtain ⟨i, m, hm, rfl⟩ := Fleet.of_mem_moves (fun _ => Move.stop) he
      exact hstarted m hm
  refine ⟨⟨_, List.forall_mem_append.2 ⟨List.forall_mem_append.2 ⟨hprobed, henrolled⟩, hmustered⟩,
    ?_⟩, ?_⟩
  · rw [Fleet.apply_append, Fleet.apply_append]
    change ((t.fleet.apply _).apply _) = _
    rw [hfleet]
    rfl
  · rw [length_assembled p (b :: bs) (by rw [hfleet]; rfl), List.length_cons, hl]
    omega

/-- Every client of a run is done once it is stopped. -/
theorem isDone_of_traced (h : Traced (.create p.sizing.total []) t) :
    ∀ d ∈ t.fleet.stopAll.chains, d.isDone = true := by
  intro d hd
  have hgone := (orderly_of_traced h).gone_stopAll d hd
  obtain ⟨i, hi⟩ := List.mem_iff_getElem?.1 hd
  have hstopped : t.fleet.stopAll = _ := (traced_stopAll h).fleet
  rw [hstopped] at hi
  have hsilent := hgone.silent (@Fleet.heeds_of_create i d t.stopAll.1.history p.sizing.total [] hi)
  simp [Chain.isDone, hsilent.ended, hgone.done]

theorem now_probed (p : Plan) (b : Behaviour) : (probed p b).1.now = 0 := by
  unfold probed
  dsimp only
  split
  case isTrue => rfl
  case isFalse => split <;> rfl

theorem reached_of_launch (h : Traced (.create p.sizing.total []) t) (ht : t.now = 0)
    (built : List Behaviour) (samples : Nat) :
    let r := launch p built samples
      [announcement p, "Benchmark clients created.", "Benchmark started."] t
    ∃ steps, let c := (Campaign.start p t.fleet 0).apply p steps
      c.fleet = r.fleet ∧ c.printed = r.printed ∧
        (r.conclusion ≠ .unending → ∃ v, c.phase = .ended v r.conclusion) := by
  intro r
  have hbegan := leads_begun built (launched t)
  obtain ⟨owed, hawaited⟩ := Campaign.reaches_awaited (w := launched t) (f := t.fleet) rfl ht rfl
    rfl p
  obtain ⟨owed', hbegun⟩ := Campaign.reaches_leads hbegan p
    [announcement p, "Benchmark clients created.", "Benchmark started."] owed
  have hsampled : (begun built (launched t)).sampled = 0 := ht
  have hflights : (begun built (launched t)).timeline.flights.length
      ≤ (begun built (launched t)).timeline.fleet.chains.length := by
    rw [hbegan.length, hbegan.length_chains]
    exact Nat.le_of_eq (List.length_map _)
  have hnot : (begun built (launched t)).timeline.NotBefore (begun built (launched t)).sampled := by
    rw [hsampled]
    exact ⟨Nat.zero_le _, fun _ _ => Nat.zero_le _⟩
  obtain ⟨owed'', hwatched⟩ := Campaign.reaches_run hnot hflights (transport built) p
    [announcement p, "Benchmark clients created.", "Benchmark started."] samples owed'
  have htraced := traced_watched h p built samples
  have hreaches := (hawaited.trans hbegun).trans hwatched
  change Campaign.Reaches p _ (Campaign.ofResult p _ (watched p built samples t) owed'') at hreaches
  unfold r launch
  rcases hw : watched p built samples t with ⟨w, verdict⟩
  rw [hw] at hreaches htraced
  cases verdict with
  | none =>
    obtain ⟨steps, hsteps⟩ := hreaches
    exact ⟨steps, by rw [hsteps]; rfl, by rw [hsteps]; rfl, fun hn => absurd rfl hn⟩
  | some ending =>
    obtain ⟨owed₃, hclosed⟩ := Campaign.reaches_closed (p := p) (Campaign.ofEnd p
      [announcement p, "Benchmark clients created.", "Benchmark started."] w ending owed'')
      w.timeline.fleet ⟨ending, w.timeline.now⟩ owed'' (isDone_of_traced htraced)
    obtain ⟨steps, hsteps⟩ := hreaches.trans hclosed
    exact ⟨steps, by rw [hsteps]; rfl, by rw [hsteps]; rfl, fun _ => ⟨_, by rw [hsteps]; rfl⟩⟩

/-- A rehearsed run that is launched is one of the runs that there are. -/
theorem reached_of_record {build : Nat → Except Failure Behaviour} (samples : Nat)
    (hN : 1 ≤ p.sizing.clients.toNat) (h0 : build 0 = .ok b) (hp : probed p b = (t, some true))
    (hb : buildFrom build 1 (p.sizing.clients.toNat - 1) = (bs, none)) :
    let r := record p build samples
    ∃ f steps, f.Ready p.sizing ∧
      let c := (Campaign.start p f 0).apply p steps
      c.fleet = r.fleet ∧ c.printed = r.printed ∧
        (r.conclusion ≠ .unending → ∃ v, c.phase = .ended v r.conclusion) := by
  intro r
  have hready := ready_assembled hN hp (of_buildFrom hb).1
  have hnow : (assembled p (b :: bs) t).now = 0 := (congrArg (·.1.now) hp).symm.trans (now_probed p b)
  obtain ⟨steps, hreached⟩ := reached_of_launch (traced_assembled hp bs) hnow (b :: bs) samples
  rw [← record_of_assembled samples h0 hp hb] at hreached
  exact ⟨_, steps, hready, hreached⟩

end Run

end LoadHarness
