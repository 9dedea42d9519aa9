import LoadHarness.Proofs.Fleet.Accounting
import LoadHarness.Run.Monitor

/-!
# What happens between two samples

When the task of a chain goes on, only this chain and its flight change (`Timeline.Turn`), and no
call is made but for exchanges and a stop (`Move.isTask`). All that happens between two samples is
such turns, and the clock (`Timeline.Leads`) : the fleet does what the history says, and nobody is
built, started, launched or stopped from outside.
-/

namespace LoadHarness

namespace Timeline

variable {transports : Nat → Behaviour} {i : Nat} {t t' t'' : Timeline} {c : Chain}
  {outcome : Outcome}

/-! ## Turns -/

/-- What may be different when the task of one chain has gone on. -/
structure Turn (i : Nat) (t t' : Timeline) : Prop where
  moves : ∃ ms : List Move, (∀ m ∈ ms, m.isTask = true) ∧
    t'.fleet = t.fleet.apply (ms.map (.move i)) ∧ t'.past = (ms.map (.move i)).reverse ++ t.past
  now : t'.now = t.now
  flights : ∀ j, j ≠ i → t'.flights[j]? = t.flights[j]?
  length : t'.flights.length = t.flights.length
  interrupted : t.interrupted = true → t'.interrupted = true

theorem Turn.refl (i : Nat) (t : Timeline) : Turn i t t :=
  ⟨⟨[], by simp, rfl, rfl⟩, rfl, fun _ _ => rfl, rfl, id⟩

theorem Turn.trans (h : Turn i t t') (h' : Turn i t' t'') : Turn i t t'' := by
  obtain ⟨ms, hms, hf, hp⟩ := h.moves
  obtain ⟨ms', hms', hf', hp'⟩ := h'.moves
  refine ⟨⟨ms ++ ms', ?_, ?_, ?_⟩, h'.now.trans h.now,
    fun j hj => (h'.flights j hj).trans (h.flights j hj), h'.length.trans h.length,
    fun hi => h'.interrupted (h.interrupted hi)⟩
  · intro m hm
    rcases List.mem_append.1 hm with hm | hm
    · exact hms m hm
    · exact hms' m hm
  · rw [hf', hf, List.map_append, Fleet.apply_append]
  · rw [hp', hp, List.map_append, List.reverse_append, List.append_assoc]

/-- A turn of one chain leaves every other chain as it is. -/
theorem Turn.chain_eq (h : Turn i t t') {j : Nat} (hj : j ≠ i) :
    t'.fleet.chains[j]? = t.fleet.chains[j]? := by
  obtain ⟨ms, -, hf, -⟩ := h.moves
  rw [hf, Fleet.apply_moves, Fleet.getElem?_act_ne hj]

theorem turn_apply (t : Timeline) (i : Nat) (ms : List Move) (h : ∀ m ∈ ms, m.isTask = true) :
    Turn i t (t.apply (ms.map (.move i))) :=
  ⟨⟨ms, h, rfl, rfl⟩, rfl, fun _ _ => rfl, rfl, id⟩

theorem turn_board (t : Timeline) (i : Nat) (flight : Option Flight) :
    Turn i t { t with flights := t.flights.set i flight } :=
  ⟨⟨[], by simp, rfl, rfl⟩, rfl, fun _ hj => List.getElem?_set_ne hj.symm, List.length_set, id⟩

theorem turn_interrupt (t : Timeline) (i : Nat) : Turn i t { t with interrupted := true } :=
  ⟨⟨[], by simp, rfl, rfl⟩, rfl, fun _ _ => rfl, rfl, fun _ => rfl⟩

theorem turn_resolve (i : Nat) (outcome : Outcome) (t : Timeline) :
    Turn i t (t.apply [.move i (.resolve outcome)]) :=
  turn_apply t i [.resolve outcome] (by simp [Move.isTask])

theorem turn_departure (t : Timeline) (i : Nat) : Turn i t (t.apply (Event.departure i)) :=
  turn_apply t i Move.departure (by decide)

/-! ### Exchanges -/

/-- The timeline on which the exchange of a chain has retransmitted. -/
def noticed (transports : Nat → Behaviour) (i : Nat) (t : Timeline) : Timeline :=
  t.apply (List.replicate (t.cue transports i).retransmissions (.move i .retransmit))

theorem turn_noticed (transports : Nat → Behaviour) (i : Nat) (t : Timeline) :
    Turn i t (t.noticed transports i) := by
  rw [noticed, ← List.map_replicate]
  refine turn_apply t i _ fun m hm => ?_
  rw [List.eq_of_mem_replicate hm]
  rfl

theorem send_of_isNone (h : (t.cue transports i).delay.isNone = true) :
    t.send transports i = (t.noticed transports i, some (t.cue transports i).effect) := by
  simp [send, noticed, h]

/-- The flight of the exchange that a chain has begun now. -/
def departing (transports : Nat → Behaviour) (i : Nat) (t : Timeline) : Flight :=
  ⟨(t.cue transports i).delay.after i t.now, (t.cue transports i).effect⟩

theorem send_of_not_isNone (h : (t.cue transports i).delay.isNone = false) :
    t.send transports i
      = ({ t.noticed transports i with
            flights := t.flights.set i (some (t.departing transports i)) }, none) := by
  simp [send, noticed, departing, h, apply]

theorem turn_send (transports : Nat → Behaviour) (i : Nat) (t : Timeline) :
    Turn i t (t.send transports i).1 := by
  have hn := turn_noticed transports i t
  cases h : (t.cue transports i).delay.isNone with
  | true => rwa [send_of_isNone h]
  | false =>
    rw [send_of_not_isNone h]
    exact hn.trans (turn_board _ i _)

theorem turn_follow (transports : Nat → Behaviour) (i fuel : Nat) (effect : Effect)
    (t : Timeline) : Turn i t (t.follow transports i fuel effect) := by
  fun_induction follow transports i fuel effect t with
  | case1 => exact .refl i _
  | case2 => exact turn_apply _ i [.die] (by decide)
  | case3 => exact turn_interrupt _ i
  | case4 outcome t resolved _ sent effect fuel hs ih =>
    have hr : Turn i t resolved := turn_resolve i outcome t
    have hn : Turn i resolved sent := by simpa [hs] using turn_send transports i resolved
    exact (hr.trans hn).trans ih
  | case5 fuel outcome t resolved _ sent effect hs =>
    have hr : Turn i t resolved := turn_resolve i outcome t
    have hn : Turn i resolved sent := by simpa [hs] using turn_send transports i resolved
    exact hr.trans hn
  | case6 fuel outcome t resolved =>
    have hr : Turn i t resolved := turn_resolve i outcome t
    exact hr.trans (turn_departure resolved i)

theorem turn_meet (transports : Nat → Behaviour) (i : Nat) (effect : Effect) (t : Timeline) :
    Turn i t (t.meet transports i effect) :=
  turn_follow transports i _ effect t

theorem turn_enter (transports : Nat → Behaviour) (i : Nat) (t : Timeline) :
    Turn i t (t.enter transports i) := by
  unfold enter
  split
  · have hf := turn_apply t i [.first] (by decide)
    have hs := hf.trans (turn_send transports i _)
    split
    · rename_i sent effect h
      exact (by simpa [h] using hs : Turn i t sent).trans (turn_meet transports i effect sent)
    · rename_i sent h
      simpa [h] using hs
  · exact .refl i t

/-! ### The end of an exchange -/

theorem cue_of_some (hc : t.fleet.chains[i]? = some c) :
    t.cue transports i = (transports i).cue (c.calls.exchanges - 1) := by
  rw [cue, Fleet.ask_of_some hc]

theorem follow_of_done {fuel : Nat}
    (ht : t.apply [.move i (.resolve outcome)] = t') (hw : t'.fleet.isWaiting i = false) :
    t.follow transports i fuel (.answer outcome) = t'.apply (Event.departure i) := by
  unfold follow
  simp [ht, hw]

theorem follow_of_later {fuel : Nat}
    (ht : t.apply [.move i (.resolve outcome)] = t') (hw : t'.fleet.isWaiting i = true)
    (hd : (t'.cue transports i).delay.isNone = false) :
    t.follow transports i fuel (.answer outcome) = (t'.send transports i).1 := by
  unfold follow
  simp [ht, hw, send_of_not_isNone hd]

theorem follow_of_now {fuel : Nat}
    (ht : t.apply [.move i (.resolve outcome)] = t') (hw : t'.fleet.isWaiting i = true)
    (hd : (t'.cue transports i).delay.isNone = true) :
    t.follow transports i (fuel + 1) (.answer outcome)
      = (t'.noticed transports i).follow transports i fuel (t'.cue transports i).effect := by
  conv =>
    lhs
    unfold follow
  simp [ht, hw, send_of_isNone hd]

/-! ## All that tasks do -/

/-- What may be different when any tasks have gone on, and time with them. -/
structure Leads (t t' : Timeline) : Prop where
  events : ∃ events : List Event, (∀ e ∈ events, ∃ i m, e = .move i m ∧ m.isTask = true) ∧
    t'.fleet = t.fleet.apply events ∧ t'.past = events.reverse ++ t.past
  length : t'.flights.length = t.flights.length
  interrupted : t.interrupted = true → t'.interrupted = true

theorem Leads.refl (t : Timeline) : Leads t t := ⟨⟨[], by simp, rfl, rfl⟩, rfl, id⟩

theorem Leads.trans (h : Leads t t') (h' : Leads t' t'') : Leads t t'' := by
  obtain ⟨es, hes, hf, hp⟩ := h.events
  obtain ⟨es', hes', hf', hp'⟩ := h'.events
  refine ⟨⟨es ++ es', ?_, ?_, ?_⟩, h'.length.trans h.length,
    fun hi => h'.interrupted (h.interrupted hi)⟩
  · intro e he
    rcases List.mem_append.1 he with he | he
    · exact hes e he
    · exact hes' e he
  · rw [hf', hf, Fleet.apply_append]
  · rw [hp', hp, List.reverse_append, List.append_assoc]

theorem Leads.length_chains (h : Leads t t') :
    t'.fleet.chains.length = t.fleet.chains.length := by
  obtain ⟨events, he, hf, -⟩ := h.events
  rw [hf]
  refine Fleet.length_apply fun e hm => ?_
  obtain ⟨i, m, rfl, -⟩ := he e hm
  exact ⟨i, m, rfl⟩

theorem Turn.leads (h : Turn i t t') : Leads t t' := by
  obtain ⟨ms, hms, hf, hp⟩ := h.moves
  refine ⟨⟨_, fun e he => ?_, hf, hp⟩, h.length, h.interrupted⟩
  obtain ⟨m, hm, rfl⟩ := List.mem_map.1 he
  exact ⟨i, m, rfl, hms m hm⟩

theorem leads_setNow (t : Timeline) (now : Nat) : Leads t { t with now } :=
  ⟨⟨[], by simp, rfl, rfl⟩, rfl, id⟩

/-- The timeline on which a flight ends. -/
def landed (i : Nat) (flight : Flight) (t : Timeline) : Timeline :=
  { t with now := flight.due, flights := t.flights.set i none }

theorem leads_landed (i : Nat) (flight : Flight) (t : Timeline) : Leads t (t.landed i flight) :=
  ⟨⟨[], by simp, rfl, rfl⟩, List.length_set, id⟩

theorem of_land? {limit : Nat} (h : t.land? transports limit = some t') :
    ∃ i flight, t.next? = some (i, flight) ∧ flight.due < limit ∧
      t' = (t.landed i flight).meet transports i flight.effect := by
  unfold land? at h
  cases hn : t.next? with
  | none => simp [hn] at h
  | some p =>
    simp only [hn] at h
    split at h
    · exact ⟨p.1, p.2, rfl, ‹_›, (Option.some.inj h).symm⟩
    · exact absurd h (by simp)

/-- What the end of every flight keeps, all that happens before a limit keeps. -/
theorem landAll_induction {P : Timeline → Prop} {enough : Timeline → Bool} {limit : Nat}
    (hstep : ∀ t i flight, P t → enough t = false → t.next? = some (i, flight) →
      flight.due < limit → P ((t.landed i flight).meet transports i flight.effect))
    (fuel : Nat) (h : P t) : P (t.landAll transports enough limit fuel) := by
  induction fuel generalizing t with
  | zero => exact h
  | succ fuel ih =>
    unfold landAll
    cases he : enough t with
    | true => exact h
    | false =>
      cases hl : t.land? transports limit with
      | none => exact h
      | some t' =>
        obtain ⟨i, flight, hn, hd, rfl⟩ := of_land? hl
        exact ih (hstep t i flight h he hn hd)

theorem leads_advance (transports : Nat → Behaviour) (enough : Timeline → Bool) (limit : Nat)
    (t : Timeline) : Leads t (t.advance transports enough limit) :=
  landAll_induction (P := Leads t) (fun _ i flight h _ _ _ =>
    (h.trans (leads_landed i flight _)).trans (turn_meet transports i _ _).leads) _ (.refl t)

end Timeline

end LoadHarness
