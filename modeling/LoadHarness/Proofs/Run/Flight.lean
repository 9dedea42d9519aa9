import LoadHarness.Proofs.Run.Turn

/-!
# Flights that end

The flight that ends next is one that counts, and no other is due before it (`next?_spec`). A
flight that ends is gone, and takes a unit of the budget for every one that follows it. So the
budget and the flights together (`Timeline.load`) fall with every landing (`load_landed_lt`), and
an advance goes on until there is enough or nothing is due any more (`advance_settled`).

An exchange ends no sooner than it begins, so an advance does not turn the clock back
(`Timeline.NotBefore.advance`).
-/

namespace LoadHarness

/-- An exchange ends no sooner than it begins. -/
theorem Delay.le_after (i start : Nat) (d : Delay) : start ≤ d.after i start := by
  unfold after
  split
  · exact Nat.le_refl _
  · rename_i hd
    cases d with
    | nanoseconds count => exact Nat.le_add_right _ _
    | ticks count =>
      have hc : 1 ≤ count := by
        simp only [isNone, beq_iff_eq] at hd
        omega
      simp only [tickStart, tickLength]
      omega

namespace Timeline

variable {transports : Nat → Behaviour} {i : Nat} {t t' : Timeline} {flight : Flight}

/-! ## The next flight -/

theorem mem_inFlight :
    (i, flight) ∈ t.inFlight ↔ ∃ c, t.fleet.chains[i]? = some c ∧ c.isWaiting = true ∧
      t.flights[i]? = some (some flight) := by
  unfold inFlight
  rw [List.mem_filterMap]
  constructor
  · rintro ⟨⟨⟨c, fl⟩, j⟩, hm, h⟩
    obtain ⟨hc, hf⟩ := List.getElem?_zip_eq_some.1 (List.mk_mem_zipIdx_iff_getElem?.1 hm)
    by_cases hw : c.isWaiting = true
    · rw [if_pos hw, Option.map_eq_some_iff] at h
      obtain ⟨_, rfl, h⟩ := h
      obtain ⟨rfl, rfl⟩ := Prod.mk.inj h
      exact ⟨c, hc, hw, hf⟩
    · rw [if_neg hw] at h
      exact absurd h (by simp)
  · rintro ⟨c, hc, hw, hf⟩
    refine ⟨((c, some flight), i), List.mk_mem_zipIdx_iff_getElem?.2 ?_, by simp [hw]⟩
    exact List.getElem?_zip_eq_some.2 ⟨hc, hf⟩

theorem sooner_eq (a b : Nat × Flight) : sooner a b = a ∨ sooner a b = b := by
  unfold sooner
  split
  · exact .inr rfl
  · exact .inl rfl

theorem due_sooner_le (a b : Nat × Flight) :
    (sooner a b).2.due ≤ a.2.due ∧ (sooner a b).2.due ≤ b.2.due := by
  unfold sooner
  split <;> omega

theorem foldl_sooner (flights : List (Nat × Flight)) (a : Nat × Flight) :
    flights.foldl sooner a ∈ a :: flights ∧
      ∀ b ∈ a :: flights, (flights.foldl sooner a).2.due ≤ b.2.due := by
  induction flights generalizing a with
  | nil => simp
  | cons b flights ih =>
    obtain ⟨hmem, hall⟩ := ih (sooner a b)
    have hs := due_sooner_le a b
    obtain ⟨hfirst, hall⟩ := List.forall_mem_cons.1 hall
    refine ⟨?_, List.forall_mem_cons.2 ⟨Nat.le_trans hfirst hs.1,
      List.forall_mem_cons.2 ⟨Nat.le_trans hfirst hs.2, hall⟩⟩⟩
    rw [List.foldl_cons]
    rcases List.mem_cons.1 hmem with hmem | hmem
    · rw [hmem]
      rcases sooner_eq a b with h | h <;> simp [h]
    · exact List.mem_cons_of_mem _ (List.mem_cons_of_mem _ hmem)

/-- The next flight is one that counts, and no other is due before it. -/
theorem next?_spec {p : Nat × Flight} (h : t.next? = some p) :
    p ∈ t.inFlight ∧ ∀ q ∈ t.inFlight, p.2.due ≤ q.2.due := by
  unfold next? at h
  cases hf : t.inFlight with
  | nil => simp [hf] at h
  | cons q flights =>
    simp only [hf, Option.some.injEq] at h
    rw [← h]
    exact foldl_sooner flights q

theorem next?_eq_none (h : t.next? = none) : t.inFlight = [] := by
  unfold next? at h
  cases hf : t.inFlight with
  | nil => rfl
  | cons => simp [hf] at h

theorem land?_eq_none {limit : Nat} (h : t.land? transports limit = none) :
    ∀ q ∈ t.inFlight, limit ≤ q.2.due := by
  unfold land? at h
  cases hn : t.next? with
  | none => simp [next?_eq_none hn]
  | some p =>
    simp only [hn] at h
    split at h
    · simp at h
    · intro q hq
      have := (next?_spec hn).2 q hq
      omega

/-! ## The load -/

/-- The budget and the flights together. -/
def load (t : Timeline) : Nat := t.fleet.counters.remaining + t.flights.countP Option.isSome

theorem remaining_resolve_lt {f : Fleet} {outcome : Outcome}
    (h : (f.apply [.move i (.resolve outcome)]).isWaiting i = true) :
    (f.apply [.move i (.resolve outcome)]).counters.remaining < f.counters.remaining := by
  simp only [Fleet.apply_cons, Fleet.apply_nil, Fleet.step] at h ⊢
  cases hc : f.chains[i]? with
  | none => simp [Fleet.act_of_none hc, Fleet.isWaiting, Fleet.ask, hc] at h
  | some c =>
    rw [Fleet.isWaiting, Fleet.ask_of_some (Fleet.getElem?_act_self hc)] at h
    rw [Fleet.counters_act hc]
    have he := (Move.resolve outcome).effect_run c f.counters
    generalize ((Move.resolve outcome).run (c, f.counters)).1 = c' at *
    generalize ((Move.resolve outcome).run (c, f.counters)).2 = n' at *
    cases he with
    | idle hi => simp_all [Move.applies]
    | unpaid => simp [Chain.isWaiting] at h
    | paid _ _ hn => rw [hn]; exact Nat.lt_succ_self _

theorem load_apply_le (t : Timeline) (events : List Event) : (t.apply events).load ≤ t.load :=
  Nat.add_le_add_right (t.fleet.remaining_apply_le events) _

theorem load_resolved_lt {outcome : Outcome}
    (h : (t.apply [.move i (.resolve outcome)]).fleet.isWaiting i = true) :
    (t.apply [.move i (.resolve outcome)]).load < t.load :=
  Nat.add_lt_add_right (remaining_resolve_lt h) _

theorem countP_set_le (flights : List (Option Flight)) (i : Nat) (flight : Option Flight) :
    (flights.set i flight).countP Option.isSome ≤ flights.countP Option.isSome + 1 := by
  by_cases hi : i < flights.length
  · rw [List.countP_set hi]
    split <;> split <;> omega
  · rw [List.set_eq_of_length_le (Nat.le_of_not_lt hi)]
    exact Nat.le_succ _

theorem countP_set_none_lt {flights : List (Option Flight)}
    (h : flights[i]? = some (some flight)) :
    (flights.set i none).countP Option.isSome < flights.countP Option.isSome := by
  obtain ⟨hi, he⟩ := List.getElem?_eq_some_iff.1 h
  have hp : 0 < flights.countP Option.isSome :=
    List.countP_pos_iff.2 ⟨_, List.mem_of_getElem? h, rfl⟩
  simp only [List.countP_set hi, he, Option.isSome_some, Option.isSome_none, if_true,
    Bool.false_eq_true, if_false]
  omega

theorem load_send_le (transports : Nat → Behaviour) (i : Nat) (t : Timeline) :
    (t.send transports i).1.load ≤ t.load + 1 := by
  have hn : (t.noticed transports i).load ≤ t.load := load_apply_le t _
  cases h : (t.cue transports i).delay.isNone with
  | true =>
    rw [send_of_isNone h]
    exact Nat.le_succ_of_le hn
  | false =>
    rw [send_of_not_isNone h]
    have hc := countP_set_le t.flights i (some (t.departing transports i))
    exact Nat.le_trans (Nat.add_le_add_left hc _) (Nat.succ_le_succ hn)

/-- Every flight that an outcome leads to takes a unit of the budget. -/
theorem load_follow_le (transports : Nat → Behaviour) (i fuel : Nat) (effect : Effect)
    (t : Timeline) : (t.follow transports i fuel effect).load ≤ t.load := by
  fun_induction follow transports i fuel effect t with
  | case1 => exact Nat.le_refl _
  | case2 => exact load_apply_le _ _
  | case3 => exact Nat.le_refl _
  -- The chain goes on only if the outcome took a unit, which makes room for the next flight.
  | case4 outcome t resolved hw sent effect fuel hs ih =>
    have hl := load_send_le transports i resolved
    rw [hs] at hl
    exact Nat.le_trans ih (Nat.le_trans hl (load_resolved_lt hw))
  | case5 fuel outcome t resolved hw sent effect hs =>
    have hl := load_send_le transports i resolved
    rw [hs] at hl
    exact Nat.le_trans hl (load_resolved_lt hw)
  | case6 fuel outcome t resolved =>
    exact Nat.le_trans (load_apply_le resolved _) (load_apply_le t _)

theorem load_landed_lt (transports : Nat → Behaviour) (h : t.next? = some (i, flight)) :
    ((t.landed i flight).meet transports i flight.effect).load < t.load := by
  obtain ⟨c, -, -, hf⟩ := mem_inFlight.1 (next?_spec h).1
  have hl : (t.landed i flight).load < t.load := Nat.add_lt_add_left (countP_set_none_lt hf) _
  exact Nat.lt_of_le_of_lt (load_follow_le transports i _ _ _) hl

/-- With fuel for its load, a timeline comes to where there is enough or nothing is due. -/
theorem landAll_settled (transports : Nat → Behaviour) (enough : Timeline → Bool) (limit : Nat)
    {fuel : Nat} (h : t.load ≤ fuel) :
    enough (t.landAll transports enough limit fuel) = true ∨
      ∀ p ∈ (t.landAll transports enough limit fuel).inFlight, limit ≤ p.2.due := by
  induction fuel generalizing t with
  | zero =>
    refine .inr fun p hp => ?_
    obtain ⟨c, -, -, hf⟩ := mem_inFlight.1 (show (p.1, p.2) ∈ t.inFlight from hp)
    have := countP_set_none_lt hf
    unfold load at h
    omega
  | succ fuel ih =>
    unfold landAll
    cases he : enough t with
    | true => exact .inl he
    | false =>
      cases hl : t.land? transports limit with
      | none => exact .inr (land?_eq_none hl)
      | some t' =>
        obtain ⟨i, flight, hn, -, rfl⟩ := of_land? hl
        have := load_landed_lt transports hn
        exact ih (by omega)

theorem advance_settled (transports : Nat → Behaviour) (enough : Timeline → Bool) (limit : Nat)
    (h : t.flights.length ≤ t.fleet.chains.length) :
    enough (t.advance transports enough limit) = true ∨
      ∀ p ∈ (t.advance transports enough limit).inFlight, limit ≤ p.2.due :=
  landAll_settled transports enough limit
    (Nat.add_le_add_left (Nat.le_trans List.countP_le_length h) _)

/-! ## The clock -/

/-- The flight of a chain is the one it had, or one that begins now. -/
def Boards (i : Nat) (t t' : Timeline) : Prop :=
  t'.flights[i]? = t.flights[i]? ∨
    ∃ flight, t'.flights[i]? = some (some flight) ∧ t.now ≤ flight.due

theorem Boards.trans {t'' : Timeline} (h : Boards i t t') (h' : Boards i t' t'')
    (hnow : t'.now = t.now) : Boards i t t'' := by
  rcases h' with hsame | ⟨flight, hf, hd⟩
  · exact h.imp (fun he => hsame.trans he) fun ⟨flight, hf, hd⟩ => ⟨flight, hsame.trans hf, hd⟩
  · exact .inr ⟨flight, hf, hnow ▸ hd⟩

theorem boards_send (transports : Nat → Behaviour) (i : Nat) (t : Timeline) :
    Boards i t (t.send transports i).1 := by
  cases h : (t.cue transports i).delay.isNone with
  | true =>
    rw [send_of_isNone h]
    exact .inl rfl
  | false =>
    rw [send_of_not_isNone h]
    by_cases hi : i < t.flights.length
    · exact .inr ⟨_, List.getElem?_set_self hi, Delay.le_after _ _ _⟩
    · exact .inl (by rw [List.set_eq_of_length_le (Nat.le_of_not_lt hi)])

theorem boards_follow (transports : Nat → Behaviour) (i fuel : Nat) (effect : Effect)
    (t : Timeline) : Boards i t (t.follow transports i fuel effect) := by
  fun_induction follow transports i fuel effect t with
  | case1 | case2 | case3 | case6 => exact .inl rfl
  | case4 outcome t resolved _ sent effect fuel hs ih =>
    have hb := boards_send transports i resolved
    have hnow := (turn_send transports i resolved).now
    rw [hs] at hb hnow
    exact Boards.trans hb ih hnow
  | case5 fuel outcome t resolved _ sent effect hs =>
    have hb := boards_send transports i resolved
    rwa [hs] at hb

/-- It is not before a moment, and no exchange ends before it. -/
structure NotBefore (moment : Nat) (t : Timeline) : Prop where
  now : moment ≤ t.now
  due : ∀ p ∈ t.inFlight, moment ≤ p.2.due

variable {moment : Nat}

theorem NotBefore.landed (h : t.NotBefore moment) (hn : t.next? = some (i, flight)) :
    ((t.landed i flight).meet transports i flight.effect).NotBefore moment := by
  obtain ⟨hmem, -⟩ := next?_spec hn
  have hnow : moment ≤ flight.due := h.due _ hmem
  have hturn := turn_meet transports i flight.effect (t.landed i flight)
  refine ⟨by rw [hturn.now]; exact hnow, fun ⟨j, next⟩ hp => ?_⟩
  obtain ⟨c, hc, hw, hf⟩ := mem_inFlight.1 hp
  by_cases hji : j = i
  · subst hji
    obtain ⟨-, -, -, hj⟩ := mem_inFlight.1 hmem
    have hgone : (t.landed j flight).flights[j]? = some none :=
      List.getElem?_set_self (List.getElem?_eq_some_iff.1 hj).1
    rcases boards_follow transports j (t.landed j flight).fleet.counters.remaining flight.effect
      (t.landed j flight) with hsame | ⟨boarded, hb, hd⟩
    · exact nomatch (hf.symm.trans hsame).trans hgone
    · obtain rfl : next = boarded := by simpa using hf.symm.trans hb
      exact Nat.le_trans hnow hd
  · rw [hturn.chain_eq hji] at hc
    rw [hturn.flights j hji] at hf
    exact h.due (j, next) (mem_inFlight.2 ⟨c, hc, hw,
      (List.getElem?_set_ne (Ne.symm hji)).symm.trans hf⟩)

theorem NotBefore.advance (h : t.NotBefore moment) (transports : Nat → Behaviour)
    (enough : Timeline → Bool) (limit : Nat) : (t.advance transports enough limit).NotBefore moment :=
  landAll_induction (fun _ _ _ h _ hn _ => h.landed hn) _ h

end Timeline

end LoadHarness
