import LoadHarness.Proofs.Chain.Lifecycle

/-!
# The passage of a chain through its stages

No move takes a chain back to an earlier stage (`Move.Effect.rank_le`). What is left of a teardown
is always an end of it (`Chain.InTurn`), so that the transport is told to stop before it is
destroyed (`Chain.InTurn.destroys_le_stops`).

A chain is launched once at most, and it leaves the count of active clients once at most, after it
was launched (`Chain.Passed`) : each launch is made up for by the presence of the chain or by its
exit.
-/

namespace LoadHarness

/-! ## Launches and exits -/

namespace Move

/-- Whether a move launches the task of a chain. -/
def launches : Move → Chain × Counters → Bool
  | launch, s => (Chain.launch s).2
  | _, _ => false

/-- Whether a move takes a chain out of the count of active clients. -/
def exits : Move → Chain × Counters → Bool
  | tearDown, s => s.1.teardown.head? == some .leave
  | _, _ => false

/-- Whether a move is a step of a stop. -/
def isStop : Move → Bool
  | mark | leave | tearDown => true
  | _ => false

end Move

theorem Stage.rank_le (s : Stage) : s.rank ≤ stopped.rank := by
  cases s <;> decide

namespace Chain

variable {c : Chain}

/-- What is left of a teardown is an end of it. -/
def InTurn (c : Chain) : Prop := ∃ wasRunning k, c.teardown = (Teardown.steps wasRunning).drop k

theorem inTurn_create (id : ClientId) (stopOnFailure : Bool) :
    (create id stopOnFailure).InTurn := ⟨true, 4, rfl⟩

theorem InTurn.of_eq {c' : Chain} (h : c.InTurn) (ht : c'.teardown = c.teardown) : c'.InTurn := by
  obtain ⟨wasRunning, k, hk⟩ := h
  exact ⟨wasRunning, k, ht.trans hk⟩

theorem InTurn.of_step {c' : Chain} {step : Teardown} (h : c.InTurn)
    (ht : c.teardown = step :: c'.teardown) : c'.InTurn := by
  obtain ⟨wasRunning, k, hk⟩ := h
  refine ⟨wasRunning, k + 1, ?_⟩
  rw [← List.drop_drop, ← hk, ht]
  rfl

theorem InTurn.mark (h : c.InTurn) : c.mark.InTurn := by
  unfold Chain.mark
  split
  · exact h
  · exact ⟨_, 0, rfl⟩

theorem InTurn.count_le (h : c.InTurn) :
    c.teardown.count .stopTransport ≤ c.teardown.count .destroyTransport := by
  obtain ⟨wasRunning, k, hk⟩ := h
  rw [hk]
  rcases k with _ | _ | _ | _ | k
  case succ.succ.succ.succ => cases wasRunning <;> simp [Teardown.steps]
  all_goals cases wasRunning <;> decide

/-- A transport is destroyed only when it was told to stop, and that once at most. -/
theorem InTurn.destroys_le_stops (h : c.InTurn) (ho : c.Orderly) :
    c.calls.destroys ≤ c.calls.stops ∧ c.calls.stops ≤ 1 := by
  have hcount := h.count_le
  have hstops := ho.stops
  have hdestroys := ho.destroys
  by_cases hs : c.stage = .stopped
  · rw [if_pos hs] at hstops hdestroys
    omega
  · rw [if_neg hs] at hstops hdestroys
    omega

/-- What a chain has passed, with how many moves of each kind it made. -/
structure Passed (made : (Move → Chain × Counters → Bool) → Nat) (c : Chain) : Prop where
  orderly : c.Orderly
  inTurn : c.InTurn
  /-- A launch is made up for by the presence of the chain, or by its exit. -/
  launches_eq : made Move.launches = made Move.exits + c.presence
  /-- There is none before the chain runs, and one at most from then on. -/
  launches_le : made Move.launches ≤ if c.stage.rank < Stage.running.rank then 0 else 1

theorem passed_create (id : ClientId) (stopOnFailure : Bool) :
    (create id stopOnFailure).Passed fun _ => 0 :=
  ⟨orderly_create id stopOnFailure, inTurn_create id stopOnFailure, rfl, Nat.zero_le _⟩

theorem Passed.launches_le_one {made : (Move → Chain × Counters → Bool) → Nat}
    (h : c.Passed made) : made Move.launches ≤ 1 := by
  have := h.launches_le
  split at this <;> omega

theorem Passed.exits_le {made : (Move → Chain × Counters → Bool) → Nat} (h : c.Passed made) :
    made Move.exits ≤ made Move.launches := by
  rw [h.launches_eq]
  exact Nat.le_add_right _ _

end Chain

/-! ## All moves -/

namespace Move.Effect

variable {m : Move} {c c' : Chain} {n n' : Counters}

/-- No move takes a chain back. -/
theorem rank_le (h : m.Effect c n c' n') : c.stage.rank ≤ c'.stage.rank := by
  cases h with
  | bound hs => exact hs ▸ Nat.zero_le _
  | launched hs => exact hs ▸ Nat.le_succ _
  | paid => exact Nat.le_of_eq (by rw [Chain.stage_charged])
  | marked | left =>
    rw [Chain.stage_mark]
    exact c.stage.rank_le
  | _ => exact Nat.le_refl _

/-- Only the steps of a stop change what is left of it. -/
theorem teardown_eq (h : m.Effect c n c' n') (hm : m.isStop = false) :
    c'.teardown = c.teardown := by
  cases h with
  | paid => exact Chain.teardown_charged _ c
  | marked | left | told | unbound | destroyed | counted => simp [isStop] at hm
  | _ => rfl

theorem inTurn (h : m.Effect c n c' n') (hc : c.InTurn) : c'.InTurn := by
  cases h with
  | paid => exact hc.of_eq (Chain.teardown_charged _ c)
  | marked => exact hc.mark
  | left => exact hc.mark.of_eq rfl
  | told ht | unbound ht | destroyed ht | counted ht => exact hc.of_step ht
  | _ => exact hc.of_eq rfl

/-- A launch adds to the presence of a chain and an exit takes from it, and nothing else does. -/
theorem presence_eq (h : m.Effect c n c' n') (hc : c.Orderly) :
    c.presence + (m.launches (c, n)).toNat = c'.presence + (m.exits (c, n)).toNat := by
  cases h with
  | idle hm => cases m <;> simp_all [applies, launches, Chain.launch, exits]
  | bound hs => simp [Chain.presence, Chain.callStart, hs, launches, exits]
  | launched hs => simp [Chain.presence, hs, hc.idle, launches, Chain.launch, exits]
  | paid => simp [launches, exits]
  | marked => simp [hc.presence_mark, launches, exits]
  | left => exact congrArg (· + 0) hc.presence_mark.symm
  | told ht | unbound ht | destroyed ht | counted ht =>
    simp [Chain.presence, ht, launches, exits, Nat.add_assoc]
  | _ => rfl

theorem of_launches (h : m.Effect c n c' n') (hm : m.launches (c, n) = true) :
    c.stage = .started ∧ c'.stage = .running := by
  cases h with
  | launched hs => exact ⟨hs, rfl⟩
  | idle hi => cases m <;> simp_all [applies, launches, Chain.launch]
  | _ => simp [launches] at hm

theorem passed {made : (Move → Chain × Counters → Bool) → Nat} (h : m.Effect c n c' n')
    (hc : c.Passed made) : c'.Passed fun kind => made kind + (kind m (c, n)).toNat := by
  have hpresence := h.presence_eq hc.orderly
  have hlaunches := hc.launches_eq
  refine ⟨h.orderly hc.orderly, h.inTurn hc.inTurn, by omega, ?_⟩
  have hrank := h.rank_le
  have hle := hc.launches_le
  cases hm : m.launches (c, n) with
  | true =>
    obtain ⟨hs, hs'⟩ := h.of_launches hm
    rw [hs, if_pos (by decide)] at hle
    rw [hs', if_neg (by decide)]
    exact Nat.succ_le_succ hle
  | false =>
    change made Move.launches ≤ _
    split at hle <;> split <;> omega

end Move.Effect

end LoadHarness
