import LoadHarness.Proofs.Chain.Effect

/-!
# The life of a chain

A chain that is stopped has each call of its teardown made or still before it, and no chain has
one otherwise (`Chain.Orderly`), whatever moves it makes in whatever order
(`Move.Effect.orderly`). A stop from outside leaves nothing of the teardown
(`Chain.Orderly.gone_stop`), and a chain of which nothing is left has called its transport to stop
once and to be destroyed once (`Chain.Orderly.released`).

A chain is present in the count of active clients while it runs, and then until its teardown
takes it out (`Chain.presence`). Every move changes the count by what it changes of that
(`Move.Effect.active_eq`), in words that wrap.
-/

namespace LoadHarness

namespace Chain

variable {c : Chain}

/-- What every chain keeps. -/
structure Orderly (c : Chain) : Prop where
  /-- Before the stop nothing is left of a teardown. -/
  idle : c.stage ≠ .stopped → c.teardown = []
  /-- The call to stop the transport is made or left to be made. -/
  stops : c.calls.stops + c.teardown.count .stopTransport = if c.stage = .stopped then 1 else 0
  /-- So is the call to destroy it. -/
  destroys : c.calls.destroys + c.teardown.count .destroyTransport
    = if c.stage = .stopped then 1 else 0
  /-- It leaves the count of active clients no more than once. -/
  leaves : c.teardown.count .leave ≤ 1
  length_le : c.teardown.length ≤ 4

/-- How often the chain is in the count of active clients. -/
def presence (c : Chain) : Nat := (if c.stage = .running then 1 else 0) + c.teardown.count .leave

/-- A chain that is stopped and has nothing left to do for it. -/
structure Gone (c : Chain) : Prop where
  stopped : c.stage = .stopped
  done : c.teardown = []

theorem orderly_create (id : ClientId) (stopOnFailure : Bool) :
    (create id stopOnFailure).Orderly :=
  ⟨fun _ => rfl, rfl, rfl, Nat.zero_le _, Nat.zero_le _⟩

theorem Orderly.released (h : c.Orderly) (hg : c.Gone) :
    c.calls.stops = 1 ∧ c.calls.destroys = 1 := by
  have hstops := h.stops
  have hdestroys := h.destroys
  rw [hg.done, if_pos hg.stopped] at hstops hdestroys
  exact ⟨hstops, hdestroys⟩

theorem Orderly.presence_le (h : c.Orderly) : c.presence ≤ 1 := by
  unfold presence
  by_cases hs : c.stage = .running
  · rw [h.idle (by simp [hs]), if_pos hs]
    exact Nat.le_refl _
  · rw [if_neg hs, Nat.zero_add]
    exact h.leaves

theorem Gone.presence_eq (h : c.Gone) : c.presence = 0 := by
  simp [presence, h.stopped, h.done]

/-- A chain whose stage, calls and teardown are in order after a move that has nothing to do
with its stop. -/
theorem Orderly.of_eq {c' : Chain} (h : c.Orderly)
    (hs : c'.stage = .stopped ↔ c.stage = .stopped) (hstops : c'.calls.stops = c.calls.stops)
    (hdestroys : c'.calls.destroys = c.calls.destroys) (ht : c'.teardown = c.teardown) :
    c'.Orderly := by
  refine ⟨fun hn => ht ▸ h.idle (mt hs.2 hn), ?_, ?_, ht ▸ h.leaves, ht ▸ h.length_le⟩
  · simp only [hstops, ht, hs]
    exact h.stops
  · simp only [hdestroys, ht, hs]
    exact h.destroys

/-! ## The stop -/

theorem Orderly.mark (h : c.Orderly) : c.mark.Orderly := by
  unfold Chain.mark
  split
  · exact h
  case isFalse hs =>
    have hstops := h.stops
    have hdestroys := h.destroys
    rw [h.idle hs, if_neg hs, List.count_nil, Nat.add_zero] at hstops hdestroys
    refine ⟨fun hn => absurd rfl hn, ?_, ?_, ?_, ?_⟩ <;>
      cases (c.stage == .running) <;> simp [Teardown.steps, hstops, hdestroys]

theorem Orderly.presence_mark (h : c.Orderly) : c.mark.presence = c.presence := by
  unfold Chain.mark
  split
  · rfl
  case isFalse hs =>
    simp only [presence, h.idle hs]
    by_cases hr : c.stage = .running <;> simp [Teardown.steps, hr]

theorem Orderly.stopped_of_teardown {step : Teardown} {steps : List Teardown} (h : c.Orderly)
    (ht : c.teardown = step :: steps) : c.stage = .stopped :=
  Decidable.byContradiction fun hs => by simp [h.idle hs] at ht

/-- One step of the teardown is done. -/
theorem Orderly.of_step {c' : Chain} {step : Teardown} {steps : List Teardown} (h : c.Orderly)
    (ht : c.teardown = step :: steps) (hs : c'.stage = c.stage) (ht' : c'.teardown = steps)
    (hstops : c'.calls.stops = c.calls.stops + if step == .stopTransport then 1 else 0)
    (hdestroys : c'.calls.destroys
      = c.calls.destroys + if step == .destroyTransport then 1 else 0) :
    c'.Orderly := by
  have hstage := h.stopped_of_teardown ht
  obtain ⟨-, h1, h2, h3, h4⟩ := h
  rw [ht, if_pos hstage, List.count_cons] at h1 h2
  rw [ht] at h3 h4
  refine ⟨fun hn => absurd (hs.trans hstage) hn, ?_, ?_, ?_, ?_⟩
  · rw [hstops, ht', if_pos (hs.trans hstage)]
    omega
  · rw [hdestroys, ht', if_pos (hs.trans hstage)]
    omega
  · rw [ht']
    exact Nat.le_trans (List.count_le_count_cons) h3
  · rw [ht']
    exact Nat.le_trans (Nat.le_succ _) h4

/-- A step of the teardown leaves the others, and the stage. -/
theorem tearDown_spec (s : Chain × Counters) :
    (Chain.tearDown s).1.teardown = s.1.teardown.tail ∧ (Chain.tearDown s).1.stage = s.1.stage := by
  obtain ⟨c, n⟩ := s
  unfold Chain.tearDown
  cases ht : c.teardown with
  | nil => exact ⟨ht, rfl⟩
  | cons step steps =>
    cases step with
    | shutdown =>
      simp only [Chain.perform]
      split <;> exact ⟨rfl, rfl⟩
    | _ => exact ⟨rfl, rfl⟩

/-- A teardown comes to its end, and leaves the stage. -/
theorem runAll_teardown (s : Chain × Counters) (h : s.1.teardown.length ≤ 4) :
    (Move.runAll Move.teardown s).1.teardown = [] ∧
      (Move.runAll Move.teardown s).1.stage = s.1.stage := by
  refine ⟨List.eq_nil_of_length_eq_zero ?_, ?_⟩
  · simp only [Move.teardown, Move.runAll, List.foldl_cons, List.foldl_nil, Move.run,
      (tearDown_spec _).1, List.length_tail]
    omega
  · simp only [Move.teardown, Move.runAll, List.foldl_cons, List.foldl_nil, Move.run,
      (tearDown_spec _).2]

/-- A stop from outside comes to its end. -/
theorem Orderly.gone_stop (h : c.Orderly) (n : Counters) :
    (Move.runAll Move.stop (c, n)).1.Gone := by
  obtain ⟨hdone, hstage⟩ := runAll_teardown (c.mark, n) h.mark.length_le
  exact ⟨hstage.trans c.stage_mark, hdone⟩

@[simp] theorem presence_charged (left : Nat) (c : Chain) :
    (c.charged left).presence = c.presence := by
  simp [presence]

end Chain

/-- Whether a move starts the chain. -/
def Move.isStart : Move → Bool
  | start _ => true
  | _ => false

namespace Move.Effect

variable {m : Move} {c c' : Chain} {n n' : Counters}

theorem id_eq (h : m.Effect c n c' n') : c'.id = c.id := by
  cases h with
  | paid => exact Chain.id_charged _ c
  | marked => exact c.id_mark
  | left => exact c.id_mark
  | _ => rfl

theorem starts_eq (h : m.Effect c n c' n') (hm : m.isStart = false) :
    c'.calls.starts = c.calls.starts := by
  cases h with
  | refused => simp [isStart] at hm
  | bound => simp [isStart] at hm
  | paid => exact Chain.starts_charged _ c
  | marked => rw [c.calls_mark]
  | left => simp only [c.calls_mark]
  | _ => rfl

theorem orderly (h : m.Effect c n c' n') (hc : c.Orderly) : c'.Orderly := by
  cases h with
  | bound hs => exact hc.of_eq (by simp [hs]) rfl rfl rfl
  | launched hs => exact hc.of_eq (by simp [hs]) rfl rfl rfl
  | @paid _ _ _ left =>
    refine hc.of_eq ?_ ?_ ?_ ?_ <;> by_cases hl : 0 < left <;>
      simp [Chain.charged, Chain.callExchange, hl]
  | marked => exact hc.mark
  | left => exact hc.mark.of_eq Iff.rfl rfl rfl rfl
  | told ht | unbound ht | destroyed ht | counted ht => exact hc.of_step ht rfl rfl rfl rfl
  | _ => exact hc.of_eq Iff.rfl rfl rfl rfl

/-- The count of active clients follows the presence of the chain. -/
theorem active_eq (h : m.Effect c n c' n') (hc : c.Orderly) :
    (n'.active + c.presence) % Counters.wordSize
      = (n.active + c'.presence) % Counters.wordSize := by
  cases h with
  | bound hs => simp [Chain.presence, Chain.callStart, hs]
  | launched hs => simp [Chain.presence, hs, hc.idle, Counters.clientStarted]
  | paid => rw [Chain.presence_charged]; rfl
  | marked => rw [hc.presence_mark]
  | left => exact congrArg (fun k => (n.active + k) % _) hc.presence_mark.symm
  | told ht | unbound ht | destroyed ht => simp [Chain.presence, ht]
  | counted ht =>
    simp only [Chain.presence, ht, List.count_cons_self, Counters.clientStopped,
      Counters.wordSize]
    split <;> simp <;> omega
  | _ => rfl

theorem active_lt (h : m.Effect c n c' n') (hn : n.active < Counters.wordSize) :
    n'.active < Counters.wordSize := by
  cases h with
  | launched => exact Nat.mod_lt _ (by decide)
  | counted =>
    unfold Counters.clientStopped
    cases ha : n.active with
    | zero => exact Nat.sub_lt (by decide) Nat.one_pos
    | succ left =>
      rw [ha] at hn
      exact Nat.lt_of_succ_lt hn
  | _ => exact hn

end Move.Effect

end LoadHarness
