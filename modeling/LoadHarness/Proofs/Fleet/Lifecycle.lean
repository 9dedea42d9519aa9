import LoadHarness.Proofs.Chain.Lifecycle
import LoadHarness.Proofs.Fleet.Frame

/-!
# The life of a fleet

All chains of a fleet live orderly lives, and the word that counts the active clients is what
they are in it (`Fleet.Orderly`), after every list of events in which nobody outside enters
(`Orderly.apply`). Whatever the chains were doing, once all of them are stopped each has let go of
its transport, once (`Orderly.gone_stopAll`), and nobody is active (`Orderly.active_stopAll`).
-/

namespace LoadHarness

namespace Fleet

variable {f : Fleet} {e : Event} {i : Nat} {c : Chain}

/-- What every fleet keeps. -/
structure Orderly (f : Fleet) : Prop where
  chains : ∀ c ∈ f.chains, c.Orderly
  active : f.counters.active = f.total Chain.presence % Counters.wordSize

/-- The same, when some have entered from outside. -/
structure Attended (entered : Nat) (f : Fleet) : Prop where
  chains : ∀ c ∈ f.chains, c.Orderly
  active : f.counters.active = (f.total Chain.presence + entered) % Counters.wordSize

theorem orderly_create (budget : Nat) : (create budget []).Orderly :=
  ⟨fun _ hc => absurd hc (by simp [create]), rfl⟩

theorem Orderly.chain (h : f.Orderly) (hc : f.chains[i]? = some c) : c.Orderly :=
  h.chains c (List.mem_of_getElem? hc)

theorem attended_create (budget : Nat) (crew : List (ClientId × Bool)) :
    (create budget (crew.map fun p => .create p.1 p.2)).Attended 0 := by
  have hcreate : ∀ c ∈ crew.map fun p => Chain.create p.1 p.2, c.Orderly ∧ c.presence = 0 := by
    intro c hc
    obtain ⟨p, -, rfl⟩ := List.mem_map.1 hc
    exact ⟨Chain.orderly_create p.1 p.2, rfl⟩
  refine ⟨fun c hc => (hcreate c hc).1, ?_⟩
  rw [total_eq_zero fun c hc => (hcreate c hc).2]
  rfl

theorem Attended.active_lt {entered : Nat} (h : f.Attended entered) :
    f.counters.active < Counters.wordSize := by
  rw [h.active]
  exact Nat.mod_lt _ (by decide)

theorem Attended.step {entered : Nat} (h : f.Attended entered) (e : Event) :
    (f.step e).Attended (entered + if e = .enter then 1 else 0) := by
  cases e with
  | build id stopOnFailure =>
    refine ⟨fun c hc => ?_, ?_⟩
    · rcases List.mem_append.1 hc with hc | hc
      · exact h.chains c hc
      · obtain rfl := List.mem_singleton.1 hc
        exact Chain.orderly_create id stopOnFailure
    · rw [total_build]
      exact h.active
  | move i m =>
    refine ⟨forall_act h.chains fun c hc => ?_, ?_⟩
    · exact (m.effect_run c f.counters).orderly (h.chains c (List.mem_of_getElem? hc))
    · cases hc : f.chains[i]? with
      | none =>
        rw [Fleet.step, act_of_none hc]
        exact h.active
      | some c =>
        have ht := total_act (g := m.run) Chain.presence hc
        have ha := (m.effect_run c f.counters).active_eq (h.chains c (List.mem_of_getElem? hc))
        have hl := (m.effect_run c f.counters).active_lt h.active_lt
        have hf := h.active
        rw [Fleet.step, counters_act hc, if_neg (by simp)]
        unfold Counters.wordSize at *
        omega
  | consume =>
    refine ⟨h.chains, ?_⟩
    have : f.counters.consume.1.active = f.counters.active := by
      unfold Counters.consume
      split <;> rfl
    exact this.trans h.active
  | enter =>
    refine ⟨h.chains, ?_⟩
    have ha := h.active
    change (f.counters.active + 1) % Counters.wordSize
      = (f.total Chain.presence + (entered + 1)) % Counters.wordSize
    unfold Counters.wordSize at *
    omega

theorem Attended.apply {entered : Nat} (h : f.Attended entered) (events : List Event) :
    (f.apply events).Attended (entered + events.count .enter) := by
  induction events generalizing f entered with
  | nil => exact h
  | cons e events ih =>
    have hs := ih (h.step e)
    rw [List.count_cons]
    simp only [beq_iff_eq]
    rwa [Nat.add_assoc, Nat.add_comm (if e = .enter then 1 else 0)] at hs

theorem Orderly.attended (h : f.Orderly) : f.Attended 0 := ⟨h.chains, h.active⟩

theorem Orderly.step (h : f.Orderly) (he : e ≠ .enter) : (f.step e).Orderly := by
  have hs := h.attended.step e
  rw [if_neg he] at hs
  exact ⟨hs.chains, hs.active⟩

theorem Orderly.apply (h : f.Orderly) {events : List Event} (he : ∀ e ∈ events, e ≠ .enter) :
    (f.apply events).Orderly :=
  apply_induction (fun _ _ he hf => hf.step he) he h

/-- As long as the word can hold them, the active clients are those present and those who
entered. -/
theorem Attended.active_eq {entered : Nat} (h : f.Attended entered)
    (hl : f.chains.length + entered < Counters.wordSize) :
    f.counters.active = f.total Chain.presence + entered := by
  have hle := total_le_length fun c hc => (h.chains c hc).presence_le
  rw [h.active]
  exact Nat.mod_eq_of_lt (by omega)

/-- No stop is half done. -/
def AtRest (f : Fleet) : Prop := ∀ c ∈ f.chains, c.teardown = []

/-- The number of chains that run, also where the task has died. -/
def running (f : Fleet) : Nat := f.chains.countP (·.stage == .running)

theorem AtRest.total_presence (h : f.AtRest) : f.total Chain.presence = f.running := by
  unfold AtRest at h
  unfold total running
  generalize f.chains = chains at h
  induction chains with
  | nil => rfl
  | cons c chains ih =>
    obtain ⟨hc, h⟩ := List.forall_mem_cons.1 h
    have hp : c.presence = if c.stage = .running then 1 else 0 := by simp [Chain.presence, hc]
    rw [List.foldl_cons, foldl_weigh, ih h, List.countP_cons, hp]
    simp only [beq_iff_eq, Nat.zero_add, Nat.add_comm]

/-! ## The end of all chains -/

theorem enter_not_mem_stopAll (count : Nat) : ∀ e ∈ Event.stopAll count, e ≠ .enter := by
  intro e he
  obtain ⟨i, m, -, rfl⟩ := of_mem_moves (fun _ => Move.stop) he
  exact (nomatch ·)

theorem getElem?_stopAll (f : Fleet) (hc : f.chains[i]? = some c) :
    ∃ n, f.stopAll.chains[i]? = some (Move.runAll Move.stop (c, n)).1 :=
  getElem?_apply_of_mem (fun _ => Move.stop) List.nodup_range
    (List.mem_range.2 (List.getElem?_eq_some_iff.1 hc).1) hc

theorem length_stopAll (f : Fleet) : f.stopAll.chains.length = f.chains.length :=
  length_moves (fun _ => Move.stop) _

theorem Orderly.gone_stopAll (h : f.Orderly) : ∀ c ∈ f.stopAll.chains, c.Gone := by
  intro c hc
  obtain ⟨i, hi⟩ := List.mem_iff_getElem?.1 hc
  obtain ⟨d, hd⟩ : ∃ d, f.chains[i]? = some d := by
    have hl := (List.getElem?_eq_some_iff.1 hi).1
    rw [length_stopAll] at hl
    exact ⟨_, List.getElem?_eq_getElem hl⟩
  obtain ⟨n, hn⟩ := f.getElem?_stopAll hd
  obtain rfl : (Move.runAll Move.stop (d, n)).1 = c := by
    rw [hn] at hi
    exact Option.some.inj hi
  exact (h.chain hd).gone_stop n

theorem Orderly.active_stopAll (h : f.Orderly) : f.stopAll.counters.active = 0 := by
  have hs : f.stopAll.Orderly := h.apply (enter_not_mem_stopAll _)
  rw [hs.active, total_eq_zero fun c hc => (h.gone_stopAll c hc).presence_eq]
  rfl

end Fleet

end LoadHarness
