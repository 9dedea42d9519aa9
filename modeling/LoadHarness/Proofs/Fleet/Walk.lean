import LoadHarness.Proofs.Counters.Delta
import LoadHarness.Proofs.Fleet.Accounting
import LoadHarness.Proofs.Fleet.Lifecycle
import LoadHarness.Settings.Basic

/-!
# Moves of the chains of a fleet

From its launch on, all that happens to a fleet is moves of its chains (`Fleet.Walks`). No chain
comes or goes then, no counter goes back (`Fleet.Walks.precedes`), and the books stay balanced
(`Fleet.Sampled.walks`). So two looks at a fleet that walked in between can be compared.

Before its launch a fleet is prepared (`Fleet.Ready`) : chains are built, started, used for probes,
and stopped. None of them has a task then, and nothing is counted.
-/

namespace LoadHarness

/-! ## What counts -/

/-- The counts that a report shows. -/
def Counters.figures (c : Counters) : Nat × Nat × Nat := (c.remaining, c.retransmissions, c.errors)

/-- Whether a move can change them. -/
def Move.counts : Move → Bool
  | resolve _ | retransmit => true
  | _ => false

theorem Move.Effect.figures_eq {m : Move} {c c' : Chain} {n n' : Counters}
    (h : m.Effect c n c' n') (hm : m.counts = false) : n'.figures = n.figures := by
  cases h with
  | paid | retransmitted => simp [counts] at hm
  | counted => simp [Counters.figures]
  | _ => rfl

namespace Fleet

variable {f g h : Fleet} {e : Event} {expected : Nat} {c : Chain} {i : Nat}

/-- What every move of a chain keeps, in a fleet in which only chains make moves. -/
theorem forall_step {P : Chain → Prop} {m : Move}
    (hm : ∀ {c n c' n'}, m.Effect c n c' n' → P c → P c') (hf : ∀ c ∈ f.chains, P c) (i : Nat) :
    ∀ c ∈ (f.step (.move i m)).chains, P c :=
  forall_act hf fun c hc => hm (m.effect_run c f.counters) (hf c (List.mem_of_getElem? hc))

/-- What every move keeps of the chain in one place. -/
theorem forall_step_at {P : Chain → Prop} {m : Move}
    (hm : ∀ {c n c' n'}, m.Effect c n c' n' → P c → P c')
    (hf : ∀ c, f.chains[i]? = some c → P c) (j : Nat) :
    ∀ c, (f.step (.move j m)).chains[i]? = some c → P c := by
  intro d hd
  by_cases hij : i = j
  · subst hij
    cases hc : f.chains[i]? with
    | none =>
      rw [step, act_of_none hc, hc] at hd
      cases hd
    | some c =>
      rw [step, getElem?_act_self hc] at hd
      obtain rfl := Option.some.inj hd
      exact hm (m.effect_run c f.counters) (hf c hc)
  · rw [step, getElem?_act_ne hij] at hd
    exact hf d hd

/-- What a move does to the chain that makes it, and to the counters. -/
theorem effect_step (m : Move) (hc : f.chains[i]? = some c) :
    ∃ d, (f.step (.move i m)).chains[i]? = some d ∧
      m.Effect c f.counters d (f.step (.move i m)).counters := by
  refine ⟨_, getElem?_act_self hc, ?_⟩
  rw [step, counters_act hc]
  exact m.effect_run c f.counters

theorem figures_step {m : Move} (hm : m.counts = false) :
    (f.step (.move i m)).counters.figures = f.counters.figures := by
  cases hc : f.chains[i]? with
  | none => rw [step, act_of_none hc]
  | some c =>
    obtain ⟨d, -, he⟩ := f.effect_step m hc
    exact he.figures_eq hm

/-! ## Walks -/

/-- The chains of a fleet make moves. -/
def Walks (f g : Fleet) : Prop :=
  ∃ events, (∀ e ∈ events, ∃ i m, e = .move i m) ∧ g = f.apply events

theorem Walks.refl (f : Fleet) : Walks f f := ⟨[], fun _ he => absurd he List.not_mem_nil, rfl⟩

theorem Walks.trans (hg : Walks f g) (hh : Walks g h) : Walks f h := by
  obtain ⟨events, he, rfl⟩ := hg
  obtain ⟨events', he', rfl⟩ := hh
  refine ⟨events ++ events', fun e hm => ?_, (f.apply_append events events').symm⟩
  exact (List.mem_append.1 hm).elim (he e) (he' e)

theorem walks_step (f : Fleet) (i : Nat) (m : Move) : f.Walks (f.step (.move i m)) :=
  ⟨[.move i m], by simp, rfl⟩

theorem Walks.length_eq (hg : Walks f g) : g.chains.length = f.chains.length := by
  obtain ⟨events, he, rfl⟩ := hg
  exact length_apply he

theorem Walks.precedes (hg : Walks f g) : f.counters.Precedes g.counters := by
  obtain ⟨events, -, rfl⟩ := hg
  refine ⟨f.remaining_apply_le events, ?_, ?_⟩
  · rw [f.retransmissions_apply events]
    exact Nat.le_add_right _ _
  · rw [f.errors_apply events]
    exact Nat.le_add_right _ _

/-- What every move of a chain keeps, a walk keeps. -/
theorem Walks.forall {P : Chain → Prop}
    (hm : ∀ {m c n c' n'}, Move.Effect m c n c' n' → P c → P c') (hg : Walks f g)
    (hf : ∀ c ∈ f.chains, P c) : ∀ c ∈ g.chains, P c := by
  obtain ⟨events, he, rfl⟩ := hg
  refine apply_induction (P := fun g => ∀ c ∈ g.chains, P c) (fun g e he hg => ?_) he hf
  obtain ⟨i, m, rfl⟩ := he
  exact forall_step hm hg i

/-- What is known of a fleet that is looked at. -/
structure Sampled (expected : Nat) (f : Fleet) : Prop where
  orderly : f.Orderly
  books : f.sent + f.counters.remaining = expected
  errors : f.counters.errors ≤ f.tolerated
  length_lt : f.chains.length < Counters.wordSize

theorem Sampled.walks (hf : f.Sampled expected) (hg : Walks f g) : g.Sampled expected := by
  obtain ⟨events, he, rfl⟩ := hg
  refine ⟨hf.orderly.apply fun e hm hn => ?_, ?_, errors_le_tolerated events hf.errors, ?_⟩
  · obtain ⟨i, m, rfl⟩ := he e hm
    simp at hn
  · rw [sent_add_remaining_apply fun e hm hn => ?_]
    · exact hf.books
    · obtain ⟨i, m, rfl⟩ := he e hm
      simp at hn
  · rw [length_apply he]
    exact hf.length_lt

/-- Nobody is counted as active if no chain is present. -/
theorem Sampled.active_eq_zero_iff (hf : f.Sampled expected) :
    f.counters.active = 0 ↔ ∀ c ∈ f.chains, c.presence = 0 := by
  rw [hf.orderly.attended.active_eq hf.length_lt, Nat.add_zero]
  constructor
  · intro h c hc
    obtain ⟨i, hi⟩ := List.mem_iff_getElem?.1 hc
    exact Nat.le_zero.1 (h ▸ le_total Chain.presence hi)
  · exact total_eq_zero

end Fleet

/-! ## Before the launch -/

/-- Whether a move prepares a chain for its launch, or keeps it from it. -/
def Move.prepares : Move → Bool
  | start _ | probe | probeRetransmit | probeResolve _ | mark | tearDown => true
  | _ => false

/-- Whether an event prepares a run in which clients stop on failure, or do not. -/
def Event.prepares (stopOnFailure : Bool) : Event → Bool
  | .build _ s => s == stopOnFailure
  | .move _ m => m.prepares
  | .consume | .enter => false

/-- The clients of a run just before their launch. -/
structure Fleet.Ready (s : Sizing) (f : Fleet) : Prop where
  prepared : ∃ events : List Event, (∀ e ∈ events, e.prepares s.stopOnFailure = true) ∧
    f = (Fleet.create s.total []).apply events
  length_eq : f.chains.length = s.clients.toNat

/-- A chain that was prepared. -/
structure Chain.Prepared (stopOnFailure : Bool) (c : Chain) : Prop where
  stopOnFailure_eq : c.stopOnFailure = stopOnFailure
  task : c.task = .none

theorem Move.Effect.prepared {m : Move} {c c' : Chain} {n n' : Counters} {stopOnFailure : Bool}
    (h : m.Effect c n c' n') (hm : m.prepares = true) (hc : c.Prepared stopOnFailure) :
    c'.Prepared stopOnFailure := by
  refine ⟨h.stopOnFailure_eq.trans hc.stopOnFailure_eq, ?_⟩
  have htask := hc.task
  cases h with
  | marked => rw [c.task_mark, htask]
  | told => simp [Chain.isBusy, htask]
  | launched | began | unpaid | paid | died | left => simp [prepares] at hm
  | _ => exact htask

namespace Fleet.Ready

variable {s : Sizing} {f : Fleet}

theorem figures (h : f.Ready s) : f.counters.figures = (s.total, 0, 0) := by
  obtain ⟨events, he, rfl⟩ := h.prepared
  refine apply_induction (P := fun g => g.counters.figures = (s.total, 0, 0)) ?_ he rfl
  intro g e he hg
  cases e with
  | build => exact hg
  | move i m =>
    rw [figures_step, hg]
    cases m <;> first | rfl | exact absurd he (by simp [Event.prepares, Move.prepares])
  | consume | enter => simp [Event.prepares] at he

theorem prepared_chains (h : f.Ready s) : ∀ c ∈ f.chains, c.Prepared s.stopOnFailure := by
  obtain ⟨events, he, rfl⟩ := h.prepared
  refine apply_induction (P := fun g => ∀ c ∈ g.chains, c.Prepared s.stopOnFailure) ?_ he
    (fun c hc => absurd hc List.not_mem_nil)
  intro g e he hg
  cases e with
  | build id stopOnFailure =>
    intro c hc
    rcases List.mem_append.1 hc with hc | hc
    · exact hg c hc
    · rw [List.mem_singleton.1 hc]
      exact ⟨beq_iff_eq.1 he, rfl⟩
  | move i m => exact forall_step (fun hm => hm.prepared he) hg i
  | consume | enter => simp [Event.prepares] at he

theorem sampled (h : f.Ready s) : f.Sampled s.total := by
  obtain ⟨events, he, hf⟩ := h.prepared
  have hne : ∀ e ∈ events, e ≠ .consume ∧ e ≠ .enter := by
    refine fun e hm => ⟨?_, ?_⟩ <;>
    · rintro rfl
      simpa [Event.prepares] using he _ hm
  refine ⟨?_, ?_, ?_, ?_⟩
  · rw [hf]
    exact (orderly_create _).apply fun e hm => (hne e hm).2
  · rw [hf, sent_add_remaining_apply fun e hm => (hne e hm).1]
    exact Nat.zero_add _
  · rw [hf]
    exact errors_le_tolerated events (Nat.zero_le _)
  · rw [h.length_eq]
    exact Nat.lt_trans s.clients.toNat_lt (by decide)

end Fleet.Ready

end LoadHarness
