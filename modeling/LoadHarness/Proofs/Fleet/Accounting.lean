import LoadHarness.Proofs.Chain.Effect
import LoadHarness.Proofs.Fleet.Frame

/-!
# The books of a fleet

Whatever happens to a fleet on whose budget nobody else draws, what its chains accounted for and
what is left of the budget make up the budget (`sent_add_remaining_apply`), its errors are the
failures that were paid for (`errors_apply`), and its retransmissions those that somebody noticed
(`retransmissions_apply`). What is counted is said of the events themselves: `tally` counts
the events of a kind, each in the state in which it happens.

No error is counted for a chain that stops on failure : the errors are at most what the other
chains accounted for (`errors_le_tolerated`).
-/

namespace LoadHarness

/-! ## One move -/

namespace Chain

/-- What the chain accounted for, if it tolerates failures. -/
def tolerated (c : Chain) : Nat := if c.stopOnFailure then 0 else c.sent

theorem tolerated_le_sent (c : Chain) : c.tolerated ≤ c.sent := by
  unfold tolerated
  split
  · exact Nat.zero_le _
  · exact Nat.le_refl _

end Chain

namespace Move

/-- Whether a move belongs to a probe. -/
def isProbe : Move → Bool
  | probe | probeRetransmit | probeResolve _ => true
  | _ => false

/-- Whether a move is the outcome of an exchange. -/
def isOutcome : Move → Bool
  | resolve _ => true
  | _ => false

/-- Whether a move is a failed exchange of a chain that tolerates failures. -/
def isTolerated (c : Chain) : Move → Bool
  | resolve outcome => !outcome.isSuccess && !c.stopOnFailure
  | _ => false

namespace Effect

variable {m : Move} {c c' : Chain} {n n' : Counters}

theorem stopOnFailure_eq (h : m.Effect c n c' n') : c'.stopOnFailure = c.stopOnFailure := by
  cases h with
  | paid => exact Chain.stopOnFailure_charged _ c
  | marked => exact c.stopOnFailure_mark
  | left => exact c.stopOnFailure_mark
  | _ => rfl

theorem sent_add_remaining (h : m.Effect c n c' n') :
    c'.sent + n'.remaining = c.sent + n.remaining := by
  cases h with
  | paid _ _ hn =>
    rw [Chain.sent_charged, hn]
    simp only [Chain.chargedCounters]
    omega
  | marked => rw [c.sent_mark]
  | left => simp only [c.sent_mark]
  | counted => rw [n.remaining_clientStopped]
  | _ => rfl

theorem remaining_le (h : m.Effect c n c' n') : n'.remaining ≤ n.remaining := by
  cases h with
  | paid _ _ hn => rw [hn]; exact Nat.le_succ _
  | counted => exact Nat.le_of_eq n.remaining_clientStopped
  | _ => exact Nat.le_refl _

/-- Only outcomes take from the budget. -/
theorem remaining_eq (h : m.Effect c n c' n') (hm : m.isOutcome = false) :
    n'.remaining = n.remaining := by
  cases h with
  | paid => simp [isOutcome] at hm
  | counted => exact n.remaining_clientStopped
  | _ => rfl

/-- An error is counted when a tolerated failure takes a unit of the budget, and only then. -/
theorem errors_eq (h : m.Effect c n c' n') :
    n'.errors
      = n.errors + (m.isTolerated c && decide (n'.remaining < n.remaining)).toNat := by
  cases h with
  | @paid outcome _ _ left _ hp hn =>
    have hl : left < n.remaining := by omega
    have ht : (!outcome.isSuccess) = (resolve outcome).isTolerated c := by
      unfold Chain.pays at hp
      cases ho : outcome.isSuccess <;> simp_all [isTolerated]
    simp [Chain.chargedCounters, hl, ht]
  | counted => simp
  | _ => simp [Counters.clientStarted, Counters.recordRetransmission]

/-- No chain that stops on failure adds to the errors. -/
theorem errors_le (h : m.Effect c n c' n') :
    n'.errors + c.tolerated ≤ n.errors + c'.tolerated := by
  have hs := h.stopOnFailure_eq
  have he := h.errors_eq
  have hb := h.sent_add_remaining
  have hr := h.remaining_le
  unfold Chain.tolerated
  rw [hs]
  cases hf : c.stopOnFailure with
  | true =>
    have ht : m.isTolerated c = false := by cases m <;> simp [isTolerated, hf]
    simp [he, ht]
  | false =>
    have := Bool.toNat_le (m.isTolerated c && decide (n'.remaining < n.remaining))
    simp only [Bool.false_eq_true, if_false]
    by_cases hlt : n'.remaining < n.remaining
    · omega
    · simp only [hlt, decide_false, Bool.and_false, Bool.toNat_false] at he
      omega

/-- A retransmission is counted when it is one of an exchange in flight, and only then. -/
theorem retransmissions_eq (h : m.Effect c n c' n') :
    n'.retransmissions
      = n.retransmissions + (decide (m = .retransmit) && c.isWaiting).toNat := by
  cases h with
  | idle hm => cases m <;> simp_all [applies]
  | retransmitted hw => simp [Counters.recordRetransmission, hw]
  | counted => simp
  | _ => simp [Counters.clientStarted, Chain.chargedCounters]

theorem of_isProbe (h : m.Effect c n c' n') (hm : m.isProbe = true) :
    n' = n ∧ c'.sent = c.sent := by
  cases h with
  | idle | probed => exact ⟨rfl, rfl⟩
  | _ => simp [isProbe] at hm

end Effect

end Move

/-! ## One event -/

namespace Fleet

variable (f : Fleet)

/-- A retransmission of a benchmark exchange in flight. -/
def isNotice : Event → Bool
  | .move i .retransmit => f.isWaiting i
  | _ => false

/-- A failed exchange of a chain that tolerates failures, if it takes a unit of the budget. -/
def isPaidFailure : Event → Bool
  | .move i (.resolve outcome) =>
    !outcome.isSuccess && f.ask i false (!·.stopOnFailure)
      && decide ((f.step (.move i (.resolve outcome))).counters.remaining < f.counters.remaining)
  | _ => false

/-- How many events are of a kind, each in the state in which it happens. -/
def tally (kind : Fleet → Event → Bool) : Fleet → List Event → Nat
  | _, [] => 0
  | f, e :: events => (kind f e).toNat + tally kind (f.step e) events

/-- What chains that tolerate failures accounted for. -/
def tolerated : Nat := f.total Chain.tolerated

variable {f} {e : Event} {i : Nat} {c : Chain}

theorem ask_of_some {α : Type} (hc : f.chains[i]? = some c) (default : α)
    (question : Chain → α) : f.ask i default question = question c := by
  simp [ask, hc]

theorem ask_of_none {α : Type} (hc : f.chains[i]? = none) (default : α)
    (question : Chain → α) : f.ask i default question = default := by
  simp [ask, hc]

theorem sent_add_remaining_step (he : e ≠ .consume) :
    (f.step e).sent + (f.step e).counters.remaining = f.sent + f.counters.remaining := by
  change (f.step e).total Chain.sent + _ = f.total Chain.sent + _
  cases e with
  | build id stopOnFailure => rw [total_build]; rfl
  | move i m =>
    cases hc : f.chains[i]? with
    | none => rw [step, act_of_none hc]
    | some c =>
      have ht := total_act (g := m.run) Chain.sent hc
      have hm := (m.effect_run c f.counters).sent_add_remaining
      rw [step, counters_act hc]
      omega
  | consume => exact absurd rfl he
  | enter => rfl

theorem remaining_step_le (f : Fleet) (e : Event) :
    (f.step e).counters.remaining ≤ f.counters.remaining := by
  cases e with
  | build => exact Nat.le_refl _
  | move i m =>
    cases hc : f.chains[i]? with
    | none => simp only [step, act_of_none hc, Nat.le_refl]
    | some c =>
      rw [step, counters_act hc]
      exact (m.effect_run c f.counters).remaining_le
  | consume =>
    rw [step, Counters.remaining_consume]
    exact Nat.sub_le _ _
  | enter => exact Nat.le_refl _

theorem errors_step (f : Fleet) (e : Event) :
    (f.step e).counters.errors = f.counters.errors + (f.isPaidFailure e).toNat := by
  cases e with
  | build => rfl
  | move i m =>
    cases hc : f.chains[i]? with
    | none =>
      have hf : f.isPaidFailure (.move i m) = false := by
        cases m <;> simp [isPaidFailure, step, act_of_none hc]
      rw [step, act_of_none hc, hf]
      rfl
    | some c =>
      rw [step, counters_act hc, (m.effect_run c f.counters).errors_eq]
      cases m <;>
        simp [isPaidFailure, Move.isTolerated, step, counters_act hc, ask_of_some hc]
  | consume =>
    simp only [step, Counters.consume, isPaidFailure]
    split <;> rfl
  | enter => rfl

theorem retransmissions_step (f : Fleet) (e : Event) :
    (f.step e).counters.retransmissions
      = f.counters.retransmissions + (f.isNotice e).toNat := by
  cases e with
  | build => rfl
  | move i m =>
    cases hc : f.chains[i]? with
    | none =>
      have hf : f.isNotice (.move i m) = false := by
        cases m <;> simp [isNotice, isWaiting, ask, hc]
      rw [step, act_of_none hc, hf]
      rfl
    | some c =>
      rw [step, counters_act hc, (m.effect_run c f.counters).retransmissions_eq]
      cases m <;> simp [isNotice, isWaiting, ask_of_some hc]
  | consume =>
    simp only [step, Counters.consume, isNotice]
    split <;> rfl
  | enter => rfl

theorem errors_le_tolerated_step (h : f.counters.errors ≤ f.tolerated) :
    (f.step e).counters.errors ≤ (f.step e).tolerated := by
  unfold tolerated at *
  cases e with
  | build id stopOnFailure =>
    rw [total_build]
    exact Nat.le_add_right_of_le h
  | move i m =>
    cases hc : f.chains[i]? with
    | none => rwa [step, act_of_none hc]
    | some c =>
      have ht := total_act (g := m.run) Chain.tolerated hc
      have hm := (m.effect_run c f.counters).errors_le
      rw [step, counters_act hc]
      omega
  | consume =>
    have he := f.errors_step .consume
    simp only [isPaidFailure, Bool.toNat_false, Nat.add_zero] at he
    rw [he]
    exact h
  | enter => exact h

/-- No step of a probe counts for anything. -/
theorem step_of_isProbe {m : Move} (hm : m.isProbe = true) :
    (f.step (.move i m)).counters = f.counters ∧
      (f.step (.move i m)).chains.map Chain.sent = f.chains.map Chain.sent := by
  refine ⟨?_, map_act fun c _ => ((m.effect_run c f.counters).of_isProbe hm).2⟩
  cases hc : f.chains[i]? with
  | none => rw [step, act_of_none hc]
  | some c =>
    rw [step, counters_act hc]
    exact ((m.effect_run c f.counters).of_isProbe hm).1

/-! ## All events -/

theorem sent_add_remaining_apply {events : List Event} (h : ∀ e ∈ events, e ≠ .consume) :
    (f.apply events).sent + (f.apply events).counters.remaining
      = f.sent + f.counters.remaining :=
  apply_induction (P := fun g => g.sent + g.counters.remaining = f.sent + f.counters.remaining)
    (fun _ _ he hg => (sent_add_remaining_step he).trans hg) h rfl

theorem remaining_apply_le (f : Fleet) (events : List Event) :
    (f.apply events).counters.remaining ≤ f.counters.remaining :=
  apply_induction (P := fun g => g.counters.remaining ≤ f.counters.remaining)
    (Q := fun _ => True) (fun g e _ hg => Nat.le_trans (g.remaining_step_le e) hg)
    (fun _ _ => trivial) (Nat.le_refl _)

/-- No move but an outcome takes from the budget. -/
theorem remaining_apply_eq {events : List Event}
    (h : ∀ e ∈ events, ∃ i m, e = .move i m ∧ m.isOutcome = false) :
    (f.apply events).counters.remaining = f.counters.remaining := by
  refine apply_induction (P := fun g => g.counters.remaining = f.counters.remaining) ?_ h rfl
  rintro g e ⟨i, m, rfl, hm⟩ hg
  rw [← hg]
  cases hc : g.chains[i]? with
  | none => rw [step, act_of_none hc]
  | some c =>
    rw [step, counters_act hc]
    exact (m.effect_run c g.counters).remaining_eq hm

theorem errors_apply (f : Fleet) (events : List Event) :
    (f.apply events).counters.errors = f.counters.errors + f.tally isPaidFailure events := by
  induction events generalizing f with
  | nil => rfl
  | cons e events ih =>
    rw [apply_cons, ih, errors_step, tally]
    omega

theorem retransmissions_apply (f : Fleet) (events : List Event) :
    (f.apply events).counters.retransmissions
      = f.counters.retransmissions + f.tally isNotice events := by
  induction events generalizing f with
  | nil => rfl
  | cons e events ih =>
    rw [apply_cons, ih, retransmissions_step, tally]
    omega

theorem errors_le_tolerated (events : List Event) (h : f.counters.errors ≤ f.tolerated) :
    (f.apply events).counters.errors ≤ (f.apply events).tolerated :=
  apply_induction (P := fun g => g.counters.errors ≤ g.tolerated) (Q := fun _ => True)
    (fun _ _ _ hg => errors_le_tolerated_step hg) (fun _ _ => trivial) h

theorem tolerated_le_sent (f : Fleet) : f.tolerated ≤ f.sent :=
  f.total_le_total fun c _ => c.tolerated_le_sent

theorem tolerated_eq_zero (h : ∀ c ∈ f.chains, c.stopOnFailure = true) : f.tolerated = 0 :=
  total_eq_zero fun c hc => by simp [Chain.tolerated, h c hc]

theorem sent_create (budget : Nat) (crew : List (ClientId × Bool)) :
    (create budget (crew.map fun p => .create p.1 p.2)).sent = 0 := by
  refine total_eq_zero (w := Chain.sent) fun c hc => ?_
  obtain ⟨p, -, rfl⟩ := List.mem_map.1 hc
  rfl

/-- The books of chains that share a budget on which nobody else draws, after whatever happened
to them in whatever order. What is said of prefixes says that the budget never grows back, and
what is said of `Move.isProbe` that no step of any probe counts for anything. -/
theorem books_balance (budget : Nat) (crew : List (ClientId × Bool)) (events : List Event)
    (h : ∀ e ∈ events, e ≠ .consume) :
    let origin := create budget (crew.map fun p => .create p.1 p.2)
    let f := origin.apply events
    f.sent + f.counters.remaining = budget ∧
      (∀ k, f.counters.remaining ≤ (origin.apply (events.take k)).counters.remaining) ∧
      f.counters.errors = origin.tally isPaidFailure events ∧
      f.counters.errors ≤ f.sent ∧
      ((∀ c ∈ f.chains, c.stopOnFailure = true) → f.counters.errors = 0) ∧
      f.counters.retransmissions = origin.tally isNotice events ∧
      ∀ i m, m.isProbe = true →
        (f.step (.move i m)).counters = f.counters ∧
          (f.step (.move i m)).chains.map Chain.sent = f.chains.map Chain.sent := by
  intro origin f
  have hsent : origin.sent = 0 := sent_create budget crew
  have hold : f.counters.errors ≤ f.tolerated := errors_le_tolerated events (Nat.zero_le _)
  refine ⟨?_, fun k => ?_, ?_, Nat.le_trans hold f.tolerated_le_sent, fun hs => ?_, ?_,
    fun i m hm => ?_⟩
  · have := sent_add_remaining_apply (f := origin) h
    rw [hsent, Nat.zero_add] at this
    exact this
  · have hk := (origin.apply (events.take k)).remaining_apply_le (events.drop k)
    rwa [← apply_append, List.take_append_drop] at hk
  · exact (origin.errors_apply events).trans (Nat.zero_add _)
  · rw [tolerated_eq_zero hs] at hold
    exact Nat.le_zero.1 hold
  · exact (origin.retransmissions_apply events).trans (Nat.zero_add _)
  · exact step_of_isProbe hm

/-- Two chains of which one tolerates failures, a retransmission, a failure of each, and a probe
of a third one that retransmits. -/
def mixedEvents : List Event :=
  [.build ⟨2⟩ true, .move 0 (.start none), .move 1 (.start none), .move 2 (.start none),
    .move 0 .launch, .move 1 .launch, .move 0 .first, .move 1 .first, .move 0 .retransmit,
    .move 2 .probe, .move 2 .probeRetransmit, .move 0 (.resolve .noResponse),
    .move 1 (.resolve .noResponse), .move 2 (.probeResolve .noResponse), .move 0 .die,
    .move 0 .mark, .move 0 .tearDown]

theorem books_balance_mixedEvents :
    let origin := create 3 [.create ⟨0⟩ false, .create ⟨1⟩ true]
    let f := origin.apply mixedEvents
    (∀ e ∈ mixedEvents, e ≠ .consume) ∧ f.sent + f.counters.remaining = 3 ∧
      f.counters.errors = 1 ∧ f.counters.errors ≤ f.sent ∧ f.counters.retransmissions = 1 ∧
      (f.step (.move 2 .probe)).counters = f.counters := by
  have h : ∀ e ∈ mixedEvents, e ≠ .consume := by decide
  obtain ⟨hb, -, he, hs, -, hr, hp⟩ := books_balance 3 [(⟨0⟩, false), (⟨1⟩, true)] mixedEvents h
  exact ⟨h, hb, he.trans (by decide), hs, hr.trans (by decide), (hp 2 .probe rfl).1⟩

end Fleet

end LoadHarness
