import LoadHarness.Proofs.Chain.Passage

/-!
# Chains that are silent for good

A stop tells the task of a chain to end before it does anything else, so once that is done the task
is over (`Chain.Heeds`), whether it waited for an exchange, was about to leave, or had not begun at
all. A chain of which nothing is left, and whose task is over, is silent (`Chain.Silent`) : no move
finds anything to do (`Chain.Silent.run_eq`), whoever makes it.

A task that is launched and has not begun is told to end like any other. Until it makes its first
move it calls for no exchange (`Chain.Unbegun`), and once it was told there is no such move any more
(`Chain.Barren`), so that it never does if a stop comes first.
-/

namespace LoadHarness

/-! ## Moves that find nothing to do -/

namespace Move

variable {m : Move} {c : Chain}

theorem run_of_not_applies (h : m.applies c = false) (n : Counters) : m.run (c, n) = (c, n) := by
  have he := m.effect_run c n
  generalize m.run (c, n) = s at he
  obtain ⟨c', n'⟩ := s
  cases he with
  | idle => rfl
  | _ => simp_all [applies]

end Move

/-! ## Tasks that are told to end -/

namespace Chain

variable {c : Chain}

/-- The task of a stopped chain is over once it was told to end. -/
def Heeds (c : Chain) : Prop :=
  c.stage = .stopped → .shutdown ∉ c.teardown → c.isBusy = false

/-- A chain of which nothing is left, and whose task is over. -/
structure Silent (c : Chain) : Prop where
  gone : c.Gone
  ended : c.isBusy = false

theorem heeds_create (id : ClientId) (stopOnFailure : Bool) : (create id stopOnFailure).Heeds :=
  fun _ _ => rfl

theorem Gone.silent (h : c.Gone) (hc : c.Heeds) : c.Silent :=
  ⟨h, hc h.stopped (by simp [h.done])⟩

/-- A chain whose task goes on has not been told to end. -/
theorem Heeds.of_isBusy {c' : Chain} (h : c.Heeds) (hb : c.isBusy = true)
    (hs : c'.stage = c.stage) (ht : c'.teardown = c.teardown) : c'.Heeds := by
  intro hstopped htold
  have hover := h (hs ▸ hstopped) (ht ▸ htold)
  simp [hb] at hover

/-- One step of the teardown is done, and it does not concern the task. -/
theorem Heeds.of_step {c' : Chain} {step : Teardown} {steps : List Teardown} (h : c.Heeds)
    (ht : c.teardown = step :: steps) (hstep : step ≠ .shutdown) (hs : c'.stage = c.stage)
    (ht' : c'.teardown = steps) (htask : c'.task = c.task) : c'.Heeds := by
  intro hstopped htold
  have hover := h (hs ▸ hstopped) (by simpa [ht, hstep.symm] using ht' ▸ htold)
  rwa [isBusy, htask]

theorem isBusy_eq_false_iff :
    c.isBusy = false ↔ c.task ≠ .ready ∧ c.isWaiting = false ∧ c.task ≠ .leaving := by
  simp [isBusy, isWaiting, and_assoc]

theorem isBusy_of_isWaiting (hw : c.isWaiting = true) : c.isBusy = true := by
  simp [isBusy, beq_iff_eq.1 hw]

theorem Silent.not_applies (h : c.Silent) (m : Move) : m.applies c = false := by
  obtain ⟨⟨hstage, hdone⟩, hover⟩ := h
  unfold isBusy at hover
  cases m <;> simp_all [Move.applies, isWaiting]

/-- No move changes a silent chain, or the counters in its name. -/
theorem Silent.run_eq (h : c.Silent) (m : Move) (n : Counters) : m.run (c, n) = (c, n) :=
  Move.run_of_not_applies (h.not_applies m) n

/-! ## Tasks that have not begun -/

/-- The chain `c` has a task that has not begun, or was told to end before it did : it called for
no exchange, and accounted for nothing, beyond what the chain `d` had. -/
structure Unbegun (d c : Chain) : Prop where
  launched : Stage.running.rank ≤ c.stage.rank
  task : c.task = .ready ∨ c.task = .ended
  exchanges : c.calls.exchanges = d.calls.exchanges
  sent : c.sent = d.sent

/-- The chain `c` is stopped and has no task any more : it called for no exchange, and accounted for
nothing, beyond what the chain `d` had. -/
structure Barren (d c : Chain) : Prop where
  stopped : c.stage = .stopped
  ended : c.isBusy = false
  exchanges : c.calls.exchanges = d.calls.exchanges
  sent : c.sent = d.sent

theorem Unbegun.barren {d : Chain} (h : Unbegun d c) (hc : c.Heeds) (hs : c.stage = .stopped)
    (htold : .shutdown ∉ c.teardown) : Barren d c :=
  ⟨hs, hc hs htold, h.exchanges, h.sent⟩

theorem unbegun_launch {d : Chain} (n : Counters) (hs : d.stage = .started) :
    Unbegun d (Move.launch.run (d, n)).1 := by
  simp only [Move.run, launch, hs, if_true]
  exact ⟨Nat.le_refl _, .inl rfl, rfl, rfl⟩

theorem Unbegun.of_eq {d c' : Chain} (h : Unbegun d c) (hs : c.stage.rank ≤ c'.stage.rank)
    (ht : c'.task = c.task ∨ c'.task = .ended) (hc : c'.calls.exchanges = c.calls.exchanges)
    (hsent : c'.sent = c.sent) : Unbegun d c' := by
  refine ⟨Nat.le_trans h.launched hs, ?_, hc.trans h.exchanges, hsent.trans h.sent⟩
  rcases ht with ht | ht
  · rw [ht]
    exact h.task
  · exact .inr ht

end Chain

namespace Move.Effect

variable {m : Move} {c c' d : Chain} {n n' : Counters}

theorem heeds (h : m.Effect c n c' n') (hc : c.Heeds) : c'.Heeds := by
  cases h with
  | idle | retransmitted => exact hc
  | refused hs | probed hs => exact fun hn => absurd (hs.symm.trans hn) (by decide)
  | bound | launched => exact fun hn => nomatch hn
  | began ht => exact hc.of_isBusy (by simp [Chain.isBusy, ht]) rfl rfl
  | unpaid hw => exact hc.of_isBusy (Chain.isBusy_of_isWaiting hw) rfl rfl
  | paid hw =>
    exact hc.of_isBusy (Chain.isBusy_of_isWaiting hw) (Chain.stage_charged _ c)
      (Chain.teardown_charged _ c)
  | died | left => exact fun _ _ => rfl
  | marked hs =>
    intro _ htold
    simp [Chain.mark, hs, Teardown.steps] at htold
  | told =>
    intro _ _
    cases hb : c.isBusy with
    | true => rfl
    | false => simpa [Chain.isBusy] using hb
  | unbound ht | destroyed ht | counted ht => exact hc.of_step ht (by decide) rfl rfl rfl

/-- Nothing but its first move lets a launched task call for an exchange. -/
theorem unbegun (h : m.Effect c n c' n') (hm : m ≠ .first) (hc : Chain.Unbegun d c) :
    Chain.Unbegun d c' := by
  have hrank := h.rank_le
  have hlate := hc.launched
  have hidle : c.isWaiting = false ∧ c.task ≠ .leaving := by
    rcases hc.task with ht | ht <;> simp [Chain.isWaiting, ht]
  cases h with
  | idle | retransmitted => exact hc
  | refused hs | bound hs | probed hs | launched hs =>
    rw [hs] at hlate
    exact absurd hlate (by decide)
  | began => exact absurd rfl hm
  | unpaid hw | paid hw | died hw => simp [hidle.1] at hw
  | marked =>
    exact hc.of_eq hrank (.inl c.task_mark) (by rw [c.calls_mark]) c.sent_mark
  | left ht => exact absurd ht hidle.2
  | told =>
    refine hc.of_eq hrank ?_ rfl rfl
    cases hb : c.isBusy with
    | true => exact .inr rfl
    | false => exact .inl rfl
  | unbound | destroyed | counted => exact hc.of_eq hrank (.inl rfl) rfl rfl

/-- Without a task, nothing lets a stopped chain call for an exchange. -/
theorem barren (h : m.Effect c n c' n') (hc : Chain.Barren d c) : Chain.Barren d c' := by
  obtain ⟨hstopped, hended, hexchanges, hsent⟩ := hc
  obtain ⟨hready, hwaiting, hleaving⟩ := Chain.isBusy_eq_false_iff.1 hended
  cases h with
  | idle | retransmitted => exact ⟨hstopped, hended, hexchanges, hsent⟩
  | refused hs | bound hs | probed hs | launched hs => simp [hs] at hstopped
  | marked hs => exact absurd hstopped hs
  | began ht => exact absurd ht hready
  | unpaid hw | paid hw | died hw => simp [hwaiting] at hw
  | left ht => exact absurd ht hleaving
  | told =>
    rw [hended]
    exact ⟨hstopped, hended, hexchanges, hsent⟩
  | unbound | destroyed | counted => exact ⟨hstopped, hended, hexchanges, hsent⟩

end Move.Effect

end LoadHarness
