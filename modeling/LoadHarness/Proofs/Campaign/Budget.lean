import LoadHarness.Proofs.Campaign.Change
import LoadHarness.Proofs.Counters.Drain

/-!
# The budget of a run and the wake-up

The manager waits for the budget as any other waiter does (`Campaign.drain`), so no wake-up is lost
to it (`Campaign.sound_apply`). A watch that has finished has found the budget spent, and an interval
that is over before the wake-up leaves some of the budget, or the last unit has just been taken.
-/

namespace LoadHarness

namespace Drain

variable {budget : Nat} {d : Drain} {n : Counters} {ws : List Waiter}

/-- Somebody else waits. -/
theorem Sound.with_waiters (h : d.Sound budget)
    (hws : ∀ w ∈ ws, w.Sound budget d.counters.remaining d.wakes) :
    Sound budget { d with waiters := ws } :=
  ⟨h.remaining_le, h.signals, hws⟩

/-- Something is taken from the budget, and whoever takes the last unit owes a wake-up. -/
theorem Sound.charge (h : d.Sound budget) (hn : n.remaining ≤ d.counters.remaining) :
    Sound budget
      { d with counters := n, owed := d.owed + (n.isDrained && !d.counters.isDrained).toNat } := by
  refine ⟨Nat.le_trans hn h.remaining_le, ?_, fun w hw => (h.waiters w hw).mono hn (Nat.le_refl _)⟩
  have hs := h.signals
  have hle := h.remaining_le
  dsimp only
  by_cases hzero : d.counters.remaining = 0
  · have hnzero : n.remaining = 0 := by omega
    simpa [Counters.isDrained, hzero, hnzero] using hs
  · rw [if_neg (by omega)] at hs
    by_cases hnzero : n.remaining = 0
    · have hn : n.isDrained = true := by simpa [Counters.isDrained] using hnzero
      have hd : d.counters.isDrained = false := by simpa [Counters.isDrained] using hzero
      rw [if_pos ⟨hnzero, by omega⟩, hn, hd, Bool.not_false, Bool.and_self, Bool.toNat_true]
      omega
    · rw [if_neg (by omega)]
      simpa [Counters.isDrained, hnzero] using hs

end Drain

namespace Campaign

variable {p : Plan} {c c' : Campaign} {s : Step} {budget : Nat}

/-- Who waits for the budget to be spent. -/
def waiters (c : Campaign) : List Waiter :=
  match c.phase with
  | .waiting _ w => [w]
  | _ => []

/-- The budget with who waits for it. -/
def drain (c : Campaign) : Drain := ⟨c.fleet.counters, c.wakes, c.owed, c.waiters⟩

theorem sound_turnTo {phase : Phase} (h : c.drain.Sound budget)
    (hw : ∀ w ∈ (c.turnTo phase).waiters, w.Sound budget c.fleet.counters.remaining c.wakes) :
    (c.turnTo phase).drain.Sound budget :=
  h.with_waiters hw

theorem sound_await (h : c.drain.Sound budget) : (c.await p).drain.Sound budget := by
  refine sound_turnTo h fun w hw => ?_
  rw [List.mem_singleton.1 hw]
  trivial

theorem sound_happen {i : Nat} {m : Move} (h : c.drain.Sound budget) :
    (c.happen (.move i m)).drain.Sound budget :=
  h.charge (c.fleet.remaining_step_le (.move i m))

theorem Change.sound (h : Change p c s c') (hc : c.drain.Sound budget) :
    c'.drain.Sound budget := by
  cases h with
  | idle | unready | rested | passed => exact hc
  | moved => exact sound_happen hc
  | woken ho =>
    have hwake := hc.wake
    rwa [Drain.wake_of_succ (d := c.drain) ho] at hwake
  | launched | skipped | marked =>
    exact sound_turnTo (sound_happen hc) fun w hw => absurd hw List.not_mem_nil
  | toreDown => exact sound_happen hc
  | remembered | shown => exact sound_await hc
  | polled hp =>
    refine sound_turnTo hc fun w' hw' => ?_
    obtain rfl := List.mem_singleton.1 hw'
    refine (hc.waiters _ ?_).step hc.remaining_le hc.wakes_eq_zero
    simp [drain, waiters, hp]
  | _ => exact hc.with_waiters fun w hw => absurd hw List.not_mem_nil

theorem sound_start {f : Fleet} (p : Plan) (h : f.Ready p.sizing) (now : Nat) :
    (start p f now).drain.Sound p.sizing.total := by
  have hleft : f.counters.remaining = p.sizing.total := congrArg Prod.fst h.figures
  refine ⟨Nat.le_of_eq hleft, ?_, fun w hw => absurd hw List.not_mem_nil⟩
  have hspent : ¬(f.counters.remaining = 0 ∧ 0 < p.sizing.total) := by omega
  exact (if_neg hspent).symm

theorem sound_apply {f : Fleet} (h : f.Ready p.sizing) (now : Nat) (steps : List Step) :
    ((start p f now).apply p steps).drain.Sound p.sizing.total :=
  apply_induction (P := fun c => c.drain.Sound p.sizing.total) Change.sound steps
    (sound_start p h now)

/-! ## What the end of a watch says of the budget -/

/-- A waiter that was released has found the budget spent. -/
theorem remaining_of_released {due : Nat} (h : c.drain.Sound budget)
    (hp : c.phase = .waiting due .released) : c.fleet.counters.remaining = 0 := by
  have hw : Waiter.released ∈ c.drain.waiters := by simp [drain, waiters, hp]
  exact h.waiters _ hw

/-- An interval that is over before the wake-up leaves some of the budget, or the wake-up is
owed. -/
theorem remaining_of_blocked {due : Nat} {w : Waiter} (h : c.drain.Sound budget)
    (hp : c.phase = .waiting due w) (hw : w.isBlocked c.wakes = true) :
    0 < c.fleet.counters.remaining ∨ 0 < c.owed := by
  rcases Nat.eq_zero_or_pos c.fleet.counters.remaining with hr | hr
  · rcases Nat.eq_zero_or_pos c.owed with ho | ho
    · have hmem : w ∈ c.drain.waiters := by simp [drain, waiters, hp]
      have hawake : w.isBlocked c.wakes = false := h.not_isBlocked hr ho hmem
      exact absurd (hw.symm.trans hawake) (by simp)
    · exact .inr ho
  · exact .inl hr

end Campaign

end LoadHarness
