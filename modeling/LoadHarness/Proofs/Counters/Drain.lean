import LoadHarness.Counters.Drain

/-!
# No wake-up is lost

Consumers and waiters take their steps (`Drain.Step`) in whatever order. The consumers get every
unit of the budget once, the greatest number first, and nothing from then on (`Drain.units_eq`).
Only one of them takes the last unit, so that one wake-up is sent, and none before the budget is
spent (`Drain.Sound`).

A waiter that sleeps has read a budget that was not spent, so that it registered when no wake-up
had been sent (`Waiter.Sound`), and the one that is sent reaches it. Once the budget is spent and
the wake-up sent, no waiter is blocked, and each is released after three steps of its own at most,
whatever the others do (`Drain.Sound.released`).
-/

namespace LoadHarness

/-! ## One waiter -/

namespace Waiter

variable {budget remaining remaining' wakes wakes' : Nat} {w : Waiter}

/-- What is known of a waiter in a run that began with a budget. -/
def Sound (budget remaining wakes : Nat) : Waiter → Prop
  | arriving => True
  | registered seen => seen ≤ wakes
  | asleep seen => seen = 0 ∧ 0 < budget
  | released => remaining = 0

/-- How many steps of its own a waiter needs at most, when nothing is in its way. -/
def distance : Waiter → Nat
  | released => 0
  | registered _ => 1
  | arriving => 2
  | asleep _ => 3

theorem distance_le (w : Waiter) : w.distance ≤ 3 := by
  cases w <;> simp [distance]

theorem eq_released (h : w.distance = 0) : w = released := by
  cases w <;> simp_all [distance]

/-- Less budget and more wake-ups leave a waiter sound. -/
theorem Sound.mono (h : w.Sound budget remaining wakes) (hr : remaining' ≤ remaining)
    (hw : wakes ≤ wakes') : w.Sound budget remaining' wakes' := by
  cases w with
  | arriving => trivial
  | registered seen => exact Nat.le_trans h hw
  | asleep seen => exact h
  | released => exact Nat.le_zero.1 (h ▸ hr)

/-- A waiter falls asleep only on a budget that is not spent, and then no wake-up was sent. -/
theorem Sound.step (h : w.Sound budget remaining wakes) (hr : remaining ≤ budget)
    (hw : 0 < remaining → wakes = 0) :
    (w.step remaining wakes).Sound budget remaining wakes := by
  cases w with
  | arriving => exact Nat.le_refl wakes
  | registered seen =>
    have hs : seen ≤ wakes := h
    by_cases hzero : remaining = 0
    · rwa [Waiter.step, if_pos hzero]
    · rw [Waiter.step, if_neg hzero]
      have := hw (Nat.pos_of_ne_zero hzero)
      exact ⟨by omega, by omega⟩
  | asleep seen =>
    by_cases hseen : seen < wakes
    · rw [Waiter.step, if_pos hseen]
      trivial
    · rwa [Waiter.step, if_neg hseen]
  | released => exact h

end Waiter

namespace Drain

variable {budget : Nat} {d : Drain} {i : Nat} {w : Waiter}

/-! ## Steps -/

/-- One step of a consumer or a waiter. -/
inductive Step where
  | consume
  /-- The consumer that took the last unit sends its wake-up. -/
  | wake
  | join
  | proceed (i : Nat)
deriving DecidableEq, Repr

/-- What a step does. -/
def step (d : Drain) : Step → Drain
  | .consume => d.consume.1
  | .wake => d.wake
  | .join => d.join
  | .proceed i => d.proceed i

/-- What a list of steps does. -/
def apply (d : Drain) (steps : List Step) : Drain := steps.foldl step d

/-- What the consumers get, in order. -/
def units : Drain → List Step → List (Option Nat)
  | _, [] => []
  | d, .consume :: steps => d.consume.2 :: units d.consume.1 steps
  | d, s :: steps => units (d.step s) steps

@[simp] theorem apply_nil (d : Drain) : d.apply [] = d := rfl

@[simp] theorem apply_cons (d : Drain) (s : Step) (steps : List Step) :
    d.apply (s :: steps) = (d.step s).apply steps := rfl

theorem consume_of_spent (h : d.counters.remaining = 0) : d.consume = (d, none) := by
  simp [consume, Counters.consume_zero h]

theorem consume_of_one (h : d.counters.remaining = 1) :
    d.consume = ({ d with counters := { d.counters with remaining := 0 }, owed := d.owed + 1 },
      some 0) := by
  simp [consume, Counters.consume_succ h]

theorem consume_of_more {n : Nat} (h : d.counters.remaining = n + 2) :
    d.consume = ({ d with counters := { d.counters with remaining := n + 1 } },
      some (n + 1)) := by
  simp [consume, Counters.consume_succ h]

/-- A consumer gets the budget that it leaves, if there was any. -/
theorem consume_spec (d : Drain) :
    d.consume.1.counters.remaining = d.counters.remaining - 1 ∧
      d.consume.2 = if 0 < d.counters.remaining then some (d.counters.remaining - 1) else none := by
  rcases h : d.counters.remaining with _ | _ | n
  · simp [consume_of_spent h, h]
  · simp [consume_of_one h]
  · simp [consume_of_more h]

theorem wake_of_zero (h : d.owed = 0) : d.wake = d := by
  simp [wake, h]

theorem wake_of_succ {n : Nat} (h : d.owed = n + 1) :
    d.wake = { d with owed := n, wakes := d.wakes + 1 } := by
  simp [wake, h]

theorem counters_step {s : Step} (h : s ≠ .consume) : (d.step s).counters = d.counters := by
  cases s with
  | consume => exact absurd rfl h
  | wake =>
    change d.wake.counters = d.counters
    unfold wake
    split <;> rfl
  | join | proceed => rfl

/-! ## The units -/

/-- Each consumer gets one less than the one before it, down to zero, and all others nothing. -/
theorem units_eq (d : Drain) (steps : List Step) :
    d.units steps = (List.range (steps.count .consume)).map fun k =>
      if k < d.counters.remaining then some (d.counters.remaining - 1 - k) else none := by
  induction steps generalizing d with
  | nil => rfl
  | cons s steps ih =>
    by_cases hs : s = .consume
    · subst hs
      obtain ⟨hleft, hunit⟩ := d.consume_spec
      rw [units, ih, hunit, hleft, List.count_cons_self, List.range_succ_eq_map, List.map_cons,
        List.map_map]
      refine congrArg (_ :: ·) (List.map_congr_left fun k _ => ?_)
      dsimp only [Function.comp_apply]
      by_cases hk : k < d.counters.remaining - 1
      · rw [if_pos hk, if_pos (by omega)]
        exact congrArg some (by omega)
      · rw [if_neg hk, if_neg (by omega)]
    · have hunits : d.units (s :: steps) = (d.step s).units steps := by
        cases s <;> first | rfl | exact absurd rfl hs
      rw [hunits, ih, counters_step hs, List.count_cons_of_ne hs]

/-! ## The invariant -/

/-- What every run keeps that began with a budget. -/
structure Sound (budget : Nat) (d : Drain) : Prop where
  remaining_le : d.counters.remaining ≤ budget
  /-- There is one wake-up, sent or owed, if a unit was the last one. -/
  signals : d.owed + d.wakes = if d.counters.remaining = 0 ∧ 0 < budget then 1 else 0
  waiters : ∀ w ∈ d.waiters, w.Sound budget d.counters.remaining d.wakes

theorem sound_ofBudget (budget : Nat) : (ofBudget budget).Sound budget := by
  refine ⟨Nat.le_refl _, ?_, fun w hw => absurd hw (by simp [ofBudget])⟩
  have hspent : ¬(budget = 0 ∧ 0 < budget) := by omega
  exact (if_neg hspent).symm

theorem Sound.wakes_eq_zero (h : d.Sound budget) (hpos : 0 < d.counters.remaining) :
    d.wakes = 0 := by
  have hs := h.signals
  rw [if_neg (by omega)] at hs
  omega

theorem Sound.consume (h : d.Sound budget) : d.consume.1.Sound budget := by
  obtain ⟨hle, hs, hw⟩ := h
  rcases hr : d.counters.remaining with _ | _ | n
  · rw [consume_of_spent hr]
    exact ⟨hle, hs, hw⟩
  · rw [consume_of_one hr]
    rw [if_neg (by omega)] at hs
    refine ⟨Nat.zero_le _, ?_, fun w hm => (hw w hm).mono (Nat.zero_le _) (Nat.le_refl _)⟩
    rw [if_pos ⟨rfl, by omega⟩]
    simp only
    omega
  · rw [consume_of_more hr]
    rw [if_neg (by omega)] at hs
    refine ⟨by simp only; omega, ?_, fun w hm => (hw w hm).mono ?_ (Nat.le_refl _)⟩
    · rw [if_neg (by simp)]
      exact hs
    · simp only
      omega

theorem Sound.wake (h : d.Sound budget) : d.wake.Sound budget := by
  cases ho : d.owed with
  | zero => rwa [wake_of_zero ho]
  | succ n =>
    have hs := h.signals
    rw [wake_of_succ ho]
    refine ⟨h.remaining_le, ?_, fun w hm => (h.waiters w hm).mono (Nat.le_refl _) (Nat.le_succ _)⟩
    rw [← hs]
    simp only
    omega

theorem Sound.join (h : d.Sound budget) : d.join.Sound budget := by
  refine ⟨h.remaining_le, h.signals, fun w hm => ?_⟩
  rcases List.mem_append.1 hm with hm | hm
  · exact h.waiters w hm
  · rw [List.mem_singleton.1 hm]
    trivial

theorem Sound.proceed (h : d.Sound budget) (i : Nat) : (d.proceed i).Sound budget := by
  refine ⟨h.remaining_le, h.signals, fun w hm => ?_⟩
  obtain ⟨j, hj⟩ := List.mem_iff_getElem?.1 hm
  rw [Drain.proceed, List.getElem?_modify] at hj
  obtain ⟨v, hv, rfl⟩ := Option.map_eq_some_iff.1 hj
  have hsound := h.waiters v (List.mem_of_getElem? hv)
  split
  · exact hsound.step h.remaining_le h.wakes_eq_zero
  · exact hsound

theorem Sound.step (h : d.Sound budget) (s : Step) : (d.step s).Sound budget := by
  cases s with
  | consume => exact h.consume
  | wake => exact h.wake
  | join => exact h.join
  | proceed i => exact h.proceed i

theorem Sound.apply (h : d.Sound budget) (steps : List Step) : (d.apply steps).Sound budget := by
  induction steps generalizing d with
  | nil => exact h
  | cons s steps ih => exact ih (h.step s)

/-! ## When the budget is spent and the wake-up sent -/

/-- Whoever sleeps has a wake-up that it has not seen. -/
theorem Sound.not_isBlocked (h : d.Sound budget) (hr : d.counters.remaining = 0)
    (ho : d.owed = 0) (hw : w ∈ d.waiters) : w.isBlocked d.wakes = false := by
  have hsound := h.waiters w hw
  have hs := h.signals
  cases w with
  | asleep seen =>
    obtain ⟨rfl, hb⟩ := hsound
    rw [if_pos ⟨hr, hb⟩, ho] at hs
    simp [Waiter.isBlocked]
    omega
  | _ => rfl

theorem distance_step {wakes : Nat} (h : w.isBlocked wakes = false) :
    (w.step 0 wakes).distance = w.distance - 1 := by
  cases w with
  | asleep seen =>
    have : seen < wakes := by simpa [Waiter.isBlocked] using h
    simp [Waiter.step, this, Waiter.distance]
  | _ => rfl

/-- Only its own steps change a waiter then, and each brings it nearer to its release. -/
theorem Sound.getElem?_step (h : d.Sound budget) (hr : d.counters.remaining = 0)
    (ho : d.owed = 0) (hi : d.waiters[i]? = some w) (s : Step) :
    (d.step s).counters.remaining = 0 ∧ (d.step s).owed = 0 ∧
      ∃ w', (d.step s).waiters[i]? = some w' ∧
        w'.distance = w.distance - if s = .proceed i then 1 else 0 := by
  cases s with
  | consume =>
    rw [Drain.step, consume_of_spent hr]
    exact ⟨hr, ho, w, hi, rfl⟩
  | wake =>
    rw [Drain.step, wake_of_zero ho]
    exact ⟨hr, ho, w, hi, rfl⟩
  | join =>
    refine ⟨hr, ho, w, ?_, rfl⟩
    have hl := (List.getElem?_eq_some_iff.1 hi).1
    exact (List.getElem?_append_left hl).trans hi
  | proceed j =>
    refine ⟨hr, ho, ?_⟩
    change ∃ w', (d.waiters.modify j (Waiter.step d.counters.remaining d.wakes))[i]? = some w' ∧ _
    rw [List.getElem?_modify, hi, hr]
    by_cases hij : j = i
    · subst hij
      have hb := h.not_isBlocked hr ho (List.mem_of_getElem? hi)
      exact ⟨w.step 0 d.wakes, by simp, by simp [distance_step hb]⟩
    · exact ⟨w, by simp [hij], by simp [hij]⟩

/-- A waiter is released after as many steps of its own as it is away from that, whatever
happens in between. -/
theorem Sound.released (h : d.Sound budget) (hr : d.counters.remaining = 0) (ho : d.owed = 0)
    (hi : d.waiters[i]? = some w) {steps : List Step}
    (hs : w.distance ≤ steps.count (.proceed i)) :
    (d.apply steps).waiters[i]? = some .released := by
  induction steps generalizing d w with
  | nil => rw [apply_nil, hi, Waiter.eq_released (Nat.le_zero.1 hs)]
  | cons s steps ih =>
    obtain ⟨hr', ho', w', hi', hd⟩ := h.getElem?_step hr ho hi s
    refine ih (h.step s) hr' ho' hi' ?_
    rw [List.count_cons] at hs
    by_cases hsi : s = .proceed i
    · simp [hsi] at hs hd
      omega
    · simp [hsi] at hs hd
      omega

/-! ## The whole run -/

/-- Consumers and waiters of a budget, in whatever order they take their steps. -/
theorem no_wakeup_lost (budget : Nat) (steps : List Step) :
    let d := (ofBudget budget).apply steps
    (ofBudget budget).units steps = ((List.range (steps.count .consume)).map fun k =>
        if k < budget then some (budget - 1 - k) else none) ∧
      (d.consume.2 = none → d.consume.1 = d) ∧
      (.released ∈ d.waiters → d.counters.remaining = 0) ∧
      (d.counters.remaining = 0 → d.owed = 0 →
        (∀ w ∈ d.waiters, w.isBlocked d.wakes = false) ∧
        ∀ i < d.waiters.length, ∀ more : List Step, 3 ≤ more.count (.proceed i) →
          (d.apply more).waiters[i]? = some .released) := by
  intro d
  have hd : d.Sound budget := (sound_ofBudget budget).apply steps
  refine ⟨(ofBudget budget).units_eq steps, fun hn => ?_, fun hw => hd.waiters _ hw,
    fun hr ho => ⟨fun w hw => hd.not_isBlocked hr ho hw, fun i hi more hmore => ?_⟩⟩
  · rcases Nat.eq_zero_or_pos d.counters.remaining with hr | hpos
    · rw [consume_of_spent hr]
    · rw [d.consume_spec.2, if_pos hpos] at hn
      exact absurd hn (by simp)
  · have hw := List.getElem?_eq_getElem hi
    exact hd.released hr ho hw (Nat.le_trans (Waiter.distance_le _) hmore)

/-- A waiter falls asleep on the last unit, which is then taken. It sleeps on as long as the wake-up
is owed, and goes on to its release once it is sent. -/
theorem no_wakeup_lost_sleeper :
    let taken : List Step := [.join, .proceed 0, .proceed 0, .consume]
    let d := (ofBudget 1).apply taken
    let woken := (ofBudget 1).apply (taken ++ [.wake])
    (d.waiters = [.asleep 0] ∧ d.counters.remaining = 0 ∧ d.owed = 1 ∧
        (d.proceed 0).waiters = [.asleep 0]) ∧
      woken.owed = 0 ∧ (∀ w ∈ woken.waiters, w.isBlocked woken.wakes = false) ∧
      (woken.apply [.proceed 0, .consume, .proceed 0, .proceed 0]).waiters[0]?
        = some .released := by
  intro taken d woken
  have hleft : woken.counters.remaining = 0 ∧ woken.owed = 0 ∧ woken.waiters.length = 1 := by
    decide
  obtain ⟨-, -, -, hreleased⟩ := no_wakeup_lost 1 (taken ++ [.wake])
  obtain ⟨hawake, hmore⟩ := hreleased hleft.1 hleft.2.1
  have hone : 0 < woken.waiters.length := by
    rw [hleft.2.2]
    decide
  exact ⟨by decide, hleft.2.1, hawake, hmore 0 hone _ (by decide)⟩

end Drain

end LoadHarness
