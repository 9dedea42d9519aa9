import LoadHarness.Proofs.Chain.Exchange
import LoadHarness.Proofs.Fleet.Tally

/-!
# The exchanges of a fleet

Each chain of a fleet keeps its pace (`paced_of_create`). The exchanges that all tasks begin are
no more than what their chains account for and one for each chain, and one less when the budget is
spent, since whoever takes the last unit does not begin another (`Paced.apply`). As the chains
account for no more than the budget, all exchanges together are fewer than the budget and the number
of the chains (`begins_lt`).
-/

namespace LoadHarness

namespace Fleet

variable {f : Fleet} {e : Event} {events : List Event} {i begun budget : Nat} {c : Chain}

/-- What a fleet keeps with the number of the exchanges that its tasks began. -/
structure Paced (begun : Nat) (f : Fleet) : Prop where
  chains : ∀ c ∈ f.chains, ∃ probed begun ended, c.Paced probed begun ended
  begun_le : begun + f.counters.isDrained.toNat ≤ f.total Chain.reach

theorem paced_create (h : 0 < budget) : (create budget []).Paced 0 := by
  refine ⟨fun _ hc => absurd hc List.not_mem_nil, ?_⟩
  have hd : (Counters.ofBudget budget).isDrained = false := beq_false_of_ne (Nat.ne_of_gt h)
  change 0 + (Counters.ofBudget budget).isDrained.toNat ≤ 0
  rw [hd]
  exact Nat.le_refl 0

theorem Paced.step (h : f.Paced begun) (he : e ≠ .consume) :
    (f.step e).Paced (begun + (isMove (fun _ => true) Move.begins f e).toNat) := by
  have hbegun := h.begun_le
  cases e with
  | build id stopOnFailure =>
    refine ⟨fun c hc => ?_, ?_⟩
    · rcases List.mem_append.1 hc with hc | hc
      · exact h.chains c hc
      · obtain rfl := List.mem_singleton.1 hc
        exact ⟨0, 0, 0, Chain.paced_create id stopOnFailure⟩
    · rw [total_build]
      exact hbegun
  | move i m =>
    refine ⟨forall_act h.chains fun c hc => ?_, ?_⟩
    · obtain ⟨_, _, _, hp⟩ := h.chains c (List.mem_of_getElem? hc)
      exact ⟨_, _, _, (m.effect_run c f.counters).paced hp⟩
    · cases hc : f.chains[i]? with
      | none =>
        rw [Fleet.step, act_of_none hc, isMove, ask_of_none hc]
        exact hbegun
      | some c =>
        obtain ⟨_, _, _, hp⟩ := h.chains c (List.mem_of_getElem? hc)
        have hle : (m.begins (c, f.counters)).toNat + _ + c.reach ≤ _ :=
          (m.effect_run c f.counters).begins_le hp.idle
        have ht := total_act (g := m.run) Chain.reach hc
        rw [Fleet.step, counters_act hc, isMove, ask_of_some hc, Bool.true_and]
        omega
  | consume => exact absurd rfl he
  | enter => exact ⟨h.chains, hbegun⟩

theorem Paced.apply (h : f.Paced begun) (he : ∀ e ∈ events, e ≠ .consume) :
    (f.apply events).Paced (begun + f.moves Move.begins events) := by
  induction events generalizing f begun with
  | nil => exact h
  | cons e events ih =>
    obtain ⟨hhead, he⟩ := List.forall_mem_cons.1 he
    have hs := ih (h.step hhead) he
    rw [Nat.add_assoc] at hs
    exact hs

theorem total_reach_le (f : Fleet) : f.total Chain.reach ≤ f.sent + f.chains.length := by
  unfold total sent
  generalize f.chains = chains
  induction chains with
  | nil => exact Nat.le_refl 0
  | cons c chains ih =>
    have := c.task.most_le
    rw [List.foldl_cons, foldl_weigh, List.foldl_cons, foldl_weigh Chain.sent, List.length_cons,
      Chain.reach]
    omega

/-- All exchanges of tasks are fewer than the budget and the number of the chains. -/
theorem begins_lt (hb : 0 < budget) (he : ∀ e ∈ events, e ≠ .consume) :
    (create budget []).moves Move.begins events
      < budget + ((create budget []).apply events).chains.length := by
  have hpaced := (paced_create hb).apply he
  have hbooks := sent_add_remaining_apply (f := create budget []) he
  have hzero : (create budget []).sent + (create budget []).counters.remaining = budget :=
    Nat.zero_add budget
  have hbegun := hpaced.begun_le
  have hreach := total_reach_le ((create budget []).apply events)
  unfold Counters.isDrained at hbegun
  by_cases hr : ((create budget []).apply events).counters.remaining = 0
  · rw [hr, beq_self_eq_true, Bool.toNat_true] at hbegun
    omega
  · omega

/-- Each chain keeps its pace. -/
theorem paced_of_create (hc : ((create budget []).apply events).chains[i]? = some c) :
    c.Paced ((create budget []).movesOf i Move.probes events)
      ((create budget []).movesOf i Move.begins events)
      ((create budget []).movesOf i Move.ends events) :=
  movesOf_induction
    (P := fun made c => c.Paced (made Move.probes) (made Move.begins) (made Move.ends))
    Chain.paced_create (fun _ c n m h => (m.effect_run c n).paced h) (fun _ hc => nomatch hc) hc

end Fleet

end LoadHarness
