import LoadHarness.Proofs.Campaign.Budget
import LoadHarness.Proofs.Fleet.Silence

/-!
# The shutdown of a run

However the watch over a run ends, the manager stops one client after the other. Those that it has
begun to stop, or found stopped, are stopped (`Campaign.stopped_apply`), so when all tasks are over
nothing is left to happen to the clients, and the report is made of them as they are
(`Campaign.reported_apply`). A watch that has finished has found the budget spent
(`Campaign.spent_apply`).
-/

namespace LoadHarness

theorem Move.Effect.stopped {m : Move} {c c' : Chain} {n n' : Counters} (h : m.Effect c n c' n')
    (hc : c.stage = .stopped) : c'.stage = .stopped := by
  have hle := h.rank_le
  rw [hc] at hle
  cases hs : c'.stage <;> simp [hs, Stage.rank] at hle ⊢

theorem Chain.silent_of_isDone {c : Chain} (hs : c.stage = .stopped) (hd : c.isDone = true) :
    c.Silent := by
  obtain ⟨hover, ht⟩ := Bool.and_eq_true_iff.1 hd
  exact ⟨⟨hs, List.isEmpty_iff.1 ht⟩, by simpa using hover⟩

namespace Fleet

theorem step_of_all_silent {f : Fleet} (h : ∀ c ∈ f.chains, c.Silent) (i : Nat) (m : Move) :
    f.step (.move i m) = f := by
  cases hc : f.chains[i]? with
  | none => exact act_of_none hc
  | some c => exact step_of_silent hc (h c (List.mem_of_getElem? hc)) m

end Fleet

namespace Campaign

variable {p : Plan} {c c' : Campaign} {s : Step} {f : Fleet} {now : Nat} {steps : List Step}

/-! ## One client after the other -/

/-- How many clients the manager has begun to stop, or found stopped. -/
def halted (c : Campaign) : Nat :=
  match c.phase with
  | .stopping _ i => i
  | .tearingDown _ i => i + 1
  | .joining _ | .ended _ _ => c.fleet.chains.length
  | _ => 0

/-- Those clients are stopped. -/
def StopsInTurn (c : Campaign) : Prop :=
  ∀ i < c.halted, ∀ d, c.fleet.chains[i]? = some d → d.stage = .stopped

theorem halted_happen (c : Campaign) (i : Nat) (m : Move) :
    (c.happen (.move i m)).halted = c.halted := by
  have hl : (c.happen (.move i m)).fleet.chains.length = c.fleet.chains.length :=
    (c.fleet.walks_step i m).length_eq
  unfold halted
  rw [hl]
  rfl

theorem StopsInTurn.happen (h : c.StopsInTurn) (i : Nat) (m : Move) :
    (c.happen (.move i m)).StopsInTurn := by
  intro j hj
  rw [halted_happen] at hj
  exact Fleet.forall_step_at Move.Effect.stopped (h j hj) i

/-- Once the manager has begun to stop one more client, this one is stopped too. -/
theorem StopsInTurn.marked {v : Verdict} {i : Nat} (h : c.StopsInTurn)
    (hp : c.phase = .stopping v i) {j : Nat} (hj : j < i + 1) :
    ∀ d, (c.fleet.step (.move i .mark)).chains[j]? = some d → d.stage = .stopped := by
  have hhalted : c.halted = i := by simp [halted, hp]
  rcases Nat.lt_succ_iff_lt_or_eq.1 hj with hlt | rfl
  · exact Fleet.forall_step_at Move.Effect.stopped (h j (hhalted ▸ hlt)) i
  · intro d' hd'
    cases hd : c.fleet.chains[j]? with
    | none =>
      rw [Fleet.step, Fleet.act_of_none hd, hd] at hd'
      cases hd'
    | some d =>
      rw [Fleet.step, Fleet.getElem?_act_self hd] at hd'
      obtain rfl := Option.some.inj hd'
      exact d.stage_mark

theorem Change.stopsInTurn (h : Change p c s c') (hc : c.StopsInTurn) : c'.StopsInTurn := by
  cases h with
  | idle | unready | rested | passed | woken => exact hc
  | moved | toreDown => exact hc.happen _ _
  | skipped hp | marked hp => exact fun j hj => hc.marked hp hj
  | @stopped v i hp hi =>
    have hhalted : c.halted = i := by simp [halted, hp]
    exact fun j hj => hc j (hhalted ▸ Nat.lt_of_lt_of_le hj hi)
  | @leftBehind v i hp =>
    have hhalted : c.halted = i + 1 := by simp [halted, hp]
    exact fun j hj => hc j (hhalted ▸ hj)
  | @closed v hp =>
    have hhalted : c.halted = c.fleet.chains.length := by simp [halted, hp]
    exact fun j hj => hc j (hhalted ▸ hj)
  | _ => exact fun j hj => absurd hj (Nat.not_lt_zero j)

theorem stopped_apply (p : Plan) (f : Fleet) (now : Nat) (steps : List Step) :
    ((start p f now).apply p steps).StopsInTurn :=
  apply_induction Change.stopsInTurn steps fun j hj => absurd hj (Nat.not_lt_zero j)

/-! ## All tasks over -/

/-- Once the report is made, nothing is left to happen to the clients. -/
structure Reported (p : Plan) (v : Verdict) (conclusion : Conclusion) (f : Fleet) : Prop where
  silent : ∀ d ∈ f.chains, d.Silent
  conclusion_eq : conclusion = (Run.report p v.ending v.time f).conclusion

theorem Change.reported (h : Change p c s c') (hstops : c.StopsInTurn)
    (hc : ∀ v k, c.phase = .ended v k → Reported p v k c.fleet) :
    ∀ v k, c'.phase = .ended v k → Reported p v k c'.fleet := by
  intro v k hover
  cases h with
  | idle | unready | rested | passed | woken => exact hc v k hover
  | @moved i m =>
    have hkept : (c.happen (.move i m)).fleet = c.fleet :=
      Fleet.step_of_all_silent (hc v k hover).silent i m
    rw [hkept]
    exact hc v k hover
  | closed hp hdone =>
    obtain ⟨rfl, rfl⟩ := Phase.ended.inj hover
    have hhalted : c.halted = c.fleet.chains.length := by simp [halted, hp]
    refine ⟨fun d hd => ?_, rfl⟩
    obtain ⟨i, hi⟩ := List.mem_iff_getElem?.1 hd
    have hlt := (List.getElem?_eq_some_iff.1 hi).1
    exact (Chain.silent_of_isDone (hstops i (hhalted.symm ▸ hlt) d hi) (hdone d hd))
  | toreDown hp => exact nomatch hp.symm.trans hover
  | _ => exact nomatch hover

theorem reported_apply (p : Plan) (f : Fleet) (now : Nat) (steps : List Step) :
    ∀ v k, ((start p f now).apply p steps).phase = .ended v k →
      Reported p v k ((start p f now).apply p steps).fleet := by
  have hstart : (start p f now).phase = .launching 0 := rfl
  refine (apply_induction
    (P := fun c => c.StopsInTurn ∧ ∀ v k, c.phase = .ended v k → Reported p v k c.fleet)
    (fun h hc => ⟨h.stopsInTurn hc.1, h.reported hc.1 hc.2⟩) steps
    ⟨stopped_apply p f now [], fun v k hover => ?_⟩).2
  exact nomatch hstart.symm.trans hover

/-! ## The budget of a run that has finished -/

/-- A watch that has finished has found the budget spent. -/
theorem Change.spent (h : Change p c s c') (hsound : c.drain.Sound p.sizing.total)
    (hc : ∀ v, c.phase.verdict? = some v → v.ending = .finished →
      c.fleet.counters.remaining = 0) :
    ∀ v, c'.phase.verdict? = some v → v.ending = .finished →
      c'.fleet.counters.remaining = 0 := by
  intro v hv he
  have hwalk (hzero : c.fleet.counters.remaining = 0) : c'.fleet.counters.remaining = 0 :=
    Nat.le_zero.1 (hzero ▸ h.walks.precedes.remaining)
  cases h with
  | idle | unready | rested | passed | woken | moved | toreDown => exact hwalk (hc v hv he)
  | drained hp => exact remaining_of_released (c := c) hsound hp
  | skipped hp | marked hp | stopped hp | leftBehind hp | closed hp =>
    exact hwalk (hc v (by rw [hp]; exact hv) he)
  | interrupted | foundStale =>
    obtain rfl := Option.some.inj hv
    exact nomatch he
  | _ => exact nomatch hv

theorem spent_apply (hf : f.Ready p.sizing) (now : Nat) (steps : List Step) :
    let c := (start p f now).apply p steps
    ∀ v, c.phase.verdict? = some v → v.ending = .finished → c.fleet.counters.remaining = 0 := by
  refine (apply_induction (P := fun c => c.drain.Sound p.sizing.total ∧
    ∀ v, c.phase.verdict? = some v → v.ending = .finished → c.fleet.counters.remaining = 0)
    (fun h hc => ⟨h.sound hc.1, h.spent hc.1 hc.2⟩) steps ⟨sound_start p hf now, fun v hv => ?_⟩).2
  exact nomatch hv

end Campaign

end LoadHarness
