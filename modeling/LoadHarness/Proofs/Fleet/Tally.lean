import LoadHarness.Proofs.Fleet.Accounting

/-!
# Counting the moves of a chain

A kind of moves is told by the move and by what it finds (`Move.Kind`). How many of a kind a chain
has made is no part of the chain, and is read off the events of a fleet (`Fleet.movesOf`).

What a chain and the numbers of its moves keep together, whatever move it makes, holds of every
chain of a fleet after every list of events (`Fleet.movesOf_induction`), since the events of others
do not change the chain, nor count.
-/

namespace LoadHarness

/-- A kind of moves, told by the move and by the chain and the counters that it finds. -/
abbrev Move.Kind := Move → Chain × Counters → Bool

namespace Fleet

variable {f : Fleet} {e : Event} {events : List Event} {i j : Nat} {c : Chain} {m : Move}
  {kind : Move.Kind}

/-- Whether an event is a move of a kind, made by one of the chains in question. -/
def isMove (who : Nat → Bool) (kind : Move.Kind) (f : Fleet) : Event → Bool
  | .move i m => who i && f.ask i false fun c => kind m (c, f.counters)
  | _ => false

/-- How many moves of a kind a chain makes. -/
def movesOf (f : Fleet) (i : Nat) (kind : Move.Kind) (events : List Event) : Nat :=
  f.tally (isMove (· == i) kind) events

/-- How many moves of a kind all chains make together. -/
def moves (f : Fleet) (kind : Move.Kind) (events : List Event) : Nat :=
  f.tally (isMove (fun _ => true) kind) events

theorem tally_append (kind : Fleet → Event → Bool) (f : Fleet) (before after : List Event) :
    f.tally kind (before ++ after)
      = f.tally kind before + (f.apply before).tally kind after := by
  induction before generalizing f with
  | nil => exact (Nat.zero_add _).symm
  | cons e before ih => rw [List.cons_append, tally, tally, ih, Nat.add_assoc, apply_cons]

theorem isMove_self (hc : f.chains[i]? = some c) :
    isMove (· == i) kind f (.move i m) = kind m (c, f.counters) := by
  rw [isMove, ask_of_some hc, beq_self_eq_true, Bool.true_and]

theorem isMove_ne (hij : j ≠ i) : isMove (· == i) kind f (.move j m) = false := by
  rw [isMove, beq_eq_false_iff_ne.2 hij, Bool.false_and]

/-- A move that is never of a kind. -/
theorem isMove_of_false {who : Nat → Bool} (h : ∀ s, kind m s = false) :
    isMove who kind f (.move i m) = false := by
  cases hc : f.chains[i]? with
  | none => simp [isMove, ask_of_none hc]
  | some c => simp [isMove, ask_of_some hc, h]

/-- A chain that is built is the last one. -/
theorem of_getElem?_build {id : ClientId} {stopOnFailure : Bool}
    (hc : (f.step (.build id stopOnFailure)).chains[i]? = some c) :
    f.chains[i]? = some c ∨ f.chains[i]? = none ∧ c = .create id stopOnFailure := by
  rw [step, List.getElem?_append] at hc
  split at hc
  case isTrue hi => exact .inl hc
  case isFalse hi =>
    refine .inr ⟨List.getElem?_eq_none (Nat.le_of_not_lt hi), ?_⟩
    exact (List.mem_singleton.1 (List.mem_of_getElem? hc))

/-- What one chain keeps with the numbers of its moves, in one event. -/
theorem movesOf_step {P : (Move.Kind → Nat) → Chain → Prop}
    (hcreate : ∀ id stopOnFailure, P (fun _ => 0) (.create id stopOnFailure))
    (hrun : ∀ made c n m, P made c →
      P (fun kind => made kind + (kind m (c, n)).toNat) (m.run (c, n)).1)
    {made : Move.Kind → Nat} (hP : ∀ c, f.chains[i]? = some c → P made c)
    (hnone : f.chains[i]? = none → made = fun _ => 0) (e : Event) :
    let made' := fun kind => made kind + (isMove (· == i) kind f e).toNat
    (∀ c, (f.step e).chains[i]? = some c → P made' c) ∧
      ((f.step e).chains[i]? = none → made' = fun _ => 0) := by
  -- Only a move of the chain itself counts, and only such a move changes it.
  cases e with
  | build id stopOnFailure =>
    refine ⟨fun c hc => ?_, fun hn => hnone ?_⟩
    · rcases of_getElem?_build hc with hc | ⟨hn, rfl⟩
      · exact hP c hc
      · have hzero := hnone hn
        subst hzero
        exact hcreate id stopOnFailure
    · rw [List.getElem?_eq_none_iff] at hn ⊢
      rw [step, List.length_append] at hn
      omega
  | move j m =>
    by_cases hij : j = i
    · subst hij
      cases hc : f.chains[j]? with
      | none =>
        rw [step, act_of_none hc]
        refine ⟨fun c hc' => absurd (hc.symm.trans hc') (by simp), fun _ => ?_⟩
        rw [hnone hc]
        simp [isMove, ask_of_none hc]
      | some c =>
        rw [step, getElem?_act_self hc]
        refine ⟨fun c' hc' => ?_, fun hn => absurd hn (by simp)⟩
        obtain rfl := Option.some.inj hc'
        simp only [isMove_self hc]
        exact hrun made c f.counters m (hP c hc)
    · rw [step, getElem?_act_ne (Ne.symm hij)]
      simp only [isMove_ne hij]
      exact ⟨hP, hnone⟩
  | consume => exact ⟨hP, hnone⟩
  | enter => exact ⟨hP, hnone⟩

theorem movesOf_apply {P : (Move.Kind → Nat) → Chain → Prop}
    (hcreate : ∀ id stopOnFailure, P (fun _ => 0) (.create id stopOnFailure))
    (hrun : ∀ made c n m, P made c →
      P (fun kind => made kind + (kind m (c, n)).toNat) (m.run (c, n)).1)
    {made : Move.Kind → Nat} (hP : ∀ c, f.chains[i]? = some c → P made c)
    (hnone : f.chains[i]? = none → made = fun _ => 0)
    (hc : (f.apply events).chains[i]? = some c) :
    P (fun kind => made kind + f.movesOf i kind events) c := by
  induction events generalizing f made with
  | nil => exact hP c hc
  | cons e events ih =>
    obtain ⟨hP', hnone'⟩ := movesOf_step hcreate hrun hP hnone e
    have h := ih hP' hnone' hc
    simp only [Nat.add_assoc] at h
    exact h

/-- What one chain keeps with the numbers of its moves, after all events. -/
theorem movesOf_induction {P : (Move.Kind → Nat) → Chain → Prop}
    (hcreate : ∀ id stopOnFailure, P (fun _ => 0) (.create id stopOnFailure))
    (hrun : ∀ made c n m, P made c →
      P (fun kind => made kind + (kind m (c, n)).toNat) (m.run (c, n)).1)
    (hf : ∀ c, f.chains[i]? = some c → P (fun _ => 0) c)
    (hc : (f.apply events).chains[i]? = some c) :
    P (fun kind => f.movesOf i kind events) c := by
  simpa using movesOf_apply hcreate hrun hf (fun _ => rfl) hc

end Fleet

end LoadHarness
