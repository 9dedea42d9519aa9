import LoadHarness.Proofs.Campaign.Change

/-!
# Runs that go on

A course gives the step that is taken at every moment, without end, and `Campaign.along` is the run
at that moment. In a fair course (`Campaign.Fair`) time passes, the manager goes on, it hears that an
interval is over, and every transport that is to be stopped comes to the end of it.

One state of a run leads to another (`Campaign.LeadsTo`) if somebody takes a step that leads there
and nothing else leads away (`LeadsTo.of_step`), or if it is left for a smaller one each time
(`LeadsTo.of_rank`).
-/

namespace LoadHarness

/-- Whether the task of a chain has an exchange to begin, or in flight. -/
def Chain.isAtWork (c : Chain) : Bool := c.task == .ready || c.task == .waiting

namespace Campaign

variable {p : Plan} {c : Campaign} {course : Nat → Step} {k m : Nat}

/-- A run after so many steps of a course. -/
def along (p : Plan) (c : Campaign) (course : Nat → Step) : Nat → Campaign
  | 0 => c
  | k + 1 => (along p c course k).step p (course k)

theorem along_eq_apply (p : Plan) (c : Campaign) (course : Nat → Step) (k : Nat) :
    along p c course k = c.apply p ((List.range k).map course) := by
  induction k with
  | zero => rfl
  | succ k ih =>
    rw [along, ih, List.range_succ, List.map_append, apply_append]
    rfl

theorem change_along (p : Plan) (c : Campaign) (course : Nat → Step) (k : Nat) :
    Change p (along p c course k) (course k) (along p c course (k + 1)) :=
  change_step p _ _

theorem walks_along (p : Plan) (c : Campaign) (course : Nat → Step) (h : k ≤ m) :
    (along p c course k).fleet.Walks (along p c course m).fleet := by
  induction h with
  | refl => exact .refl _
  | step _ ih => exact ih.trans (change_along p c course _).walks

/-- The clock does not go back. -/
theorem Change.now_le {s : Step} {c' : Campaign} (h : Change p c s c') : c.now ≤ c'.now := by
  cases h with
  | passed => exact Nat.le_add_right _ _
  | _ => exact Nat.le_refl _

theorem now_along_le (h : k ≤ m) : (along p c course k).now ≤ (along p c course m).now := by
  induction h with
  | refl => exact Nat.le_refl _
  | step _ ih => exact Nat.le_trans ih (change_along p c course _).now_le

/-- A course in which time passes and everybody who has something to do does it at last. That a
client has to be answered is not part of it. -/
structure Fair (p : Plan) (c : Campaign) (course : Nat → Step) : Prop where
  proceed : ∀ k, ∃ m, k ≤ m ∧ course m = .proceed
  timer : ∀ k, ∃ m, k ≤ m ∧ course m = .timer
  tearDown : ∀ i < c.fleet.chains.length, ∀ k, ∃ m, k ≤ m ∧ course m = .move i .tearDown
  time : ∀ t, ∃ k, t ≤ (along p c course k).now

/-! ## The pace of a client -/

/-- Whether the task of a client has an exchange to begin, or in flight. -/
def isAtWork (c : Campaign) (i : Nat) : Bool := c.fleet.ask i false Chain.isAtWork

/-- Whether a step is the outcome of the exchange of a client. -/
def answers (c : Campaign) (i : Nat) : Step → Bool
  | .move j (.resolve _) => j == i && c.fleet.isWaiting i
  | _ => false

/-- The time since which a client is at work on the same exchange : that of its launch or of its last
answer. -/
def since (p : Plan) (c : Campaign) (course : Nat → Step) (i : Nat) : Nat → Nat
  | 0 => c.now
  | k + 1 =>
    let before := along p c course k
    if before.isAtWork i && !before.answers i (course k) then since p c course i k
    else (along p c course (k + 1)).now

theorem since_le_now (p : Plan) (c : Campaign) (course : Nat → Step) (i k : Nat) :
    since p c course i k ≤ (along p c course k).now := by
  induction k with
  | zero => exact Nat.le_refl _
  | succ k ih =>
    rw [since]
    split
    case isTrue => exact Nat.le_trans ih (now_along_le (Nat.le_succ k))
    case isFalse => exact Nat.le_refl _

/-! ## What leads to what -/

variable {σ : Nat → Campaign} {P Q R : Campaign → Prop} {s : Step}

/-- From every moment of one kind on there is one of the other kind. -/
def LeadsTo (σ : Nat → Campaign) (P Q : Campaign → Prop) : Prop :=
  ∀ k, P (σ k) → ∃ m, k ≤ m ∧ Q (σ m)

theorem LeadsTo.trans (h : LeadsTo σ P Q) (h' : LeadsTo σ Q R) : LeadsTo σ P R := by
  intro k hP
  obtain ⟨m, hkm, hQ⟩ := h k hP
  obtain ⟨n, hmn, hR⟩ := h' m hQ
  exact ⟨n, Nat.le_trans hkm hmn, hR⟩

/-- What nothing leads away from but something else. -/
theorem holds_until (hkeep : ∀ k, P (σ k) → P (σ (k + 1)) ∨ Q (σ (k + 1))) (hkm : k ≤ m)
    (hP : P (σ k)) : P (σ m) ∨ ∃ n, k ≤ n ∧ Q (σ n) := by
  induction hkm with
  | refl => exact .inl hP
  | @step m hkm ih =>
    rcases ih with hm | hQ
    · exact (hkeep m hm).imp_right fun hQ => ⟨m + 1, Nat.le_succ_of_le hkm, hQ⟩
    · exact .inr hQ

/-- A step that is taken at last leads there, and nothing else leads away. -/
theorem LeadsTo.of_step (hs : ∀ k, ∃ m, k ≤ m ∧ course m = s)
    (hkeep : ∀ k, P (σ k) → P (σ (k + 1)) ∨ Q (σ (k + 1)))
    (hgo : ∀ k, P (σ k) → course k = s → Q (σ (k + 1))) : LeadsTo σ P Q := by
  intro k hP
  obtain ⟨m, hkm, hm⟩ := hs k
  rcases holds_until hkeep hkm hP with hPm | hQ
  · exact ⟨m + 1, Nat.le_succ_of_le hkm, hgo m hPm hm⟩
  · exact hQ

/-- What is left for less of it, again and again, is left at last. -/
theorem LeadsTo.of_smaller (V : Campaign → Nat)
    (h : ∀ n, LeadsTo σ (fun c => P c ∧ V c = n) fun c => P c ∧ V c < n ∨ Q c) :
    LeadsTo σ P Q := by
  intro k hP
  generalize hn : V (σ k) = n
  induction n using Nat.strongRecOn generalizing k with
  | ind n ih =>
    obtain ⟨m, hkm, ⟨hPm, hlt⟩ | hQ⟩ := h n k ⟨hP, hn⟩
    · obtain ⟨l, hml, hQ⟩ := ih _ hlt m hPm rfl
      exact ⟨l, Nat.le_trans hkm hml, hQ⟩
    · exact ⟨m, hkm, hQ⟩

/-- One step leads on whenever it is taken, and no other step leads back. -/
theorem LeadsTo.of_rank (V : Campaign → Nat) (hs : ∀ k, ∃ m, k ≤ m ∧ course m = s)
    (hkeep : ∀ k, P (σ k) → P (σ (k + 1)) ∧ V (σ (k + 1)) ≤ V (σ k) ∨ Q (σ (k + 1)))
    (hgo : ∀ k, P (σ k) → course k = s →
      P (σ (k + 1)) ∧ V (σ (k + 1)) < V (σ k) ∨ Q (σ (k + 1))) : LeadsTo σ P Q := by
  refine .of_smaller V fun n => .of_step hs (fun k ⟨hP, hn⟩ => ?_) fun k ⟨hP, hn⟩ hk => ?_
  · rcases hkeep k hP with ⟨hP', hle⟩ | hQ
    · rcases Nat.lt_or_eq_of_le hle with hlt | heq
      · exact .inr (.inl ⟨hP', hn ▸ hlt⟩)
      · exact .inl ⟨hP', heq.trans hn⟩
    · exact .inr (.inr hQ)
  · exact (hgo k hP hk).imp_left fun ⟨hP', hlt⟩ => ⟨hP', hn ▸ hlt⟩

end Campaign

end LoadHarness
