import LoadHarness.Fleet

/-!
# Who changes when a chain moves

A move of one chain changes that chain and the counters and leaves every other chain alone
(`getElem?_act_ne`), and several moves of one chain are one action of it (`apply_moves`). What a
fleet is worth, when every chain has a weight, changes by the weight of the chain that moved
(`total_act`) : sums over all chains, such as `Fleet.sent`, are followed that way.
-/

namespace LoadHarness

namespace Move

@[simp] theorem runAll_nil (s : Chain × Counters) : runAll [] s = s := rfl

@[simp] theorem runAll_cons (m : Move) (ms : List Move) (s : Chain × Counters) :
    runAll (m :: ms) s = runAll ms (m.run s) := rfl

/-- What each of some moves leaves as it is, all of them leave as it is. -/
theorem runAll_keeps {α : Type} {q : Chain → α} {ms : List Move}
    (hq : ∀ m ∈ ms, ∀ c n, q (m.run (c, n)).1 = q c) (c : Chain) (n : Counters) :
    q (runAll ms (c, n)).1 = q c := by
  induction ms generalizing c n with
  | nil => rfl
  | cons m ms ih =>
    obtain ⟨hm, hq⟩ := List.forall_mem_cons.1 hq
    exact (ih hq _ _).trans (hm c n)

end Move

namespace Fleet

variable {f : Fleet} {i j : Nat} {c : Chain} {g h : Chain × Counters → Chain × Counters}

/-! ## One chain acts -/

theorem act_of_none (hc : f.chains[i]? = none) : f.act i g = f := by
  simp [act, hc]

theorem act_of_some (hc : f.chains[i]? = some c) :
    f.act i g = ⟨(g (c, f.counters)).2, f.chains.set i (g (c, f.counters)).1⟩ := by
  simp [act, hc]

theorem getElem?_act_self (hc : f.chains[i]? = some c) :
    (f.act i g).chains[i]? = some (g (c, f.counters)).1 := by
  have hi : i < f.chains.length := (List.getElem?_eq_some_iff.1 hc).1
  simp [act_of_some hc, hi]

theorem getElem?_act_ne (hij : j ≠ i) : (f.act i g).chains[j]? = f.chains[j]? := by
  cases hc : f.chains[i]? with
  | none => rw [act_of_none hc]
  | some c => simp [act_of_some hc, List.getElem?_set_ne hij.symm]

theorem counters_act (hc : f.chains[i]? = some c) :
    (f.act i g).counters = (g (c, f.counters)).2 := by
  rw [act_of_some hc]

theorem act_act : (f.act i g).act i h = f.act i fun s => h (g s) := by
  cases hc : f.chains[i]? with
  | none => rw [act_of_none hc, act_of_none hc, act_of_none hc]
  | some c =>
    rw [act_of_some (getElem?_act_self hc), counters_act hc, act_of_some hc, act_of_some hc]
    simp

theorem act_id : (f.act i fun s => s) = f := by
  cases hc : f.chains[i]? with
  | none => rw [act_of_none hc]
  | some c =>
    rw [act_of_some hc]
    obtain ⟨hi, rfl⟩ := List.getElem?_eq_some_iff.1 hc
    simp

/-- What one chain keeps of itself in an action, all chains do. -/
theorem map_act {α : Type} {q : Chain → α}
    (hq : ∀ c, f.chains[i]? = some c → q (g (c, f.counters)).1 = q c) :
    (f.act i g).chains.map q = f.chains.map q := by
  cases hc : f.chains[i]? with
  | none => rw [act_of_none hc]
  | some c =>
    have hi : (f.chains.map q)[i]? = some (q c) := by rw [List.getElem?_map, hc]; rfl
    obtain ⟨hi, he⟩ := List.getElem?_eq_some_iff.1 hi
    rw [act_of_some hc, List.map_set, hq c hc, ← he, List.set_getElem_self]

theorem forall_act {P : Chain → Prop} (hP : ∀ c ∈ f.chains, P c)
    (hg : ∀ c, f.chains[i]? = some c → P (g (c, f.counters)).1) :
    ∀ c ∈ (f.act i g).chains, P c := by
  cases hc : f.chains[i]? with
  | none => rwa [act_of_none hc]
  | some c =>
    rw [act_of_some hc]
    intro d hd
    rcases List.mem_or_eq_of_mem_set hd with hd | rfl
    · exact hP d hd
    · exact hg c hc

/-! ## Events -/

@[simp] theorem apply_nil (f : Fleet) : f.apply [] = f := rfl

@[simp] theorem apply_cons (f : Fleet) (e : Event) (events : List Event) :
    f.apply (e :: events) = (f.step e).apply events := rfl

theorem apply_append (f : Fleet) (before after : List Event) :
    f.apply (before ++ after) = (f.apply before).apply after :=
  List.foldl_append

theorem apply_moves (f : Fleet) (i : Nat) (ms : List Move) :
    f.apply (ms.map (.move i)) = f.act i (Move.runAll ms) := by
  induction ms generalizing f with
  | nil => exact act_id.symm
  | cons m ms ih =>
    rw [List.map_cons, apply_cons, ih, step, act_act]
    rfl

/-- Moves that all leave something of a chain as it is. -/
theorem map_apply {α : Type} {q : Chain → α} {events : List Event}
    (hq : ∀ e ∈ events, ∃ i m, e = .move i m ∧ ∀ c n, q (m.run (c, n)).1 = q c) :
    (f.apply events).chains.map q = f.chains.map q := by
  induction events generalizing f with
  | nil => rfl
  | cons e events ih =>
    obtain ⟨⟨i, m, rfl, hm⟩, hrest⟩ := List.forall_mem_cons.1 hq
    exact (ih hrest).trans (map_act fun c _ => hm c _)

theorem length_apply {events : List Event} (h : ∀ e ∈ events, ∃ i m, e = .move i m) :
    (f.apply events).chains.length = f.chains.length := by
  have hl := congrArg List.length (map_apply (f := f) (q := fun _ => ()) fun e he =>
    let ⟨i, m, hm⟩ := h e he
    ⟨i, m, hm, fun _ _ => rfl⟩)
  rwa [List.length_map, List.length_map] at hl

/-- Some chains make moves, one chain after the other. -/
theorem of_mem_moves (ms : Nat → List Move) {l : List Nat} {e : Event}
    (h : e ∈ l.flatMap fun j => (ms j).map (.move j)) : ∃ i, ∃ m ∈ ms i, e = .move i m := by
  obtain ⟨i, -, he⟩ := List.mem_flatMap.1 h
  obtain ⟨m, hm, rfl⟩ := List.mem_map.1 he
  exact ⟨i, m, hm, rfl⟩

theorem length_moves (ms : Nat → List Move) (l : List Nat) :
    (f.apply (l.flatMap fun j => (ms j).map (.move j))).chains.length = f.chains.length :=
  length_apply fun _ he =>
    let ⟨i, m, _, hm⟩ := of_mem_moves ms he
    ⟨i, m, hm⟩

/-- A chain that is not among them stays as it is. -/
theorem getElem?_apply_of_not_mem (ms : Nat → List Move) {l : List Nat} (hi : i ∉ l) :
    (f.apply (l.flatMap fun j => (ms j).map (.move j))).chains[i]? = f.chains[i]? := by
  induction l generalizing f with
  | nil => rfl
  | cons j l ih =>
    obtain ⟨hij, hi⟩ := not_or.1 (mt List.mem_cons.2 hi)
    rw [List.flatMap_cons, apply_append, ih hi, apply_moves, getElem?_act_ne hij]

/-- Each of them makes its own moves, whatever the others do. -/
theorem getElem?_apply_of_mem (ms : Nat → List Move) {l : List Nat} (hl : l.Nodup)
    (hi : i ∈ l) (hc : f.chains[i]? = some c) :
    ∃ n, (f.apply (l.flatMap fun j => (ms j).map (.move j))).chains[i]?
      = some (Move.runAll (ms i) (c, n)).1 := by
  induction l generalizing f with
  | nil => simp at hi
  | cons j l ih =>
    obtain ⟨hj, hl⟩ := List.nodup_cons.1 hl
    rw [List.flatMap_cons, apply_append, apply_moves]
    rcases List.mem_cons.1 hi with rfl | hi
    · exact ⟨f.counters, by rw [getElem?_apply_of_not_mem ms hj, getElem?_act_self hc]⟩
    · have hij : i ≠ j := fun h => hj (h ▸ hi)
      exact ih hl hi ((getElem?_act_ne hij).trans hc)

/-- What every event keeps, every list of such events keeps. -/
theorem apply_induction {P : Fleet → Prop} {Q : Event → Prop}
    (hstep : ∀ f e, Q e → P f → P (f.step e)) {events : List Event} (hQ : ∀ e ∈ events, Q e)
    (hf : P f) : P (f.apply events) := by
  induction events generalizing f with
  | nil => exact hf
  | cons e events ih =>
    obtain ⟨he, hQ⟩ := List.forall_mem_cons.1 hQ
    exact ih hQ (hstep f e he hf)

/-! ## Sums over all chains -/

/-- The weights of all chains together. -/
def total (w : Chain → Nat) (f : Fleet) : Nat := f.chains.foldl (fun n c => n + w c) 0

theorem foldl_weigh (w : Chain → Nat) (chains : List Chain) (n : Nat) :
    chains.foldl (fun n c => n + w c) n = n + chains.foldl (fun n c => n + w c) 0 := by
  induction chains generalizing n with
  | nil => rfl
  | cons c chains ih =>
    rw [List.foldl_cons, List.foldl_cons, ih, ih (0 + w c)]
    omega

theorem foldl_weigh_set (w : Chain → Nat) {chains : List Chain} (hc : chains[i]? = some c)
    (c' : Chain) :
    (chains.set i c').foldl (fun n c => n + w c) 0 + w c
      = chains.foldl (fun n c => n + w c) 0 + w c' := by
  induction chains generalizing i with
  | nil => simp at hc
  | cons d chains ih =>
    cases i with
    | zero =>
      obtain rfl : d = c := by simpa using hc
      rw [List.set_cons_zero, List.foldl_cons, List.foldl_cons, foldl_weigh,
        foldl_weigh w chains (0 + w d)]
      omega
    | succ i =>
      have := ih (i := i) (by simpa using hc)
      rw [List.set_cons_succ, List.foldl_cons, List.foldl_cons, foldl_weigh,
        foldl_weigh w chains (0 + w d)]
      omega

theorem total_act (w : Chain → Nat) (hc : f.chains[i]? = some c) :
    (f.act i g).total w + w c = f.total w + w (g (c, f.counters)).1 := by
  rw [act_of_some hc]
  exact foldl_weigh_set w hc _

theorem total_build (w : Chain → Nat) (f : Fleet) (id : ClientId) (stopOnFailure : Bool) :
    (f.step (.build id stopOnFailure)).total w
      = f.total w + w (.create id stopOnFailure) := by
  simp [total, step]

theorem total_eq_zero {w : Chain → Nat} (h : ∀ c ∈ f.chains, w c = 0) : f.total w = 0 := by
  unfold total
  generalize f.chains = chains at h
  induction chains with
  | nil => rfl
  | cons c chains ih =>
    obtain ⟨hc, h⟩ := List.forall_mem_cons.1 h
    rw [List.foldl_cons, hc]
    exact ih h

theorem le_total (w : Chain → Nat) (hc : f.chains[i]? = some c) : w c ≤ f.total w := by
  unfold total
  generalize f.chains = chains at hc
  induction chains generalizing i with
  | nil => simp at hc
  | cons d chains ih =>
    rw [List.foldl_cons, foldl_weigh]
    cases i with
    | zero =>
      obtain rfl : d = c := by simpa using hc
      omega
    | succ i =>
      have := ih (i := i) (by simpa using hc)
      omega

theorem total_le_length {w : Chain → Nat} (h : ∀ c ∈ f.chains, w c ≤ 1) :
    f.total w ≤ f.chains.length := by
  unfold total
  generalize f.chains = chains at h
  induction chains with
  | nil => exact Nat.le_refl _
  | cons c chains ih =>
    obtain ⟨hc, h⟩ := List.forall_mem_cons.1 h
    rw [List.foldl_cons, foldl_weigh, List.length_cons]
    have := ih h
    omega

theorem total_le_total {v w : Chain → Nat} (f : Fleet) (h : ∀ c ∈ f.chains, v c ≤ w c) :
    f.total v ≤ f.total w := by
  unfold total
  generalize f.chains = chains at h
  induction chains with
  | nil => simp
  | cons c chains ih =>
    obtain ⟨hc, h⟩ := List.forall_mem_cons.1 h
    rw [List.foldl_cons, List.foldl_cons, foldl_weigh, foldl_weigh w]
    have := ih h
    omega

end Fleet

end LoadHarness
