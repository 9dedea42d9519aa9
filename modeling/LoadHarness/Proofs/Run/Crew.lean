import LoadHarness.Proofs.Run.History

/-!
# The crew of a run

Every chain keeps what it was built with, and only the move that starts it counts as a start
(`Chain.entry`). So the crew that a run has before its launch (`Run.assembled`) is the one that it
has at the end, with each client in its place and started once (`entries_assembled`).

Before that, transports are built up to the first that cannot be (`of_buildFrom`,
`buildFrom_error`), and client 0 probes the target (`of_probed`).
-/

namespace LoadHarness

/-! ## What a chain keeps -/

/-- What a chain was built with, and how often it was started. -/
def Chain.entry (c : Chain) : ClientId × Bool × Nat := (c.id, c.stopOnFailure, c.calls.starts)

theorem Move.entry_run {m : Move} (hm : m.isStart = false) (c : Chain) (n : Counters) :
    (m.run (c, n)).1.entry = c.entry := by
  have h := m.effect_run c n
  simp only [Chain.entry, h.id_eq, h.stopOnFailure_eq, h.starts_eq hm]

theorem Move.isStart_stop : ∀ m ∈ Move.stop, m.isStart = false := by decide

theorem Move.entry_runAll_stop (c : Chain) (n : Counters) :
    (runAll stop (c, n)).1.entry = c.entry :=
  runAll_keeps (fun m hm => entry_run (isStart_stop m hm)) c n

theorem Move.isStart_of_isTask {m : Move} (h : m.isTask = true) : m.isStart = false := by
  cases m <;> simp_all [isTask, isStart]

namespace Fleet

variable {f : Fleet}

/-- No move but a start changes the entries of a fleet. -/
theorem entries_apply {events : List Event}
    (h : ∀ e ∈ events, ∃ i m, e = .move i m ∧ m.isStart = false) :
    (f.apply events).chains.map Chain.entry = f.chains.map Chain.entry :=
  map_apply fun e he =>
    let ⟨i, m, hm, hs⟩ := h e he
    ⟨i, m, hm, Move.entry_run hs⟩

theorem entries_stopAll (f : Fleet) :
    f.stopAll.chains.map Chain.entry = f.chains.map Chain.entry :=
  entries_apply fun _ he =>
    let ⟨i, m, hm, he⟩ := of_mem_moves (fun _ => Move.stop) he
    ⟨i, m, he, Move.isStart_stop m hm⟩

end Fleet

theorem Timeline.Leads.entries_eq {t t' : Timeline} (h : Leads t t') :
    t'.fleet.chains.map Chain.entry = t.fleet.chains.map Chain.entry := by
  obtain ⟨events, he, hf, -⟩ := h.events
  rw [hf]
  refine Fleet.entries_apply fun e hmem => ?_
  obtain ⟨i, m, rfl, hm⟩ := he e hmem
  exact ⟨i, m, rfl, Move.isStart_of_isTask hm⟩

/-- Whether the exchange that probes the target is answered with success. -/
def Behaviour.passes (b : Behaviour) : Prop :=
  b.refusal = none ∧ ∃ outcome, (b.cue 0).effect = .answer outcome ∧ outcome.isSuccess = true

/-- Whether a transport refuses to start, or the probe is answered and without success. -/
def Behaviour.fails (b : Behaviour) : Prop :=
  b.refusal.isSome ∨
    ∃ outcome, (b.cue 0).effect = .answer outcome ∧ outcome.isSuccess = false

namespace Run

open Timeline

variable {p : Plan} {b : Behaviour} {built : List Behaviour} {t : Timeline} {i : Nat}

/-! ## The transports -/

/-- No failure means that all transports were built. -/
theorem of_buildFrom {build : Nat → Except Failure Behaviour} {k count : Nat}
    {bs : List Behaviour} (h : buildFrom build k count = (bs, none)) :
    bs.length = count ∧ ∀ j < count, ∃ b, build (k + j) = .ok b := by
  induction count generalizing k bs with
  | zero =>
    obtain ⟨rfl, -⟩ := Prod.mk.inj h
    exact ⟨rfl, fun j hj => absurd hj (Nat.not_lt_zero j)⟩
  | succ count ih =>
    unfold buildFrom at h
    cases hb : build k with
    | error e => simp [hb] at h
    | ok b =>
      simp only [hb, Prod.mk.injEq] at h
      obtain ⟨rfl, hn⟩ := h
      obtain ⟨hl, hrest⟩ := ih (Prod.ext rfl hn)
      refine ⟨congrArg (· + 1) hl, fun j hj => ?_⟩
      cases j with
      | zero => exact ⟨b, hb⟩
      | succ j =>
        rw [show k + (j + 1) = k + 1 + j by omega]
        exact hrest j (Nat.lt_of_succ_lt_succ hj)

theorem buildFrom_error {build : Nat → Except Failure Behaviour} {k count m : Nat} {e : Failure}
    (hok : ∀ j < m, ∃ b, build (k + j) = .ok b) (he : build (k + m) = .error e)
    (hm : m < count) : ∃ bs, buildFrom build k count = (bs, some e) ∧ bs.length = m := by
  induction count generalizing k m with
  | zero => exact absurd hm (Nat.not_lt_zero m)
  | succ count ih =>
    cases m with
    | zero => exact ⟨[], by simp only [buildFrom, show build k = .error e from he], rfl⟩
    | succ m =>
      obtain ⟨b, hb⟩ := hok 0 (Nat.succ_pos m)
      have hnext : ∀ j, k + 1 + j = k + (j + 1) := fun j => by omega
      obtain ⟨bs, hbs, hl⟩ := ih (k := k + 1) (m := m)
        (fun j hj => hnext j ▸ hok (j + 1) (Nat.succ_lt_succ hj)) (hnext m ▸ he)
        (Nat.lt_of_succ_lt_succ hm)
      exact ⟨b :: bs, by simp only [buildFrom, show build k = .ok b from hb, hbs],
        congrArg (· + 1) hl⟩

/-! ## The probe -/

/-- Client 0 when its transport refused to start. -/
def turnedAway (stopOnFailure : Bool) : Chain :=
  ⟨.probe, stopOnFailure, .created, 0, .none, ⟨1, 0, 0, 0⟩, []⟩

/-- Client 0 when it has probed the target. -/
def prober (stopOnFailure : Bool) : Chain :=
  ⟨.probe, stopOnFailure, .started, 0, .none, ⟨1, 1, 0, 0⟩, []⟩

theorem probed_of_refusal {e : Failure} (hr : b.refusal = some e) :
    ∃ t, probed p b = (t, some false) ∧
      t.fleet = .create p.sizing.total [turnedAway p.sizing.stopOnFailure] := by
  refine ⟨_, by simp only [probed, hr, Option.isSome_some, if_true]; rfl, rfl⟩

theorem apply_probeRetransmit (f : Fleet) (i count : Nat) :
    f.apply (List.replicate count (.move i .probeRetransmit)) = f := by
  induction count with
  | zero => rfl
  | succ count ih =>
    rw [List.replicate_succ, Fleet.apply_cons]
    exact (congrArg (Fleet.apply · _) Fleet.act_id).trans ih

theorem probed_of_answer {outcome : Outcome} (hr : b.refusal = none)
    (he : (b.cue 0).effect = .answer outcome) :
    ∃ t, probed p b = (t, some outcome.isSuccess) ∧
      t.fleet = .create p.sizing.total [prober p.sizing.stopOnFailure] ∧
      t.interrupted = false := by
  refine ⟨_, by simp only [probed, hr, he, Option.isSome_none, Bool.false_eq_true, if_false]; rfl,
    ?_, rfl⟩
  simp only [Timeline.apply, Fleet.apply_cons, apply_probeRetransmit]
  rfl

theorem probed_of_passes (hb : b.passes) :
    ∃ t, probed p b = (t, some true) ∧
      t.fleet = .create p.sizing.total [prober p.sizing.stopOnFailure] := by
  obtain ⟨hr, outcome, he, ho⟩ := hb
  obtain ⟨t, ht, hf, -⟩ := probed_of_answer (p := p) hr he
  exact ⟨t, ho ▸ ht, hf⟩

theorem probed_of_silence (hr : b.refusal = none)
    (he : ∀ outcome, (b.cue 0).effect ≠ .answer outcome) : (probed p b).2 = none := by
  cases hc : (b.cue 0).effect with
  | answer outcome => exact absurd hc (he outcome)
  | _ => simp [probed, hr, hc]

/-- A probe succeeds with an answer only, and leaves client 0 started, with one exchange. -/
theorem of_probed (h : probed p b = (t, some true)) :
    b.passes ∧ t.fleet = .create p.sizing.total [prober p.sizing.stopOnFailure] := by
  cases hr : b.refusal with
  | some e =>
    obtain ⟨t', ht, -⟩ := probed_of_refusal (p := p) hr
    simp [h] at ht
  | none =>
    cases he : (b.cue 0).effect with
    | answer outcome =>
      obtain ⟨t', ht, hf, -⟩ := probed_of_answer (p := p) hr he
      rw [h] at ht
      obtain ⟨rfl, hs⟩ := Prod.mk.inj ht
      exact ⟨⟨hr, outcome, he, (Option.some.inj hs).symm⟩, hf⟩
    | _ =>
      have hs := probed_of_silence (p := p) hr (by simp [he])
      simp [h] at hs

/-! ## The others -/

/-- The timeline of a run when all its clients are built and, if they can be, started. -/
def assembled (p : Plan) (built : List Behaviour) (t : Timeline) : Timeline :=
  (t.apply (enrolment p (built.length - 1))).apply (muster built)

theorem apply_enrolment (p : Plan) (f : Fleet) (count : Nat) :
    f.apply (enrolment p count)
      = ⟨f.counters,
        f.chains ++ (List.range count).map fun k => .create ⟨k + 1⟩ p.sizing.stopOnFailure⟩ := by
  unfold enrolment
  induction count with
  | zero => simp
  | succ count ih =>
    rw [List.range_succ, List.map_append, Fleet.apply_append, ih, List.map_append,
      ← List.append_assoc]
    rfl

/-- The numbers of the clients behind client 0. -/
theorem drop_range (count : Nat) : (List.range count).drop 1 = List.range' 1 (count - 1) := by
  rw [List.range_eq_range', List.drop_range']

theorem getElem?_enrolled {c : Chain} (ht : t.fleet.chains = [c]) {count : Nat}
    (hi : i < count) :
    (t.apply (enrolment p count)).fleet.chains[i + 1]?
      = some (.create ⟨i + 1⟩ p.sizing.stopOnFailure) := by
  simp [Timeline.apply, apply_enrolment, ht, hi]

theorem fleet_assembled (p : Plan) (built : List Behaviour) (t : Timeline) :
    (assembled p built t).fleet
      = (((t.apply (enrolment p (built.length - 1))).fleet.apply
          (((List.range built.length).drop 1).flatMap fun i =>
            [.start (transport built i).refusal].map (.move i))).apply
          ((((List.range built.length).drop 1).filter fun i =>
            (transport built i).refusal.isSome).flatMap fun i => Move.stop.map (.move i))) := by
  unfold assembled muster
  dsimp only
  rw [List.map_eq_flatMap]
  exact Fleet.apply_append _ _ _

/-- A client behind client 0 is built and asked to start, and stopped if it does not. -/
theorem getElem?_assembled {c : Chain} (ht : t.fleet.chains = [c])
    (hi : i + 1 < built.length) :
    let asked := (Chain.start (transport built (i + 1)).refusal
      (.create ⟨i + 1⟩ p.sizing.stopOnFailure)).1
    ∃ n, (assembled p built t).fleet.chains[i + 1]?
      = some (if (transport built (i + 1)).refusal.isSome
          then (Move.runAll Move.stop (asked, n)).1 else asked) := by
  intro asked
  have hmem : i + 1 ∈ (List.range built.length).drop 1 := by
    rw [drop_range, List.mem_range'_1]
    omega
  have hnd : ((List.range built.length).drop 1).Nodup :=
    List.nodup_range.sublist (List.drop_sublist 1 _)
  obtain ⟨n, hs⟩ := Fleet.getElem?_apply_of_mem
    (fun i => [.start (transport built i).refusal]) hnd hmem
    (getElem?_enrolled (p := p) ht (show i < built.length - 1 by omega))
  rw [fleet_assembled]
  cases hr : (transport built (i + 1)).refusal.isSome with
  | true =>
    obtain ⟨n, hn⟩ := Fleet.getElem?_apply_of_mem (fun _ => Move.stop)
      (hnd.sublist List.filter_sublist)
      (List.mem_filter (p := fun i => (transport built i).refusal.isSome) |>.2 ⟨hmem, hr⟩) hs
    exact ⟨n, hn⟩
  | false =>
    refine ⟨n, ?_⟩
    rw [Fleet.getElem?_apply_of_not_mem (fun _ => Move.stop) (by simp [hr]), hs]
    rfl

/-- Nothing happens to client 0 in the meantime. -/
theorem getElem?_assembled_zero {c : Chain} (ht : t.fleet.chains = [c]) :
    (assembled p built t).fleet.chains[0]? = some c := by
  rw [fleet_assembled, Fleet.getElem?_apply_of_not_mem (fun _ => Move.stop) (by simp),
    Fleet.getElem?_apply_of_not_mem (fun i => [.start (transport built i).refusal]) (by simp)]
  simp [Timeline.apply, apply_enrolment, ht]

theorem length_assembled (p : Plan) (built : List Behaviour) {c : Chain}
    (ht : t.fleet.chains = [c]) :
    (assembled p built t).fleet.chains.length = built.length - 1 + 1 := by
  rw [fleet_assembled, Fleet.length_moves (fun _ => Move.stop),
    Fleet.length_moves (fun i => [.start (transport built i).refusal])]
  simp [Timeline.apply, apply_enrolment, ht]

/-- All clients are there, each in its place, and each was started once. -/
theorem entries_assembled {c : Chain} (ht : t.fleet.chains = [c])
    (hc : c.entry = (⟨0⟩, p.sizing.stopOnFailure, 1)) (hb : 0 < built.length) :
    (assembled p built t).fleet.chains.map Chain.entry
      = (List.range built.length).map fun k => (⟨k⟩, p.sizing.stopOnFailure, 1) := by
  refine List.ext_getElem? fun i => ?_
  rw [List.getElem?_map, List.getElem?_map]
  by_cases hi : i < built.length
  · rw [List.getElem?_range hi]
    cases i with
    | zero => rw [getElem?_assembled_zero ht, Option.map_some, hc]; rfl
    | succ i =>
      have he : (Chain.start (transport built (i + 1)).refusal
          (.create ⟨i + 1⟩ p.sizing.stopOnFailure)).1.entry
            = (⟨i + 1⟩, p.sizing.stopOnFailure, 1) := by
        cases (transport built (i + 1)).refusal <;> rfl
      obtain ⟨n, hn⟩ := getElem?_assembled (p := p) ht hi
      rw [hn, Option.map_some, Option.map_some]
      split
      · rw [Move.entry_runAll_stop, he]
      · rw [he]
  · have hl := length_assembled p built ht
    rw [List.getElem?_eq_none (by omega), List.getElem?_eq_none (by simp; omega)]
    rfl

end Run

end LoadHarness
