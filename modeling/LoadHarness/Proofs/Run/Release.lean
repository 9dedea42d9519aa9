import LoadHarness.Proofs.Run.Conclusion

/-!
# What a run leaves of its transports

Every transport that a run built and used is stopped and destroyed once when the run is over,
whichever way it takes out (`transports_released`) : with a report, when the probe fails, or when a
transport cannot be built. A run that cannot build a transport leaves those alone that it built
for the clients behind client 0.
-/

namespace LoadHarness

/-- The client of a chain, and how often its transport was started, stopped and destroyed. -/
def Chain.upkeep (c : Chain) : ClientId × Nat × Nat × Nat :=
  (c.id, c.calls.starts, c.calls.stops, c.calls.destroys)

namespace Run

open Timeline

variable {p : Plan} {b : Behaviour} {build : Nat → Except Failure Behaviour} {samples : Nat}
  {r : Report} {e : Failure}

theorem upkeep_of_report (hN : 1 ≤ p.sizing.clients.toNat)
    (h : (record p build samples).conclusion = .report r) :
    (record p build samples).chains.map Chain.upkeep
      = (List.range p.sizing.clients.toNat).map fun k => (⟨k⟩, 1, 1, 1) := by
  have hentries := congrArg (List.map fun entry : ClientId × Bool × Nat =>
    (entry.1, entry.2.2, 1, 1)) (entries_of_report hN h)
  rw [List.map_map, List.map_map] at hentries
  refine (List.map_congr_left fun c hc => ?_).trans hentries
  obtain ⟨ho, hg⟩ := (gone_of_report h).1 c hc
  obtain ⟨hstops, hdestroys⟩ := ho.released hg
  simp only [Chain.upkeep, hstops, hdestroys]
  rfl

theorem build_of_report (h : (record p build samples).conclusion = .report r) :
    ∀ k < p.sizing.clients.toNat, ∃ b, build k = .ok b := by
  obtain ⟨transports, hb, -⟩ := builds_of_report h
  exact fun k hk => ⟨transports k, hb k hk⟩

/-! ## Runs that are not launched -/

/-- Client 0 is stopped, and nobody else. -/
theorem chains_stop_zero {f : Fleet} {c : Chain} {others : List Chain}
    (hf : f.chains = c :: others) :
    ∃ n, (f.apply (Event.stop 0)).chains = (Move.runAll Move.stop (c, n)).1 :: others := by
  have hc : f.chains[0]? = some c := by rw [hf]; rfl
  refine ⟨f.counters, ?_⟩
  rw [Event.stop, Fleet.apply_moves, Fleet.act_of_some hc, hf]
  rfl

theorem probed_of_fails (hb : b.fails) :
    ∃ t c, probed p b = (t, some false) ∧ t.fleet.chains = [c] ∧
      ∀ n, (Move.runAll Move.stop (c, n)).1.calls.exchanges ≤ 1 ∧
        (Move.runAll Move.stop (c, n)).1.upkeep = (.probe, 1, 1, 1) := by
  cases hr : b.refusal with
  | some e =>
    obtain ⟨t, ht, hf⟩ := probed_of_refusal (p := p) hr
    exact ⟨t, turnedAway p.sizing.stopOnFailure, ht, by rw [hf]; rfl,
      fun n => ⟨Nat.zero_le 1, rfl⟩⟩
  | none =>
    obtain ⟨outcome, he, ho⟩ := hb.resolve_left (by simp [hr])
    obtain ⟨t, ht, hf, -⟩ := probed_of_answer (p := p) hr he
    rw [ho] at ht
    exact ⟨t, prober p.sizing.stopOnFailure, ht, by rw [hf]; rfl,
      fun n => ⟨Nat.le_refl 1, rfl⟩⟩

theorem record_of_fails (samples : Nat) (h0 : build 0 = .ok b) (hb : b.fails) :
    (record p build samples).conclusion = .failure (.probe p.settings.target) ∧
      ∃ c, (record p build samples).chains = [c] ∧ c.calls.exchanges ≤ 1 ∧
        c.upkeep = (.probe, 1, 1, 1) := by
  obtain ⟨t, c, ht, hc, hupkeep⟩ := probed_of_fails (p := p) hb
  obtain ⟨n, hn⟩ := chains_stop_zero hc
  simp only [record, h0, ht]
  exact ⟨rfl, _, hn, hupkeep n⟩

theorem record_of_passes {k : Nat} (samples : Nat) (h0 : build 0 = .ok b) (hb : b.passes)
    (hk : k + 1 < p.sizing.clients.toNat) (hok : ∀ j ≤ k, ∃ b, build j = .ok b)
    (he : build (k + 1) = .error e) :
    (record p build samples).conclusion = .failure e ∧
      ∃ c others, (record p build samples).chains = c :: others ∧
        c.id = .probe ∧ c.calls = ⟨1, 1, 1, 1⟩ ∧
        others.map Chain.id = (List.range k).map (⟨· + 1⟩) ∧
        ∀ d ∈ others, d.calls = ⟨0, 0, 0, 0⟩ := by
  obtain ⟨t, ht, hf⟩ := probed_of_passes (p := p) hb
  have hok' : ∀ j < k, ∃ b, build (1 + j) = .ok b := fun j hj => by
    rw [Nat.add_comm]
    exact hok (j + 1) hj
  rw [Nat.add_comm] at he
  obtain ⟨bs, hbs, hl⟩ := buildFrom_error hok' he (Nat.lt_sub_of_add_lt hk)
  have hc : (t.apply (enrolment p bs.length)).fleet.chains
      = prober p.sizing.stopOnFailure
        :: (List.range bs.length).map fun k => .create ⟨k + 1⟩ p.sizing.stopOnFailure := by
    simp only [Timeline.apply, apply_enrolment, hf]
    rfl
  obtain ⟨n, hn⟩ := chains_stop_zero hc
  simp only [record, h0, ht, hbs]
  refine ⟨rfl, _, _, hn, rfl, rfl, ?_, fun d hd => ?_⟩
  · rw [List.map_map, hl]
    rfl
  · obtain ⟨j, -, rfl⟩ := List.mem_map.1 hd
    rfl

end Run

end LoadHarness
