import LoadHarness.Proofs.Run.Crew

/-!
# Runs that come to a report

A run is launched if all transports are built and the probe succeeds (`record_of_assembled`), and
only a run that was launched and watched to an end comes to a report (`of_record_report`). By
then all its clients are there, each in its place and started once (`entries_of_report`), each has
been stopped and let go of its transport once, and nobody is active (`gone_of_report`).
-/

namespace LoadHarness

/-- A run that comes to a report comes to the one that was made of it. -/
theorem Report.eq_of_conclusion {r r' : Report} (h : r.conclusion = .report r') : r' = r := by
  unfold Report.conclusion at h
  split at h
  · exact nomatch h
  · exact (Conclusion.report.inj h).symm

namespace Run

open Timeline

variable {p : Plan} {b : Behaviour} {t : Timeline}

/-! ## The way to a report -/

/-- A run whose transports are all built and whose probe succeeds is launched. -/
theorem record_of_assembled {build : Nat → Except Failure Behaviour} {bs : List Behaviour}
    (samples : Nat) (h0 : build 0 = .ok b) (hp : probed p b = (t, some true))
    (hb : buildFrom build 1 (p.sizing.clients.toNat - 1) = (bs, none)) :
    record p build samples
      = launch p (b :: bs) samples
        [announcement p, "Benchmark clients created.", "Benchmark started."]
        (assembled p (b :: bs) t) := by
  simp only [record, h0, hp, hb]
  rfl

theorem traced_assembled (h : probed p b = (t, some true)) (bs : List Behaviour) :
    Traced (.create p.sizing.total []) (assembled p (b :: bs) t) := by
  have hp := traced_probed p b
  rw [h] at hp
  exact (hp.apply _ (isInner_enrolment p _)).apply _ (isInner_muster (b :: bs))

theorem report_of_concluded {before : List String} {ending : Ending} {w : Watch} {r : Report}
    (h : (concluded p before ending w).conclusion = .report r) :
    r = report p ending w.timeline.now w.timeline.fleet.stopAll :=
  Report.eq_of_conclusion h

/-- A run that comes to a report was launched and watched to an end. -/
theorem of_record_report {build : Nat → Except Failure Behaviour} {samples : Nat} {r : Report}
    (h : (record p build samples).conclusion = .report r) :
    ∃ b bs t w ending, build 0 = .ok b ∧ probed p b = (t, some true) ∧
      buildFrom build 1 (p.sizing.clients.toNat - 1) = (bs, none) ∧
      watched p (b :: bs) samples (assembled p (b :: bs) t) = (w, some ending) ∧
      (record p build samples).fleet = w.timeline.fleet.stopAll ∧
      r = report p ending w.timeline.now w.timeline.fleet.stopAll := by
  cases h0 : build 0 with
  | error e => simp [record, h0, close] at h
  | ok b =>
    rcases hp : probed p b with ⟨t, passed⟩
    cases passed with
    | none => simp [record, h0, hp, close] at h
    | some passed =>
      cases passed with
      | false => simp [record, h0, hp, close] at h
      | true =>
        rcases hb : buildFrom build 1 (p.sizing.clients.toNat - 1) with ⟨bs, failed⟩
        cases failed with
        | some e => simp [record, h0, hp, hb, close] at h
        | none =>
          rw [record_of_assembled samples h0 hp hb, launch] at h ⊢
          rcases hw : watched p (b :: bs) samples (assembled p (b :: bs) t) with ⟨w, verdict⟩
          rw [hw] at h
          cases verdict with
          | none => simp [close] at h
          | some ending =>
            exact ⟨b, bs, t, w, ending, rfl, hp, rfl, hw, rfl, report_of_concluded h⟩

/-- It had built the transports of all clients, and its probe succeeded. -/
theorem builds_of_report {build : Nat → Except Failure Behaviour} {samples : Nat} {r : Report}
    (h : (record p build samples).conclusion = .report r) :
    ∃ transports : Nat → Behaviour,
      (∀ k < p.sizing.clients.toNat, build k = .ok (transports k)) ∧ (transports 0).passes := by
  obtain ⟨b, bs, t, w, ending, h0, hp, hb, -⟩ := of_record_report h
  have hbuilt : ∀ k < p.sizing.clients.toNat, ∃ b, build k = .ok b := by
    intro k hk
    cases k with
    | zero => exact ⟨b, h0⟩
    | succ k =>
      rw [Nat.add_comm]
      exact (of_buildFrom hb).2 k (by omega)
  refine ⟨fun k => (build k).toOption.getD b, fun k hk => ?_, ?_⟩
  · obtain ⟨c, hc⟩ := hbuilt k hk
    simp [hc, Except.toOption]
  · simpa [h0, Except.toOption] using (of_probed hp).1

/-! ## The clients at a report -/

theorem orderly_of_traced (h : Traced (.create p.sizing.total []) t) : t.fleet.Orderly := by
  rw [h.fleet]
  refine (Fleet.orderly_create _).apply fun e he hn => ?_
  have hi := h.inner e he
  simp [hn, Event.isInner] at hi

theorem entries_launched (t : Timeline) :
    (launched t).timeline.fleet.chains.map Chain.entry = t.fleet.chains.map Chain.entry := by
  refine Fleet.entries_apply fun e he => ?_
  obtain ⟨i, -, rfl⟩ := List.mem_map.1 he
  exact ⟨i, .launch, rfl, rfl⟩

/-- A sizing that a run can have has at least one client and one request for each. -/
theorem one_le_of_configure {clients requests : UInt32} {stopOnFailure : Bool} {s : Sizing}
    (h : Sizing.configure clients requests stopOnFailure = .ok s) :
    1 ≤ s.clients.toNat ∧ 1 ≤ s.requests.toNat := by
  unfold Sizing.configure at h
  split at h
  · exact absurd h (by simp)
  · split at h
    · exact absurd h (by simp)
    · rename_i hc hr
      obtain rfl := Except.ok.inj h
      exact ⟨UInt32.le_iff_toNat_le.1 (UInt32.not_lt.1 hc),
        UInt32.le_iff_toNat_le.1 (UInt32.not_lt.1 hr)⟩

variable {build : Nat → Except Failure Behaviour} {samples : Nat} {r : Report}

/-- At a report all clients of the sizing are there, each in its place and started once. -/
theorem entries_of_report (hN : 1 ≤ p.sizing.clients.toNat)
    (h : (record p build samples).conclusion = .report r) :
    (record p build samples).chains.map Chain.entry
      = (List.range p.sizing.clients.toNat).map fun k => (⟨k⟩, p.sizing.stopOnFailure, 1) := by
  obtain ⟨b, bs, t, w, ending, -, hp, hb, hw, hf, -⟩ := of_record_report h
  have hl := (of_buildFrom hb).1
  have hcrew := (leads_watched p (b :: bs) samples (assembled p (b :: bs) t)).entries_eq
  rw [hw, entries_launched, entries_assembled (by rw [(of_probed hp).2]; rfl) rfl (by simp),
    List.length_cons, hl, Nat.sub_add_cancel hN] at hcrew
  rw [Record.chains, hf, Fleet.entries_stopAll]
  exact hcrew

/-- At a report no client has anything left to do, and nobody is active. -/
theorem gone_of_report (h : (record p build samples).conclusion = .report r) :
    (∀ c ∈ (record p build samples).chains, c.Orderly ∧ c.Gone) ∧
      (record p build samples).fleet.counters.active = 0 := by
  obtain ⟨b, bs, t, w, ending, -, hp, -, hw, hf, -⟩ := of_record_report h
  have ht := traced_watched (traced_assembled hp bs) p (b :: bs) samples
  rw [hw] at ht
  have ho := orderly_of_traced ht
  have hs : w.timeline.fleet.stopAll.Orderly := ho.apply (Fleet.enter_not_mem_stopAll _)
  rw [Record.chains, hf]
  exact ⟨fun c hc => ⟨hs.chains c hc, ho.gone_stopAll c hc⟩, ho.active_stopAll⟩

/-! ## A run with all kinds of clients -/

/-- A plan for four clients that tolerate failures, with one request for each. -/
def mixedPlan : Plan := ⟨.quick "http://localhost/", ⟨4, 1, false⟩, ⟨.http, .plain, []⟩⟩

/-- Client 0 answers all requests, every other one with success, client 1 does not start, client 2
dies, and client 3 hangs. -/
def mixedCrew : Nat → Behaviour
  | 0 => ⟨none, fun k =>
      ⟨1, 1, .answer (if k % 2 = 0 then .response ⟨200, ""⟩ else .noResponse)⟩⟩
  | 1 => ⟨some (.transport "refused"), fun _ => .silent⟩
  | 2 => ⟨none, fun _ => ⟨0, 1, .death⟩⟩
  | _ => ⟨none, fun _ => .silent⟩

end Run

/-- How a run ended, if it came to a report. -/
def Conclusion.ending? : Conclusion → Option Ending
  | report r => some r.ending
  | _ => none

theorem Conclusion.of_ending? {c : Conclusion} {e : Ending} (h : c.ending? = some e) :
    ∃ r, c = .report r ∧ r.ending = e := by
  cases c with
  | report r => exact ⟨r, rfl, Option.some.inj h⟩
  | _ => simp [ending?] at h

end LoadHarness
