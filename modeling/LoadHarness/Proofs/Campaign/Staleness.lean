import LoadHarness.Proofs.Campaign.Logbook
import LoadHarness.Proofs.Campaign.Report
import LoadHarness.Proofs.Report.Progress

/-!
# When a run is stale

A sample compares counters, and what it finds is said of the clients : it shows a stale run if
something was accounted for, but nothing since the look before, or if no client is present in the
count of active ones any more (`Look.Stagnant`). The budget is read first and the active clients
last, and other steps lie in between, but no counter goes back, so that holds of any two looks of
which the later one comes from the earlier one by moves of the clients (`Look.isStale_iff`).

So a run is stale at the first of its samples that finds it stagnant, and every sample before is
printed as one line (`Campaign.stale_iff_stagnant`).
-/

namespace LoadHarness

namespace Look

variable {before sample : Look} {expected : Nat}

/-- Nothing was accounted for between two looks, though something had been before, or no client is
counted as active. -/
def Stagnant (before sample : Look) : Prop :=
  0 < sample.budget.sent ∧ sample.budget.sent = before.budget.sent ∨
    ∀ c ∈ sample.active.chains, c.presence = 0

/-- The same, where no stop is half done. -/
def Stalled (before sample : Look) : Prop :=
  0 < sample.budget.sent ∧ sample.budget.sent = before.budget.sent ∨
    ∀ c ∈ sample.active.chains, c.stage ≠ .running

theorem stagnant_iff_stalled (h : sample.active.AtRest) :
    before.Stagnant sample ↔ before.Stalled sample := by
  refine or_congr Iff.rfl (forall_congr' fun c => forall_congr' fun hc => ?_)
  rw [Chain.presence, h c hc]
  by_cases hs : c.stage = .running <;> simp [hs]

theorem not_stagnant {c : Chain} (hsent : sample.budget.sent = 0) (hc : c ∈ sample.active.chains)
    (hrunning : c.stage = .running) : ¬before.Stagnant sample := by
  rintro (⟨hpos, -⟩ | hnone)
  · omega
  · have hpresence := hnone c hc
    simp [Chain.presence, hrunning] at hpresence

/-- What the counters show of two looks. -/
theorem isStale_iff (hb : before.budget.Sampled expected) (hs : sample.active.Sampled expected)
    (hw : before.Leads sample) :
    isStale sample.snapshot (sample.snapshot.since before.snapshot) expected = true ↔
      before.Stagnant sample := by
  have hbudget : before.budget.Walks sample.budget := hw _ (by simp [moments]) _ (by simp [moments])
  have hle := hbudget.precedes.remaining
  have hbefore := hb.books
  have hsample := (hb.walks hbudget).books
  rw [isStale, Bool.or_eq_true, Bool.and_eq_true, beq_iff_eq, beq_iff_eq, decide_eq_true_eq]
  refine or_congr (Iff.intro (fun h => ?_) fun h => ?_) hs.active_eq_zero_iff
  · simp only [Counters.since, snapshot] at h
    omega
  · simp only [Counters.since, snapshot]
    omega

end Look

namespace Campaign

variable {p : Plan} {f : Fleet} {c : Campaign} {looks : List Look} {before sample : Look} {k : Nat}

/-- The sample was the last one, and found the run stale. -/
def StaleAt (c : Campaign) (looks : List Look) (k : Nat) : Prop :=
  c.ending? = some .stale ∧ looks.length = k + 1

theorem length_told (h : c.ending? = some .stale) (looks : List Look) :
    (c.told looks).length = looks.length - 1 := by
  rw [told_of_stale h, List.length_dropLast]

/-- A window of a stale run is that of the last sample, or it was not told of. -/
theorem Told.staleAt (h : Told p c looks) (hb : looks[k]? = some before)
    (hs : looks[k + 1]? = some sample)
    (hstale : isStale sample.snapshot (sample.snapshot.since before.snapshot) p.sizing.total
      = true) : c.StaleAt looks (k + 1) := by
  have hlt : k + 1 < looks.length := (List.getElem?_eq_some_iff.1 hs).1
  have hkept (hshown : (c.told looks)[k + 1]? = some sample)
      (hbefore : (c.told looks)[k]? = some before) : False := by
    have hwindow := List.mem_of_getElem? (Look.getElem?_windows hbefore hshown)
    exact absurd (h.fresh _ hwindow) (by simp [Look.window, hstale])
  by_cases hending : c.ending? = some .stale
  · refine ⟨hending, ?_⟩
    by_contra hne
    rw [told_of_stale hending] at hkept
    refine hkept ?_ ?_ <;> rw [List.getElem?_dropLast, if_pos (by omega)] <;> assumption
  · rw [show c.told looks = looks from if_neg hending] at hkept
    exact (hkept hs hb).elim

theorem Told.of_staleAt (h : Told p c looks) (hb : looks[k]? = some before)
    (hs : looks[k + 1]? = some sample) (hstale : c.StaleAt looks (k + 1)) :
    isStale sample.snapshot (sample.snapshot.since before.snapshot) p.sizing.total = true := by
  obtain ⟨hending, hlength⟩ := hstale
  obtain ⟨b, s, hlooks, hlast, hs'⟩ := h.stale hending
  have htold : (c.told looks).length = k + 1 := by
    rw [length_told hending, hlength]
    rfl
  rw [hlooks, List.getElem?_append_right (Nat.le_of_eq htold), htold, Nat.sub_self] at hs
  rw [hlooks, List.getElem?_append_left (by omega)] at hb
  rw [List.getLast?_eq_getElem?, htold, Nat.add_sub_cancel, hb] at hlast
  obtain rfl := Option.some.inj hs
  obtain rfl := Option.some.inj hlast
  exact hs'

/-- What a sample finds is said of the clients. -/
theorem Observed.isStale_iff {b : Logbook} (h : Observed f c b) (hf : f.Sampled p.sizing.total)
    (hb : b.looks[k]? = some before) (hs : b.looks[k + 1]? = some sample) :
    isStale sample.snapshot (sample.snapshot.since before.snapshot) p.sizing.total = true ↔
      before.Stagnant sample := by
  have hbefore : f.Walks before.budget :=
    (h.walks_of_mem (List.mem_of_getElem? hb) (by simp [Look.moments])).1
  have hsample : f.Walks sample.active :=
    (h.walks_of_mem (List.mem_of_getElem? hs) (by simp [Look.moments])).1
  exact Look.isStale_iff (hf.walks hbefore) (hf.walks hsample) (h.leads hb hs)

/-- When a run is stale, whatever everybody does before the first look, in the middle of a look,
between the looks and after them. The sample of number `k` is the look after the first one and `k`
others. -/
theorem stale_iff_stagnant (hf : f.Ready p.sizing) (now : Nat) (steps : List Step) :
    let c := (start p f now).apply p steps
    let looks := (start p f now).looks p steps
    let lines := (Look.windows (c.told looks)).map (Window.line p.settings.interval)
    (∀ k before sample, looks[k]? = some before → looks[k + 1]? = some sample →
      (c.StaleAt looks (k + 1) ↔ before.Stagnant sample ∧
        ∀ j < k, ∀ b s, looks[j]? = some b → looks[j + 1]? = some s → ¬b.Stagnant s) ∧
      (sample.active.AtRest → (before.Stagnant sample ↔ before.Stalled sample)) ∧
      (sample.budget.sent = 0 → (∃ d ∈ sample.active.chains, d.stage = .running) →
        ¬c.StaleAt looks (k + 1))) ∧
    (c.ending? = some .stale → ∃ k, c.StaleAt looks (k + 1)) ∧
    c.printed = c.opening p ++ lines ++ c.closing ∧ lines.length = (c.told looks).length - 1 ∧
    ∀ k before sample, (c.told looks)[k]? = some before → (c.told looks)[k + 1]? = some sample →
      ∃ line, lines[k]? = some line ∧ ∀ w : Window, w.line p.settings.interval = line →
        w.activity = sample.snapshot.since before.snapshot ∧
          w.current.active = sample.active.counters.active := by
  intro c looks lines
  have htold : Told p c looks := told_apply p f now steps
  have hstagnant : ∀ {k before sample}, looks[k]? = some before → looks[k + 1]? = some sample →
      (isStale sample.snapshot (sample.snapshot.since before.snapshot) p.sizing.total = true ↔
        before.Stagnant sample) :=
    (observed_apply p f now steps).isStale_iff hf.sampled
  refine ⟨fun k before sample hb hs => ⟨⟨fun h => ?_, fun h => ?_⟩, Look.stagnant_iff_stalled,
    fun hsent ⟨d, hd, hrunning⟩ h => ?_⟩, fun hending => ?_, htold.printed, ?_,
    fun k before sample hb hs => ?_⟩
  · refine ⟨(hstagnant hb hs).1 (htold.of_staleAt hb hs h), fun j hj b s hb' hs' hstagnant' => ?_⟩
    have hearlier := htold.staleAt hb' hs' ((hstagnant hb' hs').2 hstagnant')
    have hlength := hearlier.2.symm.trans h.2
    omega
  · exact htold.staleAt hb hs ((hstagnant hb hs).2 h.1)
  · exact Look.not_stagnant hsent hd hrunning ((hstagnant hb hs).1 (htold.of_staleAt hb hs h))
  · obtain ⟨before, sample, hlooks, hlast, -⟩ := htold.stale hending
    obtain ⟨earlier, htold⟩ := List.getLast?_eq_some_iff.1 hlast
    exact ⟨earlier.length, hending, (congrArg List.length hlooks).trans (by simp [htold])⟩
  · simp [lines, Look.windows]
  · have hwindow := Look.getElem?_windows hb hs
    refine ⟨(before.window sample).line p.settings.interval, ?_, fun w hw => ?_⟩
    · rw [List.getElem?_map, hwindow]
      rfl
    · exact Report.progressLine_inj hw

/-- Both clients begin, and client 0 has its answer before the manager looks for the first time.
Nobody answers in the interval that follows. -/
def eagerSteps : List Step :=
  [.proceed, .move 0 .first, .proceed, .move 1 .first, .move 0 (.resolve (.response ⟨200, ""⟩))]
    ++ List.replicate 8 .proceed ++ [.pass 250000000, .timer] ++ List.replicate 4 .proceed

theorem stale_iff_stagnant_eagerSteps :
    let c := (start pairPlan pairFleet 0).apply pairPlan eagerSteps
    let looks := (start pairPlan pairFleet 0).looks pairPlan eagerSteps
    pairFleet.Ready pairPlan.sizing ∧ ∃ before sample, looks = [before, sample] ∧
      c.StaleAt looks 1 ∧ before.Stagnant sample ∧ before.Stalled sample := by
  intro c looks
  have hstale : c.StaleAt looks 1 := by
    constructor <;> decide +kernel
  have hrest : ∀ l ∈ looks, l.active.AtRest := by
    unfold Fleet.AtRest
    decide +kernel
  obtain ⟨before, sample, hlooks⟩ := List.length_eq_two.1 hstale.2
  obtain ⟨hsamples, -⟩ := stale_iff_stagnant ready_pairFleet 0 eagerSteps
  have hfirst : looks[0]? = some before := by rw [hlooks]; rfl
  have hsecond : looks[1]? = some sample := by rw [hlooks]; rfl
  obtain ⟨hiff, hstalled, -⟩ := hsamples 0 before sample hfirst hsecond
  have hstagnant := (hiff.1 hstale).1
  refine ⟨ready_pairFleet, before, sample, hlooks, hstale, hstagnant, ?_⟩
  exact (hstalled (hrest sample (List.mem_of_getElem? hsecond))).1 hstagnant

/-- Both clients fail at once, and their transports take their time to stop. -/
def lingeringSteps : List Step :=
  List.replicate 9 .proceed ++ [.move 0 .first, .move 1 .first, .move 0 (.resolve .noResponse),
    .move 1 (.resolve .noResponse), .move 0 .leave, .move 1 .leave, .pass 250000000, .timer]
    ++ List.replicate 4 .proceed

/-- The interval is over, and both clients have their answers, and are gone, before the manager reads
the counters. -/
def overtakenSteps : List Step :=
  let answer (i : Nat) : Step := .move i (.resolve (.response ⟨200, ""⟩))
  List.replicate 9 .proceed ++ [.move 0 .first, .move 1 .first, .pass 250000000, .timer]
    ++ [answer 0, answer 1, .wake, answer 0, .move 0 .leave, .move 1 .leave]
    ++ List.replicate 4 (.move 0 .tearDown) ++ List.replicate 4 (.move 1 .tearDown)
    ++ List.replicate 4 .proceed

/-- A sample goes by what the counters say. A client whose transport is being stopped counts as
active : no client runs at the sample of the first run, which is not found stale. And the second run
is found stale by a sample that finds the budget spent. -/
theorem sample_of_counters :
    let lingering := (start pairPlan pairFleet 0).apply pairPlan lingeringSteps
    let overtaken := (start pairPlan pairFleet 0).apply pairPlan overtakenSteps
    let states (looks : List Look) :=
      looks.map fun l => l.moments.map fun f => f.chains.map Chain.stage
    pairFleet.Ready pairPlan.sizing ∧
      (lingering.ending? = none ∧
        states ((start pairPlan pairFleet 0).looks pairPlan lingeringSteps)
          = [List.replicate 4 [.running, .running], List.replicate 4 [.stopped, .stopped]] ∧
        lingering.printed.length = 4) ∧
      overtaken.ending? = some .stale ∧
        ((start pairPlan pairFleet 0).looks pairPlan overtakenSteps).map Look.snapshot
          = [⟨2, 0, 0, 2⟩, ⟨0, 0, 0, 0⟩] := by
  refine ⟨ready_pairFleet, ?_⟩
  decide +kernel

end Campaign

end LoadHarness
