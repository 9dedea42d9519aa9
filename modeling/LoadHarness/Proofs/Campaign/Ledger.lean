import LoadHarness.Proofs.Campaign.Logbook
import LoadHarness.Proofs.Campaign.Report
import LoadHarness.Proofs.Report.Progress

/-!
# What the progress lines add up to

No counter of a run goes back, so what is shown of the time between two looks is never cut off at
zero, and is the whole change between them. All windows together show the change from the first look
to the last one that was told of (`Look.spans_windows`), as a line shows its window
(`Report.progressLine_inj`).

So whatever the clients do between the looks and in the middle of them, the progress lines of a run,
what happened before the first look and what happened after the last one make up what the report
says, and nothing is shown twice or left out (`Campaign.progress_adds_up`).
-/

namespace LoadHarness

/-- What a report says of the activity of a run. -/
def Report.activity (r : Report) : Delta := ⟨r.sent, r.retransmissions, r.errors⟩

/-- A report says what was taken from the budget, and what was counted besides. -/
theorem Run.activity_report {p : Plan} {d : Delta} {first : Snapshot} {f : Fleet} (ending : Ending)
    (time : Nat) (hfirst : first.figures = (p.sizing.total, 0, 0)) (hd : d.Spans first f.counters) :
    (report p ending time f).activity = d := by
  simp only [Counters.figures, Prod.mk.injEq] at hfirst
  obtain ⟨hremaining, hretransmissions, herrors⟩ := hfirst
  -- The report counts what was sent by what is left, and the change goes the other way.
  have hsent : p.sizing.total - f.counters.remaining = d.sent := by
    rw [← hremaining, ← hd.sent, Nat.add_sub_cancel_left]
  have hretransmitted := hd.retransmissions
  have hfailed := hd.errors
  rw [hretransmissions, Nat.zero_add] at hretransmitted
  rw [herrors, Nat.zero_add] at hfailed
  simp only [Report.activity, report, hsent, ← hretransmitted, ← hfailed]

namespace Look

variable {f : Fleet} {first l : Look} {looks : List Look}

/-- A look comes after all that its moments come after. -/
theorem precedes_snapshot (h : ∀ g ∈ l.moments, f.Walks g) : f.counters.Precedes l.snapshot :=
  ⟨(h l.budget (by simp [moments])).precedes.remaining,
    (h l.repeated (by simp [moments])).precedes.retransmissions,
    (h l.failed (by simp [moments])).precedes.errors⟩

theorem snapshot_precedes (h : ∀ g ∈ l.moments, g.Walks f) : l.snapshot.Precedes f.counters :=
  ⟨(h l.budget (by simp [moments])).precedes.remaining,
    (h l.repeated (by simp [moments])).precedes.retransmissions,
    (h l.failed (by simp [moments])).precedes.errors⟩

theorem Leads.spans {before now : Look} (h : before.Leads now) :
    (before.window now).activity.Spans before.snapshot now.snapshot :=
  Delta.spans_since h.precedes

/-- All windows together show the change from the first look to the last. -/
theorem spans_windows {last : Look} (h : (first :: looks).Pairwise Leads)
    (hlast : (first :: looks).getLast? = some last) :
    (Delta.total ((windows (first :: looks)).map Window.activity)).Spans first.snapshot
      last.snapshot := by
  induction looks generalizing first with
  | nil =>
    obtain rfl := Option.some.inj hlast
    exact ⟨rfl, rfl, rfl⟩
  | cons l looks ih =>
    obtain ⟨hfirst, htail⟩ := List.pairwise_cons.1 h
    rw [List.getLast?_cons_cons] at hlast
    exact (hfirst l List.mem_cons_self).spans.add (ih htail hlast)

end Look

/-- Windows that are printed alike show the same. -/
theorem Window.activities_eq {interval : Duration} {ws ws' : List Window}
    (h : ws.map (line interval) = ws'.map (line interval)) :
    ws.map activity = ws'.map activity := by
  induction ws generalizing ws' with
  | nil =>
    rw [List.map_nil, eq_comm, List.map_eq_nil_iff] at h
    rw [h]
  | cons w ws ih =>
    cases ws' with
    | nil => exact nomatch h
    | cons w' ws' =>
      obtain ⟨hline, hlines⟩ := List.cons.inj h
      exact congrArg₂ List.cons (Report.progressLine_inj hline).1 (ih hlines)

namespace Campaign

variable {p : Plan} {f : Fleet} {c : Campaign} {looks : List Look}

/-- Once a manager has waited, it has told of a look. -/
theorem Told.ne_nil (h : Told p c looks) (hc : ¬c.IsEarly) : c.told looks ≠ [] := by
  intro hnil
  have hlast := h.last
  rw [hnil] at hlast
  exact hc (h.early hlast)

/-- What the progress lines of a run add up to, whatever everybody does before the first look, in the
middle of a look, between the looks and after them. Each line shows the whole change between two
looks that follow each other, and no other window has the same line. -/
theorem progress_adds_up (hf : f.Ready p.sizing) (now : Nat) (steps : List Step) {v : Verdict}
    {r : Report} (h : ((start p f now).apply p steps).phase = .ended v (.report r)) :
    let c := (start p f now).apply p steps
    let told := c.told ((start p f now).looks p steps)
    let windows := Look.windows told
    c.printed = c.opening p ++ windows.map (Window.line p.settings.interval)
      ++ (Conclusion.report r).lines ∧
    (∀ others : List Window,
      others.map (Window.line p.settings.interval) = windows.map (Window.line p.settings.interval) →
        others.map Window.activity = windows.map Window.activity) ∧
    (∀ k before sample, told[k]? = some before → told[k + 1]? = some sample →
      windows[k]? = some (before.window sample) ∧
        (before.window sample).activity.Spans before.snapshot sample.snapshot) ∧
    ∃ first last, told.head? = some first ∧ told.getLast? = some last ∧
      let before := first.snapshot.since f.counters
      let shown := Delta.total (windows.map Window.activity)
      let rest := c.fleet.counters.since last.snapshot
      before.Spans f.counters first.snapshot ∧ shown.Spans first.snapshot last.snapshot ∧
        rest.Spans last.snapshot c.fleet.counters ∧
        (shown.add rest).Spans first.snapshot c.fleet.counters ∧
        r.activity = before.add (shown.add rest) := by
  intro c told windows
  have htold : Told p c _ := told_apply p f now steps
  have hobserved : Observed f c _ := observed_apply p f now steps
  have hsublist : told.Sublist ((start p f now).looks p steps) := by
    rw [show told = c.told _ from rfl, Campaign.told]
    split
    case isTrue => exact List.dropLast_sublist _
    case isFalse => exact .refl _
  have hleads : told.Pairwise Look.Leads := hobserved.pairwise.sublist hsublist
  have hwalks : ∀ {l g}, l ∈ told → g ∈ l.moments → f.Walks g ∧ g.Walks c.fleet :=
    fun hl => hobserved.walks_of_mem (hsublist.subset hl)
  refine ⟨?_, fun others => Window.activities_eq, fun k before sample hb hs => ?_, ?_⟩
  · have hprinted := htold.printed
    rwa [show c.closing = (Conclusion.report r).lines by rw [closing, h]] at hprinted
  · obtain ⟨hk, rfl⟩ := List.getElem?_eq_some_iff.1 hb
    obtain ⟨hk', rfl⟩ := List.getElem?_eq_some_iff.1 hs
    exact ⟨Look.getElem?_windows hb hs,
      (List.pairwise_iff_getElem.1 hleads k (k + 1) hk hk' (Nat.lt_succ_self k)).spans⟩
  · have hne : told ≠ [] := htold.ne_nil (by simp [IsEarly, c, h])
    obtain ⟨first, looks, hfirst⟩ := List.exists_cons_of_ne_nil hne
    obtain ⟨last, hlast⟩ : ∃ last, told.getLast? = some last :=
      ⟨told.getLast hne, List.getLast?_eq_some_getLast hne⟩
    have hbefore := Delta.spans_since
      (Look.precedes_snapshot fun g hg => (hwalks (l := first) (by simp [hfirst]) hg).1)
    have hrest := Delta.spans_since
      (Look.snapshot_precedes fun g hg => (hwalks (List.mem_of_getLast? hlast) hg).2)
    have hshown : (Delta.total (windows.map Window.activity)).Spans first.snapshot
        last.snapshot := by
      have hwindows : windows = Look.windows (first :: looks) := congrArg Look.windows hfirst
      rw [hwindows]
      exact Look.spans_windows (hfirst ▸ hleads) (hfirst ▸ hlast)
    refine ⟨first, last, by rw [hfirst]; rfl, hlast, hbefore, hshown, hrest, hshown.add hrest, ?_⟩
    obtain ⟨-, hconclusion⟩ := reported_apply p f now steps v _ h
    rw [Report.eq_of_conclusion hconclusion.symm]
    exact Run.activity_report _ _ hf.figures (hbefore.add (hshown.add hrest))

/-- One window is shown, after a request that the manager sees at its first look, and before two that
it never sees. -/
theorem progress_adds_up_mixedSteps :
    let c := (start Run.mixedPlan mixedFleet 0).apply Run.mixedPlan mixedSteps
    let windows := Look.windows
      (c.told ((start Run.mixedPlan mixedFleet 0).looks Run.mixedPlan mixedSteps))
    mixedFleet.Ready Run.mixedPlan.sizing ∧ windows.map Window.activity = [⟨1, 1, 1⟩] ∧
      ∃ v r, c.phase = .ended v (.report r) ∧ r.activity = ⟨4, 1, 1⟩ ∧
        ∃ first last : Look, r.activity = (first.snapshot.since mixedFleet.counters).add
          ((Delta.total (windows.map Window.activity)).add
            (c.fleet.counters.since last.snapshot)) := by
  have hended : ((start Run.mixedPlan mixedFleet 0).apply Run.mixedPlan mixedSteps).phase.report?.map
      Report.activity = some ⟨4, 1, 1⟩ := by decide +kernel
  obtain ⟨v, r, hp, hactivity⟩ := Phase.of_report? hended
  obtain ⟨-, -, -, first, last, -, -, -, -, -, -, hsum⟩ :=
    progress_adds_up ready_mixedFleet 0 mixedSteps hp
  exact ⟨ready_mixedFleet, by decide +kernel, v, r, hp, hactivity, first, last, hsum⟩

end Campaign

end LoadHarness
