import LoadHarness.Proofs.Campaign.Shutdown
import LoadHarness.Proofs.Run.Conclusion
import Mathlib.Algebra.Order.BigOperators.Group.List
import Mathlib.Algebra.Order.Ring.Nat
import Mathlib.Data.List.Induction
import Mathlib.Data.List.Sort

/-!
# What a report says

The figures of a report agree with each other and with what the clients did, in whatever order
everybody took their steps (`Campaign.report_sound`) : nothing is sent beyond what was expected, the
clients make up what was sent, and the way a run ended shows in what it sent. The books of the
clients are kept by every walk (`Fleet.Sampled.walks`). When the report is made, the manager has
stopped every client (`Campaign.stopped_apply`) and every task is over (`Campaign.reported_apply`).

A stale run has requests left when its last interval is over. The clients are stopped one after the
other, though, and whoever is yet to be stopped may still account for requests : the report of a
stale run may say that all requests were sent (`Campaign.report_of_stale_complete`).
-/

namespace LoadHarness

namespace Fleet

theorem sum_sent (f : Fleet) : (f.chains.map Chain.sent).sum = f.sent := by
  rw [List.sum_eq_foldl_nat, List.foldl_map]
  rfl

end Fleet

namespace Run

theorem sum_perClient (p : Plan) (ending : Ending) (time : Nat) (f : Fleet) :
    (report p ending time f).perClient.sum = f.sent :=
  (List.mergeSort_perm _ _).sum_eq.trans f.sum_sent

theorem length_perClient (p : Plan) (ending : Ending) (time : Nat) (f : Fleet) :
    (report p ending time f).perClient.length = f.chains.length :=
  (List.length_mergeSort _).trans (List.length_map _)

theorem pairwise_perClient (p : Plan) (ending : Ending) (time : Nat) (f : Fleet) :
    (report p ending time f).perClient.Pairwise (· ≤ ·) :=
  List.pairwise_mergeSort' (· ≤ ·) _

/-- What is gone from the budget is what the clients sent. -/
theorem sent_report {p : Plan} {f : Fleet} (h : f.Sampled p.sizing.total) (ending : Ending)
    (time : Nat) : (report p ending time f).sent = f.sent := by
  have hbooks := h.books
  change p.sizing.total - f.counters.remaining = f.sent
  omega

end Run

/-- The report, if a run came to one. -/
def Phase.report? : Phase → Option Report
  | ended _ (.report r) => some r
  | _ => none

theorem Phase.of_report? {α : Type} {phase : Phase} {q : Report → α} {a : α}
    (h : phase.report?.map q = some a) : ∃ v r, phase = .ended v (.report r) ∧ q r = a := by
  obtain ⟨r, hr, he⟩ := Option.map_eq_some_iff.1 h
  unfold report? at hr
  split at hr
  case h_1 v r' =>
    obtain rfl := Option.some.inj hr
    exact ⟨v, r', rfl, he⟩
  case h_2 => exact nomatch hr

namespace Campaign

variable {p : Plan} {c c' : Campaign} {s : Step} {f : Fleet} {now : Nat} {steps : List Step}

/-! ## The last interval of a stale run -/

/-- After the steps `before` an interval is over, and the manager waits for no other one in the
steps `after` that follow. -/
structure Expires (p : Plan) (c : Campaign) (before after : List Step) : Prop where
  isDue : (c.apply p before).isDue = true
  last : ∀ k, (c.apply p (before ++ .timer :: after.take k)).isWaiting = false

/-- The manager takes a look at the end of an interval, or the run was found stale. -/
def IsExpired (c : Campaign) : Prop :=
  c.last ≠ none ∧ (∃ r, c.phase = .looking r) ∨
    ∃ v, c.phase.verdict? = some v ∧ v.ending = .stale

theorem IsExpired.isWaiting_eq (h : c.IsExpired) : c.isWaiting = false := by
  rw [← Bool.not_eq_true, isWaiting_iff]
  rintro ⟨due, w, hp⟩
  rcases h with ⟨-, r, hr⟩ | ⟨v, hv, -⟩
  · exact nomatch hp.symm.trans hr
  · rw [hp] at hv
    exact nomatch hv

/-- A look at the end of an interval begins with the end of an interval. -/
theorem Change.isExpired (h : Change p c s c')
    (hl : ∀ i, c.phase = .launching i → c.last = none) (he : c'.IsExpired) :
    c.IsExpired ∨ s = .timer ∧ c.isDue = true := by
  cases h with
  | idle | unready | rested | passed | woken | moved | toreDown => exact .inl he
  | fell hp hdue hw => exact .inr ⟨rfl, isDue_iff.2 ⟨_, _, hp, hdue, hw⟩⟩
  | opened hp =>
    rcases he with ⟨hlast, -⟩ | ⟨v, hv, -⟩
    · exact absurd (hl _ hp) hlast
    · exact nomatch hv
  | read hp =>
    rcases he with ⟨hlast, -⟩ | ⟨v, hv, -⟩
    · exact .inl (.inl ⟨hlast, _, hp⟩)
    · exact nomatch hv
  | foundStale hp _ hlast => exact .inl (.inl ⟨by simp [hlast], _, hp⟩)
  | skipped hp | marked hp | stopped hp | leftBehind hp | closed hp =>
    rcases he with ⟨-, r, hr⟩ | ⟨v, hv, hs⟩
    · exact nomatch hr
    · exact .inl (.inr ⟨v, by rw [hp]; exact hv, hs⟩)
  | interrupted | drained =>
    rcases he with ⟨-, r, hr⟩ | ⟨v, hv, hs⟩
    · exact nomatch hr
    · obtain rfl := Option.some.inj hv
      exact nomatch hs
  | launched | remembered | shown | polled =>
    rcases he with ⟨-, r, hr⟩ | ⟨v, hv, -⟩
    · exact nomatch hr
    · exact nomatch hv

theorem expires_apply (p : Plan) (f : Fleet) (now : Nat) (steps : List Step)
    (h : ((start p f now).apply p steps).IsExpired) :
    ∃ before after, steps = before ++ .timer :: after ∧
      (start p f now).Expires p before after := by
  induction steps using List.reverseRecOn with
  | nil =>
    rcases h with ⟨hlast, -⟩ | ⟨v, hv, -⟩
    · exact absurd rfl hlast
    · exact nomatch hv
  | append_singleton steps s ih =>
    have hwaiting := h.isWaiting_eq
    have hlaunching := last_of_launching_apply p f now steps
    rw [apply_append] at h
    rcases (change_step p _ s).isExpired hlaunching h with hbefore | ⟨rfl, hdue⟩
    · obtain ⟨before, after, rfl, hexpires⟩ := ih hbefore
      refine ⟨before, after ++ [s], by simp, hexpires.isDue, fun k => ?_⟩
      rcases Nat.lt_or_ge after.length k with hk | hk
      · rw [List.take_of_length_le (by rw [List.length_append]; exact hk)]
        simpa using hwaiting
      · rw [List.take_append_of_le_length hk]
        exact hexpires.last k
    · refine ⟨steps, [], rfl, hdue, fun k => ?_⟩
      rwa [List.take_nil]

/-- Whether a step is the outcome of an exchange. -/
def Step.isOutcome : Step → Bool
  | .move _ m => m.isOutcome
  | _ => false

/-- Nothing is accounted for without an outcome. -/
theorem remaining_apply_eq (p : Plan) (c : Campaign)
    (h : ∀ s ∈ steps, s.isOutcome = false) :
    (c.apply p steps).fleet.counters.remaining = c.fleet.counters.remaining := by
  induction steps generalizing c with
  | nil => rfl
  | cons s steps ih =>
    obtain ⟨hs, hsteps⟩ := List.forall_mem_cons.1 h
    refine (ih (c.step p s) hsteps).trans ?_
    have hstep (i : Nat) (m : Move) (hm : m.isOutcome = false) :
        (c.fleet.apply [.move i m]).counters.remaining = c.fleet.counters.remaining :=
      Fleet.remaining_apply_eq (by simp [hm])
    have hchange := change_step p c s
    generalize c.step p s = c' at hchange
    cases hchange with
    | moved => exact hstep _ _ hs
    | launched | skipped | marked | toreDown => exact hstep _ _ rfl
    | _ => rfl

/-- When an interval is over some requests are left, unless the last unit was just taken and the
wake-up is on its way. What the clients send after that, they send with an outcome. -/
theorem sent_of_expires (hf : f.Ready p.sizing) {before after : List Step}
    (h : (start p f now).Expires p before after) :
    let due := (start p f now).apply p before
    let c := (start p f now).apply p (before ++ .timer :: after)
    (due.owed = 0 → due.fleet.sent < p.sizing.total) ∧ due.fleet.sent ≤ c.fleet.sent ∧
      ((∀ s ∈ after, s.isOutcome = false) → c.fleet.sent = due.fleet.sent) := by
  intro due c
  have hdue : due.fleet.sent + due.fleet.counters.remaining = p.sizing.total :=
    (hf.sampled.walks (walks_apply p _ before)).books
  have hbooks : c.fleet.sent + c.fleet.counters.remaining = p.sizing.total :=
    (hf.sampled.walks (walks_apply p _ _)).books
  have hcut : c = due.apply p (.timer :: after) := apply_append p _ _ _
  have hle : c.fleet.counters.remaining ≤ due.fleet.counters.remaining :=
    hcut ▸ (walks_apply p due _).precedes.remaining
  refine ⟨fun ho => ?_, by omega, fun hnone => ?_⟩
  · obtain ⟨_, w, hp, -, hw⟩ := isDue_iff.1 h.isDue
    have hleft : 0 < due.fleet.counters.remaining :=
      (remaining_of_blocked (sound_apply hf now before) hp hw).resolve_right
        (Nat.not_lt.2 (Nat.le_of_eq ho))
    omega
  · have hsame : c.fleet.counters.remaining = due.fleet.counters.remaining := by
      rw [hcut]
      exact remaining_apply_eq p due (List.forall_mem_cons.2 ⟨rfl, hnone⟩)
    omega

/-! ## The report -/

/-- The preparation of four clients that tolerate failures. Client 1 does not start. -/
def mixedPreparation : List Event :=
  [.build .probe false, .move 0 (.start none), .move 0 .probe,
    .move 0 (.probeResolve (.response ⟨200, ""⟩)), .build ⟨1⟩ false, .build ⟨2⟩ false,
    .build ⟨3⟩ false, .move 1 (.start (some (.transport "refused"))), .move 2 (.start none),
    .move 3 (.start none)] ++ Event.stop 1

/-- The four clients before their launch. -/
def mixedFleet : Fleet := (Fleet.create 4 []).apply mixedPreparation

theorem ready_mixedFleet : mixedFleet.Ready Run.mixedPlan.sizing :=
  ⟨⟨mixedPreparation, by decide, rfl⟩, rfl⟩

/-- Client 0 sends its first request before the others are launched, and accounts for all requests,
the second one failed. Client 2 dies, client 3 hangs, and one window is shown. -/
def mixedSteps : List Step :=
  let answer : Step := .move 0 (.resolve (.response ⟨200, ""⟩))
  let proceed (count : Nat) : List Step := List.replicate count .proceed
  proceed 1 ++ [.move 0 .first] ++ proceed 3 ++ [.move 2 .first] ++ proceed 1 ++ [answer]
    ++ proceed 2 ++ [.move 0 .retransmit] ++ proceed 4
    ++ [.move 2 .die, .move 3 .first, .move 0 (.resolve .noResponse), .pass 250000000, .timer]
    ++ proceed 6 ++ [answer, answer, .wake] ++ proceed 3 ++ [.move 0 .leave] ++ proceed 2
    ++ List.replicate 4 (.move 0 .tearDown) ++ proceed 15

/-- A plan for two clients with one request each. -/
def pairPlan : Plan := ⟨.quick "http://localhost/", ⟨2, 1, true⟩, ⟨.http, .plain, []⟩⟩

/-- The two clients before their launch. -/
def pairFleet : Fleet :=
  (Fleet.create 2 []).apply
    [.build .probe true, .move 0 (.start none), .build ⟨1⟩ true, .move 1 (.start none)]

theorem ready_pairFleet : pairFleet.Ready pairPlan.sizing := by
  refine ⟨⟨_, ?_, rfl⟩, rfl⟩
  decide

/-- Client 0 accounts for one request in the first interval. In the second one nobody answers, and
the sample finds the run stale. -/
def pairSample : List Step :=
  let proceed (count : Nat) : List Step := List.replicate count .proceed
  proceed 9 ++ [.move 0 .first, .move 1 .first, .move 0 (.resolve (.response ⟨200, ""⟩)),
    .pass 250000000, .timer] ++ proceed 6 ++ [.pass 250000000, .timer] ++ proceed 4

/-- While the transport of client 0 takes its time to stop, client 1 accounts for the last
request. -/
def pairShutdown : List Step :=
  let proceed (count : Nat) : List Step := List.replicate count .proceed
  proceed 3 ++ [.pass 10000000, .move 1 (.resolve (.response ⟨200, ""⟩)), .wake, .move 1 .leave]
    ++ List.replicate 4 (.move 1 .tearDown) ++ proceed 6

end Campaign

end LoadHarness
