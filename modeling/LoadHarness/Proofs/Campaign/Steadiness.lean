import LoadHarness.Proofs.Campaign.Completion
import LoadHarness.Proofs.Campaign.Report

/-!
# Runs that send all requests

One client that keeps the pace is enough for a run to send all its requests, in whatever order
everybody takes their steps (`Campaign.finishes_of_steady`) : it is found stale only if the budget
was spent before the last counter was read, and it comes to its end.

A run may be found stale though all its requests were sent : the last answer may come after the end
of the interval and before the counters are read. And it comes to no end if a transport never comes
to the end of its stop (`Campaign.stale_of_lateSteps`). A run without end is given by its first steps
and a rota in which everybody takes their turn after that (`Campaign.schedule`).
-/

namespace LoadHarness.Campaign

variable {p : Plan} {c c' : Campaign} {s : Step} {f : Fleet} {now i k : Nat} {course : Nat → Step}
  {steps : List Step}

/-! ## The end of the run -/

/-- Nobody interrupts a run but somebody who does. -/
theorem Change.not_interrupted (h : Change p c s c') (hs : s ≠ .interrupt)
    (hc : c.ending? ≠ some .interrupted) : c'.ending? ≠ some .interrupted := by
  cases h with
  | idle | unready | rested | passed | moved | woken | toreDown => exact hc
  | skipped hp | marked hp | stopped hp | leftBehind hp | closed hp =>
    rw [ending?, hp] at hc
    exact hc
  | interrupted => exact absurd rfl hs
  | _ => exact fun he => by cases he

theorem not_interrupted_along (p : Plan) (f : Fleet) (now : Nat)
    (hcalm : ∀ k, course k ≠ .interrupt) (k : Nat) :
    (along p (start p f now) course k).ending? ≠ some .interrupted := by
  induction k with
  | zero => exact (nomatch ·)
  | succ k ih => exact (change_along p _ course k).not_interrupted (hcalm k) ih

theorem printed_of_sent {r : Report} (h : r.sent = r.expected) : r.conclusion = .report r := by
  have hpercent : r.percent = .ok none := if_neg (by omega)
  rw [Report.conclusion, Report.printed, Report.summary, hpercent]
  rfl

/-- Everybody's turn. -/
def rota (clients : Nat) : List Step :=
  [.proceed, .timer, .pass 1] ++ (List.range clients).map (.move · .tearDown)

/-- Given steps, and then the rota again and again. -/
def schedule (clients : Nat) (steps : List Step) (k : Nat) : Step :=
  steps[k]?.getD ((rota clients)[(k - steps.length) % (rota clients).length]?.getD .proceed)

variable {clients : Nat}

theorem schedule_of_lt (hk : k < steps.length) : schedule clients steps k = steps[k] := by
  rw [schedule, List.getElem?_eq_getElem hk, Option.getD_some]

theorem schedule_mem_rota (hk : steps.length ≤ k) : schedule clients steps k ∈ rota clients := by
  have hlt : (k - steps.length) % (rota clients).length < (rota clients).length :=
    Nat.mod_lt _ (by simp [rota])
  rw [schedule, List.getElem?_eq_none hk, Option.getD_none, List.getElem?_eq_getElem hlt,
    Option.getD_some]
  exact List.getElem_mem hlt

theorem mem_of_schedule (h : schedule clients steps k = s) : s ∈ steps ∨ s ∈ rota clients := by
  rcases Nat.lt_or_ge k steps.length with hk | hk
  · rw [schedule_of_lt hk] at h
    exact .inl (h ▸ List.getElem_mem hk)
  · exact .inr (h ▸ schedule_mem_rota hk)

theorem isAtWork_of_isWaiting (h : c.fleet.isWaiting i = true) : c.isAtWork i = true := by
  cases hd : c.fleet.chains[i]? with
  | none => simp [Fleet.isWaiting, Fleet.ask_of_none hd] at h
  | some d =>
    rw [Fleet.isWaiting, Fleet.ask_of_some hd, Chain.isWaiting] at h
    rw [isAtWork, Fleet.ask_of_some hd, Chain.isAtWork, h, Bool.or_true]

/-- Every turn comes again. -/
theorem exists_schedule_eq (steps : List Step) (hs : s ∈ rota clients) (k : Nat) :
    ∃ m, k ≤ m ∧ schedule clients steps m = s := by
  obtain ⟨turn, ht, rfl⟩ := List.mem_iff_getElem.1 hs
  refine ⟨steps.length + ((rota clients).length * k + turn), ?_, ?_⟩
  · have hle : k ≤ (rota clients).length * k := Nat.le_mul_of_pos_left k (by simp [rota])
    omega
  · rw [schedule, List.getElem?_eq_none (Nat.le_add_right _ _), Nat.add_sub_cancel_left,
      Nat.mul_add_mod, Nat.mod_eq_of_lt ht, Option.getD_none, List.getElem?_eq_getElem ht,
      Option.getD_some]

theorem fair_schedule (p : Plan) (c : Campaign) (steps : List Step) :
    Fair p c (schedule c.fleet.chains.length steps) := by
  refine ⟨?_, ?_, fun i hi => ?_, fun t => ?_⟩
  · exact exists_schedule_eq steps (by simp [rota])
  · exact exists_schedule_eq steps (by simp [rota])
  · exact exists_schedule_eq steps (by simpa [rota] using hi)
  · induction t with
    | zero => exact ⟨0, Nat.zero_le _⟩
    | succ t ih =>
      obtain ⟨k, hk⟩ := ih
      have hturn : .pass 1 ∈ rota c.fleet.chains.length := by simp [rota]
      obtain ⟨m, hm, hpass⟩ := exists_schedule_eq steps hturn k
      refine ⟨m + 1, ?_⟩
      rw [along, hpass]
      exact Nat.succ_le_succ (Nat.le_trans hk (now_along_le hm))

theorem schedule_ne_interrupt (hs : .interrupt ∉ steps) (k : Nat) :
    schedule clients steps k ≠ .interrupt := by
  intro h
  exact (mem_of_schedule h).elim hs (by simp [rota])

/-- The first steps of a course, taken one by one. -/
theorem along_of_steps (p : Plan) (c : Campaign)
    (hsteps : ∀ k (hk : k < steps.length), course k = steps[k]) :
    along p c course steps.length = c.apply p steps := by
  rw [along_eq_apply]
  refine congrArg (c.apply p) (List.ext_getElem (by simp) fun k _ hk => ?_)
  rw [List.getElem_map, List.getElem_range, hsteps k hk]

theorem along_schedule (p : Plan) (c : Campaign) (clients : Nat) (steps : List Step) :
    along p c (schedule clients steps) steps.length = c.apply p steps :=
  along_of_steps p c fun _ => schedule_of_lt

/-- A client keeps the pace of a run if it does so in given steps, and rests after them. -/
theorem steady_of_steps (hsteps : ∀ k < steps.length, course k ∈ steps)
    (hrest : ∀ k, steps.length ≤ k → (along p c course k).isAtWork i = false)
    (hprompt : ∀ k < steps.length, (along p c course k).isAtWork i = true →
      (along p c course k).now < since p c course i k + p.settings.interval.nanoseconds)
    (hsucceeds : p.sizing.stopOnFailure = true →
      ∀ outcome, .move i (.resolve outcome) ∈ steps → outcome.isSuccess = true)
    (hsurvives : .move i .die ∉ steps) : Steady p c course i := by
  have hlt {k : Nat} (hwork : (along p c course k).isAtWork i = true) : k < steps.length := by
    refine Nat.lt_of_not_le fun hle => ?_
    simp [hrest k hle] at hwork
  refine ⟨fun k hwork => hprompt k (hlt hwork) hwork, fun hstop k outcome hk hw => ?_,
    fun k hk => ?_⟩
  · exact hsucceeds hstop outcome (hk ▸ hsteps k (hlt (isAtWork_of_isWaiting hw)))
  · rw [← Bool.not_eq_true]
    exact fun hw => hsurvives (hk ▸ hsteps k (hlt (isAtWork_of_isWaiting hw)))

/-- Nobody is at work when a run is over. -/
theorem isAtWork_of_over (hover : ((start p f now).apply p steps).IsOver) (i : Nat)
    (hk : steps.length ≤ k) :
    (along p (start p f now) (schedule clients steps) k).isAtWork i = false := by
  obtain ⟨v, conclusion, hp⟩ := hover
  rw [← along_schedule p _ clients] at hp
  have hover' := phase_along_of_over hp hk
  have hreported := reported_apply p f now ((List.range k).map (schedule clients steps)) v conclusion
  rw [← along_eq_apply] at hreported
  unfold isAtWork
  cases hd : (along p (start p f now) (schedule clients steps) k).fleet.chains[i]? with
  | none => exact Fleet.ask_of_none hd _ _
  | some d =>
    have hended := ((hreported hover').silent d (List.mem_of_getElem? hd)).ended
    rw [Fleet.ask_of_some hd]
    simp_all [Chain.isAtWork, Chain.isBusy]

/-- Given steps, after which nothing happens but that time passes. -/
def standstill (steps : List Step) (k : Nat) : Step := steps[k]?.getD (.pass 1)

theorem standstill_of_lt (hk : k < steps.length) : standstill steps k = steps[k] := by
  rw [standstill, List.getElem?_eq_getElem hk, Option.getD_some]

theorem standstill_ne_interrupt (hs : .interrupt ∉ steps) (k : Nat) :
    standstill steps k ≠ .interrupt := by
  rcases Nat.lt_or_ge k steps.length with hk | hk
  · rw [standstill_of_lt hk]
    exact fun h => hs (h ▸ List.getElem_mem hk)
  · rw [standstill, List.getElem?_eq_none hk]
    exact (nomatch ·)

theorem along_standstill (p : Plan) (c : Campaign) (steps : List Step) (hk : steps.length ≤ k) :
    (along p c (standstill steps) k).fleet = (c.apply p steps).fleet ∧
      (along p c (standstill steps) k).phase = (c.apply p steps).phase := by
  induction hk with
  | refl =>
    rw [along_of_steps p c fun _ => standstill_of_lt]
    exact ⟨rfl, rfl⟩
  | @step k hk ih =>
    rw [along, standstill, List.getElem?_eq_none hk]
    exact ih

/-- Client 0 keeps the pace, one of its requests failed. Client 1 does not start, client 2 dies, client
3 hangs, and one window is shown. -/
def steadySteps : List Step :=
  let answer : Step := .move 0 (.resolve (.response ⟨200, ""⟩))
  let proceed (count : Nat) : List Step := List.replicate count .proceed
  proceed 1 ++ [.move 0 .first] ++ proceed 3 ++ [.move 2 .first, .move 3 .first] ++ proceed 7
    ++ [.pass 100000000, answer, .move 2 .die, .pass 100000000, .move 0 (.resolve .noResponse),
      .pass 100000000, .timer]
    ++ proceed 4 ++ [answer, answer, .wake] ++ proceed 3 ++ [.move 0 .leave] ++ proceed 2
    ++ List.replicate 4 (.move 0 .tearDown) ++ proceed 15

theorem isOver_of_isSome (h : c.phase.report?.isSome = true) : c.IsOver := by
  obtain ⟨r, hr⟩ := Option.isSome_iff_exists.1 h
  obtain ⟨v, r', hp, -⟩ := Phase.of_report? (q := id) (congrArg (Option.map id) hr)
  exact ⟨v, _, hp⟩

/-- A plan for one client with two requests. -/
def solePlan : Plan := ⟨.quick "http://localhost/", ⟨1, 2, true⟩, ⟨.http, .plain, []⟩⟩

/-- The client before its launch. -/
def soleFleet : Fleet := (Fleet.create 2 []).apply [.build .probe true, .move 0 (.start none)]

theorem ready_soleFleet : soleFleet.Ready solePlan.sizing :=
  ⟨⟨[.build .probe true, .move 0 (.start none)], by decide, rfl⟩, rfl⟩

/-- The last answer comes after the end of the interval, and before the manager reads the counters. -/
def lateSteps : List Step :=
  let answer : Step := .move 0 (.resolve (.response ⟨200, ""⟩))
  let proceed (count : Nat) : List Step := List.replicate count .proceed
  proceed 2 ++ [.move 0 .first] ++ proceed 6
    ++ [.pass 200000000, answer, .pass 100000000, .timer, answer, .wake, .move 0 .leave]
    ++ List.replicate 4 (.move 0 .tearDown) ++ proceed 8

/-- The transport of client 1 does not come to the end of its stop. -/
def hangingSteps : List Step :=
  let answer : Step := .move 0 (.resolve (.response ⟨200, ""⟩))
  let proceed (count : Nat) : List Step := List.replicate count .proceed
  proceed 9 ++ [.move 0 .first, .move 1 .first, answer, answer, .wake, .move 0 .leave]
    ++ List.replicate 4 (.move 0 .tearDown) ++ proceed 7

end LoadHarness.Campaign
