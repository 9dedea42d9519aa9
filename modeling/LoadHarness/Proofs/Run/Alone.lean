import LoadHarness.Proofs.Fleet.Accounting
import LoadHarness.Proofs.Run.Flight
import LoadHarness.Proofs.Run.History

/-!
# A chain alone on its budget

A `Solo` is a chain that is launched alone on a budget, on a transport of any behaviour. Of the
exchanges up to number `k` it has accounted for `k` when it waits for the end of that one
(`Solo.Waits`). An outcome that is paid for with budget left leads to the next exchange
(`Waits.resolve`); one that is not paid for (`Waits.resolve_unpaid`) or takes the last unit
(`Waits.resolve_last`) ends the chain. So time takes it from one exchange to the next
(`ahead_follow`), whether they take time or not, up to one that leads to no other (`Solo.Closes`),
and what this leads to is there to stay (`shows_after`). Which exchange that is, and how the chain
stands then, is the closed form of its loop (`Solo.settles_of_outcomes`).
-/

namespace LoadHarness

/-- A chain that is launched alone on a budget, after so many probes. -/
structure Solo where
  id : ClientId
  stopOnFailure : Bool
  budget : Nat
  transport : Behaviour
  starts : transport.refusal = none
  probes : Nat

namespace Solo

variable {s : Solo} {k last : Nat} {f : Fleet} {outcome : Outcome}

/-! ## Its exchanges -/

/-- What its transport does in exchange number `k` from the launch on. -/
def cue (s : Solo) (k : Nat) : Cue := s.transport.cue (s.probes + k)

/-- The outcome of an exchange, if it ever has one. -/
def outcome? (s : Solo) (k : Nat) : Option Outcome :=
  match (s.cue k).effect with
  | .answer outcome => some outcome
  | _ => none

/-- Whether an exchange ends with an outcome. -/
def answers (s : Solo) (k : Nat) : Bool := (s.outcome? k).isSome

/-- Whether it ends with a success. -/
def succeeds (s : Solo) (k : Nat) : Bool := (s.outcome? k).any Outcome.isSuccess

/-- Whether it ends with any other outcome. -/
def fails (s : Solo) (k : Nat) : Bool := (s.outcome? k).any (!·.isSuccess)

/-- Whether nothing ever ends it. -/
def isSilent (s : Solo) (k : Nat) : Bool := (s.cue k).effect == .silence

/-- How many of its first exchanges fail. -/
def failures (s : Solo) (count : Nat) : Nat := (List.range count).countP s.fails

/-- Whether the chain accounts for an outcome, as long as there is budget. -/
def pays (s : Solo) (outcome : Outcome) : Bool := outcome.isSuccess || !s.stopOnFailure

/-- An exchange has an outcome that the chain accounts for. -/
def Paid (s : Solo) (k : Nat) : Prop :=
  ∃ outcome, s.outcome? k = some outcome ∧ s.pays outcome = true

theorem effect_of_outcome? (h : s.outcome? k = some outcome) :
    (s.cue k).effect = .answer outcome := by
  unfold outcome? at h
  split at h
  case h_1 he => rw [he, Option.some.inj h]
  case h_2 => cases h

theorem paid_of_succeeds (h : s.succeeds k = true) : s.Paid k := by
  obtain ⟨outcome, ho, hs⟩ := (Option.any_eq_true _ _).1 h
  exact ⟨outcome, ho, by rw [pays, hs, Bool.true_or]⟩

theorem paid_of_answers (hs : s.stopOnFailure = false) (h : s.answers k = true) : s.Paid k := by
  obtain ⟨outcome, ho⟩ := Option.isSome_iff_exists.1 h
  exact ⟨outcome, ho, by rw [pays, hs, Bool.not_false, Bool.or_true]⟩

theorem failures_succ (h : s.outcome? k = some outcome) :
    s.failures (k + 1) = s.failures k + (!outcome.isSuccess).toNat := by
  rw [failures, List.range_succ, List.countP_append, ← failures, List.countP_singleton, fails, h]
  cases hs : outcome.isSuccess <;> simp [hs]

theorem failures_eq_zero (h : ∀ j < k, s.succeeds j = true) : s.failures k = 0 := by
  refine List.countP_eq_zero.2 fun j hj => ?_
  have hs := h j (List.mem_range.1 hj)
  unfold succeeds at hs
  unfold fails
  cases ho : s.outcome? j <;> simp_all

/-! ## The chain -/

/-- The chain when it has accounted for `k` outcomes and waits for the next one. -/
def chain (s : Solo) (k : Nat) : Chain where
  id := s.id
  stopOnFailure := s.stopOnFailure
  stage := .running
  sent := k
  task := .waiting
  calls := ⟨1, s.probes + k + 1, 0, 0⟩
  teardown := []

/-- The chain has accounted for `k` outcomes and waits for the next one. -/
structure Waits (s : Solo) (k : Nat) (f : Fleet) : Prop where
  chains : f.chains = [s.chain k]
  remaining : f.counters.remaining = s.budget - k
  errors : f.counters.errors = s.failures k

/-- What there is to see of the chain : its stage, the requests it issued since the launch and those
it accounted for, and the counters. It has a request in flight as long as it runs. -/
structure Shows (s : Solo) (f : Fleet) (stage : Stage) (requests sent remaining errors : Nat) :
    Prop where
  chain : ∃ c, f.chains = [c] ∧ c.stage = stage ∧ c.calls.exchanges = s.probes + requests ∧
    c.sent = sent ∧ c.isWaiting = (stage == .running)
  remaining : f.counters.remaining = remaining
  errors : f.counters.errors = errors

theorem Waits.shows (h : s.Waits k f) :
    s.Shows f .running (k + 1) k (s.budget - k) (s.failures k) :=
  ⟨⟨s.chain k, h.chains, rfl, rfl, rfl, rfl⟩, h.remaining, h.errors⟩

theorem step_of_alone {c : Chain} (h : f.chains = [c]) (m : Move) :
    f.step (.move 0 m) = ⟨(m.run (c, f.counters)).2, [(m.run (c, f.counters)).1]⟩ := by
  simp [Fleet.step, Fleet.act, h]

theorem Waits.retransmit (h : s.Waits k f) : s.Waits k (f.step (.move 0 .retransmit)) := by
  rw [step_of_alone h.chains]
  exact ⟨rfl, h.remaining, h.errors⟩

/-- An outcome that it accounts for, with budget left, leads to the next exchange. -/
theorem Waits.resolve (h : s.Waits k f) (ho : s.outcome? k = some outcome)
    (hp : s.pays outcome = true) (hk : k + 1 < s.budget) :
    s.Waits (k + 1) (f.step (.move 0 (.resolve outcome))) := by
  have hleft : f.counters.remaining = s.budget - (k + 1) + 1 := by
    rw [h.remaining]
    omega
  have hpays : (s.chain k).pays outcome = true := hp
  rw [step_of_alone h.chains, Move.run, Chain.resolve_of_pays rfl hpays hleft, Chain.charged,
    if_pos (by omega)]
  refine ⟨rfl, rfl, ?_⟩
  rw [failures_succ ho, ← h.errors]
  rfl

/-- A running chain that its task stops is stopped, with all that belongs to it. -/
theorem runAll_departure {c : Chain} (hs : c.stage = .running) (ht : c.task = .leaving)
    (hd : c.teardown = []) (n : Counters) :
    Move.runAll Move.departure (c, n)
      = ({ c with
            stage := .stopped, task := .ended,
            calls := { c.calls with
              stops := c.calls.stops + 1, destroys := c.calls.destroys + 1 } },
        n.clientStopped.1) := by
  obtain ⟨id, stopOnFailure, stage, sent, task, calls, teardown⟩ := c
  obtain rfl : stage = .running := hs
  obtain rfl : task = .leaving := ht
  obtain rfl : teardown = [] := hd
  rfl

/-- When the task is done, the chain ends with what it has accounted for so far. -/
theorem shows_departure {sent : Nat} (hf : f.chains = [{ s.chain k with sent, task := .leaving }]) :
    f.isWaiting 0 = false ∧
      s.Shows (f.apply (Event.departure 0)) .stopped (k + 1) sent f.counters.remaining
        f.counters.errors := by
  have hc : f.chains[0]? = some { s.chain k with sent, task := .leaving } := by
    rw [hf]
    rfl
  refine ⟨Fleet.ask_of_some hc _ _, ?_⟩
  rw [Event.departure, Fleet.apply_moves, Fleet.act_of_some hc, runAll_departure rfl rfl rfl, hf]
  exact ⟨⟨_, rfl, rfl, rfl, rfl, rfl⟩, f.counters.remaining_clientStopped,
    f.counters.errors_clientStopped⟩

/-- An outcome that it does not account for ends it. -/
theorem Waits.resolve_unpaid (h : s.Waits k f) (outcome : Outcome)
    (hp : s.pays outcome = false ∨ s.budget = k) :
    let f' := f.step (.move 0 (.resolve outcome))
    f'.isWaiting 0 = false ∧
      s.Shows (f'.apply (Event.departure 0)) .stopped (k + 1) k (s.budget - k) (s.failures k) := by
  have hresolve : Chain.resolve outcome (s.chain k, f.counters)
      = ({ s.chain k with task := .leaving }, f.counters) := by
    rcases hp with hp | hk
    · exact Chain.resolve_of_not_pays rfl hp
    · exact Chain.resolve_of_spent rfl (by rw [h.remaining, hk, Nat.sub_self])
  rw [step_of_alone h.chains, Move.run, hresolve, ← h.remaining, ← h.errors]
  exact shows_departure rfl

/-- So does one that takes the last unit. -/
theorem Waits.resolve_last (h : s.Waits k f) (ho : s.outcome? k = some outcome)
    (hp : s.pays outcome = true) (hk : k + 1 = s.budget) :
    let f' := f.step (.move 0 (.resolve outcome))
    f'.isWaiting 0 = false ∧
      s.Shows (f'.apply (Event.departure 0)) .stopped (k + 1) (k + 1) 0 (s.failures (k + 1)) := by
  have hleft : f.counters.remaining = 0 + 1 := by
    rw [h.remaining]
    omega
  have hpays : (s.chain k).pays outcome = true := hp
  rw [step_of_alone h.chains, Move.run, Chain.resolve_of_pays rfl hpays hleft, failures_succ ho,
    ← h.errors]
  exact shows_departure rfl

/-! ## Its time -/

/-- The transports of its fleet. -/
def transports (s : Solo) : Nat → Behaviour := fun _ => s.transport

/-- The chain at the time of its launch. -/
def launched (s : Solo) : Timeline :=
  let t := Timeline.ofFleet (.create s.budget [.create s.id s.stopOnFailure])
  let t := (t.start s.transports 0).1.apply (List.replicate s.probes (.move 0 .probe))
  (t.launch s.transports 0).1

/-- The chain some time after its launch. -/
def after (s : Solo) (moment : Nat) : Timeline := s.launched.passUntil s.transports moment

/-- When its exchange number `k` begins, which is when the one before ends. -/
def begun (s : Solo) : Nat → Nat
  | 0 => 0
  | k + 1 => (s.cue k).delay.after 0 (s.begun k)

theorem begun_le (s : Solo) (h : k ≤ last) : s.begun k ≤ s.begun last := by
  induction h with
  | refl => exact Nat.le_refl _
  | step _ ih => exact Nat.le_trans ih (Delay.le_after 0 _ _)

/-- The chain waits for exchange number `k`, and at the time `now` nothing is known to come. -/
structure Poised (s : Solo) (k now : Nat) (t : Timeline) : Prop where
  waits : s.Waits k t.fleet
  flights : t.flights = [none]
  now_eq : t.now = now

/-- The chain waits for exchange number `k`, which will end. -/
structure Flies (s : Solo) (k : Nat) (t : Timeline) : Prop where
  waits : s.Waits k t.fleet
  flights : t.flights = [some ⟨s.begun (k + 1), (s.cue k).effect⟩]

namespace Poised

variable {now : Nat} {t : Timeline}

theorem cue_eq (h : s.Poised k now t) : t.cue s.transports 0 = s.cue k :=
  Timeline.cue_of_some (c := s.chain k) (by rw [h.waits.chains]; rfl)

theorem isWaiting (h : s.Poised k now t) : t.fleet.isWaiting 0 = true := by
  rw [Fleet.isWaiting, Fleet.ask_of_some (c := s.chain k) (by rw [h.waits.chains]; rfl)]
  rfl

theorem noticed (h : s.Poised k now t) : s.Poised k now (t.noticed s.transports 0) :=
  ⟨Fleet.apply_induction (fun _ _ he hw => he ▸ hw.retransmit)
    (fun _ => List.eq_of_mem_replicate) h.waits, h.flights, h.now_eq⟩

/-- An exchange that takes time is in flight from when it begins. -/
theorem flies (h : s.Poised k (s.begun k) t) (hd : (s.cue k).delay.isNone = false) :
    s.Flies k (t.send s.transports 0).1 := by
  rw [Timeline.send_of_not_isNone (h.cue_eq ▸ hd)]
  refine ⟨h.noticed.waits, ?_⟩
  rw [Timeline.departing, h.cue_eq, h.now_eq, h.flights]
  rfl

/-- Any other ends when it begins. -/
theorem ends (h : s.Poised k (s.begun k) t) (hd : (s.cue k).delay.isNone = true) :
    s.Poised k (s.begun (k + 1)) (t.noticed s.transports 0) := by
  have hb : s.begun (k + 1) = s.begun k := if_pos hd
  exact hb ▸ h.noticed

/-- When the exchange is paid for, with budget left, the next one begins. -/
theorem resolve (h : s.Poised k now t) (ho : s.outcome? k = some outcome)
    (hp : s.pays outcome = true) (hk : k + 1 < s.budget) :
    s.Poised (k + 1) now (t.apply [.move 0 (.resolve outcome)]) :=
  ⟨h.waits.resolve ho hp hk, h.flights, h.now_eq⟩

end Poised

/-! ## Up to its last exchange -/

/-- The chain comes to exchange number `last` : it accounts for the ones before, and has budget
left, unless there are none. -/
structure Reaches (s : Solo) (last : Nat) : Prop where
  paid : ∀ k < last, s.Paid k
  left : last < s.budget ∨ last = 0

/-- Exchange number `last` leads to what `P` says, and to no other exchange. -/
def Closes (s : Solo) (last : Nat) (P : Fleet → Prop) : Prop :=
  ∀ {t : Timeline} (fuel : Nat), s.Poised last (s.begun (last + 1)) t →
    let t' := t.follow s.transports 0 fuel (s.cue last).effect
    P t'.fleet ∧ t'.flights = [none]

/-- An exchange up to number `last` is in flight, or what `P` says has come about. -/
def Ahead (s : Solo) (last : Nat) (P : Fleet → Prop) (t : Timeline) : Prop :=
  (∃ k ≤ last, s.Flies k t) ∨ P t.fleet ∧ t.flights = [none]

variable {P : Fleet → Prop} {t : Timeline}

/-- The end of an exchange leads on. -/
theorem ahead_follow (hreach : s.Reaches last) (hlast : s.Closes last P) (hk : k ≤ last)
    {fuel : Nat} (h : s.Poised k (s.begun (k + 1)) t)
    (hfuel : t.fleet.counters.remaining ≤ fuel) :
    s.Ahead last P (t.follow s.transports 0 fuel (s.cue k).effect) := by
  -- Each exchange without delay takes a unit of the budget, so that the fuel lasts as long.
  induction fuel generalizing k t with
  | zero =>
    rcases Nat.eq_or_lt_of_le hk with rfl | hlt
    · exact .inr (hlast 0 h)
    · have := h.waits.remaining
      have := hreach.left
      omega
  | succ fuel ih =>
    rcases Nat.eq_or_lt_of_le hk with rfl | hlt
    · exact .inr (hlast (fuel + 1) h)
    · obtain ⟨outcome, ho, hp⟩ := hreach.paid k hlt
      have hnext := h.resolve ho hp (by have := hreach.left; omega)
      rw [effect_of_outcome? ho]
      cases hd : (s.cue (k + 1)).delay.isNone with
      | false =>
        rw [Timeline.follow_of_later rfl hnext.isWaiting (hnext.cue_eq ▸ hd)]
        exact .inl ⟨k + 1, hlt, hnext.flies hd⟩
      | true =>
        rw [Timeline.follow_of_now rfl hnext.isWaiting (hnext.cue_eq ▸ hd), hnext.cue_eq]
        refine ih hlt (hnext.ends hd) ?_
        have := h.waits.remaining
        have := hnext.noticed.waits.remaining
        omega

/-- So does an exchange that ends its flight. -/
theorem Ahead.meet (hreach : s.Reaches last) (hlast : s.Closes last P)
    (h : s.Ahead last P t) {i : Nat} {flight : Flight} (hn : t.next? = some (i, flight)) :
    s.Ahead last P ((t.landed i flight).meet s.transports i flight.effect) := by
  obtain ⟨c, hc, -, hf⟩ := Timeline.mem_inFlight.1 (Timeline.next?_spec hn).1
  rcases h with ⟨k, hk, hflies⟩ | ⟨-, hflights⟩
  · rw [hflies.flights] at hf
    obtain ⟨rfl, rfl⟩ : i = 0 ∧ flight = ⟨s.begun (k + 1), (s.cue k).effect⟩ := by
      cases i with
      | zero => exact ⟨rfl, (Option.some.inj (Option.some.inj hf)).symm⟩
      | succ => cases hf
    refine ahead_follow hreach hlast hk ⟨hflies.waits, ?_, rfl⟩ (Nat.le_refl _)
    rw [Timeline.landed, hflies.flights]
    rfl
  · rw [hflights] at hf
    cases i <;> cases hf

/-! ## From its launch on -/

theorem fleet_probed {c : Chain} {n : Counters} (hc : c.stage = .started) (count : Nat) :
    Fleet.apply ⟨n, [c]⟩ (List.replicate count (.move 0 .probe))
      = ⟨n, [{ c with calls := { c.calls with exchanges := c.calls.exchanges + count } }]⟩ := by
  induction count generalizing c with
  | zero => rfl
  | succ count ih =>
    have hprobe : c.probe = c.callExchange := if_pos (by rw [Chain.canProbe, hc]; rfl)
    rw [List.replicate_succ, Fleet.apply_cons, step_of_alone rfl, Move.run, hprobe]
    refine (ih (c := c.callExchange) hc).trans ?_
    simp only [Chain.callExchange, Nat.add_assoc, Nat.add_comm 1 count]

/-- When its task is to begin. -/
structure Ready (s : Solo) (t : Timeline) : Prop where
  fleet : t.fleet = ⟨(Counters.ofBudget s.budget).clientStarted,
    [⟨s.id, s.stopOnFailure, .running, 0, .ready, ⟨1, s.probes, 0, 0⟩, []⟩]⟩
  flights : t.flights = [none]
  now_eq : t.now = 0

theorem exists_ready (s : Solo) : ∃ t, s.Ready t ∧ s.launched = t.enter s.transports 0 := by
  have hstarted : (Fleet.create s.budget [.create s.id s.stopOnFailure]).step
      (.move 0 (.start s.transport.refusal))
        = ⟨.ofBudget s.budget,
            [⟨s.id, s.stopOnFailure, .started, 0, .none, ⟨1, 0, 0, 0⟩, []⟩]⟩ := by
    rw [s.starts]
    rfl
  refine ⟨_, ⟨?_, rfl, rfl⟩, rfl⟩
  change (((Fleet.create s.budget [.create s.id s.stopOnFailure]).step
    (.move 0 (.start s.transport.refusal))).apply
      (List.replicate s.probes (.move 0 .probe))).step (.move 0 .launch) = _
  rw [hstarted, fleet_probed rfl, step_of_alone rfl, Nat.zero_add]
  rfl

/-- Its task begins with the first exchange. -/
theorem Ready.first (h : s.Ready t) : s.Poised 0 (s.begun 0) (t.apply [.move 0 .first]) := by
  refine ⟨?_, h.flights, h.now_eq⟩
  rw [Timeline.apply, h.fleet]
  exact ⟨rfl, rfl, rfl⟩

theorem ahead_launched (hreach : s.Reaches last) (hlast : s.Closes last P) :
    s.Ahead last P s.launched := by
  obtain ⟨t, ht, hl⟩ := s.exists_ready
  have hready : t.fleet.ask 0 false (·.task == .ready) = true := by rw [ht.fleet]; rfl
  have hfirst := ht.first
  rw [hl, Timeline.enter, if_pos hready]
  cases hd : (s.cue 0).delay.isNone with
  | false =>
    have hsend := Timeline.send_of_not_isNone (hfirst.cue_eq ▸ hd)
    have hflies := hfirst.flies hd
    rw [hsend] at hflies ⊢
    exact .inl ⟨0, Nat.zero_le _, hflies⟩
  | true =>
    rw [Timeline.send_of_isNone (hfirst.cue_eq ▸ hd), hfirst.cue_eq]
    exact ahead_follow hreach hlast (Nat.zero_le _) (hfirst.ends hd) (Nat.le_refl _)

/-- Behind the end of its last exchange, what this leads to has come about. -/
theorem shows_after (hreach : s.Reaches last) (hlast : s.Closes last P) {later : Nat}
    (hlater : s.begun (last + 1) < later) : P (s.after later).fleet := by
  have hahead : s.Ahead last P (s.launched.advance s.transports (fun _ => false) later) :=
    Timeline.landAll_induction (fun _ _ _ h _ hn _ => h.meet hreach hlast hn) _
      (ahead_launched hreach hlast)
  have hlength : s.launched.flights.length ≤ s.launched.fleet.chains.length := by
    obtain ⟨t, ht, hl⟩ := s.exists_ready
    have hleads := (Timeline.turn_enter s.transports 0 t).leads
    rw [hl, hleads.length, hleads.length_chains, ht.flights, ht.fleet]
    exact Nat.le_refl _
  have hsettled :=
    (Timeline.advance_settled s.transports (fun _ => false) later hlength).resolve_left
      Bool.false_ne_true
  rcases hahead with ⟨k, hk, hflies⟩ | ⟨hP, -⟩
  · have hle := hsettled (0, ⟨s.begun (k + 1), (s.cue k).effect⟩) (Timeline.mem_inFlight.2
      ⟨s.chain k, by rw [hflies.waits.chains]; rfl, rfl, by rw [hflies.flights]; rfl⟩)
    have := s.begun_le (Nat.succ_le_succ hk)
    exact absurd (Nat.lt_of_lt_of_le hlater hle) (Nat.not_lt.2 this)
  · exact hP

/-! ## How it ends -/

/-- What there is to see of the chain from some moment on. -/
def Settles (s : Solo) (stage : Stage) (requests sent remaining errors : Nat) : Prop :=
  ∃ moment, ∀ later, moment ≤ later →
    s.Shows (s.after later).fleet stage requests sent remaining errors

section

variable {stage : Stage} {requests sent remaining errors : Nat}

theorem Reaches.settles (h : s.Reaches last)
    (hlast : s.Closes last (s.Shows · stage requests sent remaining errors)) :
    s.Settles stage requests sent remaining errors :=
  ⟨s.begun (last + 1) + 1, fun _ hlater =>
    shows_after (P := (s.Shows · stage requests sent remaining errors)) h hlast hlater⟩

end

/-- Nothing comes after a silent exchange. -/
theorem Reaches.settles_of_isSilent (h : s.Reaches last) (hsilent : s.isSilent last = true) :
    s.Settles .running (last + 1) last (s.budget - last) (s.failures last) := by
  refine h.settles fun fuel ht => ?_
  rw [eq_of_beq hsilent]
  unfold Timeline.follow
  exact ⟨ht.waits.shows, ht.flights⟩

/-- An exchange that is not accounted for is the last one. -/
theorem Reaches.settles_of_unpaid (h : s.Reaches last) (ho : s.outcome? last = some outcome)
    (hp : s.pays outcome = false ∨ s.budget = last) :
    s.Settles .stopped (last + 1) last (s.budget - last) (s.failures last) := by
  refine h.settles fun fuel ht => ?_
  obtain ⟨hdone, hshows⟩ := ht.waits.resolve_unpaid outcome hp
  rw [effect_of_outcome? ho, Timeline.follow_of_done rfl hdone]
  exact ⟨hshows, ht.flights⟩

/-- So is one that takes the last unit of the budget. -/
theorem settles_of_paid (hb : 0 < s.budget) (h : ∀ k < s.budget, s.Paid k) :
    s.Settles .stopped s.budget s.budget 0 (s.failures s.budget) := by
  obtain ⟨last, hlast⟩ := Nat.exists_eq_succ_of_ne_zero (Nat.ne_of_gt hb)
  obtain ⟨outcome, ho, hp⟩ := h last (by omega)
  have hreach : s.Reaches last := ⟨fun k hk => h k (by omega), .inl (by omega)⟩
  rw [hlast]
  refine hreach.settles fun fuel ht => ?_
  obtain ⟨hdone, hshows⟩ := ht.waits.resolve_last ho hp hlast.symm
  rw [effect_of_outcome? ho, Timeline.follow_of_done rfl hdone]
  exact ⟨hshows, ht.flights⟩

/-- How a chain ends that is alone on its budget. If it stops on failure, it ends with its first
failure, with nothing counted for that, or with the budget; if not, with the budget and all its
failures counted. Without a budget it ends with its first exchange. If an exchange before that is
silent, the chain keeps waiting. -/
theorem settles_of_outcomes (s : Solo) :
    (s.stopOnFailure = true →
      (∀ k < s.budget, (∀ j < k, s.succeeds j = true) → s.fails k = true →
        s.Settles .stopped (k + 1) k (s.budget - k) 0) ∧
      (0 < s.budget → (∀ j < s.budget, s.succeeds j = true) →
        s.Settles .stopped s.budget s.budget 0 0) ∧
      ∀ n, n < s.budget ∨ n = 0 → (∀ j < n, s.succeeds j = true) → s.isSilent n = true →
        s.Settles .running (n + 1) n (s.budget - n) 0) ∧
    (s.stopOnFailure = false →
      (0 < s.budget → (∀ j < s.budget, s.answers j = true) →
        s.Settles .stopped s.budget s.budget 0 (s.failures s.budget)) ∧
      ∀ n, n < s.budget ∨ n = 0 → (∀ j < n, s.answers j = true) → s.isSilent n = true →
        s.Settles .running (n + 1) n (s.budget - n) (s.failures n)) ∧
    (s.budget = 0 → s.answers 0 = true → s.Settles .stopped 1 0 0 0) := by
  refine ⟨fun hstop => ⟨?failure, ?success, ?silence⟩, fun htolerant => ⟨?spent, ?quiet⟩, ?none⟩
  case failure =>
    intro k hk hbefore hfails
    obtain ⟨outcome, ho, hf⟩ := (Option.any_eq_true _ _).1 hfails
    have hunpaid : s.pays outcome = false := by
      simpa [pays, hstop] using hf
    rw [← failures_eq_zero hbefore]
    exact Reaches.settles_of_unpaid ⟨fun j hj => paid_of_succeeds (hbefore j hj), .inl hk⟩ ho
      (.inl hunpaid)
  case success =>
    intro hb hall
    have hsettles := settles_of_paid hb fun j hj => paid_of_succeeds (hall j hj)
    rwa [failures_eq_zero hall] at hsettles
  case silence =>
    intro n hn hbefore hsilent
    have hreach : s.Reaches n := ⟨fun j hj => paid_of_succeeds (hbefore j hj), hn⟩
    rw [← failures_eq_zero hbefore]
    exact hreach.settles_of_isSilent hsilent
  case spent =>
    exact fun hb hall => settles_of_paid hb fun j hj => paid_of_answers htolerant (hall j hj)
  case quiet =>
    intro n hn hbefore hsilent
    have hreach : s.Reaches n := ⟨fun j hj => paid_of_answers htolerant (hbefore j hj), hn⟩
    exact hreach.settles_of_isSilent hsilent
  case none =>
    intro hb hanswers
    obtain ⟨outcome, ho⟩ := Option.isSome_iff_exists.1 hanswers
    have hreach : s.Reaches 0 := ⟨fun k hk => absurd hk (Nat.not_lt_zero k), .inr rfl⟩
    have hsettles := hreach.settles_of_unpaid ho (.inr hb)
    rwa [hb] at hsettles

/-- It succeeds twice behind a probe, fails three times, and is silent then. -/
def faltering (stopOnFailure : Bool) (budget : Nat) : Solo where
  id := ⟨1⟩
  stopOnFailure := stopOnFailure
  budget := budget
  transport := Script.behaviour
    ⟨false, [(3, ⟨0, 1, .answer (.response ⟨204, ""⟩)⟩), (2, ⟨1, 0, .answer .noResponse⟩),
      (1, ⟨0, .nanoseconds 7, .answer (.response ⟨404, "no"⟩)⟩)], none⟩
  starts := rfl
  probes := 1

theorem settles_of_outcomes_faltering :
    (faltering true 9).Settles .stopped 3 2 7 0 ∧ (faltering true 2).Settles .stopped 2 2 0 0 ∧
      (faltering false 4).Settles .stopped 4 4 0 2 ∧ (faltering true 0).Settles .stopped 1 0 0 0 ∧
      (faltering false 9).Settles .running 6 5 4 3 := by
  obtain ⟨hfailure, -, -⟩ := (settles_of_outcomes (faltering true 9)).1 rfl
  obtain ⟨-, hsuccess, -⟩ := (settles_of_outcomes (faltering true 2)).1 rfl
  obtain ⟨hspent, -⟩ := (settles_of_outcomes (faltering false 4)).2.1 rfl
  obtain ⟨-, -, hnone⟩ := settles_of_outcomes (faltering true 0)
  obtain ⟨-, hsilence⟩ := (settles_of_outcomes (faltering false 9)).2.1 rfl
  refine ⟨?_, ?_, ?_, ?_, ?_⟩
  · exact hfailure 2 (by decide) (by decide) (by decide)
  · exact hsuccess (by decide) (by decide)
  · exact hspent (by decide) (by decide)
  · exact hnone rfl (by decide)
  · exact hsilence 5 (by decide) (by decide) (by decide)

end Solo

end LoadHarness
