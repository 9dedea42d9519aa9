import LoadHarness.Proofs.Campaign.Budget
import LoadHarness.Proofs.Campaign.Course
import LoadHarness.Proofs.Chain.Silence

/-!
# Clients that keep the pace

A client keeps the pace of a run if it answers each of its exchanges within an interval, with success
where a failure would end it, and its task never dies (`Campaign.Steady`). From the launch on such a
client is at work until the budget is spent or the watch is over (`Campaign.serves_along`), and every
interval that goes by with it takes something from the budget (`Campaign.brisk_along`).

So whatever all others do, a sample finds that something was accounted for since the last look, and
that somebody is active. A run is found stale only if the budget was spent before the last counter
was read (`Campaign.spent_of_stale`).
-/

namespace LoadHarness

/-! ## One chain -/

/-- A running chain at work. -/
structure Chain.Serves (c : Chain) : Prop where
  stage : c.stage = .running
  isAtWork : c.isAtWork = true

namespace Move.Effect

variable {m : Move} {c c' : Chain} {n n' : Counters} {outcome : Outcome}

/-- A chain that pays for all its outcomes is at work until the budget is spent. -/
theorem serves (h : m.Effect c n c' n') (ho : c.Orderly) (hc : c.Serves) (hm : m ≠ .mark)
    (hdie : m = .die → c.isWaiting = false)
    (hpays : ∀ outcome, m = .resolve outcome → c.isWaiting = true → c.pays outcome = true) :
    c'.Serves ∨ n'.remaining = 0 := by
  have hstage := hc.stage
  have hwork := hc.isAtWork
  have hidle : c.teardown = [] := ho.idle (by simp [hstage])
  cases h with
  | idle | retransmitted => exact .inl hc
  | refused hs | bound hs | probed hs | launched hs => simp [hstage] at hs
  | began => exact .inl ⟨hstage, rfl⟩
  | unpaid hw hn => exact .inr (hn.resolve_right (by simp [hpays _ rfl hw]))
  | @paid _ _ _ left hw =>
    rcases Nat.eq_zero_or_pos left with hl | hl
    · exact .inr hl
    · refine .inl ⟨(Chain.stage_charged left c).trans hstage, ?_⟩
      rw [Chain.charged, if_pos hl]
      exact hwork
  | died hw => simp [hdie rfl] at hw
  | marked => exact absurd rfl hm
  | left ht => simp [Chain.isAtWork, ht] at hwork
  | told ht | unbound ht | destroyed ht | counted ht => simp [hidle] at ht

/-- An outcome that a chain pays for takes something from the budget, if anything is left. -/
theorem spends (h : (resolve outcome).Effect c n c' n') (hw : c.isWaiting = true)
    (hp : c.pays outcome = true) : n'.remaining < n.remaining ∨ n'.remaining = 0 := by
  cases h with
  | idle hn => exact absurd (hw.symm.trans hn) (by simp)
  | unpaid _ hn => exact .inr (hn.resolve_right (by simp [hp]))
  | paid _ _ hn => exact .inl (hn ▸ Nat.lt_succ_self _)

end Move.Effect

/-! ## What a look has read -/

namespace Reading

variable {r r' : Reading} {n : Counters} {current : Snapshot}

/-- What has been read of the budget. -/
def budget? : Reading → Option Nat
  | nothing => none
  | budget remaining | repeated remaining _ | failed remaining _ _ => some remaining

theorem budget_of_next (h : r.next n = .inl r') {left : Nat} (hr : r'.budget? = some left) :
    left = n.remaining ∨ r.budget? = some left := by
  cases r with
  | nothing =>
    obtain rfl := Sum.inl.inj h
    exact .inl (Option.some.inj hr).symm
  | failed => exact nomatch h
  | _ =>
    obtain rfl := Sum.inl.inj h
    exact .inr hr

/-- A look has read the budget first, and the active clients last. -/
theorem of_next (h : r.next n = .inr current) :
    r.budget? = some current.remaining ∧ current.active = n.active := by
  cases r with
  | failed =>
    obtain rfl := Sum.inr.inj h
    exact ⟨rfl, rfl⟩
  | _ => exact nomatch h

end Reading

namespace Campaign

variable {p : Plan} {f : Fleet} {c c' : Campaign} {s : Step} {now k i : Nat} {course : Nat → Step}

/-- A client that keeps the pace. -/
structure Steady (p : Plan) (c : Campaign) (course : Nat → Step) (i : Nat) : Prop where
  /-- None of its exchanges takes an interval. -/
  prompt : ∀ k, (along p c course k).isAtWork i = true →
    (along p c course k).now < since p c course i k + p.settings.interval.nanoseconds
  succeeds : p.sizing.stopOnFailure = true → ∀ k outcome, course k = .move i (.resolve outcome) →
    (along p c course k).fleet.isWaiting i = true → outcome.isSuccess = true
  survives : ∀ k, course k = .move i .die → (along p c course k).fleet.isWaiting i = false

/-! ## The client is at work -/

/-- The client of a number serves. -/
def HasServing (c : Campaign) (i : Nat) : Prop := ∃ d, c.fleet.chains[i]? = some d ∧ d.Serves

/-- The client of a number is yet to be launched. -/
def HasStarted (c : Campaign) (i : Nat) : Prop :=
  (∃ j ≤ i, c.phase = .launching j) ∧
    ∃ d, c.fleet.chains[i]? = some d ∧ d.stage = .started ∧ d.task = .none

/-- The client of a number serves, unless it is too early or too late. -/
def Serves (c : Campaign) (i : Nat) : Prop :=
  c.HasStarted i ∨ c.HasServing i ∨ c.fleet.counters.remaining = 0 ∨ c.phase.verdict? ≠ none

/-- What a step may not do to a client that keeps the pace. -/
structure Spares (c : Campaign) (i : Nat) (s : Step) : Prop where
  pays : ∀ outcome d, s = .move i (.resolve outcome) → c.fleet.chains[i]? = some d →
    d.isWaiting = true → d.pays outcome = true
  survives : ∀ d, s = .move i .die → c.fleet.chains[i]? = some d → d.isWaiting = false

theorem Steady.spares (h : Steady p (start p f now) course i) (hf : f.Ready p.sizing) (k : Nat) :
    (along p (start p f now) course k).Spares i (course k) := by
  have hwalks : f.Walks (along p (start p f now) course k).fleet :=
    walks_along p _ course (Nat.zero_le k)
  have hwaiting {d : Chain} (hd : (along p (start p f now) course k).fleet.chains[i]? = some d) :
      (along p (start p f now) course k).fleet.isWaiting i = d.isWaiting := Fleet.ask_of_some hd _ _
  refine ⟨fun outcome d hs hd hw => ?_, fun d hs hd => ?_⟩
  · have hstop : d.stopOnFailure = p.sizing.stopOnFailure :=
      hwalks.forall (P := (·.stopOnFailure = p.sizing.stopOnFailure))
        (fun hm hd => hm.stopOnFailure_eq.trans hd)
        (fun d hd => (hf.prepared_chains d hd).stopOnFailure_eq) d (List.mem_of_getElem? hd)
    have hsuccess : p.sizing.stopOnFailure = true → outcome.isSuccess = true :=
      fun hp => h.succeeds hp k outcome hs ((hwaiting hd).trans hw)
    rw [Chain.pays, hstop]
    cases hp : p.sizing.stopOnFailure with
    | true => simp [hsuccess hp]
    | false => simp
  · rw [← hwaiting hd]
    exact h.survives k hs

theorem hasServing_of_ne {j : Nat} {m : Move} (h : c.HasServing i) (hij : i ≠ j) :
    (c.happen (.move j m)).HasServing i := by
  obtain ⟨d, hd, hserves⟩ := h
  exact ⟨d, (Fleet.getElem?_act_ne hij).trans hd, hserves⟩

/-- A client that serves goes on, whoever makes a move, until the budget is spent. -/
theorem HasServing.happen {j : Nat} {m : Move} (h : c.HasServing i) (ho : c.fleet.Orderly)
    (hm : m ≠ .mark) (hspares : c.Spares i (.move j m)) :
    (c.happen (.move j m)).HasServing i ∨
      (c.happen (.move j m)).fleet.counters.remaining = 0 := by
  by_cases hij : i = j
  · subst hij
    obtain ⟨d, hd, hserves⟩ := h
    obtain ⟨d', hd', he⟩ := c.fleet.effect_step m hd
    refine (he.serves (ho.chain hd) hserves hm (fun h => ?_) fun outcome h => ?_).imp_left
      fun hserves' => ⟨d', hd', hserves'⟩
    · exact hspares.survives d (h ▸ rfl) hd
    · exact hspares.pays outcome d (h ▸ rfl) hd
  · exact .inl (hasServing_of_ne h hij)

/-- Nothing happens to a client that was not launched but its launch. -/
theorem HasStarted.moved {j : Nat} {m : Move} (h : c.HasStarted i) (ho : c.fleet.Orderly)
    (hm : m.isTask = true) : (c.happen (.move j m)).HasStarted i := by
  obtain ⟨hlaunching, d, hd, hstage, htask⟩ := h
  refine ⟨hlaunching, d, ?_, hstage, htask⟩
  by_cases hij : i = j
  · subst hij
    have hidle : d.teardown = [] := (ho.chain hd).idle (by simp [hstage])
    have hnothing : m.applies d = false := by
      cases m <;> simp_all [Move.applies, Move.isTask, Chain.isWaiting]
    rw [Campaign.happen, Fleet.step, Fleet.getElem?_act_self hd,
      Move.run_of_not_applies hnothing]
  · exact (Fleet.getElem?_act_ne hij).trans hd

theorem HasStarted.launched {j : Nat} (h : c.HasStarted i) (hp : c.phase = .launching j) :
    ((c.happen (.move j .launch)).turnTo (.launching (j + 1))).Serves i := by
  obtain ⟨⟨j', hle, hj'⟩, d, hd, hstage, htask⟩ := h
  obtain rfl := Phase.launching.inj (hp.symm.trans hj')
  by_cases hij : i = j
  · subst hij
    refine .inr (.inl ⟨_, Fleet.getElem?_act_self hd, ?_⟩)
    rw [Move.run, Chain.launch, if_pos hstage]
    exact ⟨rfl, rfl⟩
  · exact .inl ⟨⟨j + 1, by omega, rfl⟩, d, (Fleet.getElem?_act_ne hij).trans hd, hstage, htask⟩

theorem Change.serves (h : Change p c s c') (hc : c.Serves i) (ho : c.fleet.Orderly)
    (hspares : c.Spares i s) : c'.Serves i := by
  rcases hc with hstarted | hserving | hspent | hverdict
  · obtain ⟨⟨j, hle, hj⟩, d, hd, hstage⟩ := hstarted
    have hlt := (List.getElem?_eq_some_iff.1 hd).1
    cases h with
    | idle | passed | woken => exact .inl ⟨⟨j, hle, hj⟩, d, hd, hstage⟩
    | moved hleaves =>
      refine .inl (HasStarted.moved ⟨⟨j, hle, hj⟩, d, hd, hstage⟩ ho ?_)
      exact (Bool.and_eq_true_iff.1 hleaves).1
    | launched hp => exact HasStarted.launched ⟨⟨j, hle, hj⟩, d, hd, hstage⟩ hp
    | opened hp hlength =>
      obtain rfl := Phase.launching.inj (hp.symm.trans hj)
      omega
    | _ hp => simp [hj] at hp
  · cases h with
    | moved hleaves =>
      have hm := (Bool.and_eq_true_iff.1 hleaves).1
      exact .inr ((hserving.happen ho (by rintro rfl; simp [Move.isTask] at hm) hspares).imp_right .inl)
    | launched =>
      refine .inr ((hserving.happen ho (by simp) ⟨?_, ?_⟩).imp_right .inl) <;> simp
    | skipped | marked | stopped | leftBehind | closed | foundStale | drained | interrupted =>
      exact .inr (.inr (.inr (by simp [turnTo, close, halt, Phase.verdict?])))
    | toreDown hp =>
      refine .inr (.inr (.inr ?_))
      simp [Campaign.happen, hp, Phase.verdict?]
    | _ => exact .inr (.inl hserving)
  · exact .inr (.inr (.inl (Nat.le_zero.1 (hspent ▸ h.walks.precedes.remaining))))
  · refine .inr (.inr (.inr ?_))
    cases h with
    | idle | unready | rested | passed | woken | moved | toreDown => exact hverdict
    | launched hp | opened hp | fell hp | interrupted hp | read hp | remembered hp | foundStale hp
      | shown hp | polled hp | drained hp => simp [hp, Phase.verdict?] at hverdict
    | _ => simp [turnTo, close, Phase.verdict?]

/-! ## Every interval takes something from the budget -/

/-- What was left at the look that the manager remembers. -/
def left (p : Plan) (c : Campaign) : Nat :=
  match c.last with
  | none => p.sizing.total + 1
  | some last => last.remaining

/-- What a client that keeps the pace takes care of, which is at work on the same exchange since a
given time. -/
structure Brisk (p : Plan) (c : Campaign) (since : Nat) : Prop where
  /-- What a look reads is less than what the look before has read. -/
  looking : ∀ r, c.phase = .looking r → c.fleet.counters.remaining < c.left p ∧
    ∀ read, r.budget? = some read → c.fleet.counters.remaining ≤ read ∧ read < c.left p
  /-- In an interval something is taken from the budget, or the exchange began before it. -/
  waiting : ∀ due w, c.phase = .waiting due w → c.fleet.counters.remaining ≤ c.left p ∧
    (∀ seen, w = .asleep seen → 0 < c.left p) ∧
    (c.fleet.counters.remaining = 0 ∨ c.fleet.counters.remaining < c.left p ∨
      since + p.settings.interval.nanoseconds ≤ due)

theorem HasServing.isAtWork (h : c.HasServing i) : c.isAtWork i = true := by
  obtain ⟨d, hd, hserves⟩ := h
  exact (Fleet.ask_of_some hd _ _).trans hserves.isAtWork

/-- While the manager waits, the client serves or the budget is spent. -/
theorem Serves.of_waiting {due : Nat} {w : Waiter} (h : c.Serves i) (hp : c.phase = .waiting due w) :
    c.HasServing i ∨ c.fleet.counters.remaining = 0 := by
  rcases h with ⟨⟨j, -, hj⟩, -⟩ | hserving | hspent | hverdict
  · exact nomatch hp.symm.trans hj
  · exact .inl hserving
  · exact .inr hspent
  · simp [hp, Phase.verdict?] at hverdict

theorem leaves_resolve (c : Campaign) (i : Nat) (outcome : Outcome) :
    c.leaves i (.resolve outcome) = true := by
  unfold leaves
  split <;> simp [Move.isTask]

/-- An answer of the client takes something from the budget. -/
theorem spends_of_answers (hs : c.answers i s = true) (hspares : c.Spares i s) :
    (c.step p s).fleet.counters.remaining < c.fleet.counters.remaining ∨
      (c.step p s).fleet.counters.remaining = 0 := by
  unfold answers at hs
  split at hs
  case h_2 => exact nomatch hs
  case h_1 j outcome =>
    obtain ⟨hj, hw⟩ := Bool.and_eq_true_iff.1 hs
    obtain rfl := beq_iff_eq.1 hj
    cases hd : c.fleet.chains[j]? with
    | none => simp [Fleet.isWaiting, Fleet.ask_of_none hd] at hw
    | some d =>
      rw [Fleet.isWaiting, Fleet.ask_of_some hd] at hw
      rw [step, if_pos (c.leaves_resolve j outcome)]
      obtain ⟨d', -, he⟩ := c.fleet.effect_step (.resolve outcome) hd
      exact he.spends hw (hspares.pays outcome d rfl hd hw)

variable {since since' : Nat}

/-- How a client keeps the pace with one step. -/
structure Keeps (p : Plan) (c : Campaign) (i : Nat) (s : Step) (c' : Campaign)
    (since since' : Nat) : Prop where
  serves : c.Serves i
  serves' : c'.Serves i
  spends : c.answers i s = true →
    c'.fleet.counters.remaining < c.fleet.counters.remaining ∨ c'.fleet.counters.remaining = 0
  prompt : c.isAtWork i = true → c.now < since + p.settings.interval.nanoseconds
  since_eq : c.isAtWork i = true → c.answers i s = false → since' = since
  since_le : since' ≤ c'.now

/-- While the manager waits, nothing else takes the time of an interval. -/
theorem Brisk.wait {due : Nat} {w w' : Waiter} (hc : c.Brisk p since)
    (hk : Keeps p c i s c' since since') (hp : c.phase = .waiting due w)
    (hp' : c'.phase = .waiting due w') (hlast : c'.last = c.last)
    (hle : c'.fleet.counters.remaining ≤ c.fleet.counters.remaining)
    (hasleep : ∀ seen, w' = .asleep seen → w = .asleep seen ∨ 0 < c.fleet.counters.remaining) :
    c'.Brisk p since' := by
  obtain ⟨hremaining, hpos, htime⟩ := hc.waiting due w hp
  have hleft : c'.left p = c.left p := by simp only [left, hlast]
  refine ⟨fun r hr => absurd (hp'.symm.trans hr) (by simp), fun due' w'' hw'' => ?_⟩
  obtain ⟨rfl, rfl⟩ := Phase.waiting.inj (hp'.symm.trans hw'')
  rw [hleft]
  refine ⟨Nat.le_trans hle hremaining, fun seen hseen => ?_, ?_⟩
  · rcases hasleep seen hseen with hw | hr
    · exact hpos seen hw
    · exact Nat.lt_of_lt_of_le hr hremaining
  · rcases hk.serves.of_waiting hp with hserving | hspent
    · cases hs : c.answers i s with
      | true =>
        rcases hk.spends hs with hlt | hzero
        · exact .inr (.inl (Nat.lt_of_lt_of_le hlt hremaining))
        · exact .inl hzero
      | false =>
        rw [hk.since_eq hserving.isAtWork hs]
        omega
    · exact .inl (by omega)

/-- While a look is taken, nothing is put back into the budget. -/
theorem Brisk.look {r : Reading} (hc : c.Brisk p since) (hp : c.phase = .looking r)
    (hp' : c'.phase = .looking r) (hlast : c'.last = c.last)
    (hle : c'.fleet.counters.remaining ≤ c.fleet.counters.remaining) : c'.Brisk p since' := by
  obtain ⟨hremaining, hread⟩ := hc.looking r hp
  have hleft : c'.left p = c.left p := by simp only [left, hlast]
  refine ⟨fun r' hr' => ?_, fun due w hw => absurd (hp'.symm.trans hw) (by simp)⟩
  obtain rfl := Phase.looking.inj (hp'.symm.trans hr')
  rw [hleft]
  refine ⟨Nat.lt_of_le_of_lt hle hremaining, fun read hr => ?_⟩
  obtain ⟨hle', hlt⟩ := hread read hr
  exact ⟨Nat.le_trans hle hle', hlt⟩

/-- Whoever neither waits nor looks has nothing to take care of. -/
theorem brisk_of_neither (hlooking : ∀ r, c.phase ≠ .looking r)
    (hwaiting : ∀ due w, c.phase ≠ .waiting due w) : c.Brisk p since :=
  ⟨fun r hr => absurd hr (hlooking r), fun due w hw => absurd hw (hwaiting due w)⟩

/-- A step that is none of the manager's. -/
theorem Brisk.aside (hc : c.Brisk p since) (hk : Keeps p c i s c' since since')
    (hphase : c'.phase = c.phase) (hlast : c'.last = c.last)
    (hle : c'.fleet.counters.remaining ≤ c.fleet.counters.remaining) : c'.Brisk p since' := by
  cases hp : c.phase with
  | looking r => exact hc.look hp (hphase.trans hp) hlast hle
  | waiting due w => exact hc.wait hk hp (hphase.trans hp) hlast hle fun _ => .inl
  | _ => exact brisk_of_neither (by simp [hphase, hp]) (by simp [hphase, hp])

/-- An interval that is over has taken something from the budget. -/
theorem Brisk.fell {due : Nat} {w : Waiter} (hc : c.Brisk p since)
    (hk : Keeps p c i s c' since since') (hp : c.phase = .waiting due w) (hdue : due ≤ c.now)
    (hw : w.isBlocked c.wakes = true) : (c.turnTo (.looking .nothing)).Brisk p since' := by
  obtain ⟨hremaining, hpos, htime⟩ := hc.waiting due w hp
  have hleft : 0 < c.left p := by
    cases w with
    | asleep seen => exact hpos seen rfl
    | _ => exact nomatch hw
  have hlt : c.fleet.counters.remaining < c.left p := by
    rcases hk.serves.of_waiting hp with hserving | hspent
    · have hprompt := hk.prompt hserving.isAtWork
      omega
    · omega
  refine ⟨fun r hr => ⟨hlt, fun read hread => ?_⟩, fun due' w' hw' => nomatch hw'⟩
  obtain rfl := Phase.looking.inj hr
  exact nomatch hread

theorem Brisk.read {r r' : Reading} (hc : c.Brisk p since) (hp : c.phase = .looking r)
    (hn : r.next c.fleet.counters = .inl r') : (c.turnTo (.looking r')).Brisk p since' := by
  obtain ⟨hremaining, hread⟩ := hc.looking r hp
  refine ⟨fun r'' hr'' => ⟨hremaining, fun read hr => ?_⟩, fun due w hw => nomatch hw⟩
  obtain rfl := Phase.looking.inj hr''
  rcases Reading.budget_of_next hn hr with rfl | hearlier
  · exact ⟨Nat.le_refl _, hremaining⟩
  · exact hread read hearlier

/-- An interval begins after a look. -/
theorem Brisk.await {r : Reading} {current : Snapshot} {lines : List String}
    (hc : c.Brisk p since) (hp : c.phase = .looking r)
    (hn : r.next c.fleet.counters = .inr current)
    (hk : Keeps p c i s
      ({ c with last := some current, printed := lines }.await p) since since') :
    ({ c with last := some current, printed := lines }.await p).Brisk p since' := by
  obtain ⟨-, hread⟩ := hc.looking r hp
  obtain ⟨hle, -⟩ := hread _ (Reading.of_next hn).1
  refine ⟨fun r hr => (nomatch hr), fun due w hw => ?_⟩
  obtain ⟨rfl, rfl⟩ := Phase.waiting.inj hw
  refine ⟨hle, fun seen hseen => (nomatch hseen), .inr (.inr ?_)⟩
  exact Nat.add_le_add_right hk.since_le _

theorem Change.brisk (h : Change p c s c') (hc : c.Brisk p since)
    (hk : Keeps p c i s c' since since') (hlaunching : ∀ j, c.phase = .launching j → c.last = none)
    (hbooks : c.fleet.counters.remaining ≤ p.sizing.total) : c'.Brisk p since' := by
  have hle := h.walks.precedes.remaining
  cases h with
  | idle | unready | rested | passed | moved | woken | toreDown => exact hc.aside hk rfl rfl hle
  | fell hp hdue hw => exact hc.fell hk hp hdue hw
  | opened hp =>
    refine ⟨fun r hr => ⟨?_, fun read hread => ?_⟩, fun due w hw => by cases hw⟩
    · simp only [left, hlaunching _ hp]
      omega
    · obtain rfl := Phase.looking.inj hr
      cases hread
  | read hp hn => exact hc.read hp hn
  | remembered hp hn | shown hp hn => exact hc.await hp hn hk
  | @polled due w hp =>
    refine hc.wait hk hp rfl rfl hle fun seen hseen => ?_
    cases w with
    | asleep before =>
      rw [Waiter.step] at hseen
      split at hseen
      case isTrue => cases hseen
      case isFalse => exact .inl hseen
    | registered before =>
      rw [Waiter.step] at hseen
      split at hseen
      case isTrue => cases hseen
      case isFalse hr => exact .inr (Nat.pos_of_ne_zero hr)
    | _ => cases hseen
  | _ => exact brisk_of_neither (by simp [turnTo, close, halt]) (by simp [turnTo, close, halt])

/-! ## The whole run -/

/-- A client that keeps the pace serves, and nothing stands still. -/
theorem serves_along (hf : f.Ready p.sizing) {d : Chain} (hd : f.chains[i]? = some d)
    (hstage : d.stage = .started) (h : Steady p (start p f now) course i) (k : Nat) :
    (along p (start p f now) course k).Serves i := by
  induction k with
  | zero =>
    exact .inl ⟨⟨0, Nat.zero_le i, rfl⟩, d, hd, hstage,
      (hf.prepared_chains d (List.mem_of_getElem? hd)).task⟩
  | succ k ih =>
    have horderly := (hf.sampled.walks (walks_along p (start p f now) course (Nat.zero_le k))).orderly
    exact (change_along p _ course k).serves ih horderly (h.spares hf k)

theorem brisk_along (hf : f.Ready p.sizing) {d : Chain} (hd : f.chains[i]? = some d)
    (hstage : d.stage = .started) (h : Steady p (start p f now) course i) (k : Nat) :
    (along p (start p f now) course k).Brisk p (Campaign.since p (start p f now) course i k) := by
  induction k with
  | zero => exact brisk_of_neither (by simp [along, start]) (by simp [along, start])
  | succ k ih =>
    have hbooks := (hf.sampled.walks (walks_along p (start p f now) course (Nat.zero_le k))).books
    refine (change_along p _ course k).brisk (i := i) ih ⟨serves_along hf hd hstage h k,
      serves_along hf hd hstage h (k + 1), fun hs => spends_of_answers hs (h.spares hf k),
      h.prompt k, fun hwork hs => ?_, since_le_now p _ course i (k + 1)⟩ ?_ (by omega)
    · rw [Campaign.since, hwork, hs]
      rfl
    · rw [along_eq_apply]
      exact last_of_launching_apply p f now _

/-- A run with a client that keeps the pace is found stale only if the budget was spent before the
last counter of the look was read. -/
theorem Change.spent_of_stale (h : Change p c s c') (hc : c.Brisk p since) (hserves : c.Serves i)
    (hsampled : c.fleet.Sampled p.sizing.total)
    (hspent : c.ending? = some .stale → c.fleet.counters.remaining = 0) :
    c'.ending? = some .stale → c'.fleet.counters.remaining = 0 := by
  intro hs
  have hwalk (hzero : c.fleet.counters.remaining = 0) : c'.fleet.counters.remaining = 0 :=
    Nat.le_zero.1 (hzero ▸ h.walks.precedes.remaining)
  cases h with
  | idle | unready | rested | passed | moved | woken | toreDown => exact hwalk (hspent hs)
  | skipped hp | marked hp | stopped hp | leftBehind hp | closed hp =>
    refine hwalk (hspent ?_)
    rw [ending?, hp]
    exact hs
  | @foundStale r current last hp hn hlast hstale =>
    obtain ⟨hread, hactive⟩ := Reading.of_next hn
    have hlt := ((hc.looking r hp).2 _ hread).2
    simp only [left, hlast] at hlt
    -- Something was accounted for since the last look, so nobody is counted as active.
    have hzero : c.fleet.counters.active = 0 := by
      rw [← hactive]
      simp only [isStale, Counters.since, Bool.or_eq_true, Bool.and_eq_true, beq_iff_eq] at hstale
      omega
    rcases hserves with ⟨⟨j, -, hj⟩, -⟩ | ⟨d, hd, hrunning⟩ | hspent | hverdict
    · cases hp.symm.trans hj
    · have hpresence := hsampled.active_eq_zero_iff.1 hzero d (List.mem_of_getElem? hd)
      simp [Chain.presence, hrunning.stage] at hpresence
    · exact hspent
    · simp [hp, Phase.verdict?] at hverdict
  | _ => cases hs

theorem spent_of_stale (hf : f.Ready p.sizing) {d : Chain} (hd : f.chains[i]? = some d)
    (hstage : d.stage = .started) (h : Steady p (start p f now) course i) (k : Nat) :
    (along p (start p f now) course k).ending? = some .stale →
      (along p (start p f now) course k).fleet.counters.remaining = 0 := by
  induction k with
  | zero => exact (nomatch ·)
  | succ k ih =>
    exact (change_along p _ course k).spent_of_stale (brisk_along hf hd hstage h k)
      (serves_along hf hd hstage h k)
      (hf.sampled.walks (walks_along p (start p f now) course (Nat.zero_le k))) ih

end Campaign

end LoadHarness
