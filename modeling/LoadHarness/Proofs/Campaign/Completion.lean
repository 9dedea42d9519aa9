import LoadHarness.Proofs.Campaign.Pace
import LoadHarness.Proofs.Campaign.Shutdown

/-!
# Runs that come to their end

With one client that keeps the pace a run comes to its end, whatever all others do : it is launched,
every interval takes something from the budget, so that there is no end of intervals, and when the
watch is over every client is stopped, whoever hangs, and the report is made. In the phases in which
the manager is busy (`Phase.isBusy`) it has fewer and fewer chores (`Campaign.chores`), a waiter is
soon asleep (`Waiter.toDo`), and what is left of a teardown gets less (`Fleet.remains`).

So a fair course leads to the end of the run (`Campaign.Sustained.exists_over`).
-/

namespace LoadHarness

/-! ## Teardowns -/

theorem Move.Effect.length_teardown_le {m : Move} {c c' : Chain} {n n' : Counters}
    (h : m.Effect c n c' n') (hs : c.stage = .stopped) :
    c'.teardown.length ≤ c.teardown.length := by
  cases h with
  | paid => exact Nat.le_of_eq (by rw [Chain.teardown_charged])
  | marked hn => exact absurd hs hn
  | left => exact Nat.le_of_eq (by rw [Chain.mark, if_pos hs])
  | told ht | unbound ht | destroyed ht | counted ht =>
    rw [ht]
    exact Nat.le_succ _
  | _ => exact Nat.le_refl _

theorem Move.Effect.length_teardown_lt {c c' : Chain} {n n' : Counters}
    (h : Move.tearDown.Effect c n c' n') (ht : c.teardown ≠ []) :
    c'.teardown.length < c.teardown.length := by
  cases h with
  | idle hn => simp [applies, ht] at hn
  | told hs | unbound hs | destroyed hs | counted hs =>
    rw [hs]
    exact Nat.lt_succ_self _

namespace Fleet

variable {f : Fleet} {i : Nat}

/-- What is left of the teardown of a client. -/
def remains (f : Fleet) (i : Nat) : Nat := f.ask i 0 (·.teardown.length)

theorem remains_eq {d : Chain} (hd : f.chains[i]? = some d) : f.remains i = d.teardown.length :=
  ask_of_some hd _ _

theorem remains_step_le (h : ∀ d, f.chains[i]? = some d → d.stage = .stopped) (j : Nat) (m : Move) :
    (f.step (.move j m)).remains i ≤ f.remains i := by
  cases hd : f.chains[i]? with
  | none =>
    have hnone : (f.step (.move j m)).chains[i]? = none := by
      rw [List.getElem?_eq_none_iff] at hd ⊢
      rwa [(f.walks_step j m).length_eq]
    rw [remains, ask_of_none hnone]
    exact Nat.zero_le _
  | some d =>
    by_cases hij : i = j
    · subst hij
      obtain ⟨d', hd', he⟩ := f.effect_step m hd
      rw [remains_eq hd, remains_eq hd']
      exact he.length_teardown_le (h d hd)
    · have hd' : (f.step (.move j m)).chains[i]? = some d := (getElem?_act_ne hij).trans hd
      exact Nat.le_of_eq (by rw [remains_eq hd, remains_eq hd'])

/-- A step of a teardown leaves less of it. -/
theorem remains_tearDown_lt (h : 0 < f.remains i) :
    (f.step (.move i .tearDown)).remains i < f.remains i := by
  cases hd : f.chains[i]? with
  | none => simp [remains, ask_of_none hd] at h
  | some d =>
    obtain ⟨d', hd', he⟩ := f.effect_step .tearDown hd
    rw [remains_eq hd] at h ⊢
    rw [remains_eq hd']
    exact he.length_teardown_lt (List.ne_nil_of_length_pos h)

theorem Orderly.remains_le (h : f.Orderly) (i : Nat) : f.remains i ≤ 4 := by
  cases hd : f.chains[i]? with
  | none => simp [remains, ask_of_none hd]
  | some d =>
    rw [remains_eq hd]
    exact (h.chain hd).length_le

theorem Ready.heeds {s : Sizing} (h : f.Ready s) : ∀ c ∈ f.chains, c.Heeds := by
  obtain ⟨events, he, rfl⟩ := h.prepared
  refine apply_induction (P := fun g => ∀ c ∈ g.chains, c.Heeds) ?_ he
    (fun c hc => absurd hc List.not_mem_nil)
  intro g e he hg
  cases e with
  | build id stopOnFailure =>
    intro c hc
    rcases List.mem_append.1 hc with hc | hc
    · exact hg c hc
    · rw [List.mem_singleton.1 hc]
      exact Chain.heeds_create id stopOnFailure
  | move i m => exact forall_step (fun hm => hm.heeds) hg i
  | consume | enter => simp [Event.prepares] at he

end Fleet

/-! ## Waiters -/

namespace Waiter

variable {w : Waiter} {wakes remaining : Nat}

/-- How far a waiter is from where it can do nothing by itself. -/
def toDo (wakes : Nat) : Waiter → Nat
  | arriving => 3
  | registered seen => if seen < wakes then 5 else 2
  | asleep seen => if seen < wakes then 4 else 1
  | released => 1

theorem toDo_step_lt (hw : w ≠ released) (hb : w.isBlocked wakes = false) :
    (w.step remaining wakes).toDo wakes < w.toDo wakes := by
  cases w with
  | arriving => simp [step, toDo]
  | registered seen =>
    rw [step]
    split <;> simp only [toDo] <;> split <;> omega
  | asleep seen =>
    have hlt : seen < wakes := by simpa [isBlocked] using hb
    simp [step, toDo, hlt]
  | released => exact absurd rfl hw

theorem step_of_isBlocked (hb : w.isBlocked wakes = true) : w.step remaining wakes = w := by
  cases w with
  | asleep seen =>
    have hle : wakes ≤ seen := by simpa [isBlocked] using hb
    exact if_neg (Nat.not_lt.2 hle)
  | _ => cases hb

/-- A wake-up is no more than four steps away. -/
theorem toDo_wake_lt (w : Waiter) : w.toDo 1 < w.toDo 0 + 4 := by
  cases w with
  | arriving | released => simp [toDo]
  | registered seen | asleep seen =>
    simp only [toDo, Nat.not_lt_zero, if_false]
    split <;> omega

end Waiter

/-! ## What the manager has to do -/

/-- The counters that a look has yet to read. -/
def Reading.toRead : Reading → Nat
  | nothing => 4
  | budget _ => 3
  | repeated _ _ => 2
  | failed _ _ _ => 1

theorem Reading.toRead_next {r r' : Reading} {n : Counters} (h : r.next n = .inl r') :
    r'.toRead < r.toRead := by
  cases r with
  | failed => exact nomatch h
  | _ =>
    obtain rfl := Sum.inl.inj h
    simp [toRead]

theorem Reading.toRead_pos (r : Reading) : 0 < r.toRead := by
  cases r <;> simp [toRead]

/-- Whether the manager waits for nobody. -/
def Phase.isBusy : Phase → Bool
  | launching _ | looking _ | stopping _ _ | tearingDown _ _ => true
  | waiting _ _ | joining _ | ended _ _ => false

namespace Campaign

variable {p : Plan} {c c' : Campaign} {s : Step} {f : Fleet} {now i k n since : Nat}
  {course : Nat → Step}

/-- What a busy manager has to do. There are up to seven steps for each client, after which there is
a look, and before that the launch. -/
def chores (c : Campaign) : Nat :=
  let clients := c.fleet.chains.length
  match c.phase with
  | .launching i => 7 * clients + 5 + (clients - i)
  | .looking r => 7 * clients + r.toRead
  | .stopping _ i => 7 * (clients - i)
  | .tearingDown _ i => 7 * (clients - (i + 1)) + 1 + c.fleet.remains i
  | _ => 0

theorem chores_happen_le (h : c.StopsInTurn) (j : Nat) (m : Move) :
    (c.happen (.move j m)).chores ≤ c.chores := by
  have hlength : (c.happen (.move j m)).fleet.chains.length = c.fleet.chains.length :=
    (c.fleet.walks_step j m).length_eq
  have hphase : (c.happen (.move j m)).phase = c.phase := rfl
  unfold chores
  rw [hlength, hphase]
  split
  case h_4 v i hp =>
    have hhalted : c.halted = i + 1 := by simp [halted, hp]
    exact Nat.add_le_add_left
      (c.fleet.remains_step_le (h i (hhalted ▸ Nat.lt_succ_self i)) j m) _
  all_goals exact Nat.le_refl _

/-- The manager waits for an interval. -/
def Waits (p : Plan) (n : Nat) (c : Campaign) : Prop := c.isWaiting = true ∧ c.left p = n

/-- The manager waits for the tasks. -/
def IsJoining (c : Campaign) : Prop := ∃ v, c.phase = .joining v

def IsOver (c : Campaign) : Prop := ∃ v k, c.phase = .ended v k

/-- The manager is busy. -/
def Busies (p : Plan) (n : Nat) (c : Campaign) : Prop := c.phase.isBusy = true ∧ c.left p = n

/-- A step in a phase in which the manager is busy leaves it busy, with less to do if the step is its
own, or it waits for the next interval, of which less is left, or for the tasks. -/
theorem Change.busies (h : Change p c s c') (hc : c.Busies p n) (hb : c.Brisk p since)
    (hstops : c.StopsInTurn) (ho : c.fleet.Orderly) :
    c'.Busies p n ∧ c'.chores ≤ c.chores ∧ (s = .proceed → c'.chores < c.chores) ∨
      (∃ m < n, c'.Waits p m) ∨ c'.IsJoining := by
  obtain ⟨hbusy, hleft⟩ := hc
  have hlength : c'.fleet.chains.length = c.fleet.chains.length := h.walks.length_eq
  cases h with
  | idle hs => exact .inl ⟨⟨hbusy, hleft⟩, Nat.le_refl _, fun hp => absurd hp hs⟩
  | passed | woken => exact .inl ⟨⟨hbusy, hleft⟩, Nat.le_refl _, (nomatch ·)⟩
  | moved => exact .inl ⟨⟨hbusy, hleft⟩, chores_happen_le hstops _ _, (nomatch ·)⟩
  | fell hp | interrupted hp | polled hp | drained hp | unready hp | rested hp | closed hp =>
    simp [hp, Phase.isBusy] at hbusy
  | @launched i hp hi =>
    have hlt : ((c.happen (.move i .launch)).turnTo (.launching (i + 1))).chores < c.chores := by
      simp only [chores, turnTo, hp] at hlength ⊢
      omega
    exact .inl ⟨⟨rfl, hleft⟩, Nat.le_of_lt hlt, fun _ => hlt⟩
  | @opened i hp hi =>
    refine .inl ⟨⟨rfl, hleft⟩, ?_, fun _ => ?_⟩ <;> simp only [chores, hp, Reading.toRead] <;> omega
  | @read r r' hp hn =>
    have hlt : (c.turnTo (.looking r')).chores < c.chores := by
      simp only [chores, turnTo, hp]
      exact Nat.add_lt_add_left (Reading.toRead_next hn) _
    exact .inl ⟨⟨rfl, hleft⟩, Nat.le_of_lt hlt, fun _ => hlt⟩
  | @foundStale r current last hp =>
    have hlt : (c.halt .stale).chores < c.chores := by
      have hpos := r.toRead_pos
      simp only [chores, halt, turnTo, hp]
      omega
    exact .inl ⟨⟨rfl, hleft⟩, Nat.le_of_lt hlt, fun _ => hlt⟩
  | remembered hp hn | shown hp hn =>
    obtain ⟨hread, -⟩ := Reading.of_next hn
    exact .inr (.inl ⟨_, hleft ▸ ((hb.looking _ hp).2 _ hread).2, rfl, rfl⟩)
  | @skipped v i d hp hd =>
    have hi := (List.getElem?_eq_some_iff.1 hd).1
    have hlt : ((c.happen (.move i .mark)).turnTo (.stopping v (i + 1))).chores < c.chores := by
      simp only [chores, turnTo, hp] at hlength ⊢
      omega
    exact .inl ⟨⟨rfl, hleft⟩, Nat.le_of_lt hlt, fun _ => hlt⟩
  | @marked v i d hp hd =>
    have hi := (List.getElem?_eq_some_iff.1 hd).1
    have hremains : (c.happen (.move i .mark)).fleet.remains i ≤ 4 :=
      (ho.step (e := .move i .mark) (by simp)).remains_le i
    have hlt : ((c.happen (.move i .mark)).turnTo (.tearingDown v i)).chores < c.chores := by
      simp only [chores, turnTo, hp] at hlength ⊢
      omega
    exact .inl ⟨⟨rfl, hleft⟩, Nat.le_of_lt hlt, fun _ => hlt⟩
  | stopped => exact .inr (.inr ⟨_, rfl⟩)
  | @toreDown v i d hp hd ht =>
    have hremains : (c.happen (.move i .tearDown)).fleet.remains i < c.fleet.remains i := by
      refine c.fleet.remains_tearDown_lt ?_
      rw [Fleet.remains_eq hd]
      exact List.length_pos_iff.2 ht
    have hphase : (c.happen (.move i .tearDown)).phase = .tearingDown v i := hp
    have hlt : (c.happen (.move i .tearDown)).chores < c.chores := by
      simp only [chores, hphase, hp, hlength]
      omega
    exact .inl ⟨⟨hbusy, hleft⟩, Nat.le_of_lt hlt, fun _ => hlt⟩
  | @leftBehind v i hp =>
    have hlt : (c.turnTo (.stopping v (i + 1))).chores < c.chores := by
      simp only [chores, turnTo, hp]
      omega
    exact .inl ⟨⟨rfl, hleft⟩, Nat.le_of_lt hlt, fun _ => hlt⟩

/-- How far the manager is from where it can only wait. -/
def patience (c : Campaign) : Nat :=
  match c.phase with
  | .waiting _ w => 4 * (1 - c.wakes) + w.toDo c.wakes
  | _ => 0

/-- A step while the manager waits leaves it where it is, or brings it nearer to where it can only
wait, or the interval is over. -/
theorem Change.waits {due : Nat} {w : Waiter} (h : Change p c s c') (hp : c.phase = .waiting due w)
    (hleft : c.left p = n) (hsound : c.drain.Sound p.sizing.total) :
    (c'.phase = .waiting due w ∧ c'.wakes = c.wakes ∧ c'.left p = n ∧
        (s = .proceed → w.isBlocked c.wakes = true)) ∨
      c'.Waits p n ∧ c'.patience < c.patience ∨ c'.Busies p n := by
  cases h with
  | idle hs => exact .inl ⟨hp, rfl, hleft, fun h => absurd h hs⟩
  | passed | moved => exact .inl ⟨hp, rfl, hleft, by simp⟩
  | @woken owed ho =>
    have hsignals := hsound.signals
    have hone : c.owed + c.wakes ≤ 1 := by
      change c.owed + c.wakes = _ at hsignals
      split at hsignals <;> omega
    have hwakes : c.wakes = 0 := by omega
    refine .inr (.inl ⟨⟨isWaiting_iff.2 ⟨due, w, hp⟩, hleft⟩, ?_⟩)
    simp only [patience, hp, hwakes, Nat.zero_add]
    have htoDo := w.toDo_wake_lt
    omega
  | fell | interrupted | drained => exact .inr (.inr ⟨rfl, hleft⟩)
  | @polled due' w' hp' hw =>
    obtain ⟨rfl, rfl⟩ := Phase.waiting.inj (hp.symm.trans hp')
    cases hb : w.isBlocked c.wakes with
    | true =>
      rw [Waiter.step_of_isBlocked hb]
      exact .inl ⟨rfl, rfl, hleft, fun _ => rfl⟩
    | false =>
      refine .inr (.inl ⟨⟨rfl, hleft⟩, ?_⟩)
      simp only [patience, turnTo, hp]
      exact Nat.add_lt_add_left (Waiter.toDo_step_lt hw hb) _
  | launched hp' | opened hp' | read hp' | remembered hp' | foundStale hp' | shown hp' | skipped hp'
    | marked hp' | stopped hp' | toreDown hp' | leftBehind hp' | unready hp' | closed hp'
    | rested hp' => cases hp.symm.trans hp'

/-! ## The end of the watch -/

/-- A run with a client that keeps the pace, in which everybody else takes their steps at last. -/
structure Sustained (p : Plan) (f : Fleet) (now : Nat) (course : Nat → Step) (i : Nat) : Prop where
  ready : f.Ready p.sizing
  started : ∃ d, f.chains[i]? = some d ∧ d.stage = .started
  steady : Steady p (start p f now) course i
  fair : Fair p (start p f now) course

theorem sound_along (hf : f.Ready p.sizing) (k : Nat) :
    (along p (start p f now) course k).drain.Sound p.sizing.total := by
  rw [along_eq_apply]
  exact sound_apply hf now _

theorem stopped_along (p : Plan) (f : Fleet) (now : Nat) (course : Nat → Step) (k : Nat) :
    (along p (start p f now) course k).StopsInTurn := by
  rw [along_eq_apply]
  exact stopped_apply p f now _

theorem sampled_along (hf : f.Ready p.sizing) (k : Nat) :
    (along p (start p f now) course k).fleet.Sampled p.sizing.total :=
  hf.sampled.walks (walks_along p (start p f now) course (Nat.zero_le k))

/-- Nothing is left of the teardowns of so many clients. -/
def IsCleared (i : Nat) (c : Campaign) : Prop := c.IsJoining ∧ ∀ j < i, c.fleet.remains j = 0

theorem Change.joins (h : Change p c s c') (hc : c.IsJoining) (hstops : c.StopsInTurn) :
    c'.IsJoining ∧ (∀ i, c'.fleet.remains i ≤ c.fleet.remains i) ∨ c'.IsOver := by
  obtain ⟨v, hp⟩ := hc
  cases h with
  | idle | passed | woken | unready => exact .inl ⟨⟨v, hp⟩, fun _ => Nat.le_refl _⟩
  | moved =>
    have hhalted : c.halted = c.fleet.chains.length := by simp [halted, hp]
    refine .inl ⟨⟨v, hp⟩, fun i => c.fleet.remains_step_le (fun d hd => ?_) _ _⟩
    exact hstops i (hhalted ▸ (List.getElem?_eq_some_iff.1 hd).1) d hd
  | closed => exact .inr ⟨_, _, rfl⟩
  | _ hp' => cases hp.symm.trans hp'

theorem Change.cleared (h : Change p c s c') (hc : c.IsCleared i) (hstops : c.StopsInTurn) :
    c'.IsCleared i ∨ c'.IsOver := by
  obtain ⟨hjoining, hz⟩ := hc
  exact (h.joins hjoining hstops).imp_left fun ⟨hjoining', hle⟩ =>
    ⟨hjoining', fun j hj => Nat.le_zero.1 (hz j hj ▸ hle j)⟩

theorem leaves_of_joining (hc : c.IsJoining) : c.leaves i .tearDown = true := by
  obtain ⟨v, hp⟩ := hc
  rw [leaves, hp]
  rfl

namespace Sustained

variable {i' : Nat} (h : Sustained p f now course i)
include h

/-- An interval is over at last. -/
theorem leadsTo_busies (n : Nat) :
    LeadsTo (along p (start p f now) course) (Waits p n) (Busies p n) := by
  refine .of_smaller patience fun r k ⟨hwaits, hr⟩ => ?_
  obtain ⟨due, w, hp⟩ := isWaiting_iff.1 hwaits.1
  generalize hwakes : (along p (start p f now) course k).wakes = wakes
  let Stays : Campaign → Prop := fun c => c.phase = .waiting due w ∧ c.wakes = wakes ∧ c.left p = n
  let Goal : Campaign → Prop := fun c => (c.Waits p n ∧ c.patience < r) ∨ c.Busies p n
  have hstays : Stays (along p (start p f now) course k) := ⟨hp, hwakes, hwaits.2⟩
  have hpatience : ∀ c, Stays c → c.patience = r := by
    rintro c ⟨hp', hwakes', -⟩
    rw [← hr]
    simp only [patience, hp, hp', hwakes, hwakes']
  have hstep : ∀ m, Stays (along p (start p f now) course m) →
      Stays (along p (start p f now) course (m + 1)) ∧
          (course m = .proceed → w.isBlocked wakes = true) ∨
        Goal (along p (start p f now) course (m + 1)) := by
    intro m hm
    obtain ⟨hp', hwakes', hleft'⟩ := hm
    rcases (change_along p _ course m).waits hp' hleft' (sound_along h.ready m) with
      ⟨hp'', hwakes'', hleft'', hproceed⟩ | ⟨hwaits', hlt⟩ | hbusies
    · exact .inl ⟨⟨hp'', hwakes''.trans hwakes', hleft''⟩, hwakes' ▸ hproceed⟩
    · exact .inr (.inl ⟨hwaits', hpatience _ ⟨hp', hwakes', hleft'⟩ ▸ hlt⟩)
    · exact .inr (.inr hbusies)
  have hkeep := fun m hm => (hstep m hm).imp_left And.left
  cases hb : w.isBlocked wakes with
  | false =>
    obtain ⟨m, hkm, hproceed⟩ := h.fair.proceed k
    rcases holds_until hkeep hkm hstays with hm | hgoal
    · refine ⟨m + 1, Nat.le_succ_of_le hkm, (hstep m hm).resolve_left fun ⟨_, hblocked⟩ => ?_⟩
      simp [hblocked hproceed] at hb
    · exact hgoal
  | true =>
    -- The end of the interval is noticed once it has come.
    obtain ⟨m, hdue⟩ := h.fair.time due
    obtain ⟨l, hl, htimer⟩ := h.fair.timer (max k m)
    rcases holds_until hkeep (Nat.le_trans (Nat.le_max_left k m) hl) hstays with hm | hgoal
    · obtain ⟨hp', hwakes', hleft'⟩ := hm
      have hnow := Nat.le_trans hdue (now_along_le (Nat.le_trans (Nat.le_max_right k m) hl))
      have hisDue := isDue_iff.2 ⟨due, w, hp', hnow, hwakes' ▸ hb⟩
      refine ⟨l + 1, by omega, .inr ?_⟩
      rw [along, htimer, step, if_pos hisDue]
      exact ⟨rfl, hleft'⟩
    · exact hgoal

/-- A busy manager comes to an interval of which less is left, or to the end of the watch. -/
theorem leadsTo_waits (n : Nat) :
    LeadsTo (along p (start p f now) course) (Busies p n)
      fun c => (∃ m < n, c.Waits p m) ∨ c.IsJoining := by
  obtain ⟨d, hd, hstage⟩ := h.started
  have hstep := fun k hk => (change_along p _ course k).busies (n := n) hk
    (brisk_along h.ready hd hstage h.steady k) (stopped_along p f now course k)
    (sampled_along h.ready k).orderly
  refine .of_rank chores h.fair.proceed (fun k hk => ?_) fun k hk hproceed => ?_
  · exact (hstep k hk).imp_left fun ⟨hbusies, hle, _⟩ => ⟨hbusies, hle⟩
  · exact (hstep k hk).imp_left fun ⟨hbusies, _, hlt⟩ => ⟨hbusies, hlt hproceed⟩

/-- There is no end of intervals, as each takes something from the budget. -/
theorem leadsTo_joining (n : Nat) :
    LeadsTo (along p (start p f now) course) (Busies p n) IsJoining := by
  induction n using Nat.strongRecOn with
  | ind n ih =>
    intro k hk
    obtain ⟨m, hkm, ⟨l, hl, hwaits⟩ | hjoining⟩ := h.leadsTo_waits n k hk
    · obtain ⟨m', hm', hjoining⟩ := (h.leadsTo_busies l).trans (ih l hl) m hwaits
      exact ⟨m', Nat.le_trans hkm hm', hjoining⟩
    · exact ⟨m, hkm, hjoining⟩

/-! ## The end of the run -/

/-- While the manager waits for the tasks, less and less is left of each teardown. -/
theorem leadsTo_remains (hi : i' < f.chains.length) :
    LeadsTo (along p (start p f now) course) IsJoining
      fun c => c.IsOver ∨ c.IsJoining ∧ c.fleet.remains i' = 0 := by
  have hstep := fun k hk => (change_along p _ course k).joins hk (stopped_along p f now course k)
  refine .of_rank (fun c => c.fleet.remains i') (h.fair.tearDown i' hi) (fun k hk => ?_)
    fun k hk htearDown => ?_
  · exact (hstep k hk).imp (fun ⟨hjoining, hle⟩ => ⟨hjoining, hle i'⟩) .inl
  · rcases hstep k hk with ⟨hjoining, hle⟩ | hover
    · rcases Nat.eq_zero_or_pos ((along p (start p f now) course k).fleet.remains i') with hz | hpos
      · exact .inr (.inr ⟨hjoining, Nat.le_zero.1 (hz ▸ hle i')⟩)
      · refine .inl ⟨hjoining, ?_⟩
        rw [along, htearDown, step, if_pos (leaves_of_joining hk)]
        exact Fleet.remains_tearDown_lt hpos
    · exact .inr (.inl hover)

theorem leadsTo_cleared {j : Nat} (hj : j ≤ f.chains.length) :
    LeadsTo (along p (start p f now) course) IsJoining
      fun c => c.IsOver ∨ c.IsCleared j := by
  induction j with
  | zero => exact fun k hk => ⟨k, Nat.le_refl k, .inr ⟨hk, fun i hi => absurd hi (Nat.not_lt_zero i)⟩⟩
  | succ j ih =>
    intro k hk
    obtain ⟨m, hkm, hover | hcleared⟩ := ih (Nat.le_of_succ_le hj) k hk
    · exact ⟨m, hkm, .inl hover⟩
    · obtain ⟨l, hml, hover | ⟨hjoining, hz⟩⟩ := h.leadsTo_remains hj m hcleared.1
      · exact ⟨l, Nat.le_trans hkm hml, .inl hover⟩
      · have hkeep := fun k hk =>
          (change_along p _ course k).cleared (i := j) hk (stopped_along p f now course k)
        rcases holds_until hkeep hml hcleared with hcleared' | ⟨n, hmn, hover⟩
        · refine ⟨l, Nat.le_trans hkm hml, .inr ⟨hjoining, fun i hi => ?_⟩⟩
          rcases Nat.lt_succ_iff_lt_or_eq.1 hi with hi | rfl
          · exact hcleared'.2 i hi
          · exact hz
        · exact ⟨n, Nat.le_trans hkm hmn, .inl hover⟩

/-- When nothing is left of any teardown, all tasks are over. -/
theorem isDone_of_cleared (hc : (along p (start p f now) course k).IsCleared f.chains.length) :
    ∀ d ∈ (along p (start p f now) course k).fleet.chains, d.isDone = true := by
  intro d hd
  obtain ⟨i, hi⟩ := List.mem_iff_getElem?.1 hd
  obtain ⟨⟨v, hp⟩, hz⟩ := hc
  have hwalks := walks_along p (start p f now) course (Nat.zero_le k)
  have hlt := (List.getElem?_eq_some_iff.1 hi).1
  have hhalted : (along p (start p f now) course k).halted
      = (along p (start p f now) course k).fleet.chains.length := by simp [halted, hp]
  have hstopped : d.stage = .stopped := stopped_along p f now course k i (hhalted ▸ hlt) d hi
  have hnone : d.teardown = [] := by
    rw [← List.length_eq_zero_iff, ← Fleet.remains_eq hi]
    exact hz i (hwalks.length_eq ▸ hlt)
  have hheeds : d.Heeds := hwalks.forall (fun hm => hm.heeds) h.ready.heeds d hd
  simp [Chain.isDone, hnone, hheeds hstopped (by simp [hnone])]

theorem leadsTo_over : LeadsTo (along p (start p f now) course) IsJoining IsOver := by
  have hcleared : LeadsTo (along p (start p f now) course) (IsCleared f.chains.length) IsOver := by
    have hkeep := fun k hk =>
      (change_along p _ course k).cleared (i := f.chains.length) hk (stopped_along p f now course k)
    refine .of_step h.fair.proceed hkeep fun k hk hproceed => ?_
    have hdone : (along p (start p f now) course k).fleet.chains.all Chain.isDone = true :=
      List.all_eq_true.2 (h.isDone_of_cleared hk)
    obtain ⟨⟨v, hp⟩, -⟩ := hk
    rw [along, hproceed, step, Campaign.proceed, hp]
    dsimp only
    rw [if_pos hdone]
    exact ⟨v, _, rfl⟩
  intro k hk
  obtain ⟨m, hkm, hover | hc⟩ := h.leadsTo_cleared (Nat.le_refl _) k hk
  · exact ⟨m, hkm, hover⟩
  · obtain ⟨n, hmn, hover⟩ := hcleared m hc
    exact ⟨n, Nat.le_trans hkm hmn, hover⟩

/-- The run comes to its end. -/
theorem exists_over : ∃ k, (along p (start p f now) course k).IsOver := by
  obtain ⟨k, -, hover⟩ := (h.leadsTo_joining _).trans h.leadsTo_over 0 ⟨rfl, rfl⟩
  exact ⟨k, hover⟩

end Sustained

/-- A run that is over stays as it is. -/
theorem phase_along_of_over {v : Verdict} {conclusion : Conclusion} {m : Nat} {c : Campaign}
    (hp : (along p c course k).phase = .ended v conclusion) (hkm : k ≤ m) :
    (along p c course m).phase = .ended v conclusion := by
  induction hkm with
  | refl => exact hp
  | @step m _ ih =>
    have hchange := change_along p c course m
    generalize along p c course (m + 1) = c', course m = s at hchange
    cases hchange with
    | idle | passed | moved | woken | rested => exact ih
    | _ hp' => exact nomatch ih.symm.trans hp'

end Campaign

end LoadHarness
