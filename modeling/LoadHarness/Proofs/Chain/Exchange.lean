import LoadHarness.Proofs.Fleet.Accounting

/-!
# The exchanges of a chain

A chain begins an exchange when it calls its transport for one, to probe the target
(`Move.probes`) or for a request of its task (`Move.begins`). An exchange of the task ends when it
is resolved, when the task dies in it, or when a stop cancels it (`Move.ends`).

The task waits for one exchange at a time, and with every request that it accounts for it begins no
more than one further exchange (`Chain.Paced`) : what it began is what it accounted for, or one
more, by what it is at (`Task.least`, `Task.most`). The last unit of a budget goes to a task that
does not begin another exchange for it (`Move.Effect.begins_le`).
-/

namespace LoadHarness

/-! ## Beginnings and ends -/

namespace Move

/-- Whether a move calls the transport for an exchange. -/
def exchanges (m : Move) (s : Chain × Counters) : Bool :=
  decide (s.1.calls.exchanges < (m.run s).1.calls.exchanges)

/-- Whether a move begins an exchange that probes the target. -/
def probes (m : Move) (s : Chain × Counters) : Bool := m.isProbe && m.exchanges s

/-- Whether a move begins an exchange of the task. -/
def begins (m : Move) (s : Chain × Counters) : Bool := !m.isProbe && m.exchanges s

/-- Whether a move ends the exchange that the task waits for. -/
def ends : Move → Chain × Counters → Bool
  | resolve _, s | die, s => s.1.isWaiting
  | tearDown, s => s.1.isWaiting && s.1.teardown.head? == some .shutdown
  | _, _ => false

end Move

namespace Task

/-- How many exchanges a task began at least beyond those it accounted for. -/
def least : Task → Nat
  | waiting | dead => 1
  | none | ready | leaving | ended => 0

/-- How many it began at most. -/
def most : Task → Nat
  | none | ready => 0
  | waiting | leaving | ended | dead => 1

theorem most_le (task : Task) : task.most ≤ 1 := by
  cases task <;> decide

end Task

/-! ## One chain -/

namespace Chain

/-- As many exchanges as the task of a chain can have begun. -/
def reach (c : Chain) : Nat := c.sent + c.task.most

/-- What a chain keeps with the numbers of the exchanges that it began and that ended. -/
structure Paced (probed begun ended : Nat) (c : Chain) : Prop where
  /-- There is no task before the launch. -/
  idle : c.stage.rank < Stage.running.rank → c.task = .none
  /-- The transport is called for nothing else. -/
  exchanges : c.calls.exchanges = probed + begun
  /-- What began has ended, but for the exchange in flight. -/
  begun_eq : begun = ended + c.isWaiting.toNat
  least : c.sent + c.task.least ≤ begun
  most : begun ≤ c.sent + c.task.most

theorem paced_create (id : ClientId) (stopOnFailure : Bool) :
    (create id stopOnFailure).Paced 0 0 0 :=
  ⟨fun _ => rfl, rfl, rfl, Nat.zero_le _, Nat.zero_le _⟩

theorem Paced.begun_sent {probed begun ended : Nat} {c : Chain} (h : c.Paced probed begun ended) :
    begun = c.sent ∨ begun = c.sent + 1 := by
  have hleast := h.least
  have hmost := h.most
  have := c.task.most_le
  omega

theorem Paced.of_eq {probed begun ended : Nat} {c c' : Chain} (h : c.Paced probed begun ended)
    (hidle : c'.stage.rank < Stage.running.rank → c.stage.rank < Stage.running.rank)
    (htask : c'.task = c.task) (hexchanges : c'.calls.exchanges = c.calls.exchanges)
    (hsent : c'.sent = c.sent) : c'.Paced probed begun ended := by
  refine ⟨fun hr => htask.trans (h.idle (hidle hr)), hexchanges.trans h.exchanges, ?_, ?_, ?_⟩
  · rw [isWaiting, htask]
    exact h.begun_eq
  · rw [hsent, htask]
    exact h.least
  · rw [hsent, htask]
    exact h.most

/-- The exchange in flight ends, and the task is over or about to be. -/
theorem Paced.end_waiting {probed begun ended : Nat} {c c' : Chain}
    (h : c.Paced probed begun ended) (hw : c.isWaiting = true) (hw' : c'.isWaiting = false)
    (hstage : c'.stage = c.stage) (hcalls : c'.calls.exchanges = c.calls.exchanges)
    (hsent : c.sent ≤ c'.sent) (hleast : c'.sent + c'.task.least ≤ c.sent + 1)
    (hmost : c'.task.most = 1) : c'.Paced probed begun (ended + 1) := by
  have ht : c.task = .waiting := beq_iff_eq.1 hw
  have hbegun := h.begun_eq
  have hge := h.least
  have hle := h.most
  rw [hw, Bool.toNat_true] at hbegun
  rw [ht] at hge hle
  change c.sent + 1 ≤ begun at hge
  change begun ≤ c.sent + 1 at hle
  refine ⟨fun hr => ?_, hcalls.trans h.exchanges, ?_, by omega, by omega⟩
  · rw [hstage] at hr
    simp [h.idle hr] at ht
  · rw [hw', Bool.toNat_false]
    exact hbegun

end Chain

namespace Move.Effect

variable {m : Move} {c c' : Chain} {n n' : Counters} {probed begun ended : Nat}

/-- The numbers of a move that calls for an exchange or not, and ends one or not. -/
theorem paced_of_calls (grows ending : Bool)
    (hcalls : c'.calls.exchanges = c.calls.exchanges + grows.toNat)
    (hends : m.ends (c, n) = ending)
    (h : c'.Paced (probed + (m.isProbe && grows).toNat) (begun + (!m.isProbe && grows).toNat)
      (ended + ending.toNat)) :
    let exchanges := decide (c.calls.exchanges < c'.calls.exchanges)
    c'.Paced (probed + (m.isProbe && exchanges).toNat) (begun + (!m.isProbe && exchanges).toNat)
      (ended + (m.ends (c, n)).toNat) := by
  have hgrows : decide (c.calls.exchanges < c'.calls.exchanges) = grows := by
    cases grows <;> simp [hcalls]
  rw [hgrows, hends]
  exact h

/-- A move that leaves the task as it is, and calls for no exchange. -/
theorem paced_of_eq (hc : c.Paced probed begun ended) (hends : m.ends (c, n) = false)
    (hidle : c'.stage.rank < Stage.running.rank → c.stage.rank < Stage.running.rank)
    (htask : c'.task = c.task) (hcalls : c'.calls.exchanges = c.calls.exchanges)
    (hsent : c'.sent = c.sent) :
    let exchanges := decide (c.calls.exchanges < c'.calls.exchanges)
    c'.Paced (probed + (m.isProbe && exchanges).toNat) (begun + (!m.isProbe && exchanges).toNat)
      (ended + (m.ends (c, n)).toNat) := by
  refine paced_of_calls false false hcalls hends ?_
  rw [Bool.and_false, Bool.and_false]
  exact hc.of_eq hidle htask hcalls hsent

theorem paced (h : m.Effect c n c' n') (hc : c.Paced probed begun ended) :
    let exchanges := decide (c.calls.exchanges < c'.calls.exchanges)
    c'.Paced (probed + (m.isProbe && exchanges).toNat) (begun + (!m.isProbe && exchanges).toNat)
      (ended + (m.ends (c, n)).toNat) := by
  have hexchanges := hc.exchanges
  have hbegun := hc.begun_eq
  have hleast := hc.least
  have hmost := hc.most
  cases h with
  | idle hm => exact paced_of_eq hc (by cases m <;> simp_all [applies, ends]) id rfl rfl rfl
  | bound hs => exact paced_of_eq hc rfl (fun _ => by rw [hs]; decide) rfl rfl rfl
  | refused | retransmitted => exact paced_of_eq hc rfl id rfl rfl rfl
  | unbound ht | destroyed ht | counted ht =>
    exact paced_of_eq hc (by simp [ends, ht]) id rfl rfl rfl
  | marked =>
    refine paced_of_eq hc rfl (fun hr => ?_) c.task_mark (by rw [c.calls_mark]) c.sent_mark
    rw [c.stage_mark] at hr
    exact absurd hr (by decide)
  | probed =>
    refine paced_of_calls true false rfl rfl ⟨hc.idle, ?_, hbegun, hleast, hmost⟩
    change c.calls.exchanges + 1 = probed + 1 + begun
    omega
  | launched hs =>
    have ht := hc.idle (by rw [hs]; decide)
    rw [Chain.isWaiting, ht] at hbegun
    rw [ht] at hleast hmost
    exact paced_of_calls false false rfl rfl
      ⟨fun hr => absurd hr (Nat.lt_irrefl _), hexchanges, hbegun, hleast, hmost⟩
  | began ht =>
    rw [Chain.isWaiting, ht] at hbegun
    rw [ht] at hleast hmost
    refine paced_of_calls true false rfl rfl
      ⟨fun hr => absurd (hc.idle hr) (by simp [ht]), congrArg (· + 1) hexchanges,
        congrArg (· + 1) hbegun, Nat.succ_le_succ hleast, Nat.succ_le_succ hmost⟩
  | unpaid hw =>
    exact paced_of_calls false true rfl hw
      (hc.end_waiting hw rfl rfl rfl (Nat.le_refl _) (Nat.le_succ _) rfl)
  | @paid outcome _ _ left hw hp hn =>
    by_cases hl : 0 < left
    · rw [Chain.charged, if_pos hl]
      refine paced_of_calls true true rfl hw
        ⟨hc.idle, congrArg (· + 1) hexchanges, ?_, ?_, ?_⟩
      · change begun + 1 = ended + 1 + c.isWaiting.toNat
        omega
      · change c.sent + 1 + c.task.least ≤ begun + 1
        omega
      · change begun + 1 ≤ c.sent + 1 + c.task.most
        omega
    · rw [Chain.charged, if_neg hl]
      exact paced_of_calls false true rfl hw
        (hc.end_waiting hw rfl rfl rfl (Nat.le_succ _) (Nat.le_refl _) rfl)
  | died hw =>
    exact paced_of_calls false true rfl hw
      (hc.end_waiting hw rfl rfl rfl (Nat.le_refl _) (Nat.le_refl _) rfl)
  | left ht =>
    rw [Chain.isWaiting, ht] at hbegun
    rw [ht, ← c.sent_mark] at hleast hmost
    refine paced_of_calls false false (by simp) rfl
      ⟨fun hr => ?_, (by simpa using hexchanges), hbegun, hleast, hmost⟩
    have hs : ({ c.mark with task := .ended } : Chain).stage = .stopped := c.stage_mark
    rw [hs] at hr
    exact absurd hr (by decide)
  | told ht =>
    cases hw : c.isWaiting with
    | true =>
      have hb : c.isBusy = true := by simp_all [Chain.isBusy, Chain.isWaiting]
      rw [hb]
      exact paced_of_calls false true rfl (by simp [ends, hw, ht])
        (hc.end_waiting hw rfl rfl rfl (Nat.le_refl _) (Nat.le_succ _) rfl)
    | false =>
      have hends : ends tearDown (c, n) = false := by simp [ends, hw]
      cases hb : c.isBusy with
      | true =>
        rw [hw] at hbegun
        have := c.task.most_le
        refine paced_of_calls false false rfl hends
          ⟨fun hr => ?_, hexchanges, hbegun, ?_, ?_⟩
        · simp [Chain.isBusy, hc.idle hr] at hb
        · exact Nat.le_trans (Nat.le_add_right _ _) hleast
        · change begun ≤ c.sent + 1
          omega
      | false => exact paced_of_eq hc hends id rfl rfl rfl

/-- What a task begins is made up for by what it accounts for, the last unit of a budget twice. -/
theorem begins_le (h : m.Effect c n c' n')
    (hidle : c.stage.rank < Stage.running.rank → c.task = .none) :
    (!m.isProbe && decide (c.calls.exchanges < c'.calls.exchanges)).toNat + n'.isDrained.toNat
        + c.reach
      ≤ n.isDrained.toNat + c'.reach := by
  unfold Chain.reach
  cases h with
  | launched hs =>
    have ht := hidle (by rw [hs]; decide)
    simp [ht, Task.most, Counters.clientStarted, Counters.isDrained]
  | began ht =>
    simp only [ht, Task.most, isProbe, Chain.callExchange, Nat.lt_succ_self, decide_true,
      Bool.not_false, Bool.and_true, Bool.toNat_true]
    omega
  | probed => simp [isProbe, Chain.callExchange]
  | unpaid hw | died hw =>
    have ht : c.task = .waiting := beq_iff_eq.1 hw
    simp [ht, Task.most]
  | @paid outcome _ _ left hw hp hn =>
    have ht : c.task = .waiting := beq_iff_eq.1 hw
    -- The task goes on with the next exchange, or it took the last unit.
    by_cases hl : 0 < left
    · have hd : (Chain.chargedCounters outcome left n).isDrained = false :=
        beq_false_of_ne (Nat.ne_of_gt hl)
      rw [Chain.charged, if_pos hl, hd]
      simp only [isProbe, Chain.callExchange, Nat.lt_succ_self, decide_true, Bool.not_false,
        Bool.and_true, Bool.toNat_true, Bool.toNat_false]
      omega
    · have hd := Bool.toNat_le (Chain.chargedCounters outcome left n).isDrained
      rw [Chain.charged, if_neg hl, ht]
      simp only [Nat.lt_irrefl, decide_false, Bool.and_false, Bool.toNat_false, Task.most]
      omega
  | left ht => simp [ht, Task.most]
  | told ht =>
    have := c.task.most_le
    cases hb : c.isBusy with
    | true =>
      simp only [Nat.lt_irrefl, decide_false, Bool.and_false, Bool.toNat_false, if_true]
      change _ ≤ _ + (c.sent + 1)
      omega
    | false => simp
  | counted => simp [Counters.isDrained]
  | _ => simp [Chain.callStart, Counters.recordRetransmission, Counters.isDrained]

end Move.Effect

end LoadHarness
