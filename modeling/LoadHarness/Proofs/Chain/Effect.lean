import LoadHarness.Chain.Move

/-!
# What a move can do

A move finds nothing to do, because the chain is not at the stage or its task not in the state
for it (`Move.applies`), or it has one of a few effects. `Move.Effect` lists them all, each with
what it finds and what it leaves, and `Move.effect_run` says that there are no others. What is
said of all moves later is said of these effects.

The outcome of an exchange is the move with most to decide : it is not paid for and the chain
leaves (`Chain.resolve_of_not_pays`, `Chain.resolve_of_spent`), or it takes a unit of the budget
(`Chain.resolve_of_pays`).
-/

namespace LoadHarness

/-! ## Outcomes -/

namespace Chain

variable {c : Chain} {n : Counters} {outcome : Outcome} {left : Nat}

/-- Whether a chain accounts for an outcome, as long as there is budget. -/
def pays (c : Chain) (outcome : Outcome) : Bool := outcome.isSuccess || !c.stopOnFailure

/-- The chain when a request of it took a unit and `left` of the budget is left. -/
def charged (left : Nat) (c : Chain) : Chain :=
  if 0 < left then { c.callExchange with sent := c.sent + 1 }
  else { c with sent := c.sent + 1, task := .leaving }

/-- The counters when an outcome took a unit and `left` of the budget is left. -/
def chargedCounters (outcome : Outcome) (left : Nat) (n : Counters) : Counters :=
  { n with remaining := left, errors := n.errors + (!outcome.isSuccess).toNat }

theorem resolve_of_not_waiting (hw : c.isWaiting = false) : resolve outcome (c, n) = (c, n) := by
  simp [resolve, hw]

theorem resolve_of_not_pays (hw : c.isWaiting = true) (hp : c.pays outcome = false) :
    resolve outcome (c, n) = ({ c with task := .leaving }, n) := by
  obtain ⟨ho, hs⟩ : outcome.isSuccess = false ∧ c.stopOnFailure = true := by
    simpa [pays] using hp
  simp [resolve, settle, hw, ho, hs]

theorem settle_of_pays (hp : c.pays outcome = true) :
    settle outcome (c, n) = account (!outcome.isSuccess) (c, n) := by
  unfold settle
  cases ho : outcome.isSuccess with
  | true => simp
  | false =>
    have hs : c.stopOnFailure = false := by simpa [pays, ho] using hp
    simp [hs]

theorem resolve_of_spent (hw : c.isWaiting = true) (hn : n.remaining = 0) :
    resolve outcome (c, n) = ({ c with task := .leaving }, n) := by
  cases hp : c.pays outcome with
  | false => exact resolve_of_not_pays hw hp
  | true => simp [resolve, settle_of_pays hp, account, Counters.consume_zero hn, hw]

theorem resolve_of_pays (hw : c.isWaiting = true) (hp : c.pays outcome = true)
    (hn : n.remaining = left + 1) :
    resolve outcome (c, n) = (c.charged left, chargedCounters outcome left n) := by
  simp only [resolve, settle_of_pays hp, account, Counters.consume_succ hn, hw, charged,
    chargedCounters, if_true]
  by_cases hl : 0 < left <;> cases outcome.isSuccess <;>
    simp [hl, callExchange, Counters.recordError]

@[simp] theorem sent_charged (left : Nat) (c : Chain) : (c.charged left).sent = c.sent + 1 := by
  unfold charged
  split <;> rfl

@[simp] theorem stopOnFailure_charged (left : Nat) (c : Chain) :
    (c.charged left).stopOnFailure = c.stopOnFailure := by
  unfold charged
  split <;> rfl

@[simp] theorem stage_charged (left : Nat) (c : Chain) : (c.charged left).stage = c.stage := by
  unfold charged
  split <;> rfl

@[simp] theorem teardown_charged (left : Nat) (c : Chain) :
    (c.charged left).teardown = c.teardown := by
  unfold charged
  split <;> rfl

@[simp] theorem id_charged (left : Nat) (c : Chain) : (c.charged left).id = c.id := by
  unfold charged
  split <;> rfl

@[simp] theorem starts_charged (left : Nat) (c : Chain) :
    (c.charged left).calls.starts = c.calls.starts := by
  unfold charged
  split <;> rfl

/-! ## Marks -/

@[simp] theorem stage_mark (c : Chain) : c.mark.stage = .stopped := by
  unfold mark
  split
  case isTrue h => exact h
  case isFalse => rfl

@[simp] theorem id_mark (c : Chain) : c.mark.id = c.id := by
  unfold mark
  split <;> rfl

@[simp] theorem sent_mark (c : Chain) : c.mark.sent = c.sent := by
  unfold mark
  split <;> rfl

@[simp] theorem stopOnFailure_mark (c : Chain) : c.mark.stopOnFailure = c.stopOnFailure := by
  unfold mark
  split <;> rfl

@[simp] theorem task_mark (c : Chain) : c.mark.task = c.task := by
  unfold mark
  split <;> rfl

@[simp] theorem calls_mark (c : Chain) : c.mark.calls = c.calls := by
  unfold mark
  split <;> rfl

end Chain

/-! ## Counters -/

namespace Counters

variable (n : Counters)

@[simp] theorem remaining_clientStopped : n.clientStopped.1.remaining = n.remaining := by
  unfold clientStopped
  split <;> rfl

@[simp] theorem errors_clientStopped : n.clientStopped.1.errors = n.errors := by
  unfold clientStopped
  split <;> rfl

@[simp] theorem retransmissions_clientStopped :
    n.clientStopped.1.retransmissions = n.retransmissions := by
  unfold clientStopped
  split <;> rfl

end Counters

/-! ## All moves -/

namespace Move

/-- Whether a move finds something to do. -/
def applies (c : Chain) : Move → Bool
  | start _ => c.stage == .created
  | probe | launch => c.stage == .started
  | probeRetransmit | probeResolve _ => false
  | first => c.task == .ready
  | retransmit | resolve _ | die => c.isWaiting
  | mark => !c.stage == .stopped
  | leave => c.task == .leaving
  | tearDown => !c.teardown.isEmpty

/-- The effects of moves on a chain and the counters it shares. -/
inductive Effect : Move → Chain → Counters → Chain → Counters → Prop where
  | idle {m c n} : m.applies c = false → Effect m c n c n
  | refused {e c n} : c.stage = .created → Effect (start (some e)) c n c.callStart n
  | bound {c n} : c.stage = .created →
      Effect (start none) c n { c.callStart with stage := .started } n
  | probed {c n} : c.stage = .started → Effect probe c n c.callExchange n
  | launched {c n} : c.stage = .started →
      Effect launch c n { c with stage := .running, task := .ready } n.clientStarted
  | began {c n} : c.task = .ready →
      Effect first c n { c.callExchange with task := .waiting } n
  | retransmitted {c n} : c.isWaiting = true → Effect retransmit c n c n.recordRetransmission
  | unpaid {outcome c n} : c.isWaiting = true → n.remaining = 0 ∨ c.pays outcome = false →
      Effect (resolve outcome) c n { c with task := .leaving } n
  | paid {outcome c n left} : c.isWaiting = true → c.pays outcome = true →
      n.remaining = left + 1 →
      Effect (resolve outcome) c n (c.charged left) (Chain.chargedCounters outcome left n)
  | died {c n} : c.isWaiting = true → Effect die c n { c with task := .dead } n
  | marked {c n} : c.stage ≠ .stopped → Effect mark c n c.mark n
  | left {c n} : c.task = .leaving → Effect leave c n { c.mark with task := .ended } n
  | told {c n steps} : c.teardown = .shutdown :: steps →
      Effect tearDown c n
        { c with teardown := steps, task := if c.isBusy then .ended else c.task } n
  | unbound {c n steps} : c.teardown = .stopTransport :: steps →
      Effect tearDown c n
        { c with teardown := steps, calls := { c.calls with stops := c.calls.stops + 1 } } n
  | destroyed {c n steps} : c.teardown = .destroyTransport :: steps →
      Effect tearDown c n
        { c with teardown := steps, calls := { c.calls with destroys := c.calls.destroys + 1 } }
        n
  | counted {c n steps} : c.teardown = .leave :: steps →
      Effect tearDown c n { c with teardown := steps } n.clientStopped.1

theorem effect_start (refusal : Option Failure) (c : Chain) (n : Counters) :
    Effect (start refusal) c n (c.start refusal).1 n := by
  unfold Chain.start
  split
  case isTrue h =>
    cases refusal with
    | none => exact .bound h
    | some e => exact .refused h
  case isFalse h => exact .idle (by simpa [applies] using h)

theorem effect_resolve (outcome : Outcome) (c : Chain) (n : Counters) :
    Effect (resolve outcome) c n (Chain.resolve outcome (c, n)).1
      (Chain.resolve outcome (c, n)).2 := by
  cases hw : c.isWaiting with
  | false =>
    rw [Chain.resolve_of_not_waiting hw]
    exact .idle hw
  | true =>
    cases hn : n.remaining with
    | zero =>
      rw [Chain.resolve_of_spent hw hn]
      exact .unpaid hw (.inl hn)
    | succ left =>
      cases hp : c.pays outcome with
      | false =>
        rw [Chain.resolve_of_not_pays hw hp]
        exact .unpaid hw (.inr hp)
      | true =>
        rw [Chain.resolve_of_pays hw hp hn]
        exact .paid hw hp hn

theorem effect_tearDown (c : Chain) (n : Counters) :
    Effect tearDown c n (Chain.tearDown (c, n)).1 (Chain.tearDown (c, n)).2 := by
  unfold Chain.tearDown
  cases ht : c.teardown with
  | nil => exact .idle (by simp [applies, ht])
  | cons step steps =>
    cases step with
    | shutdown =>
      have : (Chain.perform ({ c with teardown := steps }, n) .shutdown).1
          = { c with teardown := steps, task := if c.isBusy then .ended else c.task } := by
        cases hb : c.isBusy <;> simp_all [Chain.perform, Chain.isBusy]
      simp only [this]
      exact .told ht
    | stopTransport => exact .unbound ht
    | destroyTransport => exact .destroyed ht
    | leave => exact .counted ht

/-- Every move has one of the effects. -/
theorem effect_run (m : Move) (c : Chain) (n : Counters) :
    Effect m c n (m.run (c, n)).1 (m.run (c, n)).2 := by
  cases m with
  | start refusal => exact effect_start refusal c n
  | probe =>
    by_cases h : c.stage = .started
    · have hp : c.probe = c.callExchange := by simp [Chain.probe, Chain.canProbe, h]
      simp only [run, hp]
      exact .probed h
    · have hp : c.probe = c := by simp [Chain.probe, Chain.canProbe, h]
      simp only [run, hp]
      exact .idle (by simpa [applies] using h)
  | probeRetransmit => exact .idle rfl
  | probeResolve => exact .idle rfl
  | launch =>
    simp only [run, Chain.launch]
    split
    case isTrue h => exact .launched h
    case isFalse h => exact .idle (by simpa [applies] using h)
  | first =>
    simp only [run, Chain.first]
    split
    case isTrue h => exact .began h
    case isFalse h => exact .idle (by simpa [applies] using h)
  | retransmit =>
    simp only [run, Chain.retransmit]
    split
    case isTrue h => exact .retransmitted h
    case isFalse h => exact .idle (by simpa [applies] using h)
  | resolve outcome => exact effect_resolve outcome c n
  | die =>
    simp only [run, Chain.die]
    split
    case isTrue h => exact .died h
    case isFalse h => exact .idle (by simpa [applies] using h)
  | mark =>
    by_cases h : c.stage = .stopped
    · have hm : c.mark = c := by simp [Chain.mark, h]
      simp only [run, hm]
      exact .idle (by simp [applies, h])
    · exact .marked h
  | leave =>
    simp only [run, Chain.leave]
    split
    case isTrue h => exact .left h
    case isFalse h => exact .idle (by simpa [applies] using h)
  | tearDown => exact effect_tearDown c n

end Move

end LoadHarness
