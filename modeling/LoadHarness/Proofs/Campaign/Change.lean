import LoadHarness.Proofs.Fleet.Walk
import LoadHarness.Run.Campaign

/-!
# What a step of a run can do

A step finds nothing to do, or it has one of a few effects. `Campaign.Change` lists them all, each
with what it finds and what it leaves, and `Campaign.change_step` says that there are no others. What
is said of all steps later is said of these effects.

To the clients of a run nothing happens but what its steps stand for (`Campaign.events`), and all of
that is moves of the clients (`Campaign.walks_apply`).
-/

namespace LoadHarness.Campaign

variable {p : Plan} {c : Campaign}

/-- How the watch over a run ended, if it did. -/
def ending? (c : Campaign) : Option Ending := c.phase.verdict?.map Verdict.ending

/-! ## All effects -/

/-- The effects of steps. -/
inductive Change (p : Plan) (c : Campaign) : Step → Campaign → Prop where
  | idle {s : Step} : s ≠ .proceed → Change p c s c
  | passed {d} : Change p c (.pass d) { c with now := c.now + d }
  | moved {i m} : c.leaves i m = true → Change p c (.move i m) (c.happen (.move i m))
  | woken {owed} : c.owed = owed + 1 →
      Change p c .wake { c with owed, wakes := c.wakes + 1 }
  | fell {due w} : c.phase = .waiting due w → due ≤ c.now → w.isBlocked c.wakes = true →
      Change p c .timer (c.turnTo (.looking .nothing))
  | interrupted {due w} : c.phase = .waiting due w →
      Change p c .interrupt (c.halt .interrupted)
  | launched {i} : c.phase = .launching i → i < c.fleet.chains.length →
      Change p c .proceed ((c.happen (.move i .launch)).turnTo (.launching (i + 1)))
  | opened {i} : c.phase = .launching i → c.fleet.chains.length ≤ i →
      Change p c .proceed
        { c with phase := .looking .nothing, printed := c.printed ++ ["Benchmark started."] }
  | read {r r'} : c.phase = .looking r → r.next c.fleet.counters = .inl r' →
      Change p c .proceed (c.turnTo (.looking r'))
  | remembered {r current} : c.phase = .looking r → r.next c.fleet.counters = .inr current →
      c.last = none → Change p c .proceed ({ c with last := some current }.await p)
  | foundStale {r current last} : c.phase = .looking r →
      r.next c.fleet.counters = .inr current → c.last = some last →
      isStale current (current.since last) p.sizing.total = true →
      Change p c .proceed (c.halt .stale)
  | shown {r current last} : c.phase = .looking r → r.next c.fleet.counters = .inr current →
      c.last = some last → isStale current (current.since last) p.sizing.total = false →
      Change p c .proceed
        ({ c with
            last := some current
            printed := c.printed
              ++ [Window.line p.settings.interval ⟨current.since last, current⟩] }.await p)
  | polled {due w} : c.phase = .waiting due w → w ≠ .released →
      Change p c .proceed
        (c.turnTo (.waiting due (w.step c.fleet.counters.remaining c.wakes)))
  | drained {due} : c.phase = .waiting due .released → Change p c .proceed (c.halt .finished)
  | skipped {v i d} : c.phase = .stopping v i → c.fleet.chains[i]? = some d →
      d.stage = .stopped →
      Change p c .proceed ((c.happen (.move i .mark)).turnTo (.stopping v (i + 1)))
  | marked {v i d} : c.phase = .stopping v i → c.fleet.chains[i]? = some d →
      d.stage ≠ .stopped →
      Change p c .proceed ((c.happen (.move i .mark)).turnTo (.tearingDown v i))
  | stopped {v i} : c.phase = .stopping v i → c.fleet.chains.length ≤ i →
      Change p c .proceed (c.turnTo (.joining v))
  | toreDown {v i d} : c.phase = .tearingDown v i → c.fleet.chains[i]? = some d →
      d.teardown ≠ [] → Change p c .proceed (c.happen (.move i .tearDown))
  | leftBehind {v i} : c.phase = .tearingDown v i →
      (∀ d, c.fleet.chains[i]? = some d → d.teardown = []) →
      Change p c .proceed (c.turnTo (.stopping v (i + 1)))
  | unready {v d} : c.phase = .joining v → d ∈ c.fleet.chains → d.isDone = false →
      Change p c .proceed c
  | closed {v} : c.phase = .joining v → (∀ d ∈ c.fleet.chains, d.isDone = true) →
      Change p c .proceed (c.close p v)
  | rested {v conclusion} : c.phase = .ended v conclusion → Change p c .proceed c

theorem isWaiting_iff : c.isWaiting = true ↔ ∃ due w, c.phase = .waiting due w := by
  unfold isWaiting
  split <;> simp_all

theorem isDue_iff : c.isDue = true ↔
    ∃ due w, c.phase = .waiting due w ∧ due ≤ c.now ∧ w.isBlocked c.wakes = true := by
  unfold isDue
  split <;> simp_all [and_assoc]

theorem change_look {r : Reading} {current : Snapshot} (h : c.phase = .looking r)
    (hn : r.next c.fleet.counters = .inr current) : Change p c .proceed (c.look p current) := by
  unfold look
  cases hl : c.last with
  | none => exact .remembered h hn hl
  | some last =>
    dsimp only
    split
    case isTrue hs => exact .foundStale h hn hl hs
    case isFalse hs => exact .shown h hn hl (by simpa using hs)

theorem change_proceed (p : Plan) (c : Campaign) : Change p c .proceed (c.proceed p) := by
  unfold proceed
  split
  case h_1 i h =>
    split
    case isTrue hi => exact .launched h hi
    case isFalse hi => exact .opened h (Nat.le_of_not_lt hi)
  case h_2 r h =>
    split
    case h_1 r' hn => exact .read h hn
    case h_2 current hn => exact change_look h hn
  case h_3 due w h =>
    cases w with
    | released => exact .drained h
    | _ => exact .polled h (by simp)
  case h_4 v i h =>
    split
    case isTrue hi =>
      have hd := List.getElem?_eq_getElem hi
      rw [Fleet.ask_of_some hd]
      split
      case isTrue hs => exact .skipped h hd (by simpa using hs)
      case isFalse hs => exact .marked h hd (by simpa using hs)
    case isFalse hi => exact .stopped h (Nat.le_of_not_lt hi)
  case h_5 v i h =>
    cases hd : c.fleet.chains[i]? with
    | none =>
      rw [Fleet.ask_of_none hd, if_pos rfl]
      exact .leftBehind h (by simp [hd])
    | some d =>
      rw [Fleet.ask_of_some hd]
      split
      case isTrue ht => exact .leftBehind h (by simpa [hd] using ht)
      case isFalse ht => exact .toreDown h hd (by simpa using ht)
  case h_6 v h =>
    split
    case isTrue hd => exact .closed h (List.all_eq_true.1 hd)
    case isFalse hd =>
      obtain ⟨d, hmem, hd⟩ := List.all_eq_false.1 (Bool.eq_false_iff.2 hd)
      exact .unready h hmem (Bool.eq_false_iff.2 hd)
  case h_7 h => exact .rested h

theorem change_step (p : Plan) (c : Campaign) (s : Step) : Change p c s (c.step p s) := by
  cases s with
  | pass d => exact .passed
  | move i m =>
    rw [step]
    split
    case isTrue h => exact .moved h
    case isFalse => exact .idle (by simp)
  | wake =>
    rw [step]
    split
    case h_1 => exact .idle (by simp)
    case h_2 owed h => exact .woken h
  | proceed => exact change_proceed p c
  | timer =>
    rw [step]
    split
    case isTrue h =>
      obtain ⟨due, w, hp, hdue, hw⟩ := isDue_iff.1 h
      exact .fell hp hdue hw
    case isFalse => exact .idle (by simp)
  | interrupt =>
    rw [step]
    split
    case isTrue h =>
      obtain ⟨due, w, hp⟩ := isWaiting_iff.1 h
      exact .interrupted hp
    case isFalse => exact .idle (by simp)

/-! ## What happens to the clients -/

/-- What the manager does to the clients next. -/
def chore (c : Campaign) : List Event :=
  match c.phase with
  | .launching i => if i < c.fleet.chains.length then [.move i .launch] else []
  | .stopping _ i => if i < c.fleet.chains.length then [.move i .mark] else []
  | .tearingDown _ i => if c.fleet.ask i true (·.teardown.isEmpty) then [] else [.move i .tearDown]
  | _ => []

/-- What a step does to the clients. -/
def events (c : Campaign) : Step → List Event
  | .move i m => if c.leaves i m then [.move i m] else []
  | .proceed => c.chore
  | _ => []

/-- What steps do to the clients. -/
def trace (p : Plan) : Campaign → List Step → List Event
  | _, [] => []
  | c, s :: steps => c.events s ++ trace p (c.step p s) steps

theorem fleet_look (p : Plan) (current : Snapshot) (c : Campaign) :
    (c.look p current).fleet = c.fleet := by
  unfold look
  split
  case h_1 => rfl
  case h_2 =>
    dsimp only
    split <;> rfl

theorem fleet_proceed (p : Plan) (c : Campaign) :
    (c.proceed p).fleet = c.fleet.apply c.chore := by
  cases hp : c.phase with
  | looking r =>
    simp only [proceed, chore, hp]
    split
    case h_1 => rfl
    case h_2 => exact fleet_look p _ c
  | ended v conclusion => simp only [proceed, chore, hp, Fleet.apply_nil]
  | _ =>
    simp only [proceed, chore, hp]
    split <;> rfl

theorem fleet_step (p : Plan) (c : Campaign) (s : Step) :
    (c.step p s).fleet = c.fleet.apply (c.events s) := by
  cases s with
  | move i m =>
    rw [step, events]
    split <;> rfl
  | proceed => exact fleet_proceed p c
  | wake =>
    rw [step]
    split <;> rfl
  | timer | interrupt =>
    rw [step]
    split <;> rfl
  | pass => rfl

theorem fleet_apply (p : Plan) (c : Campaign) (steps : List Step) :
    (c.apply p steps).fleet = c.fleet.apply (c.trace p steps) := by
  induction steps generalizing c with
  | nil => rfl
  | cons s steps ih =>
    rw [trace, Fleet.apply_append, ← fleet_step]
    exact ih (c.step p s)

theorem Change.walks {s : Step} {c' : Campaign} (h : Change p c s c') :
    c.fleet.Walks c'.fleet := by
  cases h with
  | moved | launched | skipped | marked | toreDown => exact c.fleet.walks_step _ _
  | _ => exact .refl _

theorem walks_apply (p : Plan) (c : Campaign) (steps : List Step) :
    c.fleet.Walks (c.apply p steps).fleet := by
  induction steps generalizing c with
  | nil => exact .refl _
  | cons s steps ih => exact (change_step p c s).walks.trans (ih (c.step p s))

/-- What every step keeps, all steps keep. -/
theorem apply_induction {P : Campaign → Prop}
    (hstep : ∀ {c s c'}, Change p c s c' → P c → P c') (steps : List Step) (hc : P c) :
    P (c.apply p steps) := by
  induction steps generalizing c with
  | nil => exact hc
  | cons s steps ih => exact ih (hstep (change_step p c s) hc)

theorem apply_append (p : Plan) (c : Campaign) (before after : List Step) :
    c.apply p (before ++ after) = (c.apply p before).apply p after :=
  List.foldl_append

/-! ## Before the first look -/

theorem Change.last_of_launching {s : Step} {c' : Campaign} (h : Change p c s c')
    (hc : ∀ i, c.phase = .launching i → c.last = none) :
    ∀ i, c'.phase = .launching i → c'.last = none := by
  intro i hi
  cases h with
  | idle | unready | rested | passed | woken | moved => exact hc i hi
  | launched hp => exact hc _ hp
  | toreDown hp => exact nomatch hp.symm.trans hi
  | _ => exact nomatch hi

theorem last_of_launching_apply (p : Plan) (f : Fleet) (now : Nat) (steps : List Step) :
    ∀ i, ((start p f now).apply p steps).phase = .launching i →
      ((start p f now).apply p steps).last = none :=
  apply_induction (P := fun c => ∀ i, c.phase = .launching i → c.last = none)
    Change.last_of_launching steps fun _ _ => rfl

end LoadHarness.Campaign
