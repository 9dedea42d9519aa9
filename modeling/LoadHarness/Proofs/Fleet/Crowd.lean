import LoadHarness.Proofs.Chain.Passage
import LoadHarness.Proofs.Fleet.Lifecycle
import LoadHarness.Proofs.Fleet.Tally

/-!
# Many callers that stop chains

Whoever calls a chain to stop marks it, and has its teardown to do if nobody did so before. That is
done step by step, while others call the same chain or its own task ends it. A `StopCall` is such a
call, with what its caller did and what is left to it, and a `Crowd` is a fleet with all calls. One
step of a crowd (`Crowd.Step`) is one step of one caller, or anything that is no part of a stop.

The teardown of a chain is in the hands of one call, the one that found it not stopped
(`Crowd.Sound`), so that what that caller did is all that was done. However the steps of the callers
fall, no chain goes back to an earlier stage, each is launched once at most, and its transport is
stopped and destroyed once at most, by one caller (`Crowd.tears_down_once`).
-/

namespace LoadHarness

/-! ## Calls -/

/-- A call to stop a chain, which has put its mark. -/
structure StopCall where
  target : Nat
  /-- The stage that the mark replaced. -/
  found : Stage
  /-- What the caller did of the teardown. -/
  made : List Teardown
  /-- What is left to it. -/
  todo : List Teardown
deriving DecidableEq, Repr

namespace StopCall

/-- The teardown that falls to a caller. -/
def duty (found : Stage) : List Teardown :=
  if found = .stopped then [] else Teardown.steps (found == .running)

/-- The call that marks a chain. -/
def onto (target : Nat) (c : Chain) : StopCall := ⟨target, c.stage, [], duty c.stage⟩

/-- Whether it is the call that stopped a chain. -/
def wins (i : Nat) (call : StopCall) : Bool := call.target == i && call.found != .stopped

/-- The call when one more step of its teardown is done. -/
def onward (step : Teardown) (steps : List Teardown) (call : StopCall) : StopCall :=
  { call with made := call.made ++ [step], todo := steps }

theorem made_append_todo_onward {call : StopCall} {step : Teardown} {steps : List Teardown}
    (ht : call.todo = step :: steps) :
    (call.onward step steps).made ++ (call.onward step steps).todo = call.made ++ call.todo := by
  rw [ht]
  exact List.append_assoc ..

end StopCall

/-- Whether an event is a step of a stop. -/
def Event.isStop : Event → Bool
  | .move _ m => m.isStop
  | _ => false

/-- A fleet with all calls that stop its chains. -/
structure Crowd where
  fleet : Fleet
  calls : List StopCall
deriving DecidableEq, Repr

namespace Crowd

/-- One step of a caller, or of anybody else. -/
inductive Step where
  /-- Anything that is no part of a stop. -/
  | other (e : Event)
  /-- Somebody calls a chain to stop. -/
  | stop (i : Nat)
  /-- The task of a chain does so, if it is done. -/
  | leave (i : Nat)
  /-- A caller does the next step of its teardown. -/
  | proceed (k : Nat)
deriving DecidableEq, Repr

/-- A move that marks a chain, if there is one in the state for it, and the call that it begins. -/
def mark (s : Crowd) (i : Nat) (m : Move) (admits : Chain → Bool) :
    Option Event × List StopCall :=
  match s.fleet.chains[i]?.filter admits with
  | none => (none, s.calls)
  | some c => (some (.move i m), s.calls ++ [.onto i c])

/-- What a step is for the fleet, and the calls after it. -/
def turn (s : Crowd) : Step → Option Event × List StopCall
  | .other e => (if e.isStop then none else some e, s.calls)
  | .stop i => s.mark i .mark fun _ => true
  | .leave i => s.mark i .leave (·.task == .leaving)
  | .proceed k =>
    match s.calls[k]? with
    | none => (none, s.calls)
    | some call =>
      match call.todo with
      | [] => (none, s.calls)
      | step :: steps =>
        (some (.move call.target .tearDown), s.calls.set k (call.onward step steps))

/-- What a step does. -/
def step (s : Crowd) (a : Step) : Crowd := ⟨s.fleet.apply (s.turn a).1.toList, (s.turn a).2⟩

/-- What a list of steps does. -/
def apply (s : Crowd) (steps : List Step) : Crowd := steps.foldl step s

/-- What the steps are for the fleet. -/
def events : Crowd → List Step → List Event
  | _, [] => []
  | s, a :: steps => (s.turn a).1.toList ++ events (s.step a) steps

/-- The calls that stopped a chain. -/
def winners (s : Crowd) (i : Nat) : List StopCall := s.calls.filter (StopCall.wins i)

/-- Nobody has called yet. -/
def gather (f : Fleet) : Crowd := ⟨f, []⟩

/-! ## What a step can do -/

/-- What a step can be for the fleet and for the calls. -/
inductive Turn (s : Crowd) : Option Event → List StopCall → Prop where
  | idle : Turn s none s.calls
  | other {e} : e.isStop = false → Turn s (some e) s.calls
  | marked {i m c} : s.fleet.chains[i]? = some c → m = .mark ∨ m = .leave ∧ c.task = .leaving →
      Turn s (some (.move i m)) (s.calls ++ [.onto i c])
  | done {before call after step steps} : s.calls = before ++ call :: after →
      call.todo = step :: steps →
      Turn s (some (.move call.target .tearDown)) (before ++ call.onward step steps :: after)

variable {s : Crowd} {i j : Nat} {c : Chain} {m : Move}

theorem turn_mark {admits : Chain → Bool}
    (h : ∀ c, admits c = true → m = .mark ∨ m = .leave ∧ c.task = .leaving) :
    s.Turn (s.mark i m admits).1 (s.mark i m admits).2 := by
  unfold mark
  split
  case h_1 => exact .idle
  case h_2 c hc =>
    obtain ⟨hc, hm⟩ := Option.filter_eq_some_iff.1 hc
    exact .marked hc (h c hm)

theorem turn_spec (s : Crowd) (a : Step) : s.Turn (s.turn a).1 (s.turn a).2 := by
  cases a with
  | other e =>
    simp only [turn]
    split
    case isTrue => exact .idle
    case isFalse he => exact .other (Bool.not_eq_true _ ▸ he)
  | stop i => exact turn_mark fun _ _ => .inl rfl
  | leave i => exact turn_mark fun c hc => .inr ⟨rfl, beq_iff_eq.1 hc⟩
  | proceed k =>
    simp only [turn]
    split
    case h_1 => exact .idle
    case h_2 call hk =>
      split
      case h_1 => exact .idle
      case h_2 step steps ht =>
        obtain ⟨hl, rfl⟩ := List.getElem?_eq_some_iff.1 hk
        obtain ⟨before, after, hs, -, hset⟩ := List.exists_of_set hl
        rw [hset]
        exact .done hs ht

end Crowd

/-! ## What is left of a teardown -/

namespace Chain

/-- What is left of the teardown of a stopped chain, and nothing of another. -/
def pending (c : Chain) : List (List Teardown) := if c.stage = .stopped then [c.teardown] else []

/-- A mark hands the teardown to whoever put it, unless another did before. -/
theorem pending_mark (i : Nat) (c : Chain) :
    c.mark.pending
      = c.pending ++ ([StopCall.onto i c].filter (StopCall.wins i)).map StopCall.todo := by
  by_cases hs : c.stage = .stopped <;>
    simp [pending, mark, StopCall.onto, StopCall.wins, StopCall.duty, hs]

end Chain

/-- Only the steps of a stop change what is left of a teardown, and only they leave the count. -/
theorem Move.Effect.pending_eq {m : Move} {c c' : Chain} {n n' : Counters}
    (h : m.Effect c n c' n') (hm : m.isStop = false) : c'.pending = c.pending := by
  unfold Chain.pending
  rw [h.teardown_eq hm]
  cases h with
  | bound hs | launched hs => simp [hs]
  | paid => rw [Chain.stage_charged]
  | marked | left | told | unbound | destroyed | counted => simp [isStop] at hm
  | _ => rfl

theorem Move.exits_of_not_isStop {m : Move} {s : Chain × Counters} (hm : m.isStop = false) :
    m.exits s = false := by
  cases m with
  | tearDown => simp [isStop] at hm
  | _ => rfl

namespace Fleet

variable {f : Fleet} {e : Event} {i j : Nat} {c : Chain}
  {g : Chain × Counters → Chain × Counters}

/-- What is left of the teardown of the chain of a number. -/
def pending (f : Fleet) (i : Nat) : List (List Teardown) := f.ask i [] Chain.pending

theorem pending_act_self (hc : f.chains[i]? = some c) :
    (f.act i g).pending i = (g (c, f.counters)).1.pending := by
  rw [pending, ask_of_some (getElem?_act_self hc)]

theorem pending_act_ne (hij : j ≠ i) : (f.act i g).pending j = f.pending j := by
  rw [pending, ask, getElem?_act_ne hij]
  rfl

theorem pending_step (he : e.isStop = false) (i : Nat) :
    (f.step e).pending i = f.pending i ∧ isMove (· == i) Move.exits f e = false := by
  cases e with
  | build id stopOnFailure =>
    refine ⟨?_, rfl⟩
    unfold pending ask
    rw [step, List.getElem?_append]
    split
    case isTrue => rfl
    case isFalse hi =>
      rw [List.getElem?_eq_none (Nat.le_of_not_lt hi), List.getElem?_singleton]
      split <;> rfl
  | move j m =>
    by_cases hij : i = j
    · subst hij
      cases hc : f.chains[i]? with
      | none =>
        rw [step, act_of_none hc]
        exact ⟨rfl, by simp [isMove, ask_of_none hc]⟩
      | some c =>
        rw [step, pending_act_self hc, isMove_self hc, pending, ask_of_some hc]
        exact ⟨(m.effect_run c f.counters).pending_eq he, Move.exits_of_not_isStop he⟩
    · exact ⟨pending_act_ne hij, isMove_ne (Ne.symm hij)⟩
  | consume => exact ⟨rfl, rfl⟩
  | enter => exact ⟨rfl, rfl⟩

end Fleet

namespace Crowd

variable {s : Crowd} {exited : Nat → Nat} {e : Event} {i : Nat} {m : Move} {c : Chain}

/-! ## The calls and the chains -/

/-- What the calls know of the chains, when each chain has left the count so many times. -/
structure Sound (exited : Nat → Nat) (s : Crowd) : Prop where
  /-- A caller does the steps of its teardown in order. -/
  made : ∀ call ∈ s.calls, call.made ++ call.todo = StopCall.duty call.found
  /-- What is left of the teardown of a chain is left to the call that stopped it. -/
  pending : ∀ i, (s.winners i).map StopCall.todo = s.fleet.pending i
  /-- Whoever takes a chain out of the count is that caller. -/
  exits : ∀ i, ((s.winners i).flatMap StopCall.made).count .leave = exited i

theorem sound_gather (budget : Nat) (crew : List (ClientId × Bool)) :
    (gather (.create budget (crew.map fun p => .create p.1 p.2))).Sound fun _ => 0 := by
  refine ⟨fun _ h => absurd h List.not_mem_nil, fun i => ?_, fun _ => rfl⟩
  unfold Fleet.pending
  cases hc : (Fleet.create budget (crew.map fun p => Chain.create p.1 p.2)).chains[i]? with
  | none => exact (Fleet.ask_of_none hc _ _).symm
  | some c =>
    obtain ⟨p, -, rfl⟩ := List.mem_map.1 (List.mem_of_getElem? hc)
    exact (Fleet.ask_of_some hc [] Chain.pending).symm

theorem Sound.other (h : s.Sound exited) (he : e.isStop = false) :
    Sound (fun i => exited i + (Fleet.isMove (· == i) Move.exits s.fleet e).toNat)
      ⟨s.fleet.step e, s.calls⟩ := by
  refine ⟨h.made, fun i => ?_, fun i => ?_⟩
  · exact (h.pending i).trans (Fleet.pending_step he i).1.symm
  · rw [(Fleet.pending_step he i).2]
    exact h.exits i

theorem Sound.marked (h : s.Sound exited) (hc : s.fleet.chains[i]? = some c)
    (hm : m = .mark ∨ m = .leave ∧ c.task = .leaving) :
    Sound (fun j => exited j + (Fleet.isMove (· == j) Move.exits s.fleet (.move i m)).toNat)
      ⟨s.fleet.step (.move i m), s.calls ++ [.onto i c]⟩ := by
  have hexits : ∀ j, Fleet.isMove (· == j) Move.exits s.fleet (.move i m) = false := by
    rcases hm with rfl | ⟨rfl, -⟩ <;> exact fun _ => Fleet.isMove_of_false fun _ => rfl
  have hmark : (m.run (c, s.fleet.counters)).1.pending = c.mark.pending := by
    rcases hm with rfl | ⟨rfl, ht⟩
    · rfl
    · simp only [Move.run, Chain.leave, if_pos ht]
      rfl
  have hwins : ∀ j, winners ⟨s.fleet.step (.move i m), s.calls ++ [.onto i c]⟩ j
      = s.winners j ++ [StopCall.onto i c].filter (StopCall.wins j) :=
    fun j => List.filter_append ..
  refine ⟨fun call hcall => ?_, fun j => ?_, fun j => ?_⟩
  · rcases List.mem_append.1 hcall with hcall | hcall
    · exact h.made call hcall
    · obtain rfl := List.mem_singleton.1 hcall
      rfl
  · rw [hwins, List.map_append, h.pending]
    by_cases hij : j = i
    · subst hij
      rw [Fleet.step, Fleet.pending_act_self hc, hmark, Chain.pending_mark, Fleet.pending,
        Fleet.ask_of_some hc]
    · have hne : ¬(StopCall.onto i c).wins j = true := by
        simp [StopCall.wins, StopCall.onto, Ne.symm hij]
      rw [Fleet.step, Fleet.pending_act_ne hij, List.filter_cons_of_neg hne, List.filter_nil]
      exact List.append_nil _
  · have hnew : ([StopCall.onto i c].filter (StopCall.wins j)).flatMap StopCall.made = [] :=
      List.flatMap_eq_nil_iff.2 fun call hcall =>
        List.mem_singleton.1 (List.mem_filter.1 hcall).1 ▸ rfl
    rw [hwins, hexits, List.flatMap_append, hnew, List.append_nil]
    exact h.exits j

/-- A step of a caller leaves the calls on other chains. -/
theorem winners_onward {before after : List StopCall} {call : StopCall} {step : Teardown}
    {steps : List Teardown} {f : Fleet} (hs : s.calls = before ++ call :: after)
    (hi : i ≠ call.target) :
    winners ⟨f, before ++ call.onward step steps :: after⟩ i = s.winners i := by
  have hne : ¬call.wins i = true := by simp [StopCall.wins, Ne.symm hi]
  have hne' : ¬(call.onward step steps).wins i = true := hne
  rw [winners, winners, hs, List.filter_append, List.filter_append,
    List.filter_cons_of_neg hne, List.filter_cons_of_neg hne']

/-- A caller that has something left to do is the only one that stopped its chain, which carries
the same teardown. -/
theorem Sound.of_todo {before after : List StopCall} {call : StopCall} {step : Teardown}
    {steps : List Teardown} (h : s.Sound exited) (hs : s.calls = before ++ call :: after)
    (ht : call.todo = step :: steps) :
    call.wins call.target = true ∧
      (∀ d, d.wins call.target = true →
        (before ++ d :: after).filter (StopCall.wins call.target) = [d]) ∧
      ∃ c, s.fleet.chains[call.target]? = some c ∧ c.stage = .stopped ∧
        c.teardown = step :: steps := by
  have hwins : call.wins call.target = true := by
    have hmade := h.made call (by simp [hs])
    rw [ht] at hmade
    by_cases hf : call.found = .stopped
    · simp [StopCall.duty, hf] at hmade
    · simp [StopCall.wins, hf]
  have hpending := h.pending call.target
  rw [winners, hs, List.filter_append, List.filter_cons_of_pos hwins, List.map_append,
    List.map_cons, ht] at hpending
  refine ⟨hwins, ?_⟩
  cases hc : s.fleet.chains[call.target]? with
  | none =>
    rw [Fleet.pending, Fleet.ask_of_none hc] at hpending
    simp at hpending
  | some c =>
    rw [Fleet.pending, Fleet.ask_of_some hc, Chain.pending] at hpending
    by_cases hstage : c.stage = .stopped
    · rw [if_pos hstage, List.append_eq_singleton_iff] at hpending
      simp only [List.map_eq_nil_iff, List.cons.injEq, reduceCtorEq, and_false, or_false]
        at hpending
      obtain ⟨hbefore, hteardown, hafter⟩ := hpending
      refine ⟨fun d hd => ?_, c, rfl, hstage, hteardown.symm⟩
      rw [List.filter_append, List.filter_cons_of_pos hd, hbefore, hafter]
      rfl
    · simp [hstage] at hpending

theorem Sound.done {before after : List StopCall} {call : StopCall} {step : Teardown}
    {steps : List Teardown} (h : s.Sound exited) (hs : s.calls = before ++ call :: after)
    (ht : call.todo = step :: steps) :
    Sound (fun j => exited j
        + (Fleet.isMove (· == j) Move.exits s.fleet (.move call.target .tearDown)).toNat)
      ⟨s.fleet.step (.move call.target .tearDown),
        before ++ call.onward step steps :: after⟩ := by
  obtain ⟨hwins, hsole, c, hc, hstage, hteardown⟩ := h.of_todo hs ht
  have hsole' := hsole (call.onward step steps) hwins
  have htear := Chain.tearDown_spec (c, s.fleet.counters)
  refine ⟨fun d hd => ?_, fun j => ?_, fun j => ?_⟩
  · rcases List.mem_append.1 hd with hd | hd
    · exact h.made d (by simp [hs, hd])
    · rcases List.mem_cons.1 hd with rfl | hd
      · exact (StopCall.made_append_todo_onward ht).trans (h.made call (by simp [hs]))
      · exact h.made d (by simp [hs, hd])
  · by_cases hj : j = call.target
    · subst hj
      rw [winners, hsole', Fleet.step, Fleet.pending_act_self hc, Chain.pending, Move.run,
        htear.2, htear.1, if_pos hstage, hteardown]
      rfl
    · rw [Fleet.step, Fleet.pending_act_ne hj, ← h.pending, winners_onward hs hj]
  · by_cases hj : j = call.target
    · subst hj
      have hexits := h.exits call.target
      rw [winners, hs, hsole call hwins] at hexits
      rw [winners, hsole', Fleet.isMove_self hc, ← hexits, Move.exits, hteardown]
      cases step <;> simp [StopCall.onward]
    · rw [Fleet.isMove_ne (Ne.symm hj), winners_onward hs hj]
      exact h.exits j

theorem Sound.turn {event : Option Event} {calls : List StopCall} (h : s.Sound exited)
    (ht : s.Turn event calls) :
    Sound (fun i => exited i + s.fleet.movesOf i Move.exits event.toList)
      ⟨s.fleet.apply event.toList, calls⟩ := by
  cases ht with
  | idle => exact h
  | other he => exact h.other he
  | marked hc hm => exact h.marked hc hm
  | done hs ht => exact h.done hs ht

/-! ## Runs of a crowd -/

@[simp] theorem apply_nil (s : Crowd) : s.apply [] = s := rfl

@[simp] theorem apply_cons (s : Crowd) (a : Step) (steps : List Step) :
    s.apply (a :: steps) = (s.step a).apply steps := rfl

theorem apply_append (s : Crowd) (before after : List Step) :
    s.apply (before ++ after) = (s.apply before).apply after :=
  List.foldl_append

/-- To the fleet the steps of a crowd are events. -/
theorem fleet_apply (s : Crowd) (steps : List Step) :
    (s.apply steps).fleet = s.fleet.apply (s.events steps) := by
  induction steps generalizing s with
  | nil => rfl
  | cons a steps ih => rw [apply_cons, ih, events, Fleet.apply_append]; rfl

theorem Sound.apply (h : s.Sound exited) (steps : List Step) :
    (s.apply steps).Sound fun i => exited i + s.fleet.movesOf i Move.exits (s.events steps) := by
  induction steps generalizing s exited with
  | nil => exact h
  | cons a steps ih =>
    have hs := ih (h.turn (s.turn_spec a))
    simp only [Nat.add_assoc] at hs
    simp only [events, Fleet.movesOf, Fleet.tally_append]
    exact hs

/-! ## What was done to a chain -/

theorem Sound.todo_eq (h : s.Sound exited) (hc : s.fleet.chains[i]? = some c) :
    (s.winners i).map StopCall.todo = if c.stage = .stopped then [c.teardown] else [] := by
  rw [h.pending, Fleet.pending, Fleet.ask_of_some hc, Chain.pending]

/-- One call has stopped a chain that is stopped, and has left to it what the chain has. -/
theorem Sound.winner (h : s.Sound exited) (hc : s.fleet.chains[i]? = some c)
    (hs : c.stage = .stopped) :
    ∃ call ∈ s.calls, s.winners i = [call] ∧ call.found ≠ .stopped ∧ call.todo = c.teardown := by
  have htodo := h.todo_eq hc
  rw [if_pos hs] at htodo
  obtain ⟨call, hcall, htodo⟩ := List.map_eq_singleton_iff.1 htodo
  have hmem : call ∈ s.winners i := by simp [hcall]
  obtain ⟨hmem, hwins⟩ := List.mem_filter.1 hmem
  have hfound := (Bool.and_eq_true_iff.1 hwins).2
  exact ⟨call, hmem, hcall, by simpa using hfound, htodo⟩

theorem Sound.length_winners (h : s.Sound exited) (hc : s.fleet.chains[i]? = some c) :
    (s.winners i).length = if c.stage = .stopped then 1 else 0 := by
  rw [← List.length_map StopCall.todo, h.todo_eq hc]
  split <;> rfl

/-- A step of every teardown is done by the caller that stopped the chain, or left. -/
theorem Sound.count_made (h : s.Sound exited) (hc : s.fleet.chains[i]? = some c)
    (ho : c.Orderly) (step : Teardown)
    (hstep : ∀ found, found ≠ .stopped → (StopCall.duty found).count step = 1) :
    ((s.winners i).flatMap StopCall.made).count step + c.teardown.count step
      = if c.stage = .stopped then 1 else 0 := by
  by_cases hs : c.stage = .stopped
  · obtain ⟨call, hmem, hcall, hfound, htodo⟩ := h.winner hc hs
    have hcount := hstep _ hfound
    rw [← h.made call hmem, List.count_append, htodo] at hcount
    simpa [hcall, hs] using hcount
  · have htodo := h.todo_eq hc
    rw [if_neg hs] at htodo ⊢
    rw [List.map_eq_nil_iff.1 htodo, ho.idle hs]
    rfl

/-- The calls that the transport got are those of that caller. -/
theorem Sound.stops_eq (h : s.Sound exited) (hc : s.fleet.chains[i]? = some c) (ho : c.Orderly) :
    c.calls.stops = ((s.winners i).flatMap StopCall.made).count .stopTransport := by
  have hmade := h.count_made hc ho .stopTransport fun found => by cases found <;> decide
  have := ho.stops
  omega

theorem Sound.destroys_eq (h : s.Sound exited) (hc : s.fleet.chains[i]? = some c)
    (ho : c.Orderly) :
    c.calls.destroys = ((s.winners i).flatMap StopCall.made).count .destroyTransport := by
  have hmade := h.count_made hc ho .destroyTransport fun found => by cases found <;> decide
  have := ho.destroys
  omega

/-- Where no caller has anything left to do, no stop is half done. -/
theorem Sound.atRest (h : s.Sound exited) (ho : ∀ c ∈ s.fleet.chains, c.Orderly)
    (hdone : ∀ call ∈ s.calls, call.todo = []) : s.fleet.AtRest := by
  intro c hc
  by_cases hs : c.stage = .stopped
  · obtain ⟨i, hi⟩ := List.mem_iff_getElem?.1 hc
    obtain ⟨call, hmem, -, -, htodo⟩ := h.winner hi hs
    rw [← htodo]
    exact hdone call hmem
  · exact (ho c hc).idle hs

/-- Whoever is about to take a chain out of the count finds it there. -/
theorem Sound.clientStopped_of_leave {entered : Nat} (h : s.Sound exited)
    (ha : s.fleet.Attended entered)
    (hl : s.fleet.chains.length + entered < Counters.wordSize) {call : StopCall}
    (hcall : call ∈ s.calls) (ht : call.todo.head? = some .leave) :
    s.fleet.counters.clientStopped.2 = true := by
  obtain ⟨before, after, hs⟩ := List.append_of_mem hcall
  obtain ⟨steps, htodo⟩ := List.head?_eq_some_iff.1 ht
  obtain ⟨-, -, c, hc, -, hteardown⟩ := h.of_todo hs htodo
  have hpresence := Fleet.le_total Chain.presence hc
  have hone : 0 < c.presence := by
    rw [Chain.presence, hteardown, List.count_cons_self]
    omega
  have hactive := ha.active_eq hl
  unfold Counters.clientStopped
  split
  case h_1 hzero => omega
  case h_2 => rfl

end Crowd

namespace Fleet

variable {f : Fleet} {i : Nat} {b c : Chain}

/-- No event takes a chain back. -/
theorem rank_le_step (e : Event) (hb : f.chains[i]? = some b) :
    ∃ c, (f.step e).chains[i]? = some c ∧ b.stage.rank ≤ c.stage.rank := by
  cases e with
  | build id stopOnFailure =>
    have hi := (List.getElem?_eq_some_iff.1 hb).1
    exact ⟨b, by rw [step, List.getElem?_append_left hi, hb], Nat.le_refl _⟩
  | move j m =>
    by_cases hij : i = j
    · subst hij
      exact ⟨_, getElem?_act_self hb, (m.effect_run b f.counters).rank_le⟩
    · exact ⟨b, by rw [step, getElem?_act_ne hij, hb], Nat.le_refl _⟩
  | consume => exact ⟨b, hb, Nat.le_refl _⟩
  | enter => exact ⟨b, hb, Nat.le_refl _⟩

theorem rank_le_apply (events : List Event) (hb : f.chains[i]? = some b)
    (hc : (f.apply events).chains[i]? = some c) : b.stage.rank ≤ c.stage.rank := by
  induction events generalizing f b with
  | nil =>
    obtain rfl := Option.some.inj (hb.symm.trans hc)
    exact Nat.le_refl _
  | cons e events ih =>
    obtain ⟨d, hd, hle⟩ := rank_le_step e hb
    exact Nat.le_trans hle (ih hd hc)

/-- A chain whose transport refuses to start stays where it was. -/
theorem step_of_refused {refusal : Option Failure} {e : Failure} (hc : f.chains[i]? = some c)
    (he : (c.start refusal).2 = .error e) :
    c.stage = .created ∧ (f.step (.move i (.start refusal))).chains[i]? = some c.callStart ∧
      (f.step (.move i (.start refusal))).counters = f.counters := by
  have hstart : c.stage = .created ∧ (c.start refusal).1 = c.callStart := by
    unfold Chain.start at he ⊢
    split at he
    case isTrue hs =>
      cases refusal with
      | none => simp at he
      | some _ => simp [hs]
    case isFalse => simp at he
  refine ⟨hstart.1, ?_, ?_⟩
  · rw [step, getElem?_act_self hc, Move.run, hstart.2]
  · rw [step, counters_act hc, Move.run]

end Fleet

namespace Crowd

/-- However many callers start, launch and stop however many chains on the same counters, one step
at a time and in whatever order. -/
theorem tears_down_once (budget : Nat) (crew : List (ClientId × Bool)) (steps : List Step) :
    let origin := Fleet.create budget (crew.map fun p => .create p.1 p.2)
    let s := (gather origin).apply steps
    let events := (gather origin).events steps
    let entered := events.count .enter
    s.fleet = origin.apply events ∧
      (∀ i c, s.fleet.chains[i]? = some c →
        (∀ k b, ((gather origin).apply (steps.take k)).fleet.chains[i]? = some b →
          b.stage.rank ≤ c.stage.rank) ∧
        (∀ refusal e, (c.start refusal).2 = .error e →
          let after := s.step (.other (.move i (.start refusal)))
          c.stage = .created ∧ after.fleet.chains[i]? = some c.callStart ∧
            after.fleet.counters = s.fleet.counters) ∧
        origin.movesOf i Move.launches events ≤ 1 ∧
        (s.winners i).length = (if c.stage = .stopped then 1 else 0) ∧
        let made := (s.winners i).flatMap StopCall.made
        c.calls.stops = made.count .stopTransport ∧
          c.calls.destroys = made.count .destroyTransport ∧
          c.calls.destroys ≤ c.calls.stops ∧ c.calls.stops ≤ 1 ∧
          origin.movesOf i Move.exits events = made.count .leave ∧
          origin.movesOf i Move.exits events ≤ origin.movesOf i Move.launches events) ∧
      (∀ call ∈ s.calls, call.made ++ call.todo = StopCall.duty call.found) ∧
      s.fleet.counters.active
        = (s.fleet.total Chain.presence + entered) % Counters.wordSize ∧
      ((∀ call ∈ s.calls, call.todo = []) →
        s.fleet.counters.active = (s.fleet.running + entered) % Counters.wordSize) ∧
      (s.fleet.chains.length + entered < Counters.wordSize →
        s.fleet.counters.active = s.fleet.total Chain.presence + entered ∧
          ∀ call ∈ s.calls, call.todo.head? = some .leave →
            s.fleet.counters.clientStopped.2 = true) := by
  intro origin s events entered
  have hfleet : s.fleet = origin.apply events := fleet_apply _ _
  have hsound := (sound_gather budget crew).apply steps
  simp only [Nat.zero_add] at hsound
  have hattended : s.fleet.Attended entered := by
    rw [hfleet]
    have := (Fleet.attended_create budget crew).apply events
    rwa [Nat.zero_add] at this
  refine ⟨hfleet, fun i c hc => ?_, hsound.made, hattended.active, fun hdone => ?_, fun hl => ?_⟩
  · have hpassed : c.Passed fun kind => origin.movesOf i kind events := by
      rw [hfleet] at hc
      refine Fleet.movesOf_induction (P := fun made c => c.Passed made) Chain.passed_create
        (fun made c n m h => (m.effect_run c n).passed h) (fun c hc => ?_) hc
      obtain ⟨p, -, rfl⟩ := List.mem_map.1 (List.mem_of_getElem? hc)
      exact Chain.passed_create p.1 p.2
    have ho := hpassed.orderly
    obtain ⟨hle, hone⟩ := hpassed.inTurn.destroys_le_stops ho
    refine ⟨fun k b hb => ?_, fun refusal e he => Fleet.step_of_refused hc he,
      hpassed.launches_le_one, hsound.length_winners hc, hsound.stops_eq hc ho,
      hsound.destroys_eq hc ho, hle, hone, (hsound.exits i).symm, hpassed.exits_le⟩
    have hs : s = ((gather origin).apply (steps.take k)).apply (steps.drop k) := by
      rw [← apply_append, List.take_append_drop]
    rw [hs, fleet_apply] at hc
    exact Fleet.rank_le_apply _ hb hc
  · rw [hattended.active, (hsound.atRest hattended.chains hdone).total_presence]
  · exact ⟨hattended.active_eq hl, fun call hcall ht =>
      hsound.clientStopped_of_leave hattended hl hcall ht⟩

-- The task of a chain begins to stop it between two callers, of which the first one is ahead.
example :
    let s := (gather (.create 1 [.create ⟨0⟩ true])).apply
      [.other (.move 0 (.start none)), .other (.move 0 .launch), .other (.move 0 .first),
        .other (.move 0 (.resolve .noResponse)), .stop 0, .leave 0, .stop 0, .proceed 1,
        .proceed 0, .proceed 0]
    s.calls.map StopCall.todo = [[.destroyTransport, .leave], [], []] ∧
      s.fleet.counters.active = 1 := by
  decide

end Crowd

end LoadHarness
