import LoadHarness.Transport.Http
import Mathlib.Algebra.Ring.Nat

/-!
# The course of an exchange over HTTP

An attempt leaves a request unsettled if its time is over or no connection is made
(`Http.Reply.Unsettled`). An exchange makes one attempt after the other up to the first that settles
it, or to the last one allowed, and what it does on the way is the same for every attempt but for
the time, which doubles (`Http.turn`). `Http.Course` says this of attempts from any one on, and is
kept by one more attempt in front (`Http.Course.cons`), so that `Http.attempts` always takes such a
course (`Http.course_attempts`). `Http.Transport.exchange_of_replies` is what follows for a
transport that may send.

Whoever makes attempts with hands of any kind does what `Http.attempts` says, for in a world where
the replies are given and all acts are noted (`Http.noting`) they are the same
(`Http.attempts_noting`).
-/

namespace LoadHarness

namespace Duration

/-- A duration doubled so many times, or the longest one if that is shorter. -/
def scaled (d : Duration) (times : Nat) : Duration :=
  ⟨min (d.nanoseconds * 2 ^ times) longest.nanoseconds⟩

theorem scaled_zero {d : Duration} (h : d.nanoseconds ≤ longest.nanoseconds) : d.scaled 0 = d := by
  rw [scaled, pow_zero, Nat.mul_one, Nat.min_eq_left h]

/-- Once it is the longest, a duration stays so however often it is doubled. -/
theorem scaled_doubled (d : Duration) (times : Nat) :
    d.doubled.scaled times = d.scaled (times + 1) := by
  have hpos : 1 ≤ 2 ^ times := Nat.one_le_two_pow
  have hpow : d.nanoseconds * 2 ^ (times + 1) = 2 * d.nanoseconds * 2 ^ times := by
    rw [pow_succ]
    ac_rfl
  rw [scaled, scaled, doubled, hpow]
  congr 1
  rcases Nat.le_total (2 * d.nanoseconds) longest.nanoseconds with hle | hle
  · rw [Nat.min_eq_left hle]
  · rw [Nat.min_eq_right hle, Nat.min_eq_right (Nat.le_mul_of_pos_right _ hpos),
      Nat.min_eq_right (Nat.le_trans hle (Nat.le_mul_of_pos_right _ hpos))]

end Duration

namespace Http

variable {reply : Nat → Reply} {m : Message} {left last : Nat} {d : Duration}

/-- Another attempt may do better. -/
def Reply.Unsettled (r : Reply) : Prop := r = .timeout ∨ r = .refused

/-- The outcome of an exchange whose last attempt ends so. -/
def Reply.outcome : Reply → Outcome
  | .response r => .response r
  | .timeout | .refused | .broken => .noResponse

/-- What a transport does for the attempt number `i` of an exchange with `last` as its last one,
when the first one has the time `d`. -/
def turn (reply : Nat → Reply) (m : Message) (d : Duration) (last i : Nat) : List Act :=
  .attempt m (d.scaled i) ::
    if i < last then
      (if reply i = .refused then [.pause (d.scaled i)] else []) ++ [.retransmission]
    else []

/-- Attempts of which `left` may follow the first, and number `last` is the last one made. -/
structure Course (reply : Nat → Reply) (m : Message) (left : Nat) (d : Duration) (last : Nat)
    (result : Outcome × List Act) : Prop where
  last_le : last ≤ left
  /-- Every attempt but the last leaves the request unsettled. -/
  unsettled : ∀ i < last, (reply i).Unsettled
  /-- The last one settles it, unless no more are allowed. -/
  ends : last = left ∨ ¬(reply last).Unsettled
  outcome : result.1 = (reply last).outcome
  acts : result.2 = (List.range (last + 1)).flatMap (turn reply m d last)
  retransmissions : retransmissions result.2 = last

theorem Reply.settled?_eq_none_iff (r : Reply) : r.settled? = none ↔ r.Unsettled := by
  cases r <;> simp [settled?, Unsettled]

theorem Reply.outcome_eq (r : Reply) : r.outcome = r.settled?.getD .noResponse := by
  cases r <;> rfl

theorem Reply.pause?_eq (r : Reply) (d : Duration) :
    ((r.pause? d).map Act.pause).toList = if r = .refused then [.pause d] else [] := by
  cases r <;> simp [pause?]

/-- The last attempt, after which none is allowed or none is needed. -/
theorem course_last (m : Message) (hd : d.nanoseconds ≤ Duration.longest.nanoseconds)
    (h : left = 0 ∨ ¬(reply 0).Unsettled) :
    Course reply m left d 0 ((reply 0).outcome, [.attempt m d]) where
  last_le := Nat.zero_le left
  unsettled := fun _ hi => absurd hi (Nat.not_lt_zero _)
  ends := h.imp_left Eq.symm
  outcome := rfl
  acts := by simp [turn, Duration.scaled_zero hd]
  retransmissions := by simp [Http.retransmissions]

theorem turn_succ (reply : Nat → Reply) (m : Message) (d : Duration) (last i : Nat) :
    turn reply m d (last + 1) (i + 1) = turn (fun j => reply (j + 1)) m d.doubled last i := by
  simp [turn, Duration.scaled_doubled]

/-- One more attempt in front, which has left the request unsettled. -/
theorem Course.cons {result : Outcome × List Act}
    (h : Course (fun i => reply (i + 1)) m left d.doubled last result)
    (hreply : (reply 0).Unsettled) (hd : d.nanoseconds ≤ Duration.longest.nanoseconds) :
    Course reply m (left + 1) d (last + 1)
      (result.1, .attempt m d :: (((reply 0).pause? d).map Act.pause).toList
        ++ .retransmission :: result.2) where
  last_le := Nat.succ_le_succ h.last_le
  unsettled := by
    intro i hi
    cases i with
    | zero => exact hreply
    | succ i => exact h.unsettled i (Nat.lt_of_succ_lt_succ hi)
  ends := h.ends.imp_left (congrArg (· + 1))
  outcome := h.outcome
  acts := by
    have hfirst : turn reply m d (last + 1) 0
        = .attempt m d
            :: ((if reply 0 = .refused then [.pause d] else []) ++ [.retransmission]) := by
      simp [turn, Duration.scaled_zero hd]
    rw [List.range_succ_eq_map, List.flatMap_cons, List.flatMap_map, hfirst, Reply.pause?_eq,
      h.acts]
    simp [turn_succ]
  retransmissions := by
    have hpause : (((reply 0).pause? d).map Act.pause).toList.count .retransmission = 0 := by
      rw [Reply.pause?_eq]
      split <;> simp
    have hrest : result.2.count .retransmission = last := h.retransmissions
    simp [Http.retransmissions, List.count_append, hpause, hrest]

/-! ## The attempts of a request -/

/-- Attempts from one number on are those of a target that begins with it. -/
theorem attempts_add_one (reply : Nat → Reply) (m : Message) (left j : Nat) (d : Duration) :
    attempts reply m left (j + 1) d = attempts (fun i => reply (i + 1)) m left j d := by
  induction left generalizing j d with
  | zero => cases hs : (reply (j + 1)).settled? <;> simp [attempts, hs]
  | succ left ih => cases hs : (reply (j + 1)).settled? <;> simp [attempts, hs, ih]

theorem attempts_last (m : Message) (d : Duration) (h : left = 0 ∨ ¬(reply 0).Unsettled) :
    attempts reply m left 0 d = ((reply 0).outcome, [.attempt m d]) := by
  rw [← Reply.settled?_eq_none_iff] at h
  rw [Reply.outcome_eq]
  unfold attempts
  cases hs : (reply 0).settled? with
  | none =>
    obtain rfl := h.resolve_right (· hs)
    rfl
  | some outcome => rfl

theorem attempts_succ (m : Message) (left : Nat) (d : Duration) (h : (reply 0).Unsettled) :
    attempts reply m (left + 1) 0 d
      = ((attempts (fun i => reply (i + 1)) m left 0 d.doubled).1,
        .attempt m d :: (((reply 0).pause? d).map Act.pause).toList
          ++ .retransmission :: (attempts (fun i => reply (i + 1)) m left 0 d.doubled).2) := by
  rw [← attempts_add_one]
  conv =>
    lhs
    unfold attempts
  rw [(Reply.settled?_eq_none_iff _).2 h]

/-- Attempts take such a course, whatever comes of each. -/
theorem course_attempts (reply : Nat → Reply) (m : Message) (left : Nat)
    (hd : d.nanoseconds ≤ Duration.longest.nanoseconds) :
    ∃ last, Course reply m left d last (attempts reply m left 0 d) := by
  induction left generalizing reply d with
  | zero =>
    rw [attempts_last m d (.inl rfl)]
    exact ⟨0, course_last m hd (.inl rfl)⟩
  | succ left ih =>
    by_cases h : (reply 0).Unsettled
    · obtain ⟨last, hrest⟩ := ih (fun i => reply (i + 1)) d.nanoseconds_doubled_le
      rw [attempts_succ m left d h]
      exact ⟨last + 1, hrest.cons h hd⟩
    · rw [attempts_last m d (.inr h)]
      exact ⟨0, course_last m hd (.inr h)⟩

/-! ## Attempts with other hands -/

/-- The hands of a world in which every attempt has a given reply. It counts the attempts, and notes
all that is done. -/
def noting (reply : Nat → Reply) : Hands (StateM (Nat × List Act)) where
  attempt m timeout := fun (j, acts) => (reply j, j + 1, acts ++ [.attempt m timeout])
  pause d := fun (j, acts) => ((), j, acts ++ [.pause d])
  retransmit := fun (j, acts) => ((), j, acts ++ [.retransmission])

@[simp] theorem run_attempt_noting (s : Nat × List Act) :
    ((noting reply).attempt m d).run s
      = pure (reply s.1, s.1 + 1, s.2 ++ [.attempt m d]) := rfl

@[simp] theorem run_pause_noting (s : Nat × List Act) :
    ((noting reply).pause d).run s = pure ((), s.1, s.2 ++ [.pause d]) := rfl

@[simp] theorem run_retransmit_noting (s : Nat × List Act) :
    (noting reply).retransmit.run s = pure ((), s.1, s.2 ++ [.retransmission]) := rfl

theorem run_forM_pause_noting (pause : Option Duration) (s : Nat × List Act) :
    (forM pause (noting reply).pause).run s
      = pure ((), s.1, s.2 ++ (pause.map Act.pause).toList) := by
  cases pause <;> simp

/-- Whoever makes attempts with such hands does what `attempts` says. -/
theorem attempts_noting (reply : Nat → Reply) (m : Message) (left j : Nat) (d : Duration)
    (acts : List Act) :
    ∃ k, ((noting reply).attempts m left d).run (j, acts)
      = pure ((attempts reply m left j d).1, k, acts ++ (attempts reply m left j d).2) := by
  induction left generalizing j d acts with
  | zero =>
    refine ⟨j + 1, ?_⟩
    cases hs : (reply j).settled? <;> simp [Hands.attempts, attempts, hs]
  | succ left ih =>
    cases hs : (reply j).settled? with
    | some outcome => exact ⟨j + 1, by simp [Hands.attempts, attempts, hs]⟩
    | none =>
      obtain ⟨k, hk⟩ := ih (j + 1) d.doubled
        (acts ++ .attempt m d :: (((reply j).pause? d).map Act.pause).toList ++ [.retransmission])
      refine ⟨k, ?_⟩
      simp only [List.append_assoc, List.cons_append] at hk
      simp [Hands.attempts, attempts, hs, run_forM_pause_noting, hk]

/-! ## What travels -/

/-- Among the headers of a message, the identifier of the request is there once, whatever headers
the settings give. -/
theorem filter_headers_message (p : Plan) (r : Request) :
    (message p r).headers.filter (·.1 == idHeader) = [(idHeader, r.id)] := by
  have hown : (ownHeaders p.settings r.id).filter (·.1 == idHeader) = [(idHeader, r.id)] := by
    unfold ownHeaders
    cases Url.authorization? p.settings.target <;> cases p.settings.method.hasBody <;>
      simp [idHeader, typeHeader, authorizationHeader]
  have hany (name : String) (h : name = idHeader) :
      (ownHeaders p.settings r.id).any (·.1 == name) = true := by
    simp [ownHeaders, h]
  have husual : (p.route.headers.filter fun q =>
      !(ownHeaders p.settings r.id).any (·.1 == q.1)).filter (·.1 == idHeader) = [] := by
    rw [List.filter_filter, List.filter_eq_nil_iff]
    intro q _ hq
    obtain ⟨hname, hnone⟩ := Bool.and_eq_true_iff.1 hq
    rw [hany q.1 (by simpa using hname)] at hnone
    exact absurd hnone (by decide)
  change ((p.route.headers.filter _) ++ _).filter _ = _
  rw [List.filter_append, husual, hown, List.nil_append]

namespace Transport

/-- An exchange of a transport that may send makes attempts until one settles the request, or as
many as are allowed, and every attempt carries the same message. -/
theorem exchange_of_replies {t : Transport} (hbound : t.bound = true) (hstopped : t.stopped = false)
    {p : Plan} (hd : p.settings.ackTimeout.nanoseconds ≤ Duration.longest.nanoseconds)
    (reply : Nat → Reply) (r : Request) :
    (∃ last, Course reply (message p r) p.settings.maxRetransmit.toNat p.settings.ackTimeout last
      (t.exchange p reply r)) ∧
    (message p r).headers.filter (·.1 == idHeader) = [(idHeader, r.id)] ∧
    (message p r).body = if p.settings.method.hasBody then some r.payload else none := by
  refine ⟨?_, filter_headers_message p r, rfl⟩
  have hsend : t.exchange p reply r = Http.exchange p reply r := by
    simp [Transport.exchange, hbound, hstopped]
  rw [hsend]
  exact course_attempts reply (message p r) _ hd

/-- A short run against one address. -/
def shortPlan : Plan := ⟨.quick "http://127.0.0.1:9/", ⟨2, 10, true⟩, ⟨.http, .plain, []⟩⟩

/-- A target that takes no connection at first, and then answers that it is busy. -/
def busy : Nat → Reply
  | 0 => .refused
  | _ => .response ⟨503, "busy"⟩

theorem exchange_of_replies_busy :
    let t := create.start
    let r : Request := ⟨"7", "ping"⟩
    t.bound = true ∧ t.stopped = false ∧
      shortPlan.settings.ackTimeout.nanoseconds ≤ Duration.longest.nanoseconds ∧
      Course busy (message shortPlan r) 1 (.ofMilliseconds 200) 1 (t.exchange shortPlan busy r) ∧
      t.exchange shortPlan busy r
        = (.response ⟨503, "busy"⟩,
          [.attempt (message shortPlan r) (.ofMilliseconds 200), .pause (.ofMilliseconds 200),
            .retransmission, .attempt (message shortPlan r) (.ofMilliseconds 400)]) ∧
      (message shortPlan r).body = some "ping" := by
  intro t r
  have hd : shortPlan.settings.ackTimeout.nanoseconds ≤ Duration.longest.nanoseconds := by decide
  obtain ⟨⟨last, hcourse⟩, -, hbody⟩ := exchange_of_replies (t := t) rfl rfl hd busy r
  obtain rfl : last = 1 := hcourse.retransmissions.symm.trans (by decide)
  exact ⟨rfl, rfl, hd, hcourse, rfl, hbody⟩

end Transport

end Http

end LoadHarness
