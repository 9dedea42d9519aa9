import LoadHarness.Transport.WebSocket

/-!
# The course of an exchange over a WebSocket

What happens to a connection in the time of an exchange is a row of `Happening`s: attempts that
cannot be sent, and arrivals. Of these the first that decides about a request settles it
(`Happening.echo?`, `await`), in whichever attempt it comes (`Course`). By induction on the
attempts that may follow, every exchange takes such a course (`course_attempts`). Whoever makes
attempts with hands of any kind does the same (`attempts_noting`).

In a `session` a transport is given one request after the other. What an exchange leaves unread is
among what the next one finds to read, so that a span may hold answers to any request, however late
or often they come. `Exchange.Lawful` says how an exchange ends, what it sends, and what becomes of
the connection. All exchanges of a session go by that, and no two requests with different
identifiers are answered by one text (`exchanges_of_happenings`).
-/

namespace LoadHarness.WebSocket

variable {id : RequestId} {frame : String} {r : Request} {span : Nat → Span} {left last : Nat}

theorem answers_iff : answers id frame = true ↔ idOfFrame frame = .ok id := by
  unfold answers
  cases idOfFrame frame with
  | error e => simp
  | ok echo => simp

/-! ## What happens -/

/-- One thing that happens to a connection. -/
inductive Happening where
  /-- A frame could not be sent. -/
  | sendFailure
  | arrival (incoming : Incoming)
deriving DecidableEq, Repr

namespace Happening

variable {h : Happening}

/-- The frame cannot be sent, or the connection is closed, broken or at its end. -/
def loses : Happening → Bool
  | sendFailure | arrival .close | arrival .error | arrival .ended => true
  | arrival (.text _) | arrival .other => false

/-- The identifier of a request can be read from a text that arrives. -/
def Answers (id : RequestId) (h : Happening) : Prop :=
  ∃ frame, h = arrival (.text frame) ∧ idOfFrame frame = .ok id

/-- What it means to a request, if it means anything. -/
def echo? (id : RequestId) : Happening → Option Echo
  | sendFailure => some .lost
  | arrival incoming => incoming.echo? id

theorem echo?_text (id : RequestId) (frame : String) :
    (arrival (.text frame)).echo? id = if answers id frame then some (.found frame) else none :=
  rfl

theorem echo?_eq_found : h.echo? id = some (.found frame) ↔
    h = arrival (.text frame) ∧ idOfFrame frame = .ok id := by
  rw [← answers_iff]
  rcases h with _ | text | _ | _ | _ | _
  case arrival.text =>
    rw [echo?_text]
    constructor
    · intro he
      by_cases ha : answers id text = true
      · obtain rfl : text = frame := by simpa [ha] using he
        exact ⟨rfl, ha⟩
      · simp [ha] at he
    · rintro ⟨he, ha⟩
      obtain rfl : text = frame := by simpa using he
      rw [if_pos ha]
  all_goals simp [echo?, Incoming.echo?]

theorem echo?_eq_lost : h.echo? id = some .lost ↔ h.loses = true := by
  rcases h with _ | text | _ | _ | _ | _
  case arrival.text =>
    rw [echo?_text]
    split <;> simp [loses]
  all_goals simp [echo?, Incoming.echo?, loses]

theorem echo?_ne_missing : h.echo? id ≠ some .missing := by
  rcases h with _ | text | _ | _ | _ | _
  case arrival.text =>
    rw [echo?_text]
    split <;> simp
  all_goals simp [echo?, Incoming.echo?]

/-- What means nothing to a request neither loses the connection nor answers it. -/
theorem echo?_eq_none : h.echo? id = none ↔ h.loses = false ∧ ¬h.Answers id := by
  constructor
  · intro he
    refine ⟨Bool.eq_false_iff.2 fun hl => ?_, ?_⟩
    · rw [echo?_eq_lost.2 hl] at he
      cases he
    · rintro ⟨frame, hf⟩
      rw [echo?_eq_found.2 hf] at he
      cases he
  · rintro ⟨hl, ha⟩
    cases he : h.echo? id with
    | none => rfl
    | some echo =>
      cases echo with
      | found frame => exact absurd ⟨frame, echo?_eq_found.1 he⟩ ha
      | lost => exact absurd (echo?_eq_lost.1 he) (by simp [hl])
      | missing => exact absurd he echo?_ne_missing

end Happening

/-! ## The first happening that decides -/

/-- What happens in the time of an attempt. -/
def Span.happenings (s : Span) : List Happening :=
  (if s.sendFails then [.sendFailure] else []) ++ s.incoming.map .arrival

/-- What happens in the time of so many attempts. -/
def happenings (span : Nat → Span) (attempts : Nat) : List Happening :=
  (List.range attempts).flatMap fun j => (span j).happenings

/-- Nothing that happens decides about a request. -/
def Quiet (id : RequestId) (hs : List Happening) : Prop :=
  ∀ h ∈ hs, h.loses = false ∧ ¬h.Answers id

/-- What comes of waiting for the answer to a request while these things happen. -/
def await (id : RequestId) (hs : List Happening) : Echo :=
  (hs.findSome? (·.echo? id)).getD .missing

variable {hs : List Happening}

theorem findSome?_eq_some_iff {echo : Echo} : hs.findSome? (·.echo? id) = some echo ↔
    ∃ before h after, hs = before ++ h :: after ∧ h.echo? id = some echo ∧ Quiet id before := by
  simp only [List.findSome?_eq_some_iff, Happening.echo?_eq_none]
  rfl

theorem await_eq_missing : await id hs = .missing ↔ Quiet id hs := by
  unfold await
  constructor
  · intro h
    cases hf : hs.findSome? (·.echo? id) with
    | none => exact fun x hx => Happening.echo?_eq_none.1 (List.findSome?_eq_none_iff.1 hf x hx)
    | some echo =>
      obtain rfl : echo = .missing := by simpa [hf] using h
      obtain ⟨-, x, -, -, hx, -⟩ := findSome?_eq_some_iff.1 hf
      exact absurd hx Happening.echo?_ne_missing
  · intro h
    rw [List.findSome?_eq_none_iff.2 fun x hx => Happening.echo?_eq_none.2 (h x hx)]
    rfl

theorem await_eq_iff {echo : Echo} (he : echo ≠ .missing) : await id hs = echo ↔
    ∃ before h after, hs = before ++ h :: after ∧ h.echo? id = some echo ∧ Quiet id before := by
  rw [← findSome?_eq_some_iff, await]
  cases hs.findSome? (·.echo? id) with
  | none => simpa using he.symm
  | some other => simp

theorem await_eq_found : await id hs = .found frame ↔
    ∃ before after, hs = before ++ .arrival (.text frame) :: after ∧ Quiet id before ∧
      idOfFrame frame = .ok id := by
  rw [await_eq_iff (by simp)]
  constructor
  · rintro ⟨before, h, after, rfl, he, hq⟩
    obtain ⟨rfl, hf⟩ := Happening.echo?_eq_found.1 he
    exact ⟨before, after, rfl, hq, hf⟩
  · rintro ⟨before, after, rfl, hq, hf⟩
    exact ⟨before, _, after, rfl, Happening.echo?_eq_found.2 ⟨rfl, hf⟩, hq⟩

theorem await_eq_lost : await id hs = .lost ↔
    ∃ before h after, hs = before ++ h :: after ∧ Quiet id before ∧ h.loses = true := by
  rw [await_eq_iff (by simp)]
  simp only [Happening.echo?_eq_lost, and_comm]

theorem await_append (id : RequestId) (before after : List Happening) :
    await id (before ++ after)
      = if await id before = .missing then await id after else await id before := by
  split
  case isTrue h =>
    have hnone : before.findSome? (·.echo? id) = none :=
      List.findSome?_eq_none_iff.2 fun x hx => Happening.echo?_eq_none.2 (await_eq_missing.1 h x hx)
    rw [await, List.findSome?_append, hnone, Option.none_or, await]
  case isFalse h =>
    unfold await at h ⊢
    rw [List.findSome?_append]
    cases hs : before.findSome? (·.echo? id) with
    | none => simp [hs] at h
    | some echo => rfl

/-- A request is answered as soon as any answer comes before the connection is lost. -/
theorem exists_await_eq_found : (∃ frame, await id hs = .found frame) ↔
    ∃ before frame after, hs = before ++ .arrival (.text frame) :: after ∧
      (∀ h ∈ before, h.loses = false) ∧ idOfFrame frame = .ok id := by
  constructor
  · rintro ⟨frame, h⟩
    obtain ⟨before, after, rfl, hq, hf⟩ := await_eq_found.1 h
    exact ⟨before, frame, after, rfl, fun x hx => (hq x hx).1, hf⟩
  · rintro ⟨before, frame, after, rfl, hkept, hf⟩
    rw [await_append]
    cases hb : await id before with
    | missing =>
      refine ⟨frame, ?_⟩
      rw [if_pos rfl]
      exact await_eq_found.2 ⟨[], after, rfl, fun _ h => absurd h (by simp), hf⟩
    | found earlier => exact ⟨earlier, rfl⟩
    | lost =>
      obtain ⟨front, x, back, rfl, -, hx⟩ := await_eq_lost.1 hb
      rw [hkept x (by simp)] at hx
      cases hx

theorem await_span (id : RequestId) (s : Span) :
    await id s.happenings = if s.sendFails then .lost else awaitEcho id s.incoming := by
  unfold Span.happenings
  cases s.sendFails with
  | true => rfl
  | false =>
    simp only [await, awaitEcho, Bool.false_eq_true, if_false, List.nil_append, List.findSome?_map]
    rfl

theorem happenings_succ (span : Nat → Span) (attempts : Nat) :
    happenings span (attempts + 1)
      = (span 0).happenings ++ happenings (fun j => span (j + 1)) attempts := by
  rw [happenings, List.range_succ_eq_map, List.flatMap_cons, List.flatMap_map]
  rfl

/-! ## The attempts of a request -/

/-- The outcome that waiting for an answer comes to. -/
def Echo.outcome : Echo → Outcome
  | .found frame => .response ⟨echoStatus, frame⟩
  | .lost | .missing => .noResponse

theorem Echo.outcome_eq_response {echo : Echo} {response : Response} :
    echo.outcome = .response response ↔
      echo = .found response.body ∧ response.status = echoStatus := by
  obtain ⟨status, body⟩ := response
  cases echo with
  | found frame => simp [outcome, eq_comm, and_comm]
  | lost => simp [outcome]
  | missing => simp [outcome]

/-- What a transport does on an open connection, when attempt number `last` is the last one. -/
def acts (r : Request) (last : Nat) (kept : Bool) : List Act :=
  .frame r.frame :: (List.replicate last [.retransmission, .frame r.frame]).flatten
    ++ if kept then [] else [.drop]

theorem count_flatten_replicate (a : Act) (row : List Act) (n : Nat) :
    (List.replicate n row).flatten.count a = n * row.count a := by
  induction n with
  | zero => simp
  | succ n ih =>
    rw [List.replicate_succ, List.flatten_cons, List.count_append, ih, Nat.succ_mul, Nat.add_comm]

theorem count_retransmission_acts (r : Request) (last : Nat) (kept : Bool) :
    (acts r last kept).count .retransmission = last := by
  cases kept <;> simp [acts, List.count_append, count_flatten_replicate]

theorem count_frame_acts (r : Request) (last : Nat) (kept : Bool) :
    (acts r last kept).count (.frame r.frame) = last + 1 := by
  cases kept <;> simp [acts, List.count_append, count_flatten_replicate]

theorem drop_mem_acts (r : Request) (last : Nat) (kept : Bool) :
    .drop ∈ acts r last kept ↔ kept = false := by
  cases kept <;> simp [acts]

theorem connect_not_mem_acts (r : Request) (last : Nat) (kept : Bool) :
    .connect ∉ acts r last kept := by
  cases kept <;> simp [acts]

/-- Attempts of which `left` may follow the first, and number `last` is the last one made. -/
structure Course (span : Nat → Span) (r : Request) (left last : Nat)
    (result : Outcome × Bool × List Act) : Prop where
  last_le : last ≤ left
  /-- Nothing decides about the request in the time of any attempt but the last. -/
  quiet : ∀ i < last, Quiet r.id (span i).happenings
  /-- Something does in the time of the last one, unless no more are allowed. -/
  ends : last = left ∨ ¬Quiet r.id (span last).happenings
  outcome : result.1 = (await r.id (happenings span (left + 1))).outcome
  kept : result.2.1 = (await r.id (happenings span (left + 1)) != .lost)
  acts : result.2.2 = WebSocket.acts r last result.2.1

/-- Attempts from one number on are those of a target that begins with it. -/
theorem attempts_add_one (span : Nat → Span) (r : Request) (left j : Nat) :
    attempts span r left (j + 1) = attempts (fun i => span (i + 1)) r left j := by
  induction left generalizing j with
  | zero =>
    cases hs : awaitEcho r.id (span (j + 1)).incoming <;> simp [attempts, hs]
  | succ left ih =>
    cases hs : awaitEcho r.id (span (j + 1)).incoming <;> simp [attempts, hs, ih]

/-- The last attempt, after which none is allowed or none is needed. -/
theorem attempts_last (r : Request) (h : left = 0 ∨ await r.id (span 0).happenings ≠ .missing) :
    let echo := await r.id (span 0).happenings
    attempts span r left 0 = (echo.outcome, echo != .lost, acts r 0 (echo != .lost)) := by
  intro echo
  have hecho : echo = if (span 0).sendFails then .lost else awaitEcho r.id (span 0).incoming :=
    await_span r.id (span 0)
  unfold attempts
  cases hs : (span 0).sendFails with
  | true =>
    rw [hs, if_pos rfl] at hecho
    simp [hecho, acts, Echo.outcome]
  | false =>
    rw [hs, if_neg (by decide)] at hecho
    rw [← hecho]
    cases he : echo with
    | found frame => simp [acts, Echo.outcome]
    | lost => simp [acts, Echo.outcome]
    | missing =>
      obtain rfl := h.resolve_right (fun hne => hne he)
      simp [acts, Echo.outcome]

theorem attempts_succ (r : Request) (left : Nat)
    (h : await r.id (span 0).happenings = .missing) :
    attempts span r (left + 1) 0
      = ((attempts (fun i => span (i + 1)) r left 0).1,
        (attempts (fun i => span (i + 1)) r left 0).2.1,
        .frame r.frame :: .retransmission ::
          (attempts (fun i => span (i + 1)) r left 0).2.2) := by
  rw [await_span] at h
  rw [← attempts_add_one]
  conv =>
    lhs
    unfold attempts
  cases hs : (span 0).sendFails with
  | true => simp [hs] at h
  | false =>
    rw [hs, if_neg (by decide)] at h
    simp [h]

theorem course_last (r : Request) (h : left = 0 ∨ await r.id (span 0).happenings ≠ .missing) :
    Course span r left 0 (attempts span r left 0) := by
  have hwhole : await r.id (happenings span (left + 1)) = await r.id (span 0).happenings := by
    rw [happenings_succ, await_append]
    split
    case isTrue hm =>
      obtain rfl := h.resolve_right (fun hne => hne hm)
      exact hm.symm
    case isFalse => rfl
  rw [attempts_last r h]
  exact ⟨Nat.zero_le left, fun _ hi => absurd hi (Nat.not_lt_zero _),
    h.imp Eq.symm (mt await_eq_missing.2), by rw [hwhole], by rw [hwhole], rfl⟩

/-- One more attempt in front, in whose time nothing decides. -/
theorem Course.cons {result : Outcome × Bool × List Act}
    (h : Course (fun i => span (i + 1)) r left last result)
    (hquiet : Quiet r.id (span 0).happenings) :
    Course span r (left + 1) (last + 1)
      (result.1, result.2.1, .frame r.frame :: .retransmission :: result.2.2) := by
  have hwhole : await r.id (happenings span (left + 1 + 1))
      = await r.id (happenings (fun i => span (i + 1)) (left + 1)) := by
    rw [happenings_succ, await_append, if_pos (await_eq_missing.2 hquiet)]
  refine ⟨Nat.succ_le_succ h.last_le, fun i hi => ?_, h.ends.imp_left (congrArg (· + 1)),
    ?_, ?_, ?_⟩
  · cases i with
    | zero => exact hquiet
    | succ i => exact h.quiet i (Nat.lt_of_succ_lt_succ hi)
  · rw [hwhole]
    exact h.outcome
  · rw [hwhole]
    exact h.kept
  · simp only [h.acts, WebSocket.acts, List.replicate_succ, List.flatten_cons]
    rfl

/-- Attempts take such a course, whatever happens in their time. -/
theorem course_attempts (span : Nat → Span) (r : Request) (left : Nat) :
    ∃ last, Course span r left last (attempts span r left 0) := by
  induction left generalizing span with
  | zero => exact ⟨0, course_last r (.inl rfl)⟩
  | succ left ih =>
    by_cases h : await r.id (span 0).happenings = .missing
    · obtain ⟨last, hrest⟩ := ih fun i => span (i + 1)
      rw [attempts_succ r left h]
      exact ⟨last + 1, hrest.cons (await_eq_missing.1 h)⟩
    · exact ⟨0, course_last r (.inr h)⟩

/-! ## Attempts with other hands -/

/-- The hands of a world in which given things happen in the time of every attempt. It counts the
attempts, and notes all that is done. -/
def noting (span : Nat → Span) : Hands (StateM (Nat × List Act)) where
  attempt r _ := fun (j, acts) =>
    (if (span j).sendFails then .lost else awaitEcho r.id (span j).incoming, j + 1,
      acts ++ [.frame r.frame])
  retransmit := fun (j, acts) => ((), j, acts ++ [.retransmission])
  drop := fun (j, acts) => ((), j, acts ++ [.drop])

@[simp] theorem run_attempt_noting (d : Duration) (s : Nat × List Act) :
    ((noting span).attempt r d).run s
      = pure (if (span s.1).sendFails then .lost else awaitEcho r.id (span s.1).incoming, s.1 + 1,
        s.2 ++ [.frame r.frame]) := rfl

@[simp] theorem run_retransmit_noting (s : Nat × List Act) :
    (noting span).retransmit.run s = pure ((), s.1, s.2 ++ [.retransmission]) := rfl

@[simp] theorem run_drop_noting (s : Nat × List Act) :
    (noting span).drop.run s = pure ((), s.1, s.2 ++ [.drop]) := rfl

/-- Whoever makes attempts with such hands does what `attempts` says, whatever time each has. -/
theorem attempts_noting (span : Nat → Span) (r : Request) (left j : Nat) (d : Duration)
    (acts : List Act) :
    let result := attempts span r left j
    ∃ k, ((noting span).attempts r left d).run (j, acts)
      = pure ((result.1, result.2.1), k, acts ++ result.2.2) := by
  intro result
  induction left generalizing j d acts with
  | zero =>
    refine ⟨j + 1, ?_⟩
    cases hf : (span j).sendFails <;> cases he : awaitEcho r.id (span j).incoming <;>
      simp [result, Hands.attempts, Hands.finish, attempts, hf, he]
  | succ left ih =>
    cases hf : (span j).sendFails with
    | true =>
      have hlost : result = (.noResponse, false, [.frame r.frame, .drop]) := by
        unfold result attempts
        simp [hf]
      exact ⟨j + 1, by simp [hlost, Hands.attempts, Hands.finish, hf]⟩
    | false =>
      cases he : awaitEcho r.id (span j).incoming with
      | missing =>
        obtain ⟨k, hk⟩ := ih (j + 1) d.doubled (acts ++ [.frame r.frame, .retransmission])
        refine ⟨k, ?_⟩
        simp [result, Hands.attempts, attempts, hf, he, hk]
      | _ => exact ⟨j + 1, by simp [result, Hands.attempts, Hands.finish, attempts, hf, he]⟩

/-! ## One exchange after the other -/

/-- A request that a transport is given, and what happens then. -/
structure Visit where
  request : Request
  /-- Whether the target opens a connection, if there is none. -/
  opens : Bool
  /-- What happens in the time of each attempt. -/
  span : Nat → Span

/-- What a transport made of a request. -/
structure Exchange where
  visit : Visit
  /-- The transport as it was. -/
  before : Transport
  outcome : Outcome
  acts : List Act
  /-- The transport as it was left. -/
  after : Transport

/-- The exchanges of a transport that is given one request after the other. -/
def session (p : Plan) : Transport → List Visit → List Exchange
  | _, [] => []
  | t, v :: vs =>
    let (t', outcome, acts) := t.exchange p v.opens v.span v.request
    ⟨v, t, outcome, acts, t'⟩ :: session p t' vs

namespace Exchange

/-- Whether there was a connection for it. -/
def opened (e : Exchange) : Bool := e.before.connected || e.visit.opens

/-- What happened in the time of all its attempts, which is nothing without a connection. -/
def happenings (p : Plan) (e : Exchange) : List Happening :=
  if e.opened then WebSocket.happenings e.visit.span (p.settings.maxRetransmit.toNat + 1) else []

/-- How an exchange of a transport that may send ends, and what it leaves. -/
structure Lawful (p : Plan) (e : Exchange) : Prop where
  /-- It is answered if and only if a text with its identifier comes before the connection is
  lost. -/
  answered : (∃ response, e.outcome = .response response) ↔
    ∃ before frame after, e.happenings p = before ++ .arrival (.text frame) :: after ∧
      (∀ h ∈ before, h.loses = false) ∧ idOfFrame frame = .ok e.visit.request.id
  /-- The answer is the first such text. -/
  answer : ∀ response, e.outcome = .response response → response.status = 200 ∧
    idOfFrame response.body = .ok e.visit.request.id ∧
    ∃ before after, e.happenings p = before ++ .arrival (.text response.body) :: after ∧
      Quiet e.visit.request.id before
  /-- The same frame is sent for every attempt, up to the first in whose time something is
  decided, and the observer is told of each but the first. -/
  attempts : e.opened = true → ∃ last ≤ p.settings.maxRetransmit.toNat,
    (∀ i < last, Quiet e.visit.request.id (e.visit.span i).happenings) ∧
    (last = p.settings.maxRetransmit.toNat ∨
      ¬Quiet e.visit.request.id (e.visit.span last).happenings) ∧
    e.acts = (if e.before.connected then [] else [.connect])
      ++ WebSocket.acts e.visit.request last e.after.connected
  unopened : e.opened = false → e.acts = [.connect]
  retransmissions : retransmissions e.acts = e.acts.count (.frame e.visit.request.frame) - 1
  /-- The connection is dropped if and only if it is lost before there is an answer. -/
  dropped : .drop ∈ e.acts ↔ ∃ before h after, e.happenings p = before ++ h :: after ∧
    Quiet e.visit.request.id before ∧ h.loses = true
  connected : e.after.connected = true ↔ e.opened = true ∧ .drop ∉ e.acts
  /-- A connection is opened only where there is none. -/
  connects : .connect ∈ e.acts ↔ e.before.connected = false

/-- The answer to one exchange, if there is any, is none to another. -/
def Apart (e e' : Exchange) : Prop :=
  ∀ response, e.outcome = .response response → idOfFrame response.body ≠ .ok e'.visit.request.id

end Exchange

namespace Transport

variable {t : Transport}

theorem exchange_of_unopened {opens : Bool} (hstarted : t.started = true)
    (hstopped : t.stopped = false) (h : (t.connected || opens) = false) (p : Plan)
    (span : Nat → Span) (r : Request) :
    t.exchange p opens span r = (t, .noResponse, [.connect]) := by
  obtain ⟨hc, ho⟩ := Bool.or_eq_false_iff.1 h
  simp [exchange, hstarted, hstopped, hc, ho]

theorem exchange_of_opened {opens : Bool} (hstarted : t.started = true)
    (hstopped : t.stopped = false) (h : (t.connected || opens) = true) (p : Plan)
    (span : Nat → Span) (r : Request) :
    let result := attempts span r p.settings.maxRetransmit.toNat 0
    t.exchange p opens span r = ({ t with connected := result.2.1 }, result.1,
      (if t.connected then [] else [.connect]) ++ result.2.2) := by
  intro result
  have hopen : (!t.connected && !opens) = false := by rw [← Bool.not_or, h]; rfl
  cases hc : t.connected <;> simp_all [exchange, result]

end Transport

namespace Exchange

variable {p : Plan} {e : Exchange}

/-- An exchange without a connection for it. -/
theorem lawful_of_unopened (ho : e.opened = false) (houtcome : e.outcome = .noResponse)
    (hacts : e.acts = [.connect]) (hafter : e.after = e.before) : e.Lawful p := by
  have hs : e.happenings p = [] := by rw [happenings, ho]; rfl
  have hc : e.before.connected = false := (Bool.or_eq_false_iff.1 ho).1
  constructor <;> simp [hs, ho, hc, houtcome, hacts, hafter, WebSocket.retransmissions]

/-- An exchange on a connection that was there or was opened for it. -/
theorem lawful_of_opened (ho : e.opened = true) {last : Nat} {acts : List Act}
    (h : Course e.visit.span e.visit.request p.settings.maxRetransmit.toNat last
      (e.outcome, e.after.connected, acts))
    (hacts : e.acts = (if e.before.connected then [] else [.connect]) ++ acts) : e.Lawful p := by
  have hs : e.happenings p
      = WebSocket.happenings e.visit.span (p.settings.maxRetransmit.toNat + 1) := by
    rw [happenings, ho]
    rfl
  have hacts' : acts = WebSocket.acts e.visit.request last e.after.connected := h.acts
  have hresponse (response : Response) : e.outcome = .response response ↔
      await e.visit.request.id (e.happenings p) = .found response.body ∧
        response.status = echoStatus := by
    rw [hs, show e.outcome = _ from h.outcome, Echo.outcome_eq_response]
  have hkept : e.after.connected = (await e.visit.request.id (e.happenings p) != .lost) := by
    rw [hs]
    exact h.kept
  have hdrop : .drop ∈ e.acts ↔ e.after.connected = false := by
    rw [hacts, hacts', List.mem_append, drop_mem_acts]
    cases e.before.connected <;> simp
  refine ⟨?_, fun response hr => ?_, fun _ => ⟨last, h.last_le, h.quiet, h.ends, ?_⟩,
    fun hn => ?_, ?_, ?_, ?_, ?_⟩
  · rw [← exists_await_eq_found]
    constructor
    · rintro ⟨response, hr⟩
      exact ⟨_, ((hresponse response).1 hr).1⟩
    · rintro ⟨frame, hf⟩
      exact ⟨⟨echoStatus, frame⟩, (hresponse _).2 ⟨hf, rfl⟩⟩
  · obtain ⟨hf, hstatus⟩ := (hresponse response).1 hr
    obtain ⟨before, after, he, hq, hid⟩ := await_eq_found.1 hf
    exact ⟨hstatus, hid, before, after, he, hq⟩
  · rw [hacts, hacts']
  · rw [ho] at hn
    cases hn
  · have hconnect (a : Act) (ha : a ≠ .connect) :
        (if e.before.connected then [] else [Act.connect]).count a = 0 := by
      cases e.before.connected <;> simp [ha.symm]
    rw [WebSocket.retransmissions, hacts, hacts', List.count_append, List.count_append,
      count_retransmission_acts, count_frame_acts, hconnect _ (by simp), hconnect _ (by simp)]
    omega
  · rw [hdrop, hkept, ← await_eq_lost]
    simp
  · rw [hdrop, ho]
    simp
  · have hconnect := connect_not_mem_acts e.visit.request last e.after.connected
    rw [hacts, hacts', List.mem_append]
    cases e.before.connected <;> simp [hconnect]

end Exchange

/-- Every exchange of a transport that may send goes by the rules, and leaves one that may. -/
theorem lawful_exchange (p : Plan) {t : Transport} (hstarted : t.started = true)
    (hstopped : t.stopped = false) (v : Visit) :
    let result := t.exchange p v.opens v.span v.request
    (Exchange.mk v t result.2.1 result.2.2 result.1).Lawful p ∧
      result.1.started = true ∧ result.1.stopped = false := by
  intro result
  cases ho : t.connected || v.opens with
  | false =>
    have hr : result = (t, .noResponse, [.connect]) :=
      Transport.exchange_of_unopened hstarted hstopped ho p v.span v.request
    rw [hr]
    exact ⟨Exchange.lawful_of_unopened ho rfl rfl rfl, hstarted, hstopped⟩
  | true =>
    have hr := Transport.exchange_of_opened hstarted hstopped ho p v.span v.request
    obtain ⟨last, hcourse⟩ := course_attempts v.span v.request p.settings.maxRetransmit.toNat
    rw [show result = _ from hr]
    exact ⟨Exchange.lawful_of_opened ho hcourse rfl, hstarted, hstopped⟩

/-! ## Sessions -/

theorem map_visit_session (p : Plan) (t : Transport) (visits : List Visit) :
    (session p t visits).map (·.visit) = visits := by
  induction visits generalizing t with
  | nil => rfl
  | cons v visits ih => exact congrArg (v :: ·) (ih _)

theorem lawful_session (p : Plan) {t : Transport} (hstarted : t.started = true)
    (hstopped : t.stopped = false) (visits : List Visit) :
    ∀ e ∈ session p t visits, e.Lawful p := by
  induction visits generalizing t with
  | nil => simp [session]
  | cons v visits ih =>
    obtain ⟨hlawful, hstarted, hstopped⟩ := lawful_exchange p hstarted hstopped v
    exact List.forall_mem_cons.2 ⟨hlawful, ih hstarted hstopped⟩

/-- The first exchange finds the transport as it is given, and every other one as the exchange
before has left it. -/
theorem before_session (p : Plan) (t : Transport) (visits : List Visit) :
    (∀ e, (session p t visits)[0]? = some e → e.before = t) ∧
      ∀ k e e', (session p t visits)[k]? = some e → (session p t visits)[k + 1]? = some e' →
        e'.before = e.after := by
  induction visits generalizing t with
  | nil => simp [session]
  | cons v visits ih =>
    obtain ⟨hfirst, hnext⟩ := ih (t.exchange p v.opens v.span v.request).1
    refine ⟨fun e he => ?_, fun k e e' he he' => ?_⟩
    · obtain rfl := Option.some.inj he
      rfl
    · cases k with
      | zero =>
        obtain rfl := Option.some.inj he
        exact hfirst e' he'
      | succ k => exact hnext k e e' he he'

/-- Exchanges of requests with different identifiers are not answered by one text. -/
theorem Exchange.Lawful.apart {p : Plan} {e e' : Exchange} (h : e.Lawful p)
    (hne : e.visit.request.id ≠ e'.visit.request.id) : e.Apart e' := by
  intro response hr hid
  have hown := (h.answer response hr).2.1
  exact hne (Except.ok.inj (hown.symm.trans hid))

/-- However the target behaves, requests with different identifiers that are given to a transport
one after the other are each answered by the first text with their own identifier, or not at all,
and each of them finds the connection that the one before has left. -/
theorem exchanges_of_happenings (p : Plan) {t : Transport} (hstarted : t.started = true)
    (hstopped : t.stopped = false) {visits : List Visit}
    (hids : (visits.map (·.request.id)).Nodup) :
    let es := session p t visits
    es.map (·.visit) = visits ∧ (∀ e ∈ es, e.Lawful p) ∧
      (es.Pairwise fun e e' => e.Apart e' ∧ e'.Apart e) ∧
      (∀ e, es[0]? = some e → e.before = t) ∧
      ∀ k e e', es[k]? = some e → es[k + 1]? = some e' → e'.before = e.after := by
  intro es
  have hvisits : es.map (·.visit) = visits := map_visit_session p t visits
  have hlawful : ∀ e ∈ es, e.Lawful p := lawful_session p hstarted hstopped visits
  have hdistinct : es.Pairwise fun e e' => e.visit.request.id ≠ e'.visit.request.id := by
    rw [← hvisits, List.map_map] at hids
    exact List.pairwise_map.1 hids
  refine ⟨hvisits, hlawful, ?_, before_session p t visits⟩
  exact hdistinct.imp_of_mem fun he he' hne =>
    ⟨(hlawful _ he).apart hne, (hlawful _ he').apart hne.symm⟩

/-! ### A late answer -/

/-- A short run over a WebSocket. -/
def echoPlan : Plan := ⟨.quick "ws://127.0.0.1:9/", ⟨2, 10, true⟩, ⟨.webSocket, .plain, []⟩⟩

/-- A request that is not answered in its time, and one before whose answer comes that to the
first. -/
def lateVisits : List Visit :=
  let first : Request := ⟨"1", "ping"⟩
  let second : Request := ⟨"2", "ping"⟩
  [⟨first, true, fun _ => ⟨false, [.other]⟩⟩,
    ⟨second, false, fun _ => ⟨false, [.text first.frame, .text second.frame, .close]⟩⟩]

theorem exchanges_of_happenings_late :
    let t := Transport.create.start
    let es := session echoPlan t lateVisits
    t.started = true ∧ t.stopped = false ∧ (lateVisits.map (·.request.id)).Nodup ∧
      (∀ e ∈ es, e.Lawful echoPlan) ∧ (es.Pairwise fun e e' => e.Apart e' ∧ e'.Apart e) ∧
      es.map (·.outcome) = [.noResponse, .response ⟨200, Request.frame ⟨"2", "ping"⟩⟩] ∧
      es.map (·.after.connected) = [true, true] := by
  intro t es
  have hids : (lateVisits.map (·.request.id)).Nodup := by decide
  obtain ⟨-, hlawful, hapart, -⟩ := exchanges_of_happenings echoPlan (t := t) rfl rfl hids
  exact ⟨rfl, rfl, hids, hlawful, hapart, by decide +kernel, by decide +kernel⟩

end LoadHarness.WebSocket
