import LoadHarness.Proofs.Transport.Http
import Mathlib.Data.List.Induction

/-!
# Which headers travel

Users may give a header more than once, in any case, and may give one that every request sets
itself. Put into a request, a header makes an earlier one of the same name give way, so that of each
name the last one given is left (`Header.filter_carryAll`). What the request sets itself then takes
the place of what was given (`Http.filter_mergeHeaders`).

So each attempt of an exchange carries the headers as users gave them last, but for those of which
it has one of its own : the identifier of the request, the type of a body, which is that of plain
text wherever there is one, and the credentials of the target, if it names any
(`Http.Transport.attempt_carries`). What users give in the place of those is lost
(`Http.Transport.attempt_replaces`).
-/

namespace LoadHarness

/-! ## As users give them -/

namespace Header

variable {pairs headers carried : List (String × String)} {p q : String × String} {name : String}

/-- Whether a pair as users give it goes by a name in lower case. -/
def isNamed (name : String) (p : String × String) : Bool :=
  p.1.toList.map Char.toLower == name.toList

/-- What a request carries by a name for the pairs that users give : the last one, if any. -/
def lastNamed (name : String) (pairs : List (String × String)) : List (String × String) :=
  ((pairs.filter (isNamed name)).getLast?.map fun p => (name, p.2)).toList

theorem filter_insert (headers : List (String × String)) (q : String × String) (name : String) :
    (insert headers q).filter (·.1 == name)
      = if q.1 = name then [q] else headers.filter (·.1 == name) := by
  rw [insert, List.filter_append, List.filter_filter]
  split
  case isTrue h =>
    subst h
    simp
  case isFalse h =>
    have hq : [q].filter (·.1 == name) = [] := by simp [h]
    rw [hq, List.append_nil]
    refine List.filter_congr fun r _ => ?_
    by_cases hr : r.1 = name
    · simp [hr, Ne.symm h]
    · simp [hr]

theorem carry_eq_ok (h : carry p = .ok q) :
    q.2 = p.2 ∧ ∀ name, isNamed name p = true ↔ q.1 = name := by
  unfold carry at h
  split at h
  case h_1 => exact absurd h (by simp)
  case h_2 lower hlower =>
    split at h
    case isFalse => exact absurd h (by simp)
    case isTrue =>
      obtain rfl := Except.ok.inj h
      unfold nameOf? at hlower
      dsimp only at hlower
      split at hlower
      case isTrue => exact absurd hlower (by simp)
      case isFalse =>
        obtain rfl := Option.some.inj hlower
        exact ⟨rfl, fun name => by simp [isNamed, ← String.toList_inj]⟩

theorem lastNamed_append (name : String) (ps : List (String × String)) (p : String × String) :
    lastNamed name (ps ++ [p]) = if isNamed name p then [(name, p.2)] else lastNamed name ps := by
  cases hp : isNamed name p <;> simp [lastNamed, List.filter_append, hp]

theorem of_carryAll_append {ps : List (String × String)} (h : carryAll (ps ++ [p]) = .ok headers) :
    ∃ before q, carryAll ps = .ok before ∧ carry p = .ok q ∧ headers = insert before q := by
  rw [carryAll, List.foldlM_append, ← carryAll] at h
  cases hps : carryAll ps with
  | error e => simp [hps, bind, Except.bind] at h
  | ok before =>
    cases hp : carry p with
    | error e => simp [hps, hp, bind, Except.bind, Except.map] at h
    | ok q =>
      refine ⟨before, q, rfl, rfl, ?_⟩
      simpa [hps, hp, bind, Except.bind, Except.map, pure, Except.pure, eq_comm] using h

/-- Of each name, the last header given is put into a request, and no other. -/
theorem filter_carryAll (h : carryAll pairs = .ok headers) (name : String) :
    headers.filter (·.1 == name) = lastNamed name pairs := by
  induction pairs using List.reverseRecOn generalizing headers with
  | nil =>
    obtain rfl := Except.ok.inj h
    rfl
  | append_singleton ps p ih =>
    obtain ⟨before, q, hps, hp, rfl⟩ := of_carryAll_append h
    obtain ⟨hvalue, hname⟩ := carry_eq_ok hp
    rw [filter_insert, lastNamed_append, ih hps]
    by_cases hq : q.1 = name
    · rw [if_pos hq, if_pos ((hname name).2 hq), ← hq, ← hvalue]
    · rw [if_neg hq, if_neg (mt (hname name).1 hq)]

end Header

/-! ## As requests carry them -/

namespace Http

variable {p : Plan} {r : Request} {name : String}

/-- What a request sets itself takes the place of what is usual. -/
theorem filter_mergeHeaders (usual own : List (String × String)) (name : String) :
    (mergeHeaders usual own).filter (·.1 == name)
      = if own.any (·.1 == name) then own.filter (·.1 == name)
        else usual.filter (·.1 == name) := by
  rw [mergeHeaders, List.filter_append, List.filter_filter]
  split
  case isTrue hown =>
    have husual : usual.filter (fun q => q.1 == name && !own.any (·.1 == q.1)) = [] := by
      refine List.filter_eq_nil_iff.2 fun q _ hq => ?_
      obtain ⟨hname, hnone⟩ := Bool.and_eq_true_iff.1 hq
      rw [eq_of_beq hname, hown] at hnone
      exact absurd hnone (by decide)
    rw [husual, List.nil_append]
  case isFalse hown =>
    have hnil : own.filter (·.1 == name) = [] :=
      List.filter_eq_nil_iff.2 fun q hq hname => hown (List.any_eq_true.2 ⟨q, hq, hname⟩)
    rw [hnil, List.append_nil]
    refine List.filter_congr fun q _ => ?_
    cases hname : q.1 == name with
    | false => rfl
    | true => simp [eq_of_beq hname, Bool.eq_false_iff.2 hown]

/-- The names of which a request has a header of its own. -/
def OwnName (s : Settings) (name : String) : Prop :=
  name = idHeader ∨ s.method.hasBody = true ∧ name = typeHeader ∨
    (Url.authorization? s.target).isSome = true ∧ name = authorizationHeader

theorem any_ownHeaders (s : Settings) (id : RequestId) (name : String) :
    (ownHeaders s id).any (·.1 == name) = true ↔ OwnName s name := by
  unfold OwnName ownHeaders
  cases Url.authorization? s.target <;> cases s.method.hasBody <;>
    simp [@eq_comm _ name, or_comm, or_left_comm]

/-- Every attempt of an exchange carries the same message. -/
theorem message_eq_of_mem_attempts {reply : Nat → Reply} {m m' : Message} {d d' : Duration}
    {left j : Nat} (h : .attempt m' d' ∈ (attempts reply m left j d).2) : m' = m := by
  induction left generalizing j d with
  | zero =>
    unfold attempts at h
    split at h <;> simp_all
  | succ left ih =>
    unfold attempts at h
    split at h
    case h_1 => simp_all
    case h_2 => simp_all
    case h_3 hnext =>
      obtain rfl := Nat.succ.inj hnext
      have hpause : .attempt m' d' ∉ (((reply j).pause? d).map Act.pause).toList := by
        cases (reply j).pause? d <;> simp
      simp only [List.mem_cons, List.mem_append, List.cons_append, hpause, reduceCtorEq, false_or,
        Act.attempt.injEq] at h
      exact h.elim And.left ih

/-- The header of a name travels as users gave it last. -/
def Message.Carries (m : Message) (pairs : List (String × String)) (name : String) : Prop :=
  m.headers.filter (·.1 == name) = Header.lastNamed name pairs

theorem carries_message {pairs : List (String × String)}
    (h : Header.carryAll pairs = .ok p.route.headers) (r : Request)
    (hown : ¬OwnName p.settings name) : (message p r).Carries pairs name := by
  rw [Message.Carries, message, filter_mergeHeaders, if_neg (mt (any_ownHeaders _ _ _).1 hown),
    Header.filter_carryAll h]

/-- A header that the request sets itself is the only one of its name. -/
theorem filter_message_of_ownName (r : Request) (h : OwnName p.settings name) :
    (message p r).headers.filter (·.1 == name)
      = (ownHeaders p.settings r.id).filter (·.1 == name) := by
  rw [message, filter_mergeHeaders, if_pos ((any_ownHeaders _ _ _).2 h)]

theorem filter_type_message (r : Request) (h : p.settings.method.hasBody = true) :
    (message p r).headers.filter (·.1 == typeHeader)
      = [(typeHeader, "text/plain; charset=utf-8")] := by
  rw [filter_message_of_ownName r (.inr (.inl ⟨h, rfl⟩)), ownHeaders]
  cases Url.authorization? p.settings.target <;>
    simp [h, idHeader, typeHeader, authorizationHeader]

theorem filter_authorization_message (r : Request) {value : String}
    (h : Url.authorization? p.settings.target = some value) :
    (message p r).headers.filter (·.1 == authorizationHeader)
      = [(authorizationHeader, value)] := by
  rw [filter_message_of_ownName r (.inr (.inr ⟨by rw [h]; rfl, rfl⟩)), ownHeaders, h]
  cases p.settings.method.hasBody <;>
    simp [idHeader, typeHeader, authorizationHeader]

theorem of_carriedHeaders {s : Settings} {headers : List (String × String)}
    (h : s.carriedHeaders = .ok headers) :
    ∃ pairs, s.customHeaders = .ok pairs ∧ Header.carryAll pairs = .ok headers := by
  unfold Settings.carriedHeaders at h
  cases hs : s.customHeaders with
  | error e => simp [hs] at h
  | ok pairs =>
    refine ⟨pairs, rfl, ?_⟩
    cases hc : Header.carryAll pairs <;> simp_all

/-- Every plan keeps its settings, and its route holds their headers. -/
theorem carriedHeaders_of_plan {s : Settings} {p : Plan} (h : s.plan = .ok p) :
    p.settings = s ∧ s.carriedHeaders = .ok p.route.headers := by
  unfold Settings.plan at h
  split at h
  case h_1 => cases h
  case h_2 sizing _ =>
    unfold Settings.route at h
    split at h
    case h_1 => cases h
    case h_2 =>
      split at h
      case h_1 => cases h
      case h_2 =>
        cases hheaders : s.carriedHeaders with
        | error e => simp [hheaders, Except.map] at h
        | ok headers =>
          simp only [hheaders, Except.map, Except.ok.injEq] at h
          subst h
          exact ⟨rfl, rfl⟩

namespace Transport

/-- Each attempt of an exchange carries every header that users gave, with the value they gave it
last, whatever the target replies. Apart from that are the headers of which a request has its own :
its identifier, the type of a body, which is always that of plain text, and the credentials of the
target, if it names any. -/
theorem attempt_carries {s : Settings} {p : Plan} (h : s.plan = .ok p) (t : Transport)
    (reply : Nat → Reply) (r : Request) :
    ∃ pairs, s.customHeaders = .ok pairs ∧
      ∀ m d, .attempt m d ∈ (t.exchange p reply r).2 →
        m.headers.filter (·.1 == idHeader) = [(idHeader, r.id)] ∧
        (s.method.hasBody = true →
          m.headers.filter (·.1 == typeHeader) = [(typeHeader, "text/plain; charset=utf-8")]) ∧
        (∀ value, Url.authorization? s.target = some value →
          m.headers.filter (·.1 == authorizationHeader) = [(authorizationHeader, value)]) ∧
        ∀ q ∈ pairs, ∀ name, Header.isNamed name q = true → ¬OwnName s name →
          m.Carries pairs name := by
  obtain ⟨rfl, hheaders⟩ := carriedHeaders_of_plan h
  obtain ⟨pairs, hread, hcarry⟩ := of_carriedHeaders hheaders
  refine ⟨pairs, hread, fun m d hm => ?_⟩
  have hmessage : m = message p r := by
    unfold Transport.exchange at hm
    split at hm
    case isTrue => exact absurd hm List.not_mem_nil
    case isFalse => exact message_eq_of_mem_attempts hm
  rw [hmessage]
  exact ⟨filter_headers_message p r, filter_type_message r,
    fun value => filter_authorization_message r,
    fun _ _ _ _ => carries_message hcarry r⟩

/-- Settings that give a header twice, and two that requests to this target set themselves. -/
def repeating : Settings :=
  { Settings.ofTarget "http://me:pw@127.0.0.1:9/" with
    headers := ["X-Run: 1", "X-Request-Id: mine", "Authorization: Bearer tok", "x-run: 2"] }

/-- The later one travels, in the first attempt and in the one that follows it. -/
theorem attempt_carries_repeated :
    let p : Plan := ⟨repeating, ⟨5, 100, true⟩, .http, .plain,
      [("x-request-id", "mine"), ("authorization", "Bearer tok"), ("x-run", "2")]⟩
    let acts := (create.start.exchange p busy ⟨"7", "ping"⟩).2
    repeating.plan = .ok p ∧
      ∀ d ∈ [Duration.ofSeconds 2, .ofSeconds 4], ∃ m, .attempt m d ∈ acts ∧
        m.headers.filter (·.1 == "x-run") = [("x-run", "2")] ∧
        m.headers.filter (·.1 == idHeader) = [(idHeader, "7")] ∧
        m.headers.filter (·.1 == authorizationHeader)
          = [(authorizationHeader, "Basic bWU6cHc=")] := by
  intro p acts
  have h : repeating.plan = .ok p := by decide +kernel
  have hpairs : repeating.customHeaders
      = .ok [("X-Run", "1"), ("X-Request-Id", "mine"), ("Authorization", "Bearer tok"),
        ("x-run", "2")] := by decide
  have hasked : Url.authorization? repeating.target = some "Basic bWU6cHc=" := by decide +kernel
  obtain ⟨pairs, hread, hattempt⟩ := attempt_carries h create.start busy ⟨"7", "ping"⟩
  obtain rfl := Except.ok.inj (hread.symm.trans hpairs)
  have hdoubled : (Duration.ofSeconds 2).doubled = .ofSeconds 4 := by decide
  have hacts : acts = [.attempt (message p ⟨"7", "ping"⟩) (.ofSeconds 2), .pause (.ofSeconds 2),
      .retransmission, .attempt (message p ⟨"7", "ping"⟩) (.ofSeconds 4)] := by
    rw [← hdoubled]
    rfl
  have hmade : ∀ d ∈ [Duration.ofSeconds 2, .ofSeconds 4],
      .attempt (message p ⟨"7", "ping"⟩) d ∈ acts := by simp [hacts]
  refine ⟨h, fun d hd => ⟨_, hmade d hd, ?_⟩⟩
  obtain ⟨hid, -, hcredentials, hcarries⟩ := hattempt _ d (hmade d hd)
  exact ⟨hcarries ("x-run", "2") (by simp) "x-run" (by decide)
    (by simp [OwnName, idHeader, typeHeader, authorizationHeader]), hid, hcredentials _ hasked⟩

/-- A type that users give for a body is lost, since that of plain text travels, and so are
credentials that they give for a target that names some, since those travel. -/
theorem attempt_replaces :
    let typed := { Settings.ofTarget "http://127.0.0.1:9/" with
      headers := ["Content-Type: application/json"] }
    let credited := { Settings.ofTarget "http://me:pw@127.0.0.1:9/" with
      headers := ["Authorization: Bearer tok"] }
    let p : Plan := ⟨typed, ⟨5, 100, true⟩, .http, .plain, [("content-type", "application/json")]⟩
    let q : Plan := ⟨credited, ⟨5, 100, true⟩, .http, .plain, [("authorization", "Bearer tok")]⟩
    typed.plan = .ok p ∧ credited.plan = .ok q ∧
      typed.customHeaders = .ok [("Content-Type", "application/json")] ∧
      credited.customHeaders = .ok [("Authorization", "Bearer tok")] ∧
      (∃ m d, .attempt m d ∈ (create.start.exchange p busy ⟨"7", "true"⟩).2 ∧
        m.headers.filter (·.1 == typeHeader) = [(typeHeader, "text/plain; charset=utf-8")] ∧
        ¬m.Carries [("Content-Type", "application/json")] typeHeader) ∧
      ∃ m d, .attempt m d ∈ (create.start.exchange q busy ⟨"7", "true"⟩).2 ∧
        m.headers.filter (·.1 == authorizationHeader)
          = [(authorizationHeader, "Basic bWU6cHc=")] ∧
        ¬m.Carries [("Authorization", "Bearer tok")] authorizationHeader := by
  intro typed credited p q
  have hasked : Url.authorization? q.settings.target = some "Basic bWU6cHc=" := by decide +kernel
  have htype := filter_type_message (p := p) ⟨"7", "true"⟩ rfl
  have hvalue := filter_authorization_message (p := q) ⟨"7", "true"⟩ hasked
  refine ⟨by decide +kernel, by decide +kernel, by decide, by decide,
    ⟨message p ⟨"7", "true"⟩, .ofSeconds 2, List.mem_cons_self .., htype, ?_⟩,
    message q ⟨"7", "true"⟩, .ofSeconds 2, List.mem_cons_self .., hvalue, ?_⟩
  · rw [Message.Carries, htype]
    decide
  · rw [Message.Carries, hvalue]
    decide

end Transport

end Http

end LoadHarness
