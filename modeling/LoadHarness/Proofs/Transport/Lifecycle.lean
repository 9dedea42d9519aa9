import LoadHarness.Proofs.Transport.Http
import LoadHarness.Proofs.Transport.WebSocket
import Mathlib.Data.List.Induction

/-!
# The life of a transport

A transport is asked to start, to exchange, to stop and to be destroyed, in any order and any number
of times (`Lifecycle.Call`). What was asked before decides whether an exchange reaches the network.
Over HTTP it does so if there was a start and no destruction since (`Lifecycle.Bound`), and never a
stop (`Http.Transport.sends_iff`). A transport over a WebSocket loses its connection when it is
destroyed, but not its start, and its next exchange opens another connection
(`WebSocket.Transport.sends_iff`). Where nothing is sent, an exchange ends at once without an answer,
and nobody is told of a retransmission.

So the two go apart after a start that nothing but a destruction has ended
(`Lifecycle.exchange_of_destroyed`), and nowhere else (`Lifecycle.exchange_of_calls`).
-/

namespace LoadHarness

/-! ## Calls -/

namespace Lifecycle

/-- What the network does in the time of an exchange, by either protocol. -/
structure Network where
  reply : Nat → Http.Reply
  /-- Whether the target opens a connection, if there is none. -/
  opens : Bool
  span : Nat → WebSocket.Span

/-- What is asked of a transport. -/
inductive Call where
  | start
  | exchange (r : Request) (n : Network)
  | stop
  | destroy

variable {calls : List Call} {c : Call} {r : Request} {n : Network}

/-- There was a start, and no destruction since. -/
def Bound (calls : List Call) : Prop :=
  ∃ before after, calls = before ++ .start :: after ∧ .destroy ∉ after

theorem not_bound_nil : ¬Bound [] := by
  rintro ⟨before, after, h, -⟩
  simp at h

theorem bound_append_start (calls : List Call) : Bound (calls ++ [.start]) :=
  ⟨calls, [], rfl, List.not_mem_nil⟩

theorem bound_append_iff (hc : c ≠ .start) :
    Bound (calls ++ [c]) ↔ Bound calls ∧ c ≠ .destroy := by
  constructor
  · rintro ⟨before, after, h, hafter⟩
    rcases List.eq_nil_or_concat after with rfl | ⟨after, d, rfl⟩
    · exact absurd (List.singleton_inj.1 (List.append_inj' h rfl).2) hc
    · rw [List.concat_eq_append, ← List.cons_append, ← List.append_assoc] at h
      rw [List.concat_eq_append] at hafter
      obtain ⟨rfl, hd⟩ := List.append_inj' h rfl
      obtain rfl := List.singleton_inj.1 hd
      obtain ⟨hbefore, hne⟩ := not_or.1 (mt List.mem_append.2 hafter)
      exact ⟨⟨before, after, rfl, hbefore⟩, fun h => hne (h ▸ List.mem_singleton_self _)⟩
  · rintro ⟨⟨before, after, rfl, hafter⟩, hd⟩
    exact ⟨before, after ++ [c], by simp, by simp [hafter, hd.symm]⟩

theorem not_bound_of_destroy (before : List Call) {after : List Call} (h : .start ∉ after) :
    ¬Bound (before ++ .destroy :: after) := by
  induction after using List.reverseRecOn with
  | nil =>
    rw [bound_append_iff (by simp)]
    exact fun hb => hb.2 rfl
  | append_singleton after c ih =>
    obtain ⟨hafter, hc⟩ := not_or.1 (mt List.mem_append.2 h)
    rw [← List.cons_append, ← List.append_assoc,
      bound_append_iff fun hs => hc (hs ▸ List.mem_singleton_self _)]
    exact fun hb => ih hafter hb.1

theorem Bound.start_mem (h : Bound calls) : .start ∈ calls := by
  obtain ⟨before, after, rfl, -⟩ := h
  exact List.mem_append_right _ (List.mem_cons_self ..)

end Lifecycle

open Lifecycle

/-! ## Over HTTP -/

namespace Http

variable {calls : List Call} {reply : Nat → Reply} {r : Request}

/-- Something that reaches the network. -/
def Act.isTraffic : Act → Bool
  | .attempt .. => true
  | .pause _ | .retransmission => false

theorem any_isTraffic_exchange (p : Plan) (reply : Nat → Reply) (r : Request) :
    (exchange p reply r).2.any Act.isTraffic = true := by
  unfold exchange attempts
  split <;> simp [Act.isTraffic]

namespace Transport

/-- A transport that was asked something. An exchange leaves no trace. -/
def take (t : Transport) : Call → Transport
  | .start => t.start
  | .exchange .. => t
  | .stop => t.stop
  | .destroy => t.destroy

/-- A new transport that was asked one thing after the other. -/
def ofCalls (calls : List Call) : Transport := calls.foldl take create

theorem ofCalls_append (calls : List Call) (c : Call) :
    ofCalls (calls ++ [c]) = (ofCalls calls).take c := by
  rw [ofCalls, List.foldl_append]
  rfl

theorem bound_ofCalls_iff : (ofCalls calls).bound = true ↔ Bound calls := by
  induction calls using List.reverseRecOn with
  | nil => simp [ofCalls, create, not_bound_nil]
  | append_singleton calls c ih =>
    rw [ofCalls_append]
    cases c with
    | start => simp [take, start, bound_append_start]
    | exchange r n => simp [take, ih, bound_append_iff]
    | stop => simp [take, stop, ih, bound_append_iff]
    | destroy => simp [take, destroy, bound_append_iff]

theorem stopped_ofCalls_iff : (ofCalls calls).stopped = true ↔ .stop ∈ calls := by
  induction calls using List.reverseRecOn with
  | nil => simp [ofCalls, create]
  | append_singleton calls c ih =>
    rw [ofCalls_append]
    cases c <;> simp [take, start, stop, destroy, ih]

/-- A transport over HTTP sends if it is started and not destroyed since, and was never stopped. -/
theorem sends_iff (calls : List Call) (p : Plan) (reply : Nat → Reply) (r : Request) :
    ((ofCalls calls).exchange p reply r).2.any Act.isTraffic = true ↔
      Bound calls ∧ .stop ∉ calls := by
  rw [← bound_ofCalls_iff, ← stopped_ofCalls_iff, exchange]
  cases (ofCalls calls).bound <;> cases (ofCalls calls).stopped <;>
    simp [any_isTraffic_exchange]

theorem exchange_of_not_sends (p : Plan) (reply : Nat → Reply) (r : Request)
    (h : ¬(Bound calls ∧ .stop ∉ calls)) :
    (ofCalls calls).exchange p reply r = (.noResponse, []) := by
  rw [← bound_ofCalls_iff, ← stopped_ofCalls_iff] at h
  rw [exchange]
  cases hb : (ofCalls calls).bound <;> cases hs : (ofCalls calls).stopped <;> simp_all

theorem stop_ofCalls (h : .stop ∈ calls) : (ofCalls calls).stop = ofCalls calls := by
  rw [stop, ← stopped_ofCalls_iff.2 h]

theorem destroy_ofCalls (h : ¬Bound calls) : (ofCalls calls).destroy = ofCalls calls := by
  rw [destroy, ← Bool.eq_false_iff.2 (mt bound_ofCalls_iff.1 h)]

end Transport

end Http

/-! ## Over a WebSocket -/

namespace WebSocket

variable {calls : List Call} {span : Nat → Span} {r : Request} {opens : Bool}

/-- Something that reaches the network. -/
def Act.isTraffic : Act → Bool
  | .connect | .frame _ => true
  | .retransmission | .drop => false

theorem any_isTraffic_attempts (span : Nat → Span) (r : Request) (left j : Nat) :
    (attempts span r left j).2.2.any Act.isTraffic = true := by
  unfold attempts
  dsimp only
  split
  · simp [Act.isTraffic]
  · split <;> simp [Act.isTraffic]

namespace Transport

variable {t : Transport}

/-- No exchange changes whether a transport is started or stopped. -/
theorem exchange_keeps (p : Plan) (opens : Bool) (span : Nat → Span) (r : Request)
    (t : Transport) : (t.exchange p opens span r).1.started = t.started ∧
      (t.exchange p opens span r).1.stopped = t.stopped := by
  unfold exchange
  split
  · exact ⟨rfl, rfl⟩
  · split <;> exact ⟨rfl, rfl⟩

/-- A transport that was asked something. -/
def take (p : Plan) (t : Transport) : Call → Transport
  | .start => t.start
  | .exchange r n => (t.exchange p n.opens n.span r).1
  | .stop => t.stop
  | .destroy => t.destroy

/-- A new transport that was asked one thing after the other. -/
def ofCalls (p : Plan) (calls : List Call) : Transport := calls.foldl (take p) create

theorem ofCalls_append (p : Plan) (calls : List Call) (c : Call) :
    ofCalls p (calls ++ [c]) = (ofCalls p calls).take p c := by
  rw [ofCalls, List.foldl_append]
  rfl

theorem started_ofCalls_iff (p : Plan) : (ofCalls p calls).started = true ↔ .start ∈ calls := by
  induction calls using List.reverseRecOn with
  | nil => simp [ofCalls, create]
  | append_singleton calls c ih =>
    rw [ofCalls_append]
    cases c <;> simp [take, start, stop, destroy, exchange_keeps, ih]

theorem stopped_ofCalls_iff (p : Plan) : (ofCalls p calls).stopped = true ↔ .stop ∈ calls := by
  induction calls using List.reverseRecOn with
  | nil => simp [ofCalls, create]
  | append_singleton calls c ih =>
    rw [ofCalls_append]
    cases c <;> simp [take, start, stop, destroy, exchange_keeps, ih]

theorem any_isTraffic_exchange (p : Plan) (opens : Bool) (span : Nat → Span) (r : Request)
    (hstarted : t.started = true) (hstopped : t.stopped = false) :
    (t.exchange p opens span r).2.2.any Act.isTraffic = true := by
  have hacts := any_isTraffic_attempts span r p.settings.maxRetransmit.toNat 0
  unfold exchange
  rw [if_neg (by simp [hstarted, hstopped])]
  split
  · rfl
  · dsimp only
    split <;> simp [hacts]

theorem exchange_of_not_sends (p : Plan) (opens : Bool) (span : Nat → Span) (r : Request)
    (h : ¬(.start ∈ calls ∧ .stop ∉ calls)) :
    (ofCalls p calls).exchange p opens span r = (ofCalls p calls, .noResponse, []) := by
  rw [← started_ofCalls_iff p, ← stopped_ofCalls_iff p] at h
  rw [exchange, if_pos]
  cases hb : (ofCalls p calls).started <;> cases hs : (ofCalls p calls).stopped <;> simp_all

/-- A transport over a WebSocket sends if it was ever started and never stopped. -/
theorem sends_iff (calls : List Call) (p : Plan) (opens : Bool) (span : Nat → Span)
    (r : Request) : ((ofCalls p calls).exchange p opens span r).2.2.any Act.isTraffic = true ↔
      .start ∈ calls ∧ .stop ∉ calls := by
  constructor
  · intro hany
    by_contra h
    rw [exchange_of_not_sends p opens span r h] at hany
    exact absurd hany (by simp)
  · rintro ⟨hstart, hstop⟩
    exact any_isTraffic_exchange p opens span r ((started_ofCalls_iff p).2 hstart)
      (Bool.eq_false_iff.2 (mt (stopped_ofCalls_iff p).1 hstop))

theorem stop_ofCalls (p : Plan) (h : .stop ∈ calls) :
    (ofCalls p calls).stop = ofCalls p calls := by
  rw [stop, ← (stopped_ofCalls_iff p).2 h]

/-- Without an exchange, a transport that was destroyed has no connection. -/
theorem connected_ofCalls (p : Plan) (before : List Call) {after : List Call}
    (h : ∀ r n, .exchange r n ∉ after) :
    (ofCalls p (before ++ .destroy :: after)).connected = false := by
  induction after using List.reverseRecOn with
  | nil => rw [ofCalls_append, take, destroy]
  | append_singleton after c ih =>
    have hafter (r : Request) (n : Network) := (not_or.1 (mt List.mem_append.2 (h r n))).1
    rw [← List.cons_append, ← List.append_assoc, ofCalls_append]
    cases c with
    | start => exact ih hafter
    | exchange r n => exact absurd (List.mem_append_right _ (List.mem_singleton_self _)) (h r n)
    | stop => exact ih hafter
    | destroy => rfl

theorem destroy_ofCalls (p : Plan) (before : List Call) {after : List Call}
    (h : ∀ r n, .exchange r n ∉ after) :
    (ofCalls p (before ++ .destroy :: after)).destroy
      = ofCalls p (before ++ .destroy :: after) := by
  rw [destroy, ← connected_ofCalls p before h]

end Transport

end WebSocket

/-! ## The same calls on both -/

namespace Lifecycle

/-- What becomes of an exchange after any calls, the same ones over HTTP and over a WebSocket. Over
HTTP it sends if there was a start and no destruction since, and never a stop; over a WebSocket if
there was ever a start, and never a stop. Otherwise it ends at once without an answer. The two differ
if there was a start and a destruction behind the last one, and never a stop. Another stop changes
nothing. Nor does another destruction, unless there was a start since the last one or, over a
WebSocket, an exchange. -/
theorem exchange_of_calls (p q : Plan) (calls : List Call) (r : Request) (n : Network) :
    let http := Http.Transport.ofCalls calls
    let socket := WebSocket.Transport.ofCalls q calls
    let overHttp := http.exchange p n.reply r
    let overSocket := socket.exchange q n.opens n.span r
    (overHttp.2.any (·.isTraffic) = true ↔ Bound calls ∧ .stop ∉ calls) ∧
    (¬(Bound calls ∧ .stop ∉ calls) → overHttp = (.noResponse, [])) ∧
    (overSocket.2.2.any (·.isTraffic) = true ↔ .start ∈ calls ∧ .stop ∉ calls) ∧
    (¬(.start ∈ calls ∧ .stop ∉ calls) → overSocket = (socket, .noResponse, [])) ∧
    (overHttp.2.any (·.isTraffic) ≠ overSocket.2.2.any (·.isTraffic) ↔
      .start ∈ calls ∧ ¬Bound calls ∧ .stop ∉ calls) ∧
    (.stop ∈ calls → http.stop = http ∧ socket.stop = socket) ∧
    ∀ before after, calls = before ++ .destroy :: after →
      (.start ∉ after → http.destroy = http) ∧
      ((∀ r n, .exchange r n ∉ after) → socket.destroy = socket) := by
  intro http socket overHttp overSocket
  have hhttp := Http.Transport.sends_iff calls p n.reply r
  have hsocket := WebSocket.Transport.sends_iff calls q n.opens n.span r
  refine ⟨hhttp, Http.Transport.exchange_of_not_sends p n.reply r, hsocket,
    WebSocket.Transport.exchange_of_not_sends q n.opens n.span r, ?_,
    fun h => ⟨Http.Transport.stop_ofCalls h, WebSocket.Transport.stop_ofCalls q h⟩, ?_⟩
  · rw [ne_eq, Bool.eq_iff_iff, hhttp, hsocket]
    by_cases hbound : Bound calls
    · simp [hbound, hbound.start_mem]
    · simp [hbound]
  · rintro before after rfl
    exact ⟨fun h => Http.Transport.destroy_ofCalls (not_bound_of_destroy before h),
      WebSocket.Transport.destroy_ofCalls q before⟩

/-- A target that answers every request, by either protocol. -/
def answering (r : Request) : Network :=
  ⟨fun _ => .response ⟨200, "ok"⟩, true, fun _ => ⟨false, [.text r.frame]⟩⟩

/-- A transport that was stopped sends nothing, though it is started again. -/
theorem exchange_of_calls_stopped :
    let calls : List Call := [.start, .stop, .destroy, .start]
    let r : Request := ⟨"1", "ping"⟩
    let n := answering r
    let socket := WebSocket.Transport.ofCalls WebSocket.echoPlan calls
    Bound calls ∧ .stop ∈ calls ∧
      (Http.Transport.ofCalls calls).exchange Http.Transport.shortPlan n.reply r
        = (.noResponse, []) ∧
      socket.exchange WebSocket.echoPlan n.opens n.span r = (socket, .noResponse, []) ∧
      socket.stop = socket := by
  intro calls r n socket
  have hstop : .stop ∈ calls := by simp [calls]
  obtain ⟨-, hhttp, -, hsocket, -, hagain, -⟩ :=
    exchange_of_calls Http.Transport.shortPlan WebSocket.echoPlan calls r n
  exact ⟨bound_append_start [.start, .stop, .destroy], hstop, hhttp fun h => h.2 hstop,
    hsocket fun h => h.2 hstop, (hagain hstop).2⟩

/-- After a start and a destruction a WebSocket is opened again and answered, while nothing is sent
over HTTP. -/
theorem exchange_of_destroyed :
    let calls : List Call := [.start, .destroy]
    let r : Request := ⟨"1", "ping"⟩
    let n := answering r
    ¬Bound calls ∧ .stop ∉ calls ∧
      (Http.Transport.ofCalls calls).exchange Http.Transport.shortPlan n.reply r
        = (.noResponse, []) ∧
      ((WebSocket.Transport.ofCalls WebSocket.echoPlan calls).exchange WebSocket.echoPlan n.opens
        n.span r).2 = (.response ⟨200, r.frame⟩, [.connect, .frame r.frame]) := by
  intro calls r n
  exact ⟨not_bound_of_destroy [.start] List.not_mem_nil, by simp [calls], rfl, by decide +kernel⟩

end Lifecycle

end LoadHarness
