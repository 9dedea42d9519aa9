import LoadHarness.Proofs.Fleet.Exchange
import LoadHarness.Proofs.Run.Conclusion

/-!
# The exchanges of a run

A run builds no more chains than its sizing has clients, and only client 0 ever probes the target,
once (`Event.Course`). So it goes for every run and up to every moment of it, whatever the
transports do (`Run.course_record`). In any such course of events each client has one exchange of
its task in flight at most, and all clients together begin fewer than there are requests and
clients (`Run.exchanges_bounded`).
-/

namespace LoadHarness

/-! ## Courses -/

namespace Event

/-- Whether an event builds a chain. -/
def isBuild : Event → Bool
  | build _ _ => true
  | _ => false

/-- Whether an event is a chain that probes the target. -/
def isProbe : Event → Bool
  | move _ .probe => true
  | _ => false

/-- Whether an event is any other move of a chain. -/
def isPlain : Event → Bool
  | move _ m => m != .probe
  | _ => false

/-- A course of events that a run with so many clients can take. -/
structure Course (clients : Nat) (events : List Event) : Prop where
  inner : ∀ e ∈ events, e.isInner = true
  builds : events.countP isBuild ≤ clients
  probes : events.countP isProbe ≤ 1
  first : ∀ i, move i .probe ∈ events → i = 0

variable {clients : Nat} {events more : List Event} {e : Event}

theorem isInner_of_isPlain (h : e.isPlain = true) : e.isInner = true := by
  cases e <;> simp_all [isPlain, isInner]

theorem isBuild_of_isPlain (h : e.isPlain = true) : ¬e.isBuild = true := by
  cases e <;> simp_all [isPlain, isBuild]

theorem isProbe_of_isPlain (h : e.isPlain = true) : ¬e.isProbe = true := by
  cases e with
  | move i m => cases m <;> simp_all [isPlain, isProbe]
  | _ => simp [isPlain] at h

theorem isPlain_of_isTask {i : Nat} {m : Move} (h : m.isTask = true) :
    (move i m).isPlain = true := by
  cases m <;> simp_all [isPlain, Move.isTask]

theorem course_nil (clients : Nat) : Course clients [] :=
  ⟨fun _ h => absurd h List.not_mem_nil, Nat.zero_le _, Nat.zero_le _,
    fun _ h => absurd h List.not_mem_nil⟩

theorem Course.mono {clients' : Nat} (h : Course clients events) (hle : clients ≤ clients') :
    Course clients' events :=
  ⟨h.inner, Nat.le_trans h.builds hle, h.probes, h.first⟩

/-- What goes for all events, goes for those up to any moment. -/
theorem Course.take (h : Course clients events) (k : Nat) : Course clients (events.take k) := by
  have hsub := List.take_sublist k events
  exact ⟨fun e he => h.inner e (hsub.subset he), Nat.le_trans hsub.countP_le h.builds,
    Nat.le_trans hsub.countP_le h.probes, fun i hi => h.first i (hsub.subset hi)⟩

theorem Course.count_probe_le (h : Course clients events) (i : Nat) :
    events.count (.move i .probe) ≤ if i = 0 then 1 else 0 := by
  by_cases hi : i = 0
  · rw [if_pos hi]
    refine Nat.le_trans (List.countP_mono_left fun e _ he => ?_) h.probes
    rw [beq_iff_eq.1 he]
    rfl
  · rw [if_neg hi]
    exact Nat.le_of_eq (List.count_eq_zero.2 (mt (h.first i) hi))

/-- Some clients more are built, and nobody probes the target. -/
theorem Course.append {count : Nat} (h : Course clients events)
    (hinner : ∀ e ∈ more, e.isInner = true) (hbuilds : more.countP isBuild ≤ count)
    (hprobes : ∀ e ∈ more, ¬e.isProbe = true) : Course (clients + count) (events ++ more) := by
  refine ⟨fun e he => ?_, ?_, ?_, fun i hi => ?_⟩
  · rcases List.mem_append.1 he with he | he
    · exact h.inner e he
    · exact hinner e he
  · rw [List.countP_append]
    exact Nat.add_le_add h.builds hbuilds
  · rw [List.countP_append, List.countP_eq_zero.2 hprobes]
    exact h.probes
  · rcases List.mem_append.1 hi with hi | hi
    · exact h.first i hi
    · exact absurd rfl (hprobes _ hi)

theorem Course.append_plain (h : Course clients events) (hm : ∀ e ∈ more, e.isPlain = true) :
    Course clients (events ++ more) := by
  have hbuilds := List.countP_eq_zero.2 fun e he => isBuild_of_isPlain (hm e he)
  exact h.append (fun e he => isInner_of_isPlain (hm e he)) (Nat.le_of_eq hbuilds)
    fun e he => isProbe_of_isPlain (hm e he)

theorem Course.append_enrolment (h : Course clients events) (p : Plan) (count : Nat) :
    Course (clients + count) (events ++ Run.enrolment p count) := by
  have hprobes : ∀ e ∈ Run.enrolment p count, ¬e.isProbe = true := by
    intro e he
    obtain ⟨k, -, rfl⟩ := List.mem_map.1 he
    simp [isProbe]
  have hbuilds := List.countP_le_length (p := isBuild) (l := Run.enrolment p count)
  rw [Run.enrolment, List.length_map, List.length_range, ← Run.enrolment] at hbuilds
  exact h.append (Run.isInner_enrolment p count) hbuilds hprobes

end Event

namespace Fleet

variable {f : Fleet} {events : List Event} {i : Nat}

/-- A fleet has the chains that were built. -/
theorem length_chains_apply (f : Fleet) (events : List Event) :
    (f.apply events).chains.length = f.chains.length + events.countP Event.isBuild := by
  induction events generalizing f with
  | nil => rfl
  | cons e events ih =>
    rw [apply_cons, ih, List.countP_cons]
    cases e with
    | build id stopOnFailure =>
      rw [step, List.length_append, List.length_singleton]
      simp only [Event.isBuild, if_true]
      omega
    | move i m =>
      have hl : (f.step (.move i m)).chains.length = f.chains.length :=
        @length_apply f [.move i m] fun e he => ⟨i, m, List.mem_singleton.1 he⟩
      rw [hl]
      rfl
    | consume => rfl
    | enter => rfl

theorem probes_le (f : Fleet) (i : Nat) (e : Event) :
    (isMove (· == i) Move.probes f e).toNat ≤ if e = .move i .probe then 1 else 0 := by
  by_cases he : e = .move i .probe
  · rw [if_pos he]
    exact Bool.toNat_le _
  · rw [if_neg he]
    cases e with
    | move j m =>
      have hprobe : j ≠ i ∨ ∀ s, Move.probes m s = false := by
        by_cases hij : j = i
        · refine .inr fun s => ?_
          cases m <;> simp_all [Move.probes, Move.isProbe, Move.exchanges, Move.run]
        · exact .inl hij
      rcases hprobe with hij | hm
      · rw [isMove_ne hij]
        exact Nat.le_refl 0
      · rw [isMove_of_false hm]
        exact Nat.le_refl 0
    | _ => exact Nat.le_refl 0

/-- A chain probes the target no more often than it is told to. -/
theorem movesOf_probes_le (f : Fleet) (i : Nat) (events : List Event) :
    f.movesOf i Move.probes events ≤ events.count (.move i .probe) := by
  induction events generalizing f with
  | nil => exact Nat.le_refl 0
  | cons e events ih =>
    have he := f.probes_le i e
    have hs := ih (f.step e)
    rw [List.count_cons, movesOf, tally]
    simp only [beq_iff_eq]
    unfold movesOf at hs
    omega

end Fleet

/-! ## The course of a run -/

namespace Timeline

variable {t t' : Timeline} {clients : Nat}

/-- A timeline on which a run with so many clients can be. -/
def InCourse (clients : Nat) (t : Timeline) : Prop := Event.Course clients t.history

theorem history_of_past {events : List Event} (hp : t'.past = events.reverse ++ t.past) :
    t'.history = t.history ++ events := by
  simp [history, hp]

theorem InCourse.apply (h : t.InCourse clients) {events : List Event}
    (he : ∀ e ∈ events, e.isPlain = true) : (t.apply events).InCourse clients := by
  rw [InCourse, history_of_past rfl]
  exact h.append_plain he

theorem InCourse.leads (h : t.InCourse clients) (hl : Leads t t') : t'.InCourse clients := by
  obtain ⟨events, he, -, hp⟩ := hl.events
  rw [InCourse, history_of_past hp]
  refine h.append_plain fun e hmem => ?_
  obtain ⟨i, m, rfl, hm⟩ := he e hmem
  exact Event.isPlain_of_isTask hm

theorem InCourse.flatMap_stop (h : t.InCourse clients) (l : List Nat) :
    (t.apply (l.flatMap Event.stop)).InCourse clients := by
  have hstop : ∀ m ∈ Move.stop, (m != .probe) = true := by decide
  refine h.apply fun e he => ?_
  obtain ⟨i, m, hm, rfl⟩ := Fleet.of_mem_moves (fun _ => Move.stop) he
  exact hstop m hm

end Timeline

namespace Run

open Timeline

variable {p : Plan} {b : Behaviour} {t : Timeline} {clients : Nat}

theorem inCourse_opening (p : Plan) : (opening p).InCourse 0 := Event.course_nil 0

/-- Client 0 is built, started and, if that succeeds, used to probe the target. -/
theorem inCourse_probed (p : Plan) (b : Behaviour) : (probed p b).1.InCourse 1 := by
  have hstarted : Event.Course 1
      [.build .probe p.sizing.stopOnFailure, .move 0 (.start b.refusal)] :=
    ⟨by simp [Event.isInner], Nat.le_refl 1, Nat.zero_le 1, by simp⟩
  have hprobed : Event.Course 1
      [.build .probe p.sizing.stopOnFailure, .move 0 (.start b.refusal), .move 0 .probe] :=
    ⟨by simp [Event.isInner], Nat.le_refl 1, Nat.le_refl 1, by simp⟩
  have hplain : ∀ e ∈ List.replicate (b.cue 0).retransmissions (Event.move 0 .probeRetransmit),
      e.isPlain = true := fun e he => by rw [List.eq_of_mem_replicate he]; rfl
  unfold probed
  dsimp only
  split
  · exact hstarted
  · have hcourse : (((opening p).apply [.build .probe p.sizing.stopOnFailure,
        .move 0 (.start b.refusal)]).apply (.move 0 .probe ::
          List.replicate (b.cue 0).retransmissions (.move 0 .probeRetransmit))).InCourse 1 := by
      rw [InCourse, history_of_past rfl, history_of_past rfl]
      exact hprobed.append_plain hplain
    split
    · exact hcourse.apply fun e he => by rw [List.mem_singleton.1 he]; rfl
    · exact hcourse

theorem inCourse_muster (h : t.InCourse clients) (built : List Behaviour) :
    (t.apply (muster built)).InCourse clients := by
  have hstarts : ∀ e ∈ ((List.range built.length).drop 1).map fun i =>
      Event.move i (.start (transport built i).refusal), e.isPlain = true := by
    intro e he
    obtain ⟨i, -, rfl⟩ := List.mem_map.1 he
    rfl
  have hstarted := (h.apply hstarts).flatMap_stop
    (((List.range built.length).drop 1).filter fun i => (transport built i).refusal.isSome)
  rw [InCourse, history_of_past rfl, history_of_past rfl, List.append_assoc] at hstarted
  rw [InCourse, history_of_past rfl]
  exact hstarted

theorem inCourse_launched (h : t.InCourse clients) : (launched t).timeline.InCourse clients := by
  have hlaunches : ∀ e ∈ (List.range t.fleet.chains.length).map fun i => Event.move i .launch,
      e.isPlain = true := by
    intro e he
    obtain ⟨i, -, rfl⟩ := List.mem_map.1 he
    rfl
  exact h.apply hlaunches

theorem inCourse_concluded {w : Watch} (h : w.timeline.InCourse clients) (before : List String)
    (ending : Ending) : Event.Course clients (concluded p before ending w).history :=
  h.flatMap_stop _

theorem inCourse_launch (h : t.InCourse clients) (built : List Behaviour) (samples : Nat)
    (before : List String) : Event.Course clients (launch p built samples before t).history := by
  have hw := (inCourse_launched h).leads (leads_watched p built samples t)
  unfold launch
  split
  case h_1 w ending hw' =>
    rw [hw'] at hw
    exact inCourse_concluded hw before ending
  case h_2 w hw' =>
    rw [hw'] at hw
    exact hw

theorem length_buildFrom_le (build : Nat → Except Failure Behaviour) (k count : Nat) :
    (buildFrom build k count).1.length ≤ count := by
  induction count generalizing k with
  | zero => exact Nat.le_refl 0
  | succ count ih =>
    unfold buildFrom
    split
    · exact Nat.zero_le _
    · exact Nat.succ_le_succ (ih (k + 1))

/-- A run takes its course, whatever the transports do and however it ends. -/
theorem course_record (hN : 1 ≤ p.sizing.clients.toNat)
    (build : Nat → Except Failure Behaviour) (samples : Nat) :
    Event.Course p.sizing.clients.toNat (record p build samples).history := by
  have hlength := length_buildFrom_le build 1 (p.sizing.clients.toNat - 1)
  unfold record
  dsimp only
  split
  case h_1 => exact (inCourse_opening p).mono (Nat.zero_le _)
  case h_2 b _ =>
    have hp := inCourse_probed p b
    split
    case h_1 t h =>
      rw [h] at hp
      exact hp.mono hN
    case h_2 t h =>
      rw [h] at hp
      have hstopped := hp.flatMap_stop [0]
      exact hstopped.mono hN
    case h_3 t h =>
      rw [h] at hp
      have henrolled : ∀ count, count ≤ p.sizing.clients.toNat - 1 →
          (t.apply (enrolment p count)).InCourse p.sizing.clients.toNat := by
        intro count hcount
        rw [InCourse, history_of_past rfl]
        exact (hp.append_enrolment p count).mono (by omega)
      split
      case h_1 bs e hb =>
        rw [hb] at hlength
        exact (henrolled bs.length hlength).flatMap_stop [0]
      case h_2 bs hb =>
        rw [hb] at hlength
        exact inCourse_launch (inCourse_muster (henrolled bs.length hlength) (b :: bs)) _ _ _

/-- The exchanges of a run, at any moment of it and in whatever order they are resolved. -/
theorem exchanges_bounded (hN : 1 ≤ p.sizing.clients.toNat) (ht : 1 ≤ p.sizing.total) :
    let origin := Fleet.create p.sizing.total []
    (∀ build samples k,
      let r := record p build samples
      r.fleet = origin.apply r.history ∧
        Event.Course p.sizing.clients.toNat (r.history.take k)) ∧
    ∀ events, Event.Course p.sizing.clients.toNat events →
      (∀ i c, (origin.apply events).chains[i]? = some c →
        let probed := origin.movesOf i Move.probes events
        let begun := origin.movesOf i Move.begins events
        c.calls.exchanges = probed + begun ∧ probed ≤ (if i = 0 then 1 else 0) ∧
          begun = origin.movesOf i Move.ends events + c.isWaiting.toNat ∧
          (begun = c.sent ∨ begun = c.sent + 1)) ∧
      origin.moves Move.begins events ≤ p.sizing.total + p.sizing.clients.toNat - 1 := by
  intro origin
  refine ⟨fun build samples k => ⟨(record_traced p build samples).1,
    (course_record hN build samples).take k⟩, fun events h => ⟨fun i c hc => ?_, ?_⟩⟩
  · have hpaced := Fleet.paced_of_create hc
    have hprobes := Nat.le_trans (origin.movesOf_probes_le i events) (h.count_probe_le i)
    exact ⟨hpaced.exchanges, hprobes, hpaced.begun_eq, hpaced.begun_sent⟩
  · have hlength : (origin.apply events).chains.length = 0 + events.countP Event.isBuild :=
      origin.length_chains_apply events
    have hbuilds := h.builds
    have hlt : origin.moves Move.begins events
        < p.sizing.total + (origin.apply events).chains.length :=
      Fleet.begins_lt ht fun e he hn => by simpa [hn, Event.isInner] using h.inner e he
    omega

/-- A client whose answers all come in the next tick. -/
def prompt : Behaviour := ⟨none, fun _ => ⟨0, 1, .answer (.response ⟨200, ""⟩)⟩⟩

/-- Of four such clients each begins an exchange, and all but the last one begin another. -/
theorem exchanges_bounded_prompt :
    let origin := Fleet.create mixedPlan.sizing.total []
    let events := (record mixedPlan (fun _ => .ok prompt) 1).history.take 22
    1 ≤ mixedPlan.sizing.clients.toNat ∧ 1 ≤ mixedPlan.sizing.total ∧
      Event.Course mixedPlan.sizing.clients.toNat events ∧
      (∀ i c, (origin.apply events).chains[i]? = some c →
        origin.movesOf i Move.begins events = c.sent ∨
          origin.movesOf i Move.begins events = c.sent + 1) ∧
      origin.moves Move.begins events
        ≤ mixedPlan.sizing.total + mixedPlan.sizing.clients.toNat - 1 ∧
      origin.moves Move.begins events = 7 := by
  have hN : 1 ≤ mixedPlan.sizing.clients.toNat := by decide
  have ht : 1 ≤ mixedPlan.sizing.total := by decide
  obtain ⟨hrecord, hcourse⟩ := exchanges_bounded hN ht
  obtain ⟨-, hevents⟩ := hrecord (fun _ => .ok prompt) 1 22
  obtain ⟨hchains, hbegun⟩ := hcourse _ hevents
  exact ⟨hN, ht, hevents, fun i c hc => (hchains i c hc).2.2.2, hbegun, by decide +kernel⟩

end Run

end LoadHarness
