import LoadHarness.Proofs.Campaign.Change

/-!
# What the manager has looked at

The manager reads one counter after the other, and the clients are at work in between. So a look is
made up of four moments of a run (`Look`), and a `Logbook` keeps the clients as they were then. It
only records what the steps of a run do (`Campaign.logbook`).

In whatever order the steps are taken, each of these moments comes from all those before it by moves
of the clients (`Campaign.Observed`), the manager remembers the look that it told of last, and it
has told of every look but one that found the run stale (`Campaign.Told`).
-/

namespace LoadHarness

/-- The clients at the moments of a look, one for each counter that is read. -/
structure Look where
  budget : Fleet
  repeated : Fleet
  failed : Fleet
  active : Fleet

namespace Look

/-- The moments of a look, in order. -/
def moments (l : Look) : List Fleet := [l.budget, l.repeated, l.failed, l.active]

/-- What a look has read. -/
def snapshot (l : Look) : Snapshot :=
  ⟨l.budget.counters.remaining, l.repeated.counters.retransmissions, l.failed.counters.errors,
    l.active.counters.active⟩

/-- What lies between two looks. -/
def window (before now : Look) : Window := ⟨now.snapshot.since before.snapshot, now.snapshot⟩

/-- What lies between looks that follow each other. -/
def windows (looks : List Look) : List Window := List.zipWith window looks looks.tail

/-- The clients come from one look to another by moves. -/
def Leads (before now : Look) : Prop := ∀ f ∈ before.moments, ∀ g ∈ now.moments, f.Walks g

variable {before now : Look} {looks : List Look}

theorem Leads.precedes (h : before.Leads now) : before.snapshot.Precedes now.snapshot := by
  have hbudget : before.budget.Walks now.budget := h _ (by simp [moments]) _ (by simp [moments])
  have hrepeated : before.repeated.Walks now.repeated :=
    h _ (by simp [moments]) _ (by simp [moments])
  have hfailed : before.failed.Walks now.failed := h _ (by simp [moments]) _ (by simp [moments])
  exact ⟨hbudget.precedes.remaining, hrepeated.precedes.retransmissions, hfailed.precedes.errors⟩

theorem windows_append_singleton (h : looks.getLast? = some before) (now : Look) :
    windows (looks ++ [now]) = windows looks ++ [before.window now] := by
  induction looks with
  | nil => exact nomatch h
  | cons l looks ih =>
    cases looks with
    | nil =>
      obtain rfl := Option.some.inj h
      rfl
    | cons l' looks => exact congrArg (l.window l' :: ·) (ih (by rwa [List.getLast?_cons_cons] at h))

theorem getElem?_windows {k : Nat} (hb : looks[k]? = some before)
    (hn : looks[k + 1]? = some now) : (windows looks)[k]? = some (before.window now) := by
  rw [windows, List.getElem?_zipWith, List.getElem?_tail, hb, hn]

end Look

/-- The looks of a run, with the moments of one that is not complete. -/
structure Logbook where
  looks : List Look
  words : List Fleet

namespace Logbook

/-- The manager has not looked yet. -/
def blank : Logbook := ⟨[], []⟩

/-- One more counter is read. -/
def note (b : Logbook) (f : Fleet) : Logbook :=
  match b.words with
  | [budget, repeated, failed] => ⟨b.looks ++ [⟨budget, repeated, failed, f⟩], []⟩
  | words => ⟨b.looks, words ++ [f]⟩

/-- All moments at which a counter was read. -/
def moments (b : Logbook) : List Fleet := b.looks.flatMap Look.moments ++ b.words

end Logbook

namespace Campaign

/-- A step is recorded. -/
def log (c : Campaign) (b : Logbook) : Step → Logbook
  | .proceed =>
    match c.phase with
    | .looking _ => b.note c.fleet
    | _ => b
  | _ => b

/-- All steps are recorded. -/
def logbook (p : Plan) : Campaign → Logbook → List Step → Logbook
  | _, b, [] => b
  | c, b, s :: steps => logbook p (c.step p s) (c.log b s) steps

/-- The looks that a run has completed, in order. -/
def looks (p : Plan) (c : Campaign) (steps : List Step) : List Look :=
  (c.logbook p .blank steps).looks

/-- Those looks of a run that did not find it stale. -/
def told (c : Campaign) (looks : List Look) : List Look :=
  if c.ending? = some .stale then looks.dropLast else looks

/-- What is printed before the first window. -/
def opening (p : Plan) (c : Campaign) : List String :=
  [Run.announcement p, "Benchmark clients created."] ++
    match c.phase with
    | .launching _ => []
    | _ => ["Benchmark started."]

/-- What is printed after the last window. -/
def closing (c : Campaign) : List String :=
  match c.phase with
  | .ended _ conclusion => conclusion.lines
  | _ => []

theorem logbook_induction {p : Plan} {P : Campaign → Logbook → Prop}
    (hstep : ∀ {c s c' b}, Change p c s c' → P c b → P c' (c.log b s)) (steps : List Step)
    {c : Campaign} {b : Logbook} (h : P c b) : P (c.apply p steps) (c.logbook p b steps) := by
  induction steps generalizing c b with
  | nil => exact h
  | cons s steps ih => exact ih (hstep (change_step p c s) h)

end Campaign

/-! ## What a look reads -/

/-- What has been read at given moments. -/
inductive Reading.At : List Fleet → Reading → Prop where
  | nothing : At [] .nothing
  | budget {f} : At [f] (.budget f.counters.remaining)
  | repeated {f g} : At [f, g] (.repeated f.counters.remaining g.counters.retransmissions)
  | failed {f g h} :
      At [f, g, h]
        (.failed f.counters.remaining g.counters.retransmissions h.counters.errors)

/-- What the manager has read of a look that is not complete. -/
def Phase.reading : Phase → Reading
  | looking r => r
  | _ => .nothing

namespace Logbook

variable {b : Logbook} {r r' : Reading} {f : Fleet} {current : Snapshot}

theorem moments_note (h : r.At b.words) (f : Fleet) : (b.note f).moments = b.moments ++ [f] := by
  obtain ⟨looks, words⟩ := b
  cases h with
  | failed => simp [note, moments, Look.moments]
  | _ => simp [note, moments]

theorem at_note (h : r.At b.words) (hn : r.next f.counters = .inl r') :
    r'.At (b.note f).words ∧ (b.note f).looks = b.looks := by
  obtain ⟨looks, words⟩ := b
  cases h with
  | nothing =>
    obtain rfl := Sum.inl.inj hn
    exact ⟨.budget, rfl⟩
  | budget =>
    obtain rfl := Sum.inl.inj hn
    exact ⟨.repeated, rfl⟩
  | repeated =>
    obtain rfl := Sum.inl.inj hn
    exact ⟨.failed, rfl⟩
  | failed => exact nomatch hn

/-- The fourth moment makes a look. -/
theorem looks_note (h : r.At b.words) (hn : r.next f.counters = .inr current) :
    (b.note f).words = [] ∧
      ∃ l : Look, l.snapshot = current ∧ (b.note f).looks = b.looks ++ [l] := by
  obtain ⟨looks, words⟩ := b
  cases h with
  | @failed budget repeated failed =>
    obtain rfl := Sum.inr.inj hn
    exact ⟨rfl, ⟨budget, repeated, failed, f⟩, rfl, rfl⟩
  | _ => exact nomatch hn

end Logbook

namespace Campaign

variable {p : Plan} {c c' : Campaign} {s : Step} {b : Logbook} {f : Fleet}

/-! ## All moments -/

/-- The moments at which a run was looked at that began with given clients. -/
structure Observed (f : Fleet) (c : Campaign) (b : Logbook) : Prop where
  ordered : (f :: b.moments).Pairwise Fleet.Walks
  walked : ∀ g ∈ f :: b.moments, g.Walks c.fleet
  words : c.phase.reading.At b.words

theorem Observed.turn (h : Observed f c b) (hf : c.fleet.Walks c'.fleet)
    (hw : c'.phase.reading.At b.words) : Observed f c' b :=
  ⟨h.ordered, fun g hg => (h.walked g hg).trans hf, hw⟩

/-- A counter is read. -/
theorem Observed.note (h : Observed f c b) (hf : c'.fleet = c.fleet)
    (hw : c'.phase.reading.At (b.note c.fleet).words) : Observed f c' (b.note c.fleet) := by
  have hmoments : f :: (b.note c.fleet).moments = (f :: b.moments) ++ [c.fleet] :=
    congrArg (f :: ·) (Logbook.moments_note h.words c.fleet)
  refine ⟨?_, fun g hg => ?_, hw⟩
  · rw [hmoments, List.pairwise_append]
    refine ⟨h.ordered, List.pairwise_singleton _ _, fun g hg g' hg' => ?_⟩
    rw [List.mem_singleton.1 hg']
    exact h.walked g hg
  · rw [hmoments] at hg
    rw [hf]
    rcases List.mem_append.1 hg with hg | hg
    · exact h.walked g hg
    · rw [List.mem_singleton.1 hg]
      exact .refl _

theorem log_of_ne (hs : s ≠ .proceed) : c.log b s = b := by
  cases s <;> first | rfl | exact absurd rfl hs

theorem log_of_looking {r : Reading} (hp : c.phase = .looking r) :
    c.log b .proceed = b.note c.fleet := by
  rw [log, hp]

theorem log_of_not_looking (hp : ∀ r, c.phase ≠ .looking r) : c.log b s = b := by
  cases s with
  | proceed =>
    rw [log]
    split
    case h_1 r hr => exact absurd hr (hp r)
    case h_2 => rfl
  | _ => rfl

theorem Change.observed (h : Change p c s c') (hc : Observed f c b) :
    Observed f c' (c.log b s) := by
  have hwalks := h.walks
  have hwords := hc.words
  cases h with
  | idle hs =>
    rw [log_of_ne hs]
    exact hc
  | passed | moved | woken => exact hc.turn hwalks hwords
  | unready hp | rested hp | toreDown hp =>
    rw [log_of_not_looking (by simp [hp])]
    exact hc.turn hwalks hwords
  | read hp hn =>
    rw [log_of_looking hp]
    rw [hp] at hwords
    exact hc.note rfl (Logbook.at_note hwords hn).1
  | remembered hp hn | foundStale hp hn | shown hp hn =>
    rw [log_of_looking hp]
    rw [hp] at hwords
    refine hc.note rfl ?_
    rw [(Logbook.looks_note hwords hn).1]
    exact .nothing
  | fell hp | interrupted hp | launched hp | opened hp | polled hp | drained hp | skipped hp
    | marked hp | stopped hp | leftBehind hp | closed hp =>
    rw [log_of_not_looking (by simp [hp])]
    rw [hp] at hwords
    exact hc.turn hwalks hwords

theorem observed_apply (p : Plan) (f : Fleet) (now : Nat) (steps : List Step) :
    Observed f ((start p f now).apply p steps) ((start p f now).logbook p .blank steps) := by
  refine logbook_induction (P := Observed f) Change.observed steps ⟨?_, ?_, .nothing⟩
  · exact List.pairwise_singleton _ _
  · intro g hg
    rw [List.mem_singleton.1 hg]
    exact .refl _

theorem Observed.pairwise (h : Observed f c b) : b.looks.Pairwise Look.Leads :=
  (List.pairwise_flatMap.1 (List.pairwise_append.1 (List.pairwise_cons.1 h.ordered).2).1).2

/-- A look comes between the beginning and the end of a run. -/
theorem Observed.walks_of_mem {l : Look} {g : Fleet} (h : Observed f c b) (hl : l ∈ b.looks)
    (hg : g ∈ l.moments) : f.Walks g ∧ g.Walks c.fleet := by
  have hmem : g ∈ b.moments :=
    List.mem_append_left _ (List.mem_flatMap.2 ⟨l, hl, hg⟩)
  exact ⟨(List.pairwise_cons.1 h.ordered).1 g hmem, h.walked g (List.mem_cons_of_mem f hmem)⟩

theorem Observed.leads {before sample : Look} {k : Nat} (h : Observed f c b)
    (hb : b.looks[k]? = some before) (hs : b.looks[k + 1]? = some sample) :
    before.Leads sample := by
  obtain ⟨hk, rfl⟩ := List.getElem?_eq_some_iff.1 hb
  obtain ⟨hk', rfl⟩ := List.getElem?_eq_some_iff.1 hs
  exact List.pairwise_iff_getElem.1 h.pairwise k (k + 1) hk hk' (Nat.lt_succ_self k)

/-! ## All looks -/

/-- The manager has not begun to wait. -/
def IsEarly (c : Campaign) : Prop := (∃ i, c.phase = .launching i) ∨ ∃ r, c.phase = .looking r

/-- What the manager knows and tells of its looks. -/
structure Told (p : Plan) (c : Campaign) (looks : List Look) : Prop where
  launching : ∀ i, c.phase = .launching i → looks = []
  early : c.last = none → c.IsEarly
  last : c.last = (c.told looks).getLast?.map Look.snapshot
  /-- No window that was shown is one of a stale run. -/
  fresh : ∀ w ∈ Look.windows (c.told looks), isStale w.current w.activity p.sizing.total = false
  /-- The look that found the run stale came after all others. -/
  stale : c.ending? = some .stale → ∃ before now, looks = c.told looks ++ [now] ∧
    (c.told looks).getLast? = some before ∧
      isStale now.snapshot (now.snapshot.since before.snapshot) p.sizing.total = true
  printed : c.printed = c.opening p
    ++ (Look.windows (c.told looks)).map (Window.line p.settings.interval) ++ c.closing

variable {looks : List Look}

theorem told_of_verdict (h : c.phase.verdict? = none) (looks : List Look) :
    c.told looks = looks := if_neg (by simp [ending?, h])

theorem told_of_stale (h : c.ending? = some .stale) (looks : List Look) :
    c.told looks = looks.dropLast := if_pos h

/-- The manager goes on to something else without a look. -/
theorem Told.turn (h : Told p c looks) (hlast : c'.last = c.last) (hprinted : c'.printed = c.printed)
    (hending : c'.ending? = some .stale ↔ c.ending? = some .stale)
    (hopening : c'.opening p = c.opening p) (hclosing : c'.closing = c.closing)
    (hlaunching : ∀ i, c'.phase = .launching i → ∃ j, c.phase = .launching j)
    (hearly : c.IsEarly → c'.IsEarly ∨ c.last ≠ none) : Told p c' looks := by
  have htold : c'.told looks = c.told looks := by simp only [told, hending]
  refine ⟨fun i hi => ?_, fun hn => ?_, ?_, ?_, fun hs => ?_, ?_⟩
  · obtain ⟨j, hj⟩ := hlaunching i hi
    exact h.launching j hj
  · rw [hlast] at hn
    exact (hearly (h.early hn)).resolve_right (not_not_intro hn)
  · rw [hlast, htold]
    exact h.last
  · rw [htold]
    exact h.fresh
  · rw [htold]
    exact h.stale (hending.1 hs)
  · rw [hprinted, htold, hopening, hclosing]
    exact h.printed

/-- The first look is only remembered. -/
theorem Told.remembered {r : Reading} {l : Look} (h : Told p c looks) (hp : c.phase = .looking r)
    (hn : c.last = none) :
    Told p ({ c with last := some l.snapshot }.await p) (looks ++ [l]) := by
  have hopen : c.phase.verdict? = none := by rw [hp]; rfl
  have hlast := h.last
  rw [told_of_verdict hopen, hn, eq_comm, Option.map_eq_none_iff,
    List.getLast?_eq_none_iff] at hlast
  subst hlast
  refine ⟨fun i hi => (nomatch hi), (nomatch ·), rfl, ?_, (nomatch ·), ?_⟩
  · exact fun w hw => absurd hw List.not_mem_nil
  · have hprinted := h.printed
    rw [told_of_verdict hopen] at hprinted
    rw [told_of_verdict rfl]
    simp [hprinted, opening, closing, hp, await, turnTo, Look.windows]

/-- A look that follows another one is told of, or it finds the run stale. -/
theorem Told.compared {r : Reading} {l : Look} {last : Snapshot} (h : Told p c looks)
    (hp : c.phase = .looking r) (hlast : c.last = some last) :
    ∃ before, looks.getLast? = some before ∧ before.snapshot = last ∧
      Look.windows (looks ++ [l])
        = Look.windows looks ++ [⟨l.snapshot.since last, l.snapshot⟩] := by
  have htold := h.last
  rw [told_of_verdict (by rw [hp]; rfl), hlast, eq_comm, Option.map_eq_some_iff] at htold
  obtain ⟨before, hbefore, rfl⟩ := htold
  exact ⟨before, hbefore, rfl, Look.windows_append_singleton hbefore l⟩

theorem Told.foundStale {r : Reading} {l : Look} {last : Snapshot} (h : Told p c looks)
    (hp : c.phase = .looking r) (hlast : c.last = some last)
    (hs : isStale l.snapshot (l.snapshot.since last) p.sizing.total = true) :
    Told p (c.halt .stale) (looks ++ [l]) := by
  obtain ⟨before, hbefore, rfl, -⟩ := h.compared (l := l) hp hlast
  have hkept : c.told looks = looks := told_of_verdict (by rw [hp]; rfl) looks
  have htold : (c.halt .stale).told (looks ++ [l]) = c.told looks := by
    rw [told_of_stale rfl, List.dropLast_concat, hkept]
  refine ⟨fun i hi => (nomatch hi), fun hn => absurd (hlast.symm.trans hn) (by simp), ?_, ?_,
    fun _ => ⟨before, l, ?_, ?_, hs⟩, ?_⟩
  · rw [htold]
    exact h.last
  · rw [htold]
    exact h.fresh
  · rw [htold, hkept]
  · rw [htold, hkept]
    exact hbefore
  · rw [htold, show (c.halt .stale).printed = c.printed from rfl, h.printed]
    simp [opening, closing, hp, halt, turnTo]

theorem Told.shown {r : Reading} {l : Look} {last : Snapshot} (h : Told p c looks)
    (hp : c.phase = .looking r) (hlast : c.last = some last)
    (hs : isStale l.snapshot (l.snapshot.since last) p.sizing.total = false) :
    Told p ({ c with
        last := some l.snapshot
        printed := c.printed
          ++ [Window.line p.settings.interval ⟨l.snapshot.since last, l.snapshot⟩] }.await p)
      (looks ++ [l]) := by
  obtain ⟨before, hbefore, rfl, hwindows⟩ := h.compared (l := l) hp hlast
  have hkept : c.told looks = looks := told_of_verdict (by rw [hp]; rfl) looks
  have hprinted := h.printed
  have hfresh := h.fresh
  rw [hkept] at hprinted hfresh
  refine ⟨fun i hi => (nomatch hi), (nomatch ·), ?_, ?_, (nomatch ·), ?_⟩
  all_goals rw [told_of_verdict rfl]
  · rw [List.getLast?_concat]
    rfl
  · intro w hw
    rw [hwindows] at hw
    rcases List.mem_append.1 hw with hw | hw
    · exact hfresh w hw
    · rw [List.mem_singleton.1 hw]
      exact hs
  · rw [hwindows]
    simp [hprinted, opening, closing, hp, await, turnTo]

theorem Change.told (h : Change p c s c') (hw : c.phase.reading.At b.words)
    (hc : Told p c b.looks) : Told p c' (c.log b s).looks := by
  cases h with
  | idle hs =>
    rw [log_of_ne hs]
    exact hc
  | passed | moved | woken =>
    exact hc.turn rfl rfl Iff.rfl rfl rfl (fun i hi => ⟨i, hi⟩) .inl
  | toreDown hp =>
    rw [log_of_not_looking (by simp [hp])]
    exact hc.turn rfl rfl Iff.rfl rfl rfl (fun i hi => ⟨i, hi⟩) .inl
  | unready hp | rested hp =>
    rw [log_of_not_looking (by simp [hp])]
    exact hc
  | opened hp =>
    have hnone := hc.launching _ hp
    have hlast := hc.last
    have hprinted := hc.printed
    rw [log_of_not_looking (by simp [hp]), hnone]
    rw [hnone, told_of_verdict (by rw [hp]; rfl)] at hlast hprinted
    refine ⟨fun i hi => (nomatch hi), fun _ => .inr ⟨_, rfl⟩, hlast, ?_, (nomatch ·), ?_⟩
    · exact fun w hw => absurd hw List.not_mem_nil
    · simp [hprinted, Campaign.told, Look.windows, opening, closing, hp]
  | read hp hn =>
    rw [log_of_looking hp]
    rw [hp] at hw
    rw [(Logbook.at_note hw hn).2]
    refine hc.turn rfl rfl ?_ ?_ ?_ (fun i hi => nomatch hi) fun _ => .inl (.inr ⟨_, rfl⟩)
    all_goals simp [ending?, opening, closing, hp, turnTo, Phase.verdict?]
  | remembered hp hn hlast =>
    rw [log_of_looking hp]
    rw [hp] at hw
    obtain ⟨-, l, rfl, hlooks⟩ := Logbook.looks_note hw hn
    rw [hlooks]
    exact hc.remembered hp hlast
  | foundStale hp hn hlast hs =>
    rw [log_of_looking hp]
    rw [hp] at hw
    obtain ⟨-, l, rfl, hlooks⟩ := Logbook.looks_note hw hn
    rw [hlooks]
    exact hc.foundStale hp hlast hs
  | shown hp hn hlast hs =>
    rw [log_of_looking hp]
    rw [hp] at hw
    obtain ⟨-, l, rfl, hlooks⟩ := Logbook.looks_note hw hn
    rw [hlooks]
    exact hc.shown hp hlast hs
  | @closed v hp =>
    have hending : (c.close p v).ending? = c.ending? := by
      simp [ending?, hp, close, Phase.verdict?]
    have hkept : (c.close p v).told b.looks = c.told b.looks := by
      rw [Campaign.told, hending, Campaign.told]
    rw [log_of_not_looking (by simp [hp])]
    refine ⟨fun i hi => (nomatch hi), fun hn => ?_, ?_, ?_, fun hs => ?_, ?_⟩
    · have hearly := hc.early hn
      simp [IsEarly, hp] at hearly
    · rw [hkept]
      exact hc.last
    · rw [hkept]
      exact hc.fresh
    · rw [hkept]
      exact hc.stale (hending.symm.trans hs)
    · have hprinted := hc.printed
      rw [hkept]
      simp [close, hprinted, opening, closing, hp]
  | launched hp | fell hp | interrupted hp | polled hp | drained hp | skipped hp | marked hp
    | stopped hp | leftBehind hp =>
    rw [log_of_not_looking (by simp [hp])]
    refine hc.turn rfl rfl ?_ ?_ ?_ ?_ ?_
    all_goals simp [ending?, opening, closing, IsEarly, hp, turnTo, halt, Phase.verdict?]

theorem told_apply (p : Plan) (f : Fleet) (now : Nat) (steps : List Step) :
    Told p ((start p f now).apply p steps) ((start p f now).looks p steps) := by
  have hstart : Told p (start p f now) Logbook.blank.looks :=
    ⟨fun _ _ => rfl, fun _ => .inl ⟨0, rfl⟩, rfl, fun w hw => absurd hw List.not_mem_nil,
      (nomatch ·), rfl⟩
  have hblank : Observed f (start p f now) .blank := observed_apply p f now []
  exact (logbook_induction (P := fun c b => Observed f c b ∧ Told p c b.looks)
    (fun h hc => ⟨h.observed hc.1, h.told hc.1.words hc.2⟩) steps ⟨hblank, hstart⟩).2

end Campaign

end LoadHarness
