import LoadHarness.Proofs.CommandLine.Argument
import Mathlib.Data.List.Induction

/-!
# The settings that a command line gives

Proper arguments are understood one after the other (`Reading.Shows.step`) : behind each of them
the reading has a place for every further value by position, and can accept the one value that it
has not looked at yet. So an invocation has what all of them give (`Invocation.exists_read`).

`Asks` says field by field what settings arguments ask for : the values they give, and the usual
ones for the target where they give none. These settings are the ones that the command line gives
(`Settings.ofArguments_of_proper`), wherever in it options and flags stand.
-/

namespace LoadHarness

namespace CommandLine

/-! ## One argument -/

namespace Reading

section Step

variable {r : Reading} {item : Item} {text : String}

theorem splitEquals_append {cs ds : List Char} (h : '=' ∉ cs) :
    splitEquals (cs ++ '=' :: ds) = (cs, some ds) := by
  have hne : ∀ c ∈ cs, (c != '=') = true := fun c hc => bne_iff_ne.2 fun he => h (he ▸ hc)
  rw [splitEquals, List.takeWhile_append_of_pos hne, List.dropWhile_append_of_pos hne]
  simp

theorem splitEquals_of_notMem {cs : List Char} (h : '=' ∉ cs) : splitEquals cs = (cs, none) := by
  have hne : ∀ c ∈ cs, (c != '=') = true := fun c hc => bne_iff_ne.2 fun he => h (he ▸ hc)
  rw [splitEquals, ← List.append_nil cs, List.takeWhile_append_of_pos hne,
    List.dropWhile_append_of_pos hne]
  simp

/-- An argument with two hyphens in front. -/
theorem step_long {cs : List Char} (h : r.positionalOnly = false) (hcs : cs ≠ [])
    (htext : text.toList = '-' :: '-' :: cs) : r.step text = r.long cs := by
  cases cs with
  | nil => exact absurd rfl hcs
  | cons c cs => simp only [step, h, htext, Bool.false_eq_true, if_false]

theorem ofName?_name (f : Flag) : Flag.ofName? f.name = some f := by
  cases f <;> decide

theorem step_flag (h : r.positionalOnly = false) (f : Flag) :
    r.step (Argument.flag f).text = r.flag f := by
  have htext : (Argument.flag f).text.toList = '-' :: '-' :: f.name.toList := by
    simp [Argument.text]
  have hname : '=' ∉ f.name.toList ∧ f.name.toList ≠ [] := by cases f <;> decide
  rw [step_long h hname.2 htext, long, splitEquals_of_notMem hname.1]
  simp only [String.ofList_toList, ofName?_name]

/-- An option with its value. -/
theorem step_option (h : r.positionalOnly = false) (hitem : item ∉ Item.positional)
    (text : String) : r.step (Argument.value item text).text = r.attach item text := by
  have htext : (Argument.value item text).text.toList =
      '-' :: '-' :: (item.name.toList ++ '=' :: text.toList) := by
    simp [Argument.text, hitem]
  have hname : '=' ∉ item.name.toList := by cases item <;> decide
  have hflag : Flag.ofName? item.name = none := by cases item <;> decide
  have hoption : Item.ofName? item.name = some item := by
    cases item <;> first | decide | exact absurd (by decide) hitem
  rw [step_long h (by simp) htext, long, splitEquals_append hname]
  simp only [String.ofList_toList, hflag, hoption]

/-- No value by position begins with a hyphen. -/
theorem head?_ne_of_readable (hitem : item ∈ Item.positional) (h : Readable text item) :
    text.toList.head? ≠ some '-' := by
  have hcount : (∃ n, IsCount text n) → text.toList.head? ≠ some '-' := by
    rintro ⟨n, hn⟩ hhead
    exact absurd (hn.isDigit '-' (List.mem_of_mem_head? hhead)) (by decide)
  cases item with
  | target => exact h
  | clients => exact hcount h
  | requests => exact hcount h
  | mode =>
    intro hhead
    have htolerant := congrArg (List.head? ∘ String.toList) h
    simp only [Function.comp_apply, String.toList_ofList, List.head?_map, hhead,
      Option.map_some] at htolerant
    exact absurd htolerant (by decide)
  | interval => exact absurd hitem (by decide)
  | ackTimeout => exact absurd hitem (by decide)
  | maxRetransmit => exact absurd hitem (by decide)
  | httpMethod => exact absurd hitem (by decide)
  | payload => exact absurd hitem (by decide)
  | header => exact absurd hitem (by decide)

/-- A value by position goes to an option only if one waits for it. -/
theorem step_position (h : r.positionalOnly = false) (hpending : ∀ i, r.pending ≠ some (i, none))
    (hitem : item ∈ Item.positional) (hread : Readable text item) :
    r.step (Argument.value item text).text = r.position text := by
  have hhead := head?_ne_of_readable hitem hread
  have hvalue : r.value text = r.position text := by
    rw [value]
    split
    case h_1 i heq => exact absurd heq (hpending i)
    case h_2 => rfl
  rw [Argument.text, if_pos hitem, step, h]
  simp only [Bool.false_eq_true, if_false]
  split
  case h_1 htext => simp [htext] at hhead
  case h_2 htext => simp [htext] at hhead
  case h_3 htext => simp [htext] at hhead
  case h_4 => exact hvalue

end Step

/-! ## All arguments -/

variable {r : Reading} {args : List Argument} {item : Item} {text : String} {f : Flag}

/-- A reading has come behind arguments, and knows what they give as soon as it has looked at the
last of them. -/
structure Shows (r : Reading) (args : List Argument) : Prop where
  positionalOnly : r.positionalOnly = false
  placed_append : placed args ++ r.places = Item.positional
  /-- A value that is pending has not come in vain. -/
  settles : ∃ v : Invocation, v.Has args ∧ r.settle = .ok { r with given := v, pending := none }

theorem shows_start : start.Shows [] where
  positionalOnly := rfl
  placed_append := rfl
  settles := ⟨.empty, Invocation.has_empty, rfl⟩

/-- No option is left without its value. -/
theorem Shows.pending_ne (h : r.Shows args) : r.pending ≠ some (item, none) := by
  obtain ⟨v, -, hsettle⟩ := h.settles
  intro hpending
  simp [settle, hpending] at hsettle

theorem Shows.flag (h : r.Shows args) (hproper : Proper (args ++ [Argument.flag f])) :
    ∃ r', r.flag f = .ok r' ∧ r'.Shows (args ++ [Argument.flag f]) := by
  obtain ⟨v, hhas, hsettle⟩ := h.settles
  obtain ⟨v', hraise, hhas'⟩ := hhas.raise hproper
  refine ⟨{ r with given := v', pending := none }, ?_, h.positionalOnly, ?_, v', hhas', rfl⟩
  · simp only [Reading.flag, hsettle, bind, Except.bind, hraise]
    rfl
  · rw [placed_append_flag, h.placed_append]

theorem Shows.attach (h : r.Shows args) (hitem : item ∉ Item.positional)
    (hproper : Proper (args ++ [Argument.value item text])) :
    ∃ r', r.attach item text = .ok r' ∧ r'.Shows (args ++ [Argument.value item text]) := by
  obtain ⟨v, hhas, hsettle⟩ := h.settles
  obtain ⟨v', haccept, hhas'⟩ := hhas.accept hproper
  refine ⟨{ r with given := v', pending := none }, ?_, h.positionalOnly, ?_, v', hhas', rfl⟩
  · simp only [Reading.attach, hsettle, bind, Except.bind, haccept]
    rfl
  · rw [placed_append_value, if_neg hitem, List.append_nil, h.placed_append]

/-- The next place is that of the next value by position. -/
theorem Shows.places_eq (h : r.Shows args) (hitem : item ∈ Item.positional)
    (hproper : Proper (args ++ [Argument.value item text])) :
    ∃ items, r.places = item :: items := by
  obtain ⟨items, hitems⟩ := hproper.placed_prefix
  rw [placed_append_value, if_pos hitem, ← h.placed_append, List.append_assoc,
    List.append_cancel_left_eq] at hitems
  exact ⟨items, hitems.symm⟩

theorem Shows.position (h : r.Shows args) (hitem : item ∈ Item.positional)
    (hproper : Proper (args ++ [Argument.value item text])) :
    ∃ r', r.position text = .ok r' ∧ r'.Shows (args ++ [Argument.value item text]) := by
  obtain ⟨v, hhas, hsettle⟩ := h.settles
  obtain ⟨v', haccept, hhas'⟩ := hhas.accept hproper
  obtain ⟨items, hplaces⟩ := h.places_eq hitem hproper
  refine ⟨{ r with given := v, pending := some (item, some text), places := items }, ?_,
    h.positionalOnly, ?_, v', hhas', ?_⟩
  · simp only [Reading.position, hplaces, hsettle, bind, Except.bind]
    rfl
  · rw [placed_append_value, if_pos hitem, List.append_assoc, List.singleton_append, ← hplaces,
      h.placed_append]
  · simp only [settle, haccept]
    rfl

/-- One more argument is understood. -/
theorem Shows.step {arg : Argument} (h : r.Shows args) (hproper : Proper (args ++ [arg])) :
    ∃ r', r.step arg.text = .ok r' ∧ r'.Shows (args ++ [arg]) := by
  cases arg with
  | flag f =>
    rw [step_flag h.positionalOnly]
    exact h.flag hproper
  | value item text =>
    by_cases hitem : item ∈ Item.positional
    · rw [step_position h.positionalOnly (fun _ => h.pending_ne) hitem hproper.readable_last]
      exact h.position hitem hproper
    · rw [step_option h.positionalOnly hitem]
      exact h.attach hitem hproper

/-- All of them are understood, whatever their order. -/
theorem exists_shows (h : Proper args) :
    ∃ r, (args.map Argument.text).foldlM Reading.step start = .ok r ∧ r.Shows args := by
  -- Arguments without the last one are proper too, while those without the first one need not be.
  induction args using List.reverseRecOn with
  | nil => exact ⟨start, rfl, shows_start⟩
  | append_singleton args arg ih =>
    obtain ⟨r, hfold, hshows⟩ := ih h.of_append
    obtain ⟨r', hstep, hshows'⟩ := hshows.step h
    refine ⟨r', ?_, hshows'⟩
    rw [List.map_append, List.foldlM_append, hfold]
    simp only [bind, Except.bind, List.map_cons, List.map_nil, List.foldlM_cons, hstep]
    rfl

end Reading

/-- What proper arguments give is what an invocation has of them. -/
theorem Invocation.exists_read {args : List Argument} (h : Proper args)
    (htarget : texts .target args ≠ []) :
    ∃ v, Invocation.read (args.map Argument.text) = .ok v ∧ v.Has args := by
  obtain ⟨r, hfold, hshows⟩ := Reading.exists_shows h
  obtain ⟨v, hhas, hsettle⟩ := hshows.settles
  have hsome : v.target.isNone = false := by
    rw [← hhas.target] at htarget
    cases hnone : v.target <;> simp_all
  refine ⟨v, ?_, hhas⟩
  simp only [Invocation.read, hfold, hsettle, bind, Except.bind, hsome]
  rfl

/-! ## Values -/

/-- A value is what the one text given means, or the usual one if none is given. -/
inductive Settled {α : Type} (Means : String → α → Prop) (usual : α) : List String → α → Prop
  | omitted : Settled Means usual [] usual
  | given {text : String} {a : α} (h : Means text a) : Settled Means usual [text] a

/-- Settings are what arguments ask for, and the usual ones for the target where they say
nothing. -/
structure Asks (args : List Argument) (s : Settings) : Prop where
  target : texts .target args = [s.target]
  clients :
    Settled IsCount (Settings.ofTarget s.target).sizing.clients (texts .clients args)
      s.sizing.clients
  requests :
    Settled IsCount (Settings.ofTarget s.target).sizing.requests (texts .requests args)
      s.sizing.requests
  stopOnFailure :
    Settled (fun text b => IsTolerant text ∧ b = false)
      (Settings.ofTarget s.target).sizing.stopOnFailure (texts .mode args) s.sizing.stopOnFailure
  interval :
    Settled (fun text d => Duration.read text = .ok d) (Settings.ofTarget s.target).interval
      (texts .interval args) s.interval
  ackTimeout :
    Settled (fun text d => Duration.read text = .ok d) (Settings.ofTarget s.target).ackTimeout
      (texts .ackTimeout args) s.ackTimeout
  maxRetransmit :
    Settled IsCount (Settings.ofTarget s.target).maxRetransmit (texts .maxRetransmit args)
      s.maxRetransmit
  method :
    Settled (fun text m => m.name = text) (Settings.ofTarget s.target).method
      (texts .httpMethod args) s.method
  payload :
    Settled Eq (Settings.ofTarget s.target).payload (texts .payload args) s.payload
  headers : s.headers = texts .header args
  insecure : s.insecure = true ↔ Argument.flag .insecure ∈ args
  verbose : s.verbose = true ↔ Argument.flag .verbose ∈ args

section Settled

variable {α : Type} {Means : String → α → Prop} {usual : α} {given : List String}

theorem settled_getD {o : Option α} (h : List.Forall₂ Means given o.toList) :
    Settled Means usual given (o.getD usual) := by
  cases o with
  | none =>
    obtain rfl := List.forall₂_nil_right_iff.1 h
    exact .omitted
  | some a =>
    obtain ⟨text, others, hmeans, hnil, rfl⟩ := List.forall₂_cons_right_iff.1 h
    obtain rfl := List.forall₂_nil_right_iff.1 hnil
    exact .given hmeans

/-- A mode is understood in any case. -/
theorem settled_stopOnFailure {o : Option String} (h : o.toList = given)
    (hread : ∀ text ∈ given, IsTolerant text) :
    ∃ b, stopOnFailure o = .ok b ∧
      Settled (fun text b => IsTolerant text ∧ b = false) true given b := by
  subst h
  cases o with
  | none => exact ⟨true, rfl, .omitted⟩
  | some text =>
    have htolerant : IsTolerant text := hread text (by simp)
    exact ⟨false, if_pos htolerant, .given ⟨htolerant, rfl⟩⟩

theorem settled_duration {o : Option String} {standard : String} {d : Duration}
    (hstandard : Duration.read standard = .ok d) (h : o.toList = given)
    (hread : ∀ text ∈ given, ∃ d, Duration.read text = .ok d) :
    ∃ d', duration standard o = .ok d' ∧
      Settled (fun text d => Duration.read text = .ok d) d given d' := by
  subst h
  cases o with
  | none => exact ⟨d, by simp only [duration, hstandard], .omitted⟩
  | some text =>
    obtain ⟨d', hd'⟩ := hread text (by simp)
    exact ⟨d', by simp only [duration, hd'], .given hd'⟩

theorem settled_method {o : Option Method} (h : o.toList.map Method.name = given) :
    ∃ m, method o = .ok m ∧ Settled (fun text m => m.name = text) .post given m := by
  subst h
  cases o with
  | none => exact ⟨.post, rfl, .omitted⟩
  | some m => exact ⟨m, rfl, .given rfl⟩

end Settled

theorem mem_of_mem_texts {args : List Argument} {item : Item} {text : String}
    (h : text ∈ texts item args) : Argument.value item text ∈ args := by
  obtain ⟨arg, harg, htext⟩ := List.mem_filterMap.1 h
  cases arg with
  | flag f => simp [Argument.textFor?] at htext
  | value i t =>
    simp only [Argument.textFor?, Option.ite_none_right_eq_some, Option.some_inj] at htext
    obtain ⟨rfl, rfl⟩ := htext
    exact harg

theorem Proper.readable_of_mem {args : List Argument} {item : Item} (h : Proper args) :
    ∀ text ∈ texts item args, Readable text item :=
  fun text hmem => h.readable item text (mem_of_mem_texts hmem)

/-- The texts that are read where none is given mean the usual durations. -/
theorem read_usualInterval (target : String) :
    Duration.read usualInterval = .ok (Settings.ofTarget target).interval :=
  show _ = Except.ok (Duration.ofSeconds 10) by decide

theorem read_usualAckTimeout (target : String) :
    Duration.read usualAckTimeout = .ok (Settings.ofTarget target).ackTimeout :=
  show _ = Except.ok (Duration.ofSeconds 2) by decide

/-- An invocation asks for what the arguments ask for. -/
theorem Invocation.Has.exists_settings {v : Invocation} {args : List Argument} (h : v.Has args)
    (hproper : Proper args) (htarget : texts .target args ≠ []) :
    ∃ s, v.settings = .ok s ∧ Asks args s := by
  obtain ⟨target, hv⟩ : ∃ target, v.target = some target := by
    rw [← h.target] at htarget
    cases hnone : v.target <;> simp_all
  obtain ⟨m, hm, hmethod⟩ := settled_method h.method
  obtain ⟨b, hb, hmode⟩ := settled_stopOnFailure h.mode hproper.readable_of_mem
  obtain ⟨a, ha, hackTimeout⟩ :=
    settled_duration (read_usualAckTimeout target) h.ackTimeout hproper.readable_of_mem
  obtain ⟨i, hi, hinterval⟩ :=
    settled_duration (read_usualInterval target) h.interval hproper.readable_of_mem
  refine ⟨_, by simp only [settings, hm, hb, ha, hi, hv, bind, Except.bind]; rfl, ?_⟩
  constructor
  case target => simp [← h.target, hv, Settings.ofTarget]
  case clients => exact settled_getD h.clients
  case requests => exact settled_getD h.requests
  case stopOnFailure => exact hmode
  case interval => exact hinterval
  case ackTimeout => exact hackTimeout
  case maxRetransmit => exact settled_getD h.maxRetransmit
  case method => exact hmethod
  case payload => exact settled_getD (by simp [← h.payload])
  case headers => exact h.headers
  case insecure => exact h.insecure
  case verbose => exact h.verbose

/-! ## Settings -/

theorem Settled.unique {α : Type} {Means : String → α → Prop} {usual : α} {given : List String}
    {a b : α} (ha : Settled Means usual given a) (hb : Settled Means usual given b)
    (hmeans : ∀ text a b, Means text a → Means text b → a = b) : a = b := by
  cases ha with
  | omitted => cases hb; rfl
  | given ha =>
    cases hb with
    | given hb => exact hmeans _ _ _ ha hb

theorem IsCount.unique {text : String} {m n : UInt32} (hm : IsCount text m)
    (hn : IsCount text n) : m = n :=
  UInt32.toNat_inj.1 (hm.value_eq.symm.trans hn.value_eq)

theorem name_injective {m n : Method} (h : m.name = n.name) : m = n := by
  have hm := choice_name m
  rw [h, choice_name n] at hm
  exact (Except.ok.inj hm).symm

/-- Arguments ask for one thing only. -/
theorem Asks.unique {args : List Argument} {s t : Settings} (hs : Asks args s)
    (ht : Asks args t) : s = t := by
  have htarget : s.target = t.target := by simpa [hs.target] using ht.target
  have hread : ∀ text (d e : Duration), Duration.read text = .ok d → Duration.read text = .ok e →
      d = e := fun _ _ _ hd he => Except.ok.inj (hd.symm.trans he)
  have hcount : ∀ text (m n : UInt32), IsCount text m → IsCount text n → m = n :=
    fun _ _ _ => IsCount.unique
  have hclients := hs.clients.unique ht.clients hcount
  have hrequests := hs.requests.unique ht.requests hcount
  have hmode := hs.stopOnFailure.unique ht.stopOnFailure fun _ _ _ ha hb => ha.2.trans hb.2.symm
  have hinterval := hs.interval.unique ht.interval hread
  have hackTimeout := hs.ackTimeout.unique ht.ackTimeout hread
  have hmaxRetransmit := hs.maxRetransmit.unique ht.maxRetransmit hcount
  have hmethod :=
    hs.method.unique ht.method fun _ _ _ ha hb => name_injective (ha.trans hb.symm)
  have hpayload := hs.payload.unique ht.payload fun _ _ _ ha hb => ha.symm.trans hb
  have hheaders := hs.headers.trans ht.headers.symm
  have hinsecure := Bool.eq_iff_iff.2 (hs.insecure.trans ht.insecure.symm)
  have hverbose := Bool.eq_iff_iff.2 (hs.verbose.trans ht.verbose.symm)
  obtain ⟨_, _, _, ⟨_, _, _⟩, _, _, _, _, _, _⟩ := s
  obtain ⟨_, _, _, ⟨_, _, _⟩, _, _, _, _, _, _⟩ := t
  simp_all

end CommandLine

open CommandLine

/-- A command line gives the settings that its arguments ask for, in whatever order they come. -/
theorem Settings.ofArguments_of_proper {args : List Argument} (h : Proper args)
    (htarget : texts .target args ≠ []) :
    ∃ s, Settings.ofArguments (args.map Argument.text) = .ok s ∧ ∀ t, Asks args t ↔ t = s := by
  obtain ⟨v, hread, hhas⟩ := Invocation.exists_read h htarget
  obtain ⟨s, hsettings, hasks⟩ := hhas.exists_settings h htarget
  refine ⟨s, by simp only [Settings.ofArguments, hread, hsettings], fun t => ?_⟩
  exact ⟨fun ht => ht.unique hasks, fun ht => ht ▸ hasks⟩

/-- `--verbose --header=-v ws://h "--interval= 500MS" 020 --payload=--a=b 3 --header= NoneStop
--http-method=put --max-retransmit=0` -/
def interleaved : List Argument :=
  [.flag .verbose, .value .header "-v", .value .target "ws://h", .value .interval " 500MS",
    .value .clients "020", .value .payload "--a=b", .value .requests "3", .value .header "",
    .value .mode "NoneStop", .value .httpMethod "put", .value .maxRetransmit "0"]

theorem proper_interleaved : Proper interleaved where
  placed_prefix := by decide
  length_texts_le item := by cases item <;> decide
  readable item text hmem := by
    cases item <;> simp only [interleaved, List.mem_cons, List.not_mem_nil, Argument.value.injEq,
      reduceCtorEq, false_and, false_or, or_false, true_and] at hmem
    case target => subst hmem; exact (by decide : "ws://h".toList.head? ≠ some '-')
    case clients => subst hmem; exact ⟨20, by simp, by simp, by decide⟩
    case requests => subst hmem; exact ⟨3, by simp, by simp, by decide⟩
    case mode => subst hmem; exact show String.ofList ("NoneStop".toList.map _) = _ by decide
    case interval => subst hmem; exact ⟨.ofMilliseconds 500, by decide⟩
    case maxRetransmit => subst hmem; exact ⟨0, by simp, by simp, by decide⟩
    case httpMethod => subst hmem; exact ⟨.put, rfl⟩
    case payload => trivial
    case header => trivial
  flag_eq f := by cases f <;> decide
  count_flag_le f := by cases f <;> decide

theorem Settings.ofArguments_of_proper_interleaved :
    Proper interleaved ∧ texts .target interleaved ≠ [] ∧
      ∃ s, Settings.ofArguments (interleaved.map Argument.text) = .ok s ∧
        ∀ t, Asks interleaved t ↔ t = s :=
  ⟨proper_interleaved, by decide, Settings.ofArguments_of_proper proper_interleaved (by decide)⟩

end LoadHarness
