import LoadHarness.CommandLine.Settings
import LoadHarness.Proofs.Text
import Mathlib.Data.List.Forall2

/-!
# Arguments and what they give

An `Argument` gives an item the text that it stands for, or raises a flag, and is written in one
way : a value by position as it is, any other as `--name=value`. Arguments are `Proper` if those by
position come in the order of their items, every text can be read as what its item holds, and
nothing but headers comes twice. Between values by position, options and flags may stand anywhere.

An invocation that has what proper arguments give (`Invocation.Has`) takes one more of them
(`Invocation.Has.accept`, `Invocation.Has.raise`).
-/

namespace LoadHarness.CommandLine

/-! ## Counts -/

/-- A text is a count of 32 bits, in decimal digits. -/
structure IsCount (text : String) (n : UInt32) : Prop where
  ne_nil : text.toList ≠ []
  isDigit : ∀ c ∈ text.toList, c.isDigit = true
  value_eq : Text.value text.toList = n.toNat

/-- Digits are read to their end if what they come to is within the limit. -/
theorem readDigits_of_le {limit : Nat} {beyond : NumberError} {ds : List Char} {n : Nat}
    (hds : ∀ c ∈ ds, c.isDigit = true) (hle : Text.valueAfter n ds ≤ limit) :
    readDigits limit beyond n ds = .ok (Text.valueAfter n ds) := by
  induction ds generalizing n with
  | nil => rfl
  | cons d ds ih =>
    obtain ⟨hd, hds⟩ := List.forall_mem_cons.1 hds
    have hnext := Nat.le_trans (Text.le_valueAfter _ ds) hle
    rw [readDigits, if_pos hd]
    simp only [Nat.not_lt.2 hnext, if_false]
    exact ih hds hle

theorem readSigned_of_isDigit {text : String} (hne : text.toList ≠ [])
    (hds : ∀ c ∈ text.toList, c.isDigit = true)
    (hle : Text.value text.toList ≤ 0x7FFFFFFFFFFFFFFF) :
    readSigned text = .ok (Text.value text.toList) := by
  unfold readSigned
  split
  · simp_all
  · rename_i h
    simp [h] at hds
  · rename_i h
    simp [h] at hds
  · rename_i h
    simp [h] at hds
  · rename_i h
    simp [h] at hds
  · rw [readDigits_of_le hds hle]
    rfl

theorem readCount_of_isCount {text : String} {n : UInt32} (h : IsCount text n) :
    readCount text = .ok n := by
  have hlt : n.toNat < 0x100000000 := n.toNat_lt
  have hrange : (0 : Int) ≤ n.toNat ∧ (n.toNat : Int) < 0x100000000 := by omega
  have hvalue := h.value_eq
  rw [readCount, readSigned_of_isDigit h.ne_nil h.isDigit (by omega), hvalue]
  simp only [if_pos hrange, Int.toNat_natCast, UInt32.ofNat_toNat]

/-! ## Arguments -/

/-- What one argument of a command line does. -/
inductive Argument where
  /-- Gives an item a text. -/
  | value (item : Item) (text : String)
  | flag (f : Flag)
deriving DecidableEq

namespace Argument

/-- The argument as it is written. -/
def text : Argument → String
  | value item text =>
    if item ∈ Item.positional then text else "--" ++ item.name ++ "=" ++ text
  | flag f => "--" ++ f.name

/-- The item that an argument gives a text by position. -/
def place? : Argument → Option Item
  | value item _ => if item ∈ Item.positional then some item else none
  | flag _ => none

/-- The text that an argument gives to an item. -/
def textFor? (item : Item) : Argument → Option String
  | value i text => if i = item then some text else none
  | flag _ => none

end Argument

/-- The items that arguments give texts by position, in the order given. -/
def placed (args : List Argument) : List Item :=
  args.filterMap Argument.place?

/-- The texts that arguments give to an item, in the order given. -/
def texts (item : Item) (args : List Argument) : List String :=
  args.filterMap (Argument.textFor? item)

/-- The one word for a mode, in any case. -/
def IsTolerant (text : String) : Prop :=
  String.ofList (text.toList.map Char.toLower) = tolerantMode

/-- A text can be read as what an item holds. -/
def Readable (text : String) : Item → Prop
  | .target => text.toList.head? ≠ some '-'
  | .clients | .requests | .maxRetransmit => ∃ n, IsCount text n
  | .mode => IsTolerant text
  | .interval | .ackTimeout => ∃ d, Duration.read text = .ok d
  | .httpMethod => ∃ m : Method, m.name = text
  | .payload | .header => True

/-- Arguments that come in an order and in a form that is understood. -/
structure Proper (args : List Argument) : Prop where
  /-- Values by position leave none out. -/
  placed_prefix : placed args <+: Item.positional
  length_texts_le : ∀ item, item ≠ .header → (texts item args).length ≤ 1
  readable : ∀ item text, .value item text ∈ args → Readable text item
  flag_eq : ∀ f, .flag f ∈ args → f = .insecure ∨ f = .verbose
  count_flag_le : ∀ f, args.count (.flag f) ≤ 1

section Append

variable {args : List Argument} {item : Item} {text : String} {f : Flag}

theorem texts_append_value (i : Item) :
    texts i (args ++ [Argument.value item text]) =
      texts i args ++ if item = i then [text] else [] := by
  by_cases h : item = i <;> simp [texts, Argument.textFor?, h]

theorem texts_append_flag (i : Item) :
    texts i (args ++ [Argument.flag f]) = texts i args := by
  simp [texts, Argument.textFor?]

theorem placed_append_value :
    placed (args ++ [Argument.value item text]) =
      placed args ++ if item ∈ Item.positional then [item] else [] := by
  by_cases h : item ∈ Item.positional <;> simp [placed, Argument.place?, h]

theorem placed_append_flag : placed (args ++ [Argument.flag f]) = placed args := by
  simp [placed, Argument.place?]

theorem Proper.of_append {as bs : List Argument} (h : Proper (as ++ bs)) : Proper as where
  placed_prefix := by
    refine List.IsPrefix.trans ?_ h.placed_prefix
    simp [placed]
  length_texts_le item hitem := by
    have hle := h.length_texts_le item hitem
    simp only [texts, List.filterMap_append, List.length_append] at hle ⊢
    omega
  readable item text hmem := h.readable item text (List.mem_append_left _ hmem)
  flag_eq f hmem := h.flag_eq f (List.mem_append_left _ hmem)
  count_flag_le f := by
    have hle := h.count_flag_le f
    rw [List.count_append] at hle
    omega

/-- Nothing but a header has come before. -/
theorem Proper.texts_eq_nil (h : Proper (args ++ [Argument.value item text]))
    (hitem : item ≠ .header) : texts item args = [] := by
  have hle := h.length_texts_le item hitem
  rw [texts_append_value, if_pos rfl, List.length_append, List.length_singleton] at hle
  exact List.eq_nil_of_length_eq_zero (by omega)

theorem Proper.readable_last (h : Proper (args ++ [Argument.value item text])) :
    Readable text item :=
  h.readable item text (by simp)

theorem Proper.flag_notMem (h : Proper (args ++ [Argument.flag f])) : Argument.flag f ∉ args := by
  have hle := h.count_flag_le f
  rw [List.count_append, List.count_singleton_self] at hle
  exact List.count_eq_zero.1 (by omega)

end Append

/-! ## What an invocation has of them -/

/-- An invocation has what arguments give, and nothing else. -/
structure Invocation.Has (v : Invocation) (args : List Argument) : Prop where
  target : v.target.toList = texts .target args
  clients : List.Forall₂ IsCount (texts .clients args) v.clients.toList
  requests : List.Forall₂ IsCount (texts .requests args) v.requests.toList
  mode : v.mode.toList = texts .mode args
  interval : v.interval.toList = texts .interval args
  ackTimeout : v.ackTimeout.toList = texts .ackTimeout args
  maxRetransmit : List.Forall₂ IsCount (texts .maxRetransmit args) v.maxRetransmit.toList
  method : v.method.toList.map Method.name = texts .httpMethod args
  payload : v.payload.toList = texts .payload args
  headers : v.headers = texts .header args
  insecure : v.insecure = true ↔ Argument.flag .insecure ∈ args
  verbose : v.verbose = true ↔ Argument.flag .verbose ∈ args

theorem Invocation.has_empty : Invocation.empty.Has [] := by
  constructor <;> simp [Invocation.empty, texts]

theorem choice_name (m : Method) : Invocation.choice .httpMethod m.name = .ok m := by
  cases m <;> decide

theorem count_of_isCount {item : Item} {text : String} {n : UInt32} (h : IsCount text n) :
    Invocation.count item text = .ok n := by
  rw [Invocation.count, readCount_of_isCount h]

namespace Invocation.Has

variable {v : Invocation} {args : List Argument} {item : Item} {text : String} {f : Flag}

theorem has_eq_false (h : v.Has args) (hnone : item ≠ .header → texts item args = []) :
    v.has item = false := by
  obtain ⟨htarget, hclients, hrequests, hmode, hinterval, hackTimeout, hmaxRetransmit, hmethod,
    hpayload, -, -, -⟩ := h
  cases item <;> simp_all [Invocation.has]

/-- An item takes a text that it can hold. -/
theorem put (h : v.Has args) (hread : Readable text item)
    (hnone : item ≠ .header → texts item args = []) :
    ∃ v', v.put item text = .ok v' ∧ v'.Has (args ++ [Argument.value item text]) := by
  obtain ⟨htarget, hclients, hrequests, hmode, hinterval, hackTimeout, hmaxRetransmit, hmethod,
    hpayload, hheaders, hinsecure, hverbose⟩ := h
  cases item with
  | target =>
    refine ⟨{ v with target := some text }, rfl, ?_⟩
    constructor <;> simp_all [texts_append_value]
  | mode =>
    refine ⟨{ v with mode := some text }, rfl, ?_⟩
    constructor <;> simp_all [texts_append_value]
  | interval =>
    refine ⟨{ v with interval := some text }, rfl, ?_⟩
    constructor <;> simp_all [texts_append_value]
  | ackTimeout =>
    refine ⟨{ v with ackTimeout := some text }, rfl, ?_⟩
    constructor <;> simp_all [texts_append_value]
  | payload =>
    refine ⟨{ v with payload := some text }, rfl, ?_⟩
    constructor <;> simp_all [texts_append_value]
  | header =>
    refine ⟨{ v with headers := v.headers ++ [text] }, rfl, ?_⟩
    constructor <;> simp_all [texts_append_value]
  | clients =>
    obtain ⟨n, hn⟩ := hread
    refine ⟨{ v with clients := some n }, by rw [Invocation.put, count_of_isCount hn]; rfl, ?_⟩
    constructor <;> simp_all [texts_append_value]
  | requests =>
    obtain ⟨n, hn⟩ := hread
    refine ⟨{ v with requests := some n }, by rw [Invocation.put, count_of_isCount hn]; rfl, ?_⟩
    constructor <;> simp_all [texts_append_value]
  | maxRetransmit =>
    obtain ⟨n, hn⟩ := hread
    refine ⟨{ v with maxRetransmit := some n }, by rw [Invocation.put, count_of_isCount hn]; rfl,
      ?_⟩
    constructor <;> simp_all [texts_append_value]
  | httpMethod =>
    obtain ⟨m, rfl⟩ := hread
    refine ⟨{ v with method := some m }, by rw [Invocation.put, choice_name]; rfl, ?_⟩
    constructor <;> simp_all [texts_append_value]

/-- One more argument is accepted. -/
theorem accept (h : v.Has args) (hproper : Proper (args ++ [Argument.value item text])) :
    ∃ v', v.accept item text = .ok v' ∧ v'.Has (args ++ [Argument.value item text]) := by
  have hfree := h.has_eq_false hproper.texts_eq_nil
  obtain ⟨v', hput, hhas⟩ := h.put hproper.readable_last hproper.texts_eq_nil
  exact ⟨v', by rw [Invocation.accept, hfree]; exact hput, hhas⟩

/-- A flag is raised that was not. -/
theorem raise (h : v.Has args) (hproper : Proper (args ++ [Argument.flag f])) :
    ∃ v', v.raise f = .ok v' ∧ v'.Has (args ++ [Argument.flag f]) := by
  have hnew := hproper.flag_notMem
  obtain rfl | rfl := hproper.flag_eq f (by simp)
  · have hlow : v.insecure = false := Bool.eq_false_iff.2 fun hup => hnew (h.insecure.1 hup)
    refine ⟨{ v with insecure := true }, by rw [Invocation.raise, hlow]; rfl, ?_⟩
    obtain ⟨htarget, hclients, hrequests, hmode, hinterval, hackTimeout, hmaxRetransmit, hmethod,
      hpayload, hheaders, hinsecure, hverbose⟩ := h
    constructor <;> simp_all [texts_append_flag]
  · have hlow : v.verbose = false := Bool.eq_false_iff.2 fun hup => hnew (h.verbose.1 hup)
    refine ⟨{ v with verbose := true }, by rw [Invocation.raise, hlow]; rfl, ?_⟩
    obtain ⟨htarget, hclients, hrequests, hmode, hinterval, hackTimeout, hmaxRetransmit, hmethod,
      hpayload, hheaders, hinsecure, hverbose⟩ := h
    constructor <;> simp_all [texts_append_flag]

end Invocation.Has

end LoadHarness.CommandLine
