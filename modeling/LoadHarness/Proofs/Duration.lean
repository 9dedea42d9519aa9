import LoadHarness.CommandLine.Settings
import LoadHarness.Proofs.Text

/-!
# Durations as users write them

`Duration.Written` is the grammar of a duration: blank space, digits, letters directly behind them,
and blank space again. `Duration.Amount` is what so many of a unit come to, if the letters are one
and the seconds fit 64 bits.

A text of the grammar is cut where its digits end, whatever surrounds it (`splitDigits_of_written`),
so that reading accepts exactly the texts with an amount, and gives that amount
(`read_eq_ok_iff`). Every other text is refused, as settings that make no sense
(`read_iff_written`).
-/

namespace LoadHarness.Duration

variable {text digits unit : List Char} {n : Nat} {d : Duration}

/-! ## The grammar -/

/-- A text is digits and a unit, with nothing between them and blank space around both. -/
structure Written (text digits unit : List Char) : Prop where
  around : ∃ front back, (∀ c ∈ front, Text.isBlank c = true) ∧
    (∀ c ∈ back, Text.isBlank c = true) ∧ front ++ (digits ++ unit) ++ back = text
  digits_ne_nil : digits ≠ []
  isDigit : ∀ c ∈ digits, c.isDigit = true

/-- The units that count seconds, and the seconds of each. -/
def secondsOfUnit : List (List Char × Nat) := [([], 1), (['s'], 1), (['m'], 60), (['h'], 3600)]

/-- What `n` of a unit come to. The case of the unit is free. -/
inductive Amount (n : Nat) (unit : List Char) : Duration → Prop
  | milliseconds (hunit : unit.map Char.toLower = ['m', 's']) : Amount n unit (.ofMilliseconds n)
  | seconds {each : Nat} (hunit : (unit.map Char.toLower, each) ∈ secondsOfUnit)
      (hfits : n * each ≤ wordMax) : Amount n unit (.ofSeconds (n * each))

theorem mem_secondsOfUnit_iff {name : List Char} {each : Nat} :
    (name, each) ∈ secondsOfUnit ↔ Scale.ofUnit? name = some (.seconds each) := by
  constructor
  · intro h
    simp only [secondsOfUnit, List.mem_cons, List.not_mem_nil, or_false, Prod.mk.injEq] at h
    rcases h with ⟨rfl, rfl⟩ | ⟨rfl, rfl⟩ | ⟨rfl, rfl⟩ | ⟨rfl, rfl⟩ <;> rfl
  · intro h
    unfold Scale.ofUnit? at h
    split at h <;> simp_all [secondsOfUnit]

theorem ofUnit?_eq_milliseconds_iff {name : List Char} :
    Scale.ofUnit? name = some .milliseconds ↔ name = ['m', 's'] := by
  constructor
  · intro h
    unfold Scale.ofUnit? at h
    split at h <;> simp_all
  · rintro rfl
    rfl

theorem amount_iff : Amount n unit d ↔ ∃ scale,
    Scale.ofUnit? (unit.map Char.toLower) = some scale ∧ scale.measure? n = some d := by
  constructor
  · rintro (hunit | ⟨hunit, hfits⟩)
    · exact ⟨.milliseconds, ofUnit?_eq_milliseconds_iff.2 hunit, rfl⟩
    · exact ⟨_, mem_secondsOfUnit_iff.1 hunit, by rw [Scale.measure?, if_pos hfits]⟩
  · rintro ⟨_ | each, hunit, hmeasure⟩
    · obtain rfl := Option.some.inj hmeasure
      exact .milliseconds (ofUnit?_eq_milliseconds_iff.1 hunit)
    · rw [Scale.measure?] at hmeasure
      split at hmeasure
      case isTrue hfits =>
        obtain rfl := Option.some.inj hmeasure
        exact .seconds (mem_secondsOfUnit_iff.2 hunit) hfits
      case isFalse => exact absurd hmeasure (by simp)

theorem isLower_of_ofUnit? {name : List Char} {scale : Scale}
    (h : Scale.ofUnit? name = some scale) : ∀ c ∈ name, c.isLower = true := by
  have hall : name.all Char.isLower = true := by
    unfold Scale.ofUnit? at h
    split at h
    case h_6 => exact absurd h (by simp)
    all_goals rfl
  exact List.all_eq_true.1 hall

/-- A unit is made of letters. -/
theorem Amount.isLower (h : Amount n unit d) : ∀ c ∈ unit, c.toLower.isLower = true := by
  obtain ⟨scale, hunit, -⟩ := amount_iff.1 h
  exact fun c hc => isLower_of_ofUnit? hunit _ (List.mem_map_of_mem hc)

/-- What fits is no longer than the longest duration. -/
theorem Amount.nanoseconds_le (h : Amount n unit d) (hn : n ≤ wordMax) :
    d.nanoseconds ≤ longest.nanoseconds := by
  cases h with
  | milliseconds =>
    simp only [ofMilliseconds, longest, millisecond, second, wordMax] at *
    omega
  | seconds hunit hfits =>
    simp only [ofSeconds, longest, second, wordMax] at *
    omega

/-! ## Reading -/

/-- A text of the grammar is cut where its digits end. -/
theorem splitDigits_of_written (h : Written text digits unit)
    (hunit : ∀ c ∈ unit, c.toLower.isLower = true) :
    Text.splitDigits (Text.trimChars text) = (digits, unit) := by
  obtain ⟨front, back, hfront, hback, rfl⟩ := h.around
  have hcore : ∀ c ∈ digits ++ unit, Text.isBlank c = false := by
    intro c hc
    rcases List.mem_append.1 hc with hc | hc
    · exact Text.isBlank_of_isDigit (h.isDigit c hc)
    · exact Text.isBlank_of_isLower_toLower (hunit c hc)
  rw [Text.trimChars_append hfront hback (fun c hc => hcore c (List.mem_of_mem_head? hc))
    fun c hc => hcore c (List.mem_of_getLast? hc)]
  exact Text.splitDigits_append_of_isDigit h.isDigit fun c hc =>
    Text.isDigit_of_isLower_toLower (hunit c (List.mem_of_mem_head? hc))

/-- A text with digits in front, behind blank space, is of the grammar but for its unit. -/
theorem written_of_splitDigits (h : Text.splitDigits (Text.trimChars text) = (digits, unit))
    (hne : digits ≠ []) : Written text digits unit := by
  obtain ⟨front, back, hfront, hback, happend⟩ := Text.exists_append_trimChars text
  have hcut := Text.splitDigits_append (Text.trimChars text)
  have hdigits := Text.splitDigits_fst_digits (Text.trimChars text)
  rw [h] at hcut hdigits
  exact ⟨⟨front, back, hfront, hback, by rw [hcut, happend]⟩, hne, hdigits⟩

theorem readTrimmed_eq_ok_iff {cs : List Char} (h : Text.splitDigits cs = (digits, unit)) :
    readTrimmed cs = .ok d ↔
      digits ≠ [] ∧ Text.value digits ≤ wordMax ∧ Amount (Text.value digits) unit d := by
  have hempty : cs.isEmpty = true → digits = [] := by
    intro hc
    obtain rfl := List.isEmpty_iff.1 hc
    exact (Prod.mk.inj h).1.symm
  rw [readTrimmed, amount_iff]
  simp only [h]
  by_cases hnumber : digits ≠ [] ∧ Text.value digits ≤ wordMax
  case neg =>
    have hbad : (digits.isEmpty || decide (wordMax < Text.value digits)) = true := by
      simpa [Classical.or_iff_not_imp_left] using hnumber
    rw [if_pos hbad]
    refine ⟨fun hok => ?_, fun ⟨hne, hfits, _⟩ => absurd ⟨hne, hfits⟩ hnumber⟩
    split at hok <;> exact absurd hok (by simp)
  case pos =>
    obtain ⟨hne, hfits⟩ := hnumber
    rw [if_neg (mt hempty hne), if_neg (by simp [hne, hfits])]
    cases Scale.ofUnit? (unit.map Char.toLower) with
    | none => simp
    | some scale => cases hm : scale.measure? (Text.value digits) <;> simp [hm, hne, hfits]

/-- The texts that are read, and what they are read as. -/
theorem read_eq_ok_iff {text : String} : read text = .ok d ↔ ∃ digits unit,
    Written text.toList digits unit ∧ Text.value digits ≤ wordMax ∧
      Amount (Text.value digits) unit d := by
  constructor
  · intro h
    obtain ⟨hne, hfits, hamount⟩ := (readTrimmed_eq_ok_iff rfl).1 h
    exact ⟨_, _, written_of_splitDigits rfl hne, hfits, hamount⟩
  · rintro ⟨digits, unit, hwritten, hfits, hamount⟩
    have hcut := splitDigits_of_written hwritten hamount.isLower
    exact (readTrimmed_eq_ok_iff hcut).2 ⟨hwritten.digits_ne_nil, hfits, hamount⟩

/-- A text is read as a duration if and only if it is digits of 64 bits and a unit with an amount,
and then as that amount, which no duration exceeds. Any other text is refused as a configuration.
The cut behind the digits lies between two characters. -/
theorem read_iff_written (text : String) :
    (∀ d, read text = .ok d ↔ ∃ digits unit, Written text.toList digits unit ∧
      Text.value digits ≤ wordMax ∧ Amount (Text.value digits) unit d) ∧
    (∀ usual, (∃ d, read text = .ok d ∧ CommandLine.duration usual (some text) = .ok d ∧
        d.nanoseconds ≤ longest.nanoseconds) ∨
      ∃ e, read text = .error e ∧
        CommandLine.duration usual (some text) = .error (.configuration e.message)) ∧
    let trimmed := Text.trimChars text.toList
    String.Pos.Raw.IsValid (String.ofList trimmed) ⟨(Text.splitDigits trimmed).1.length⟩ := by
  refine ⟨fun d => read_eq_ok_iff, fun usual => ?_, Text.isValid_splitDigits _⟩
  cases h : read text with
  | error e => exact .inr ⟨e, rfl, by simp only [CommandLine.duration, h]⟩
  | ok d =>
    obtain ⟨digits, unit, -, hfits, hamount⟩ := read_eq_ok_iff.1 h
    exact .inl ⟨d, rfl, by simp only [CommandLine.duration, h], hamount.nanoseconds_le hfits⟩

end LoadHarness.Duration
