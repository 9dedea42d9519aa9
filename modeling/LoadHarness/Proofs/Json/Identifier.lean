import LoadHarness.Proofs.Json.Range
import LoadHarness.Proofs.Json.Value

/-!
# The identifier in a frame

An identifier is found in a frame if and only if the frame writes an object whose last member named
`id` is a string, and it is that string (`Json.HasId`), however the object, its names and its
strings are written. `idOfFrame_of_written` says so, and tells apart the frames that write another
value from those that write none.
-/

namespace LoadHarness

namespace Json

theorem lookup_eq_none_iff {name : String} {ms : List (String × Json)} :
    lookup name ms = none ↔ ∀ m ∈ ms, m.1 ≠ name := by
  induction ms with
  | nil => simp [lookup]
  | cons m ms ih =>
    obtain ⟨n, v⟩ := m
    rw [List.forall_mem_cons, ← ih, lookup]
    cases lookup name ms <;> simp

/-- Of several members with one name the last one counts. -/
theorem lookup_eq_some_iff {name : String} {ms : List (String × Json)} {v : Json} :
    lookup name ms = some v ↔
      ∃ before after, ms = before ++ (name, v) :: after ∧ ∀ m ∈ after, m.1 ≠ name := by
  constructor
  · intro h
    induction ms with
    | nil => cases h
    | cons m ms ih =>
      obtain ⟨n, w⟩ := m
      rw [lookup] at h
      cases hms : lookup name ms with
      | some u =>
        obtain rfl : u = v := by simpa [hms] using h
        obtain ⟨before, after, rfl, hafter⟩ := ih hms
        exact ⟨(n, w) :: before, after, rfl, hafter⟩
      | none =>
        obtain ⟨rfl, rfl⟩ : n = name ∧ w = v := by simpa [hms] using h
        exact ⟨[], ms, rfl, lookup_eq_none_iff.1 hms⟩
  · rintro ⟨before, after, rfl, hafter⟩
    induction before with
    | nil => simp [lookup, lookup_eq_none_iff.2 hafter]
    | cons m before ih => simp [lookup, ih]

/-- A value is an object whose last member of the name `id` is a string. -/
def HasId (v : Json) (s : String) : Prop :=
  ∃ before after, v = .object (before ++ ("id", .string s) :: after) ∧ ∀ m ∈ after, m.1 ≠ "id"

theorem text?_eq_some_iff {v : Json} {s : String} : text? v = some s ↔ v = .string s := by
  cases v <;> simp [text?]

theorem hasId_iff {v : Json} {s : String} : v.HasId s ↔ (v.member? "id").bind text? = some s := by
  simp only [HasId, Option.bind_eq_some_iff, text?_eq_some_iff, exists_eq_right]
  cases v with
  | object ms => simp [member?, lookup_eq_some_iff]
  | _ => simp [member?]

end Json

theorem idOfValue_eq_ok_iff {v : Json} {s : String} : idOfValue v = .ok s ↔ v.HasId s := by
  rw [Json.hasId_iff, idOfValue]
  cases (v.member? "id").bind Json.text? <;> simp [Failure.ofMissing]

theorem idOfValue_of_not_hasId {v : Json} (h : ∀ s, ¬ v.HasId s) :
    idOfValue v = .error (.message "Missing or invalid 'id' field in frame") := by
  simp only [Json.hasId_iff] at h
  rw [idOfValue, Option.eq_none_iff_forall_ne_some.2 h]
  rfl

/-- The identifier that is found in a frame is the one of the value written there, and a frame
without one, or with no value, is told apart. -/
theorem idOfFrame_of_written (frame : String) :
    (∀ v, Json.Padded Json.Written v frame.toList → Json.Within Json.nestingLimit v →
      (∀ s, idOfFrame frame = .ok s ↔ v.HasId s) ∧
        ((∀ s, ¬ v.HasId s) →
          idOfFrame frame = .error (.message "Missing or invalid 'id' field in frame"))) ∧
      ((∀ v, ¬ (Json.Padded Json.Written v frame.toList ∧ Json.Within Json.nestingLimit v)) →
        ∃ e, idOfFrame frame = .error (.json e)) ∧
      ∀ n : Json.Number, n.magnitude ≤ Json.safeBound → n.inRange = true := by
  refine ⟨fun v hv hwithin => ?_, fun h => ?_, fun n => Json.inRange_of_magnitude_le⟩
  · have hread : Json.read frame = .ok v := Json.readChars_eq_ok_iff.2 ⟨hv, hwithin⟩
    have hframe : idOfFrame frame = idOfValue v := by rw [idOfFrame, hread]
    rw [hframe]
    exact ⟨fun s => idOfValue_eq_ok_iff, idOfValue_of_not_hasId⟩
  · cases hread : Json.read frame with
    | ok v => exact absurd (Json.readChars_eq_ok_iff.1 hread) (h v)
    | error e => exact ⟨e, by rw [idOfFrame, hread]⟩

namespace Json

theorem blank_nil : Blank [] := by simp [Blank]

/-- Characters that need no escape may stand as they are. -/
theorem charsText_self {cs : List Char} (h : ∀ c ∈ cs, c ≠ '"' ∧ c ≠ '\\' ∧ 0x20 ≤ c.toNat) :
    CharsText cs cs := by
  induction cs with
  | nil => exact .nil
  | cons c cs ih =>
    obtain ⟨⟨hquote, hslash, hc⟩, hcs⟩ := List.forall_mem_cons.1 h
    exact .cons (.plain hquote hslash hc) (ih hcs)

end Json

/-- `{"id":7, "\u0069d" : "\ud83d\uDE00\/"}` -/
def escapedFrame : String := "\x7b\"id\":7, \"\\u0069d\" : \"\\ud83d\\uDE00\\/\"\x7d"

def escapedValue : Json :=
  .object [("id", .number ⟨false, ['7'], [], none⟩), ("id", .string "😀/")]

theorem padded_escapedFrame : Json.Padded Json.Written escapedValue escapedFrame.toList := by
  have hletter : Json.UnitText 'i'.toNat ['0', '0', '6', '9'] :=
    ⟨by decide, _, _, _, _, by decide, by decide, by decide, by decide, rfl⟩
  have hleading : Json.UnitText (Json.leading '😀') ['d', '8', '3', 'd'] :=
    ⟨by decide, _, _, _, _, by decide, by decide, by decide, by decide, rfl⟩
  have htrailing : Json.UnitText (Json.trailing '😀') ['D', 'E', '0', '0'] :=
    ⟨by decide, _, _, _, _, by decide, by decide, by decide, by decide, rfl⟩
  have hslash : Json.CharText '/' ['\\', '/'] := .letter (by decide)
  have hspace : Json.Blank [' '] := by simp [Json.Blank, Json.isSpace]
  have hplain : Json.StringText "id" _ := .quoted (Json.charsText_self (by simp))
  have hrest : Json.CharsText ['d'] ['d'] := Json.charsText_self (by simp)
  have hescaped : Json.StringText "id" _ := .quoted (.cons (.unit hletter) hrest)
  have htext : Json.StringText "😀/" _ :=
    .quoted (.cons (.pair (by decide) hleading htrailing) (.cons hslash .nil))
  have hnumber : Json.NumberText ⟨false, ['7'], [], none⟩ _ :=
    .intro ⟨⟨by simp, by simp⟩, by simp⟩ .omitted .omitted
  have hfirst := Json.MemberText.intro hplain Json.blank_nil Json.blank_nil
    (Json.Written.scalar (.number hnumber))
  have hsecond := Json.MemberText.intro hescaped hspace hspace (Json.Written.scalar (.string htext))
  have hrow := Json.Row.cons Json.blank_nil hfirst Json.blank_nil
    (.last hspace hsecond Json.blank_nil)
  have hpadded := Json.Padded.intro Json.blank_nil (Json.Written.object (.row hrow)) Json.blank_nil
  exact (congrArg (Json.Padded Json.Written escapedValue) (by decide)).mpr hpadded

theorem idOfFrame_of_written_escapedFrame :
    Json.Padded Json.Written escapedValue escapedFrame.toList ∧
      Json.Within Json.nestingLimit escapedValue ∧ idOfFrame escapedFrame = .ok "😀/" := by
  have hwithin : Json.Within Json.nestingLimit escapedValue := by
    have hnumber : (Json.Number.mk false ['7'] [] none).inRange = true := by decide
    simpa [Json.Within, escapedValue, Json.nestingLimit] using hnumber
  have hid : escapedValue.HasId "😀/" :=
    ⟨[("id", .number ⟨false, ['7'], [], none⟩)], [], rfl, by simp⟩
  have hframe := (idOfFrame_of_written escapedFrame).1 escapedValue padded_escapedFrame hwithin
  exact ⟨padded_escapedFrame, hwithin, (hframe.1 "😀/").2 hid⟩

/-- One below the greatest double, of which more digits are written than a double holds. -/
def farNumber : Json.Number := ⟨false, ['1'], "797693134862315708".toList, some 308⟩

def farFrame : String := "\x7b\"id\":\"a\",\"n\":1.797693134862315708e308\x7d"

def farValue : Json := .object [("id", .string "a"), ("n", .number farNumber)]

theorem padded_farFrame : Json.Padded Json.Written farValue farFrame.toList := by
  have hid : Json.StringText "id" _ := .quoted (Json.charsText_self (by simp))
  have ha : Json.StringText "a" _ := .quoted (Json.charsText_self (by simp))
  have hn : Json.StringText "n" _ := .quoted (Json.charsText_self (by simp))
  have hdigits : Json.Digits ['3', '0', '8'] := ⟨by simp, by simp⟩
  have hnumber : Json.NumberText farNumber _ :=
    .intro ⟨⟨by simp, by simp⟩, by simp⟩ (.point ⟨by simp, by simp⟩)
      (.power (.inl rfl) .omitted hdigits)
  have hfirst := Json.MemberText.intro hid Json.blank_nil Json.blank_nil
    (Json.Written.scalar (.string ha))
  have hsecond := Json.MemberText.intro hn Json.blank_nil Json.blank_nil
    (Json.Written.scalar (.number hnumber))
  have hrow := Json.Row.cons Json.blank_nil hfirst Json.blank_nil
    (.last Json.blank_nil hsecond Json.blank_nil)
  have hpadded := Json.Padded.intro Json.blank_nil (Json.Written.object (.row hrow)) Json.blank_nil
  exact (congrArg (Json.Padded Json.Written farValue) (by decide)).mpr hpadded

theorem idOfFrame_farFrame :
    Json.Padded Json.Written farValue farFrame.toList ∧ farValue.HasId "a" ∧
      farNumber.magnitude ≤ Json.greatest ∧ idOfFrame farFrame = .error (.json .malformed) := by
  have hid : farValue.HasId "a" := ⟨[], [("n", .number farNumber)], rfl, by simp⟩
  have hmagnitude : farNumber.magnitude ≤ Json.greatest := by
    have hle : 1797693134862315708 * 10 ^ 290 ≤ Json.greatest := by decide +kernel
    have hvalue : Text.value (farNumber.whole ++ farNumber.fraction) = 1797693134862315708 := by
      decide
    have hexponent :
        farNumber.exponent.getD 0 - farNumber.fraction.length = ((290 : Nat) : Int) := by decide
    rw [Json.Number.magnitude, hvalue, hexponent, zpow_natCast]
    exact_mod_cast hle
  exact ⟨padded_farFrame, hid, hmagnitude, by decide +kernel⟩

end LoadHarness
