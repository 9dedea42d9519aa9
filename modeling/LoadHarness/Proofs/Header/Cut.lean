import LoadHarness.Proofs.Header
import LoadHarness.Proofs.Text
import LoadHarness.Settings.Check
import Mathlib.Data.List.Forall2

/-!
# Where a header is cut

`Header.IsCut` says what the key and the value of a header are, apart from how they are found : the
key has no colon, so that the colon behind it is the first one, and both are what remains of the two
sides without the blank space around them. A header has at most one such key and value, and
`Header.split?` finds them (`Header.split?_eq_some_iff`).

A list of headers is read as the list of its cuts, or refused for the first header without a colon.
The check of the settings refuses the same lists, and says the same of them
(`Settings.headers_judged_alike`).
-/

namespace LoadHarness

namespace Header

variable {text : String} {p : String × String} {headers : List String}
  {pairs : List (String × String)} {cs front back : List Char}

/-- The key and the value of a header. -/
structure IsCut (text : String) (p : String × String) : Prop where
  colon_not_mem : ':' ∉ p.1.toList
  key_trimmed : Text.Trimmed p.1.toList
  value_trimmed : Text.Trimmed p.2.toList
  /-- They stand on the two sides of a colon, with nothing but blank space around each. -/
  sides : ∃ front back, Text.IsAround p.1.toList front ∧ Text.IsAround p.2.toList back ∧
    front ++ ':' :: back = text.toList

/-! ## One header -/

theorem splitColon_append (h : ':' ∉ front) :
    splitColon (front ++ ':' :: back) = some (front, back) := by
  induction front with
  | nil => rfl
  | cons c cs ih =>
    obtain ⟨hc, hcs⟩ := not_or.1 (mt List.mem_cons.2 h)
    simp [splitColon, Ne.symm hc, ih hcs]

theorem append_of_splitColon (h : splitColon cs = some (front, back)) :
    ':' ∉ front ∧ front ++ ':' :: back = cs := by
  induction cs generalizing front with
  | nil => exact absurd h (by simp [splitColon])
  | cons c cs ih =>
    rw [splitColon] at h
    split at h
    case isTrue hc =>
      obtain ⟨rfl, rfl⟩ := Prod.mk.inj (Option.some.inj h)
      exact ⟨List.not_mem_nil, by rw [hc, List.nil_append]⟩
    case isFalse hc =>
      obtain ⟨⟨front', back'⟩, hcs, hp⟩ := Option.map_eq_some_iff.1 h
      obtain ⟨rfl, rfl⟩ := Prod.mk.inj hp
      obtain ⟨hfront, rfl⟩ := ih hcs
      exact ⟨mt List.mem_cons.1 (not_or.2 ⟨Ne.symm hc, hfront⟩), rfl⟩

/-- Blank space around a text brings no colon into it. -/
theorem colon_mem_of_isAround {core : List Char} (h : Text.IsAround core cs) :
    ':' ∈ cs ↔ ':' ∈ core := by
  obtain ⟨before, after, hbefore, hafter, rfl⟩ := h
  have hnot (blank : List Char) (hblank : ∀ c ∈ blank, Text.isBlank c = true) : ':' ∉ blank :=
    fun hc => absurd (hblank _ hc) (by decide)
  simp [hnot before hbefore, hnot after hafter]

theorem isCut_of_splitColon (h : splitColon text.toList = some (front, back)) :
    IsCut text
      (String.ofList (Text.trimChars front), String.ofList (Text.trimChars back)) := by
  obtain ⟨hcolon, happend⟩ := append_of_splitColon h
  have haround (cs : List Char) : Text.IsAround (Text.trimChars cs) cs :=
    (Text.trimChars_eq_iff.1 rfl).2
  constructor
  · simpa [← colon_mem_of_isAround (haround front)] using hcolon
  · simpa using Text.trimmed_trimChars front
  · simpa using Text.trimmed_trimChars back
  · exact ⟨front, back, by simpa using haround front, by simpa using haround back, happend⟩

/-- A header with a colon has one key and one value. -/
theorem split?_eq_some_iff : split? text = some p ↔ IsCut text p := by
  constructor
  · intro h
    obtain ⟨⟨front, back⟩, hsplit, rfl⟩ := Option.map_eq_some_iff.1 h
    exact isCut_of_splitColon hsplit
  · rintro ⟨hcolon, hkey, hvalue, front, back, hfront, hback, happend⟩
    have hnone : ':' ∉ front := mt (colon_mem_of_isAround hfront).1 hcolon
    rw [split?, ← happend, splitColon_append hnone, Option.map_some,
      Text.trimChars_eq_iff.2 ⟨hkey, hfront⟩, Text.trimChars_eq_iff.2 ⟨hvalue, hback⟩,
      String.ofList_toList, String.ofList_toList]

/-! ## A list of headers -/

theorem hasColon_iff : hasColon text = true ↔ ':' ∈ text.toList := by
  simp [hasColon]

/-- What is read of a list are the cuts of its headers. -/
theorem readAll_eq_ok_iff : readAll headers = .ok pairs ↔ List.Forall₂ IsCut headers pairs := by
  induction headers generalizing pairs with
  | nil => simp [readAll, eq_comm]
  | cons text texts ih =>
    rw [readAll, List.forall₂_cons_left_iff]
    cases hp : split? text with
    | none =>
      have hnone (p : String × String) : ¬IsCut text p := by
        rw [← split?_eq_some_iff, hp]
        simp
      simp [hnone]
    | some p =>
      have hcut (q : String × String) : IsCut text q ↔ q = p := by
        rw [← split?_eq_some_iff, hp, Option.some.injEq, eq_comm]
      cases hr : readAll texts with
      | error e =>
        simp only [hr, reduceCtorEq, false_iff] at ih
        simp [Except.map, hcut, ih]
      | ok ps =>
        simp only [hr, Except.ok.injEq] at ih
        simp [Except.map, hcut, ← ih, eq_comm]

/-- The first header without a colon. -/
structure IsFirstBroken (headers : List String) (text : String) : Prop where
  first : ∃ before after, headers = before ++ text :: after ∧ ∀ t ∈ before, ':' ∈ t.toList
  colon_not_mem : ':' ∉ text.toList

theorem checkAll_eq_error_iff {e : FormatError} :
    checkAll headers = .error e ↔ IsFirstBroken headers e.header := by
  have hfind : headers.find? (fun t => !hasColon t) = some e.header ↔
      IsFirstBroken headers e.header := by
    rw [List.find?_eq_some_iff_append]
    constructor
    · rintro ⟨hnone, before, after, happend, hbefore⟩
      refine ⟨⟨before, after, happend, fun t ht => ?_⟩, ?_⟩
      · exact hasColon_iff.1 (by simpa using hbefore t ht)
      · simpa [← hasColon_iff] using hnone
    · rintro ⟨⟨before, after, happend, hbefore⟩, hnone⟩
      refine ⟨by simpa [← hasColon_iff] using hnone, before, after, happend, fun t ht => ?_⟩
      simpa using hasColon_iff.2 (hbefore t ht)
  rw [← hfind, checkAll]
  cases headers.find? (fun t => !hasColon t) with
  | none => simp
  | some t =>
    obtain ⟨header⟩ := e
    simp

theorem readAll_eq_error_iff {e : FormatError} :
    readAll headers = .error e ↔ checkAll headers = .error e := by
  rw [checkAll_eq_readAll]
  cases readAll headers <;> simp [Except.map]

theorem checkAll_eq_ok_iff :
    checkAll headers = .ok () ↔ ∃ pairs, readAll headers = .ok pairs := by
  rw [checkAll_eq_readAll]
  cases readAll headers <;> simp [Except.map]

end Header

namespace Settings

variable {s : Settings}

theorem customHeaders_eq_ok_iff {pairs : List (String × String)} :
    s.customHeaders = .ok pairs ↔ Header.readAll s.headers = .ok pairs := by
  rw [customHeaders]
  cases Header.readAll s.headers <;> simp

theorem customHeaders_eq_error_iff {f : Failure} : s.customHeaders = .error f ↔
    ∃ e, Header.readAll s.headers = .error e ∧ f = .configuration e.message := by
  rw [customHeaders]
  cases Header.readAll s.headers <;> simp [eq_comm]

theorem checkHeaders_eq_ok_iff : s.checkHeaders = .ok () ↔ Header.checkAll s.headers = .ok () := by
  rw [checkHeaders]
  cases Header.checkAll s.headers <;> simp

theorem checkHeaders_eq_error_iff {f : Failure} : s.checkHeaders = .error f ↔
    ∃ e, Header.checkAll s.headers = .error e ∧ f = .configuration e.message := by
  rw [checkHeaders]
  cases Header.checkAll s.headers <;> simp [eq_comm]

/-- The check of the headers and their reading come to the same verdict. They refuse a list for its
first header without a colon, in the same words. Any other list is read as one key and one value for
each header, in the order given. -/
theorem headers_judged_alike (s : Settings) :
    (∀ pairs, s.customHeaders = .ok pairs ↔ List.Forall₂ Header.IsCut s.headers pairs) ∧
    (s.checkHeaders = .ok () ↔ ∃ pairs, s.customHeaders = .ok pairs) ∧
    ∀ f, (s.checkHeaders = .error f ↔ s.customHeaders = .error f) ∧
      (s.checkHeaders = .error f ↔ ∃ text, Header.IsFirstBroken s.headers text ∧
        f = .configuration
          ("Invalid header format '" ++ text ++ "'. Use 'Key: Value' format")) := by
  refine ⟨fun pairs => ?_, ?_, fun f => ⟨?_, ?_⟩⟩
  · rw [customHeaders_eq_ok_iff, Header.readAll_eq_ok_iff]
  · simp only [checkHeaders_eq_ok_iff, customHeaders_eq_ok_iff, Header.checkAll_eq_ok_iff]
  · simp only [checkHeaders_eq_error_iff, customHeaders_eq_error_iff, Header.readAll_eq_error_iff]
  · simp only [checkHeaders_eq_error_iff, Header.checkAll_eq_error_iff]
    constructor
    · rintro ⟨e, hfirst, rfl⟩
      exact ⟨e.header, hfirst, rfl⟩
    · rintro ⟨text, hfirst, rfl⟩
      exact ⟨⟨text⟩, hfirst, rfl⟩

example :
    let s := { ofTarget "http://h/" with headers := [" X-Run : 4:2 ", "X-Empty:"] }
    s.customHeaders = .ok [("X-Run", "4:2"), ("X-Empty", "")] := by decide

end Settings

end LoadHarness
