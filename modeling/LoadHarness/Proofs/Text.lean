import LoadHarness.Text.Blank
import LoadHarness.Text.Numeral

/-!
# Numerals and blank space within a text

`Text.splitDigits` takes off a text the digits that stand in front of any other character
(`splitDigits_append_of_isDigit`), and every digit takes one byte, so that the cut never comes to
lie within a character (`isValid_splitDigits`).

`Text.trimChars` leaves of a text what stands between blank characters (`trimChars_append`), and
takes away nothing else (`exists_append_trimChars`) : what it leaves is the one part of the text
that is blank at neither end and has blank space around it (`trimChars_eq_iff`).
-/

namespace LoadHarness.Text

/-! ## Digits -/

/-- Digits in front of something that begins with no digit are what is taken off. -/
theorem splitDigits_append_of_isDigit {ds rest : List Char} (hds : ∀ c ∈ ds, c.isDigit = true)
    (hrest : ∀ c ∈ rest.head?, c.isDigit = false) : splitDigits (ds ++ rest) = (ds, rest) := by
  rw [splitDigits, List.takeWhile_append_of_pos hds, List.dropWhile_append_of_pos hds]
  cases rest with
  | nil => simp
  | cons c cs => simp [hrest c rfl]

/-- Two ways to write a text as digits and something that begins with no digit are one. -/
theorem append_inj_of_isDigit {ds ds' rest rest' : List Char} (hds : ∀ c ∈ ds, c.isDigit = true)
    (hds' : ∀ c ∈ ds', c.isDigit = true) (hrest : ∀ c ∈ rest.head?, c.isDigit = false)
    (hrest' : ∀ c ∈ rest'.head?, c.isDigit = false) (h : ds ++ rest = ds' ++ rest') :
    ds = ds' ∧ rest = rest' := by
  have hsplit := congrArg splitDigits h
  rw [splitDigits_append_of_isDigit hds hrest, splitDigits_append_of_isDigit hds' hrest'] at hsplit
  exact Prod.mk.inj hsplit

/-- The value of digits that follow a number. -/
def valueAfter (n : Nat) (ds : List Char) : Nat := ds.foldl (fun n d => 10 * n + digitValue d) n

theorem value_append (ds es : List Char) : value (ds ++ es) = valueAfter (value ds) es :=
  List.foldl_append

theorem le_valueAfter (n : Nat) (ds : List Char) : n ≤ valueAfter n ds := by
  induction ds generalizing n with
  | nil => exact Nat.le_refl n
  | cons d ds ih => exact Nat.le_trans (by omega) (ih (10 * n + digitValue d))

theorem toList_numeral (n : Nat) : (numeral n).toList = Nat.toDigits 10 n :=
  Nat.toList_repr

theorem isDigit_numeral (n : Nat) : ∀ c ∈ (numeral n).toList, c.isDigit = true := by
  rw [toList_numeral]
  exact fun c hc => Nat.isDigit_of_mem_toDigits (by decide) (by decide) hc

/-- A numeral in front of something that begins with no digit can be read back. -/
theorem numeral_append_inj {m n : Nat} {rest rest' : List Char}
    (hrest : ∀ c ∈ rest.head?, c.isDigit = false) (hrest' : ∀ c ∈ rest'.head?, c.isDigit = false)
    (h : (numeral m).toList ++ rest = (numeral n).toList ++ rest') : m = n ∧ rest = rest' := by
  obtain ⟨hdigits, rfl⟩ :=
    append_inj_of_isDigit (isDigit_numeral m) (isDigit_numeral n) hrest hrest' h
  rw [toList_numeral, toList_numeral] at hdigits
  have hvalue := congrArg (Nat.ofDigitChars 10 · 0) hdigits
  simp only [Nat.ofDigitChars_toDigits (b := 10) (by decide) (by decide)] at hvalue
  exact ⟨hvalue, rfl⟩

theorem toNat_of_isDigit {c : Char} (h : c.isDigit = true) : 48 ≤ c.toNat ∧ c.toNat ≤ 57 := by
  simpa [Char.isDigit, UInt32.le_iff_toNat_le] using h

theorem utf8Size_of_isDigit {c : Char} (h : c.isDigit = true) : c.utf8Size = 1 := by
  have hle : c.toNat ≤ 57 := (toNat_of_isDigit h).2
  rw [Char.utf8Size_eq_one_iff, UInt32.le_iff_toNat_le]
  exact Nat.le_trans hle (by decide)

theorem utf8ByteSize_ofList_of_isDigit {ds : List Char} (h : ∀ c ∈ ds, c.isDigit = true) :
    (String.ofList ds).utf8ByteSize = ds.length := by
  induction ds with
  | nil => rfl
  | cons c cs ih =>
    obtain ⟨hc, hcs⟩ := List.forall_mem_cons.1 h
    rw [String.ofList_cons, String.utf8ByteSize_append, String.utf8ByteSize_singleton,
      utf8Size_of_isDigit hc, ih hcs, List.length_cons, Nat.add_comm]

/-- There are as many bytes in front of the first other character as there are digits. -/
theorem isValid_splitDigits (cs : List Char) :
    String.Pos.Raw.IsValid (String.ofList cs) ⟨(splitDigits cs).1.length⟩ := by
  rw [String.Pos.Raw.isValid_iff_exists_append]
  refine ⟨String.ofList (splitDigits cs).1, String.ofList (splitDigits cs).2, ?_, ?_⟩
  · rw [← String.ofList_append, splitDigits_append]
  · rw [String.rawEndPos, utf8ByteSize_ofList_of_isDigit (splitDigits_fst_digits cs)]

/-! ## Letters -/

theorem toNat_of_isLower_toLower {c : Char} (h : c.toLower.isLower = true) :
    65 ≤ c.toNat ∧ c.toNat ≤ 90 ∨ 97 ≤ c.toNat ∧ c.toNat ≤ 122 := by
  unfold Char.toLower at h
  split at h
  case isTrue hc =>
    left
    simpa [UInt32.le_iff_toNat_le] using hc
  case isFalse =>
    right
    change (decide (97 ≤ c.val) && decide (c.val ≤ 122)) = true at h
    simpa [UInt32.le_iff_toNat_le] using h

/-- A letter is no digit. -/
theorem isDigit_of_isLower_toLower {c : Char} (h : c.toLower.isLower = true) :
    c.isDigit = false := by
  refine Bool.eq_false_iff.2 fun hd => ?_
  have hletter := toNat_of_isLower_toLower h
  have hdigit := toNat_of_isDigit hd
  omega

/-! ## Blank characters -/

/-- No character of ASCII that shows is blank. -/
theorem isBlank_of_lt {c : Char} (hlo : 32 < c.toNat) (hhi : c.toNat < 127) :
    isBlank c = false := by
  simp only [isBlank, Bool.or_eq_false_iff, Bool.and_eq_false_iff, decide_eq_false_iff_not,
    beq_eq_false_iff_ne]
  omega

theorem isBlank_of_isDigit {c : Char} (h : c.isDigit = true) : isBlank c = false := by
  obtain ⟨hlo, hhi⟩ := toNat_of_isDigit h
  exact isBlank_of_lt (by omega) (by omega)

theorem isBlank_of_isLower_toLower {c : Char} (h : c.toLower.isLower = true) :
    isBlank c = false := by
  have hletter := toNat_of_isLower_toLower h
  exact isBlank_of_lt (by omega) (by omega)

theorem trimEnd_eq_nil {back : List Char} (h : ∀ c ∈ back, isBlank c = true) :
    trimEnd back = [] := by
  induction back with
  | nil => rfl
  | cons c cs ih =>
    obtain ⟨hc, hcs⟩ := List.forall_mem_cons.1 h
    simp [trimEnd, ih hcs, hc]

theorem trimEnd_append {back : List Char} (cs : List Char) (h : ∀ c ∈ back, isBlank c = true) :
    trimEnd (cs ++ back) = trimEnd cs := by
  induction cs with
  | nil => exact trimEnd_eq_nil h
  | cons c cs ih => simp only [List.cons_append, trimEnd, ih]

theorem trimEnd_of_getLast? {cs : List Char} (h : ∀ c ∈ cs.getLast?, isBlank c = false) :
    trimEnd cs = cs := by
  induction cs with
  | nil => rfl
  | cons c cs ih =>
    cases cs with
    | nil => simp [trimEnd, h c rfl]
    | cons d ds => rw [trimEnd, ih fun e he => h e (by simpa using he)]

theorem exists_append_trimEnd (cs : List Char) :
    ∃ back, (∀ c ∈ back, isBlank c = true) ∧ trimEnd cs ++ back = cs := by
  induction cs with
  | nil => exact ⟨[], by simp, rfl⟩
  | cons c cs ih =>
    obtain ⟨back, hback, happend⟩ := ih
    cases htrim : trimEnd cs with
    | nil =>
      obtain rfl : back = cs := by simpa [htrim] using happend
      cases hc : isBlank c with
      | true => exact ⟨c :: back, by simpa [hc] using hback, by simp [trimEnd, htrim, hc]⟩
      | false => exact ⟨back, hback, by simp [trimEnd, htrim, hc]⟩
    | cons d ds => exact ⟨back, hback, by simpa [trimEnd, htrim] using happend⟩

/-- What stands between blank characters, and has none at its ends, is what is left. -/
theorem trimChars_append {front core back : List Char} (hfront : ∀ c ∈ front, isBlank c = true)
    (hback : ∀ c ∈ back, isBlank c = true) (hhead : ∀ c ∈ core.head?, isBlank c = false)
    (hlast : ∀ c ∈ core.getLast?, isBlank c = false) :
    trimChars (front ++ core ++ back) = core := by
  rw [trimChars, List.append_assoc, List.dropWhile_append_of_pos hfront]
  cases core with
  | nil =>
    rw [List.nil_append, ← List.append_nil back, List.dropWhile_append_of_pos hback]
    rfl
  | cons c cs =>
    rw [List.cons_append, List.dropWhile_cons_of_neg (by simp [hhead c rfl]), ← List.cons_append,
      trimEnd_append _ hback, trimEnd_of_getLast? hlast]

/-- What is taken away is blank. -/
theorem exists_append_trimChars (cs : List Char) :
    ∃ front back, (∀ c ∈ front, isBlank c = true) ∧ (∀ c ∈ back, isBlank c = true) ∧
      front ++ trimChars cs ++ back = cs := by
  obtain ⟨back, hback, happend⟩ := exists_append_trimEnd (cs.dropWhile isBlank)
  refine ⟨cs.takeWhile isBlank, back, List.all_eq_true.1 List.all_takeWhile, hback, ?_⟩
  rw [trimChars, List.append_assoc, happend, List.takeWhile_append_dropWhile]

/-- A text that is blank at neither end. -/
def Trimmed (cs : List Char) : Prop :=
  (∀ c ∈ cs.head?, isBlank c = false) ∧ ∀ c ∈ cs.getLast?, isBlank c = false

/-- A text is another one with blank space around it. -/
def IsAround (core text : List Char) : Prop :=
  ∃ front back, (∀ c ∈ front, isBlank c = true) ∧ (∀ c ∈ back, isBlank c = true) ∧
    front ++ core ++ back = text

theorem getLast?_trimEnd (cs : List Char) : ∀ c ∈ (trimEnd cs).getLast?, isBlank c = false := by
  induction cs with
  | nil => simp [trimEnd]
  | cons c cs ih =>
    cases htrim : trimEnd cs with
    | nil => cases hc : isBlank c <;> simp [trimEnd, htrim, hc]
    | cons d ds => simpa [trimEnd, htrim] using ih

theorem head?_trimEnd (cs : List Char) : ∀ c ∈ (trimEnd cs).head?, c ∈ cs.head? := by
  cases cs with
  | nil => simp [trimEnd]
  | cons c cs =>
    cases htrim : trimEnd cs with
    | nil => cases hc : isBlank c <;> simp [trimEnd, htrim, hc]
    | cons d ds => simp [trimEnd, htrim]

theorem trimmed_trimChars (cs : List Char) : Trimmed (trimChars cs) := by
  refine ⟨fun c hc => ?_, getLast?_trimEnd _⟩
  have hhead := head?_trimEnd _ c hc
  simpa [Option.mem_def.1 hhead] using List.head?_dropWhile_not isBlank cs

theorem trimChars_eq_iff {core cs : List Char} :
    trimChars cs = core ↔ Trimmed core ∧ IsAround core cs := by
  constructor
  · rintro rfl
    exact ⟨trimmed_trimChars cs, exists_append_trimChars cs⟩
  · rintro ⟨htrimmed, front, back, hfront, hback, rfl⟩
    exact trimChars_append hfront hback htrimmed.1 htrimmed.2

end LoadHarness.Text
