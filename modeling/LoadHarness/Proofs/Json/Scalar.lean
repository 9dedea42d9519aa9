import LoadHarness.Proofs.Json.Grammar
import LoadHarness.Proofs.Json.RoundTrip
import LoadHarness.Proofs.Text

/-!
# Reading strings and numbers

What the readers of strings and numbers take off a text is what is written there. Each reader has
two lemmas : what it gives back is written in front of the rest, and whatever is written is given
back, if what follows does not go on with it.

A string ends at its quote, so that anything may follow (`stringBody_charsText`,
`charsText_of_stringBody`). A number ends where no digit, point or exponent comes next
(`EndsNumber`), and is read if it is in range (`numeral_append`, `numberText_of_numeral`).
-/

namespace LoadHarness.Json

theorem map_eq_ok_iff {ε α β : Type} {x : Except ε α} {f : α → β} {b : β} :
    x.map f = .ok b ↔ ∃ a, x = .ok a ∧ f a = b := by
  cases x <;> simp [Except.map]

/-! ## Units -/

theorem hexText_of_hexValue? {c : Char} {n : Nat} (h : hexValue? c = some n) :
    n < 16 ∧ HexText n c := by
  have hlt : c.toNat < 0x67 := by
    simp only [hexValue?, Bool.and_eq_true, decide_eq_true_eq] at h
    split at h
    case isTrue => omega
    case isFalse =>
      split at h
      case isTrue => omega
      case isFalse =>
        split at h
        case isTrue => omega
        case isFalse => cases h
  have hall : ∀ k < 0x67, ∀ n ∈ hexValue? (Char.ofNat k), n < 16 ∧
      (Char.ofNat k = hexDigit n ∨ Char.ofNat k = (hexDigit n).toUpper) := by decide
  have hc := hall c.toNat hlt n
  rw [Char.ofNat_toNat] at hc
  exact hc h

theorem hexValue?_of_hexText {c : Char} {n : Nat} (hn : n < 16) (h : HexText n c) :
    hexValue? c = some n ∧ c.utf8Size = 1 := by
  have hall : ∀ n < 16, (hexValue? (hexDigit n) = some n ∧ (hexDigit n).utf8Size = 1) ∧
      hexValue? (hexDigit n).toUpper = some n ∧ (hexDigit n).toUpper.utf8Size = 1 := by decide
  obtain rfl | rfl := h
  · exact (hall n hn).1
  · exact (hall n hn).2

/-- Four hexadecimal digits are read as the unit that they write. -/
theorem hexQuad_eq_ok_iff {cs rest : List Char} {n : Nat} :
    hexQuad cs = .ok (n, rest) ↔ ∃ ts, UnitText n ts ∧ ts ++ rest = cs := by
  constructor
  · intro h
    unfold hexQuad at h
    split at h
    · cases h
    · split at h
      case h_2 => cases h
      case h_1 a b c d rest' _ =>
        split at h
        case h_2 => cases h
        case h_1 i j k l hi hj hk hl =>
          obtain ⟨rfl, rfl⟩ := Prod.mk.inj (Except.ok.inj h)
          obtain ⟨hi, ha⟩ := hexText_of_hexValue? hi
          obtain ⟨hj, hb⟩ := hexText_of_hexValue? hj
          obtain ⟨hk, hc⟩ := hexText_of_hexValue? hk
          obtain ⟨hl, hd⟩ := hexText_of_hexValue? hl
          refine ⟨[a, b, c, d], ⟨by omega, a, b, c, d, ?_, ?_, ?_, ?_, rfl⟩, rfl⟩
          · rwa [show (((i * 16 + j) * 16 + k) * 16 + l) / 0x1000 = i by omega]
          · rwa [show (((i * 16 + j) * 16 + k) * 16 + l) / 0x100 % 16 = j by omega]
          · rwa [show (((i * 16 + j) * 16 + k) * 16 + l) / 0x10 % 16 = k by omega]
          · rwa [show (((i * 16 + j) * 16 + k) * 16 + l) % 16 = l by omega]
  · rintro ⟨ts, ⟨hn, a, b, c, d, ha, hb, hc, hd, rfl⟩, rfl⟩
    obtain ⟨ha, ha'⟩ := hexValue?_of_hexText (by omega) ha
    obtain ⟨hb, hb'⟩ := hexValue?_of_hexText (by omega) hb
    obtain ⟨hc, hc'⟩ := hexValue?_of_hexText (by omega) hc
    obtain ⟨hd, hd'⟩ := hexValue?_of_hexText (by omega) hd
    have hsum : ((n / 0x1000 * 16 + n / 0x100 % 16) * 16 + n / 0x10 % 16) * 16 + n % 16 = n := by
      omega
    simp [hexQuad, ha, hb, hc, hd, ha', hb', hc', hd', hsum]

theorem hexQuad_append {ts : List Char} {n : Nat} (h : UnitText n ts) (rest : List Char) :
    hexQuad (ts ++ rest) = .ok (n, rest) :=
  hexQuad_eq_ok_iff.2 ⟨ts, h, rfl⟩

/-! ## Escapes -/

theorem toNat_ofNat {n : Nat} (h : n.isValidChar) : (Char.ofNat n).toNat = n := by
  rw [Char.ofNat, dif_pos h]
  rfl

/-- A character has no number in between those of a surrogate pair, and none above the last one. -/
theorem toNat_range (c : Char) : c.toNat < 0xD800 ∨ 0xDFFF < c.toNat ∧ c.toNat < 0x110000 :=
  c.valid

theorem isTrailing_iff {n : Nat} : isTrailing n = true ↔ 0xDC00 ≤ n ∧ n ≤ 0xDFFF := by
  simp [isTrailing]

theorem isLeading_iff {n : Nat} : isLeading n = true ↔ 0xD800 ≤ n ∧ n ≤ 0xDBFF := by
  simp [isLeading]

/-- A pair of units is the one character that it is made from. -/
theorem pairChar_spec {m n : Nat} (hm : isLeading m = true) (hn : isTrailing n = true) :
    0x10000 ≤ (pairChar m n).toNat ∧ leading (pairChar m n) = m ∧ trailing (pairChar m n) = n := by
  rw [isLeading_iff] at hm
  rw [isTrailing_iff] at hn
  have hvalid : (0x10000 + (m - 0xD800) * 0x400 + (n - 0xDC00)).isValidChar := by
    refine .inr ⟨?_, ?_⟩ <;> omega
  rw [leading, trailing, pairChar, toNat_ofNat hvalid]
  omega

theorem pairChar_leading {c : Char} (h : 0x10000 ≤ c.toNat) :
    isLeading (leading c) = true ∧ isTrailing (leading c) = false ∧
      isTrailing (trailing c) = true ∧ pairChar (leading c) (trailing c) = c := by
  have hrange := toNat_range c
  have hleading : isLeading (leading c) = true := by
    rw [isLeading_iff, leading]
    omega
  have hnot : isTrailing (leading c) = false := by
    rw [Bool.eq_false_iff, ne_eq, isTrailing_iff, leading]
    omega
  have htrailing : isTrailing (trailing c) = true := by
    rw [isTrailing_iff, trailing]
    omega
  have hsum : 0x10000 + (leading c - 0xD800) * 0x400 + (trailing c - 0xDC00) = c.toNat := by
    rw [leading, trailing]
    omega
  exact ⟨hleading, hnot, htrailing, by rw [pairChar, hsum, Char.ofNat_toNat]⟩

theorem charText_of_trailingHalf {cs rest : List Char} {c : Char} {m : Nat}
    (hm : isLeading m = true) (h : trailingHalf m cs = .ok (c, rest)) :
    ∃ ts, UnitText (trailing c) ts ∧ 0x10000 ≤ c.toNat ∧ leading c = m ∧
      '\\' :: 'u' :: ts ++ rest = cs := by
  unfold trailingHalf at h
  split at h
  case h_1 => cases h
  case h_2 => cases h
  case h_4 => cases h
  case h_3 cs =>
    cases hquad : hexQuad cs with
    | error e => simp [hquad] at h
    | ok p =>
      obtain ⟨n, rest'⟩ := p
      simp only [hquad] at h
      split at h
      case isFalse => cases h
      case isTrue hn =>
        obtain ⟨rfl, rfl⟩ : pairChar m n = c ∧ rest' = rest := by simpa using h
        obtain ⟨hle, hleading, htrailing⟩ := pairChar_spec hm hn
        obtain ⟨ts, hts, rfl⟩ := hexQuad_eq_ok_iff.1 hquad
        exact ⟨ts, by rwa [htrailing], hle, hleading, rfl⟩

/-- What is read behind a backslash is how a character is escaped. -/
theorem charText_of_unescape {cs rest : List Char} {c : Char} (h : unescape cs = .ok (c, rest)) :
    ∃ ts, CharText c ('\\' :: ts) ∧ ts ++ rest = cs := by
  unfold unescape at h
  split at h
  case h_10 cs =>
    unfold unicodeEscape at h
    cases hquad : hexQuad cs with
    | error e => simp [hquad] at h
    | ok p =>
      obtain ⟨n, rest'⟩ := p
      obtain ⟨ts, hts, rfl⟩ := hexQuad_eq_ok_iff.1 hquad
      simp only [hquad] at h
      split at h
      case isTrue => cases h
      case isFalse htrailing =>
        split at h
        case isTrue hleading =>
          obtain ⟨us, hus, hle, rfl, rfl⟩ := charText_of_trailingHalf hleading h
          exact ⟨'u' :: ts ++ '\\' :: 'u' :: us, .pair hle hts hus, by simp⟩
        case isFalse hleading =>
          obtain ⟨rfl, rfl⟩ : Char.ofNat n = c ∧ rest' = rest := by simpa using h
          -- A unit that is no half of a pair is a character by itself.
          have hvalid : n.isValidChar := by
            rw [isTrailing_iff] at htrailing
            rw [isLeading_iff] at hleading
            have hlt := hts.1
            change n < 0xD800 ∨ 0xDFFF < n ∧ n < 0x110000
            omega
          exact ⟨'u' :: ts, .unit (by rwa [toNat_ofNat hvalid]), rfl⟩
  case h_1 => cases h
  case h_11 => cases h
  all_goals
    obtain ⟨rfl, rfl⟩ := Prod.mk.inj (Except.ok.inj h)
    exact ⟨_, .letter (by simp [letters]), rfl⟩

theorem unescape_letter {c l : Char} (h : (c, l) ∈ letters) (rest : List Char) :
    unescape (l :: rest) = .ok (c, rest) := by
  have hall : ∀ p ∈ letters, ∀ rest, unescape (p.2 :: rest) = .ok (p.1, rest) := by
    simp [letters, unescape]
  exact hall (c, l) h rest

theorem unescape_unit {c : Char} {ts : List Char} (h : UnitText c.toNat ts) (rest : List Char) :
    unescape ('u' :: ts ++ rest) = .ok (c, rest) := by
  have hrange := toNat_range c
  have htrailing : ¬ isTrailing c.toNat = true := by
    rw [isTrailing_iff]
    omega
  have hleading : ¬ isLeading c.toNat = true := by
    rw [isLeading_iff]
    omega
  simp only [List.cons_append, unescape, unicodeEscape, hexQuad_append h, if_neg htrailing,
    if_neg hleading, Char.ofNat_toNat]

theorem unescape_pair {c : Char} {ts us : List Char} (h : 0x10000 ≤ c.toNat)
    (hts : UnitText (leading c) ts) (hus : UnitText (trailing c) us) (rest : List Char) :
    unescape ('u' :: ts ++ '\\' :: 'u' :: us ++ rest) = .ok (c, rest) := by
  obtain ⟨hleading, hnot, htrailing, hpair⟩ := pairChar_leading h
  simp [unescape, unicodeEscape, hexQuad_append hts, hnot, hleading, trailingHalf,
    hexQuad_append hus, htrailing, hpair]

/-! ## Strings -/

/-- However a character is written, it is read as that character. -/
theorem stringBody_charText {c : Char} {ts : List Char} (h : CharText c ts) (rest : List Char) :
    stringBody (ts ++ rest) = (stringBody rest).map fun p => (c :: p.1, p.2) := by
  cases h with
  | plain hquote hslash hc => exact stringBody_plain hquote hslash (Nat.not_lt.2 hc) rest
  | letter h => exact stringBody_backslash (unescape_letter h rest)
  | unit h => exact stringBody_backslash (unescape_unit h rest)
  | pair h hleading htrailing =>
    exact stringBody_backslash (unescape_pair h hleading htrailing rest)

theorem stringBody_charsText {cs ts : List Char} (h : CharsText cs ts) (rest : List Char) :
    stringBody (ts ++ '"' :: rest) = .ok (cs, rest) := by
  induction h with
  | nil => rw [List.nil_append, stringBody]
  | cons hc hcs ih => rw [List.append_assoc, stringBody_charText hc, ih]; rfl

/-- What is read up to the closing quote is what is written there. -/
theorem charsText_of_stringBody {cs rest s : List Char} (h : stringBody cs = .ok (s, rest)) :
    ∃ ts, CharsText s ts ∧ ts ++ '"' :: rest = cs := by
  fun_induction stringBody cs generalizing s with
  | case1 => cases h
  | case2 cs =>
    obtain ⟨rfl, rfl⟩ := Prod.mk.inj (Except.ok.inj h)
    exact ⟨[], .nil, rfl⟩
  | case3 => cases h
  | case4 cs c rest' hc _ ih =>
    obtain ⟨⟨s, rest⟩, hs, hcons⟩ := map_eq_ok_iff.1 h
    obtain ⟨rfl, rfl⟩ := Prod.mk.inj hcons
    obtain ⟨ts, hts, rfl⟩ := charText_of_unescape hc
    obtain ⟨us, hus, rfl⟩ := ih hs
    exact ⟨_, .cons hts hus, by simp⟩
  | case5 => cases h
  | case6 cs c hquote hslash hc ih =>
    obtain ⟨⟨s, rest⟩, hs, hcons⟩ := map_eq_ok_iff.1 h
    obtain ⟨rfl, rfl⟩ := Prod.mk.inj hcons
    obtain ⟨us, hus, rfl⟩ := ih hs
    exact ⟨_, .cons (.plain hquote hslash (Nat.not_lt.1 hc)) hus, rfl⟩

/-! ## Numbers -/

/-- No digit comes next. -/
def NoDigit (rest : List Char) : Prop := ∀ c ∈ rest.head?, c.isDigit = false

/-- What comes next is none of the characters that numbers have. -/
structure EndsNumber (rest : List Char) : Prop where
  noDigit : NoDigit rest
  notMem : ∀ c ∈ rest.head?, c ≠ '.' ∧ c ≠ 'e' ∧ c ≠ 'E'

theorem digits_of_someDigits {cs rest ds : List Char} (h : someDigits cs = .ok (ds, rest)) :
    Digits ds ∧ ds ++ rest = cs := by
  have hdigits := Text.splitDigits_fst_digits cs
  have happend := Text.splitDigits_append cs
  unfold someDigits at h
  generalize Text.splitDigits cs = p at h hdigits happend
  obtain ⟨front, back⟩ := p
  cases front with
  | nil => cases back <;> cases h
  | cons d front =>
    obtain ⟨rfl, rfl⟩ := Prod.mk.inj (Except.ok.inj h)
    exact ⟨⟨List.cons_ne_nil d front, hdigits⟩, happend⟩

theorem someDigits_append {ds rest : List Char} (h : Digits ds) (hrest : NoDigit rest) :
    someDigits (ds ++ rest) = .ok (ds, rest) := by
  obtain ⟨d, ds, rfl⟩ := List.exists_cons_of_ne_nil h.1
  rw [someDigits, Text.splitDigits_append_of_isDigit h.2 hrest]

theorem wholeText_of_wholePart {cs rest ds : List Char} (h : wholePart cs = .ok (ds, rest)) :
    WholeText ds ∧ ds ++ rest = cs := by
  unfold wholePart at h
  split at h
  case h_1 => cases h
  case h_2 => cases h
  case h_3 p hzero hread =>
    obtain rfl := Except.ok.inj h
    obtain ⟨hdigits, happend⟩ := digits_of_someDigits hread
    refine ⟨⟨hdigits, fun hhead => ?_⟩, happend⟩
    obtain _ | ⟨d, _ | ⟨e, ds⟩⟩ := ds
    · cases hhead
    · simpa using hhead
    · obtain rfl : d = '0' := by simpa using hhead
      exact (hzero e ds rest rfl).elim

theorem wholePart_append {ds rest : List Char} (h : WholeText ds) (hrest : NoDigit rest) :
    wholePart (ds ++ rest) = .ok (ds, rest) := by
  unfold wholePart
  rw [someDigits_append h.1 hrest]
  split
  case h_1 he => cases he
  case h_2 d ds' rest' he =>
    obtain ⟨rfl, -⟩ := Prod.mk.inj (Except.ok.inj he)
    cases h.2 rfl
  case h_3 he => exact he.symm

theorem fractionText_of_fractionPart {cs rest ds : List Char}
    (h : fractionPart cs = .ok (ds, rest)) : ∃ ts, FractionText ds ts ∧ ts ++ rest = cs := by
  unfold fractionPart at h
  split at h
  case h_1 =>
    obtain ⟨hdigits, rfl⟩ := digits_of_someDigits h
    exact ⟨_, .point hdigits, rfl⟩
  case h_2 =>
    obtain ⟨rfl, rfl⟩ := Prod.mk.inj (Except.ok.inj h)
    exact ⟨_, .omitted, rfl⟩

theorem fractionPart_append {ds ts rest : List Char} (h : FractionText ds ts)
    (hrest : NoDigit rest) (hpoint : ∀ c ∈ rest.head?, c ≠ '.') :
    fractionPart (ts ++ rest) = .ok (ds, rest) := by
  cases h with
  | point h => exact someDigits_append h hrest
  | omitted =>
    rw [List.nil_append, fractionPart]
    rintro cs rfl
    exact hpoint '.' rfl rfl

theorem signText_of_exponentSign {cs rest : List Char} {negative : Bool}
    (h : exponentSign cs = (negative, rest)) : ∃ ts, SignText negative ts ∧ ts ++ rest = cs := by
  unfold exponentSign at h
  split at h
  case h_1 =>
    obtain ⟨rfl, rfl⟩ := Prod.mk.inj h
    exact ⟨_, .minus, rfl⟩
  case h_2 =>
    obtain ⟨rfl, rfl⟩ := Prod.mk.inj h
    exact ⟨_, .plus, rfl⟩
  case h_3 =>
    obtain ⟨rfl, rfl⟩ := Prod.mk.inj h
    exact ⟨_, .omitted, rfl⟩

theorem exponentSign_append {ts ds : List Char} {negative : Bool} (h : SignText negative ts)
    (hds : Digits ds) (rest : List Char) :
    exponentSign (ts ++ (ds ++ rest)) = (negative, ds ++ rest) := by
  obtain ⟨d, ds, rfl⟩ := List.exists_cons_of_ne_nil hds.1
  have hd := hds.2 d (List.mem_cons_self)
  cases h with
  | plus => rfl
  | minus => rfl
  | omitted =>
    have hminus : d ≠ '-' := fun he => by simp [he] at hd
    have hplus : d ≠ '+' := fun he => by simp [he] at hd
    simp [exponentSign, hminus, hplus]

theorem exponentText_of_exponentPart {cs rest : List Char} {e : Option Int}
    (h : exponentPart cs = .ok (e, rest)) : ∃ ts, ExponentText e ts ∧ ts ++ rest = cs := by
  unfold exponentPart at h
  split at h
  case h_2 =>
    obtain ⟨rfl, rfl⟩ := Prod.mk.inj (Except.ok.inj h)
    exact ⟨_, .omitted, rfl⟩
  case h_1 c cs =>
    split at h
    case isFalse =>
      obtain ⟨rfl, rfl⟩ := Prod.mk.inj (Except.ok.inj h)
      exact ⟨_, .omitted, rfl⟩
    case isTrue hletter =>
      rcases hsign : exponentSign cs with ⟨negative, after⟩
      rw [hsign] at h
      obtain ⟨⟨ds, rest⟩, hds, hpair⟩ := map_eq_ok_iff.1 h
      obtain ⟨rfl, rfl⟩ := Prod.mk.inj hpair
      obtain ⟨hdigits, rfl⟩ := digits_of_someDigits hds
      obtain ⟨ts, hts, rfl⟩ := signText_of_exponentSign hsign
      exact ⟨_, .power (by simpa using hletter) hts hdigits, by simp⟩

theorem exponentPart_append {e : Option Int} {ts rest : List Char} (h : ExponentText e ts)
    (hrest : EndsNumber rest) : exponentPart (ts ++ rest) = .ok (e, rest) := by
  cases h with
  | omitted =>
    cases rest with
    | nil => rfl
    | cons c rest =>
      have hc := hrest.notMem c rfl
      simp [exponentPart, hc]
  | power hletter hsign hds =>
    have hletter := decide_eq_true hletter
    rw [Bool.decide_or] at hletter
    simp only [List.cons_append, List.append_assoc, exponentPart, hletter, if_true,
      exponentSign_append hsign hds, someDigits_append hds hrest.noDigit, Except.map]

theorem numberText_of_unsigned {cs rest : List Char} {negative : Bool} {n : Number}
    (h : unsigned negative cs = .ok (n, rest)) :
    n.inRange = true ∧
      ∃ ts, NumberText n ts ∧ ts ++ rest = (if negative then ['-'] else []) ++ cs := by
  unfold unsigned at h
  split at h
  case h_1 => cases h
  case h_2 hwhole =>
    split at h
    case h_1 => cases h
    case h_2 hfraction =>
      split at h
      case h_1 => cases h
      case h_2 hexponent =>
        dsimp only at h
        split at h
        case isFalse => cases h
        case isTrue hrange =>
          obtain ⟨rfl, rfl⟩ := Prod.mk.inj (Except.ok.inj h)
          obtain ⟨hds, rfl⟩ := wholeText_of_wholePart hwhole
          obtain ⟨ts, hts, rfl⟩ := fractionText_of_fractionPart hfraction
          obtain ⟨us, hus, rfl⟩ := exponentText_of_exponentPart hexponent
          exact ⟨hrange, _, .intro hds hts hus, by simp⟩

/-- What is read as a number is written as it, and in range. -/
theorem numberText_of_numeral {cs rest : List Char} {n : Number}
    (h : numeral cs = .ok (n, rest)) :
    n.inRange = true ∧ ∃ ts, NumberText n ts ∧ ts ++ rest = cs := by
  unfold numeral at h
  split at h
  case h_1 => simpa using numberText_of_unsigned h
  case h_2 => simpa using numberText_of_unsigned h

theorem noDigit_append_of_exponentText {e : Option Int} {ts rest : List Char}
    (h : ExponentText e ts) (hrest : EndsNumber rest) :
    NoDigit (ts ++ rest) ∧ ∀ c ∈ (ts ++ rest).head?, c ≠ '.' := by
  cases h with
  | omitted => exact ⟨hrest.noDigit, fun c hc => (hrest.notMem c hc).1⟩
  | power hletter => obtain rfl | rfl := hletter <;> simp [NoDigit]

theorem noDigit_append_of_fractionText {ds ts rest : List Char} (h : FractionText ds ts)
    (hrest : NoDigit rest) : NoDigit (ts ++ rest) := by
  cases h with
  | omitted => exact hrest
  | point => simp [NoDigit]

theorem unsigned_append {negative : Bool} {whole fraction ts us rest : List Char}
    {exponent : Option Int} (hwhole : WholeText whole) (hfraction : FractionText fraction ts)
    (hexponent : ExponentText exponent us)
    (hn : (Number.mk negative whole fraction exponent).inRange = true) (hrest : EndsNumber rest) :
    unsigned negative (whole ++ (ts ++ (us ++ rest))) =
      .ok (⟨negative, whole, fraction, exponent⟩, rest) := by
  obtain ⟨hdigit, hpoint⟩ := noDigit_append_of_exponentText hexponent hrest
  simp only [unsigned, wholePart_append hwhole (noDigit_append_of_fractionText hfraction hdigit),
    fractionPart_append hfraction hdigit hpoint, exponentPart_append hexponent hrest, hn, if_true]

theorem numeral_append {ts rest : List Char} {n : Number} (h : NumberText n ts)
    (hn : n.inRange = true) (hrest : EndsNumber rest) : numeral (ts ++ rest) = .ok (n, rest) := by
  cases h with
  | @intro negative whole fraction ts us exponent hwhole hfraction hexponent =>
    have hread := unsigned_append hwhole hfraction hexponent hn hrest
    cases negative with
    | true => simpa [numeral] using hread
    | false =>
      obtain ⟨d, ds, rfl⟩ := List.exists_cons_of_ne_nil hwhole.1.1
      have hd := hwhole.1.2 d (List.mem_cons_self)
      have hminus : d ≠ '-' := fun he => by simp [he] at hd
      simpa [numeral, hminus] using hread

end LoadHarness.Json
