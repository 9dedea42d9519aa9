import LoadHarness.Json.Reader
import LoadHarness.Json.Writer
import LoadHarness.Message

/-!
# Reading what was written

What is written for a character inside a string is read as that character, whatever follows
(`Json.stringBody_escape`), hence a string as that string, and an object of strings as the object
with these members in this order (`Json.read_textObject`).

The frame of a request is such an object. So its two members are the texts of the request, its
identifier is found in it, and no other request has the same frame (`Request.frame_decodes`).
-/

namespace LoadHarness

namespace Json

/-! ## Strings -/

theorem hexValue?_hexDigit : ∀ n < 16, hexValue? (hexDigit n) = some n := by decide

theorem utf8Size_hexDigit : ∀ n < 16, (hexDigit n).utf8Size = 1 := by decide

/-- A control character is read back from its number. -/
theorem unescape_control {c : Char} (hc : c.toNat < 0x20) (rest : List Char) :
    unescape ('u' :: '0' :: '0' :: hexDigit (c.toNat / 16) :: hexDigit (c.toNat % 16) :: rest)
      = .ok (c, rest) := by
  have hhigh : c.toNat / 16 < 16 := by omega
  have hlow : c.toNat % 16 < 16 := Nat.mod_lt _ (by decide)
  have hquad : hexQuad ('0' :: '0' :: hexDigit (c.toNat / 16) :: hexDigit (c.toNat % 16) :: rest)
      = .ok (c.toNat, rest) := by
    have hzero : hexValue? '0' = some 0 := by decide
    have hsize : ('0' : Char).utf8Size = 1 := by decide
    have hsum : c.toNat / 16 * 16 + c.toNat % 16 = c.toNat := Nat.div_add_mod' _ 16
    simp [hexQuad, utf8Size_hexDigit _ hhigh, utf8Size_hexDigit _ hlow,
      hexValue?_hexDigit _ hhigh, hexValue?_hexDigit _ hlow, hzero, hsize, hsum]
  have htrailing : isTrailing c.toNat = false := by simp [isTrailing]; omega
  have hleading : isLeading c.toNat = false := by simp [isLeading]; omega
  simp [unescape, unicodeEscape, hquad, htrailing, hleading, Char.ofNat_toNat]

/-- Behind a backslash, what is escaped decides. -/
theorem stringBody_backslash {cs rest : List Char} {c : Char} (h : unescape cs = .ok (c, rest)) :
    stringBody ('\\' :: cs) = (stringBody rest).map fun p => (c :: p.1, p.2) := by
  rw [stringBody]
  split
  · rename_i e he
    rw [h] at he
    cases he
  · rename_i c' rest' he
    rw [h] at he
    cases he
    rfl

/-- A character that needs no escape is read as it is. -/
theorem stringBody_plain {c : Char} (hquote : c ≠ '"') (hslash : c ≠ '\\') (hc : ¬c.toNat < 0x20)
    (cs : List Char) : stringBody (c :: cs) = (stringBody cs).map fun p => (c :: p.1, p.2) := by
  rw [stringBody, if_neg hc]
  · exact fun h => hquote h
  · exact fun h => hslash h

/-- What is written for a character is read as that character. -/
theorem stringBody_escape (c : Char) (rest : List Char) :
    stringBody (escape c ++ rest) = (stringBody rest).map fun p => (c :: p.1, p.2) := by
  unfold escape
  -- Seven characters have an escape of their own.
  iterate 7
    split
    case isTrue h =>
      subst h
      exact stringBody_backslash rfl
  case isFalse hquote hslash _ _ _ _ _ =>
    split
    case isTrue hc => exact stringBody_backslash (unescape_control hc rest)
    case isFalse hc => exact stringBody_plain hquote hslash hc rest

/-- A string is read back from between its quotes. -/
theorem stringBody_escaped (cs rest : List Char) :
    stringBody (escaped cs ++ '"' :: rest) = .ok (cs, rest) := by
  induction cs with
  | nil => rw [escaped, List.flatMap_nil, List.nil_append, stringBody]
  | cons c cs ih =>
    rw [escaped, List.flatMap_cons, List.append_assoc, stringBody_escape, ← escaped, ih]
    rfl

theorem quoted_append (s : String) (rest : List Char) :
    quoted s ++ rest = '"' :: (escaped s.toList ++ '"' :: rest) := by
  simp [quoted]

/-! ## Objects of strings -/

theorem skipSpace_of_isSpace_eq_false {c : Char} (hc : isSpace c = false) (cs : List Char) :
    skipSpace (c :: cs) = c :: cs :=
  List.dropWhile_cons_of_neg (by simp [hc])

theorem value_quoted (depth : Nat) (s : String) (rest : List Char) :
    value depth (quoted s ++ rest) = .ok (.string s, rest) := by
  have hscalar : scalar (quoted s ++ rest) = .ok (.string s, rest) := by
    rw [quoted_append, scalar, stringBody_escaped]
    simp [Except.map]
  have hskip (cs : List Char) : skipSpace ('"' :: cs) = '"' :: cs :=
    skipSpace_of_isSpace_eq_false rfl cs
  rw [quoted_append] at hscalar ⊢
  cases depth with
  | zero => simpa [value, hskip] using hscalar
  | succ depth => simpa [value, hskip] using hscalar

theorem member_textMember (depth : Nat) (m : String × String) (rest : List Char) :
    member (value depth) (textMember m ++ rest) = .ok ((m.1, .string m.2), rest) := by
  rw [textMember, List.append_assoc, List.cons_append, quoted_append, member,
    skipSpace_of_isSpace_eq_false (c := '"') rfl]
  simp [stringBody_escaped, skipSpace_of_isSpace_eq_false (c := ':') rfl, value_quoted, Except.map]

/-- What stands between the braces of an object of strings. -/
def textMembers (ms : List (String × String)) : List Char :=
  List.intercalate [','] (ms.map textMember)

theorem textMembers_singleton (m : String × String) : textMembers [m] = textMember m := by
  simp [textMembers, List.intercalate]

theorem textMembers_cons_cons (m m' : String × String) (ms : List (String × String)) :
    textMembers (m :: m' :: ms) = textMember m ++ ',' :: textMembers (m' :: ms) := by
  simp [textMembers, List.intercalate]

/-- Members are long enough for the reader to reach the last one. -/
theorem length_lt_length_textMembers (m : String × String) (ms : List (String × String)) :
    ms.length < (textMembers (m :: ms)).length := by
  induction ms generalizing m with
  | nil => simp [textMembers_singleton, textMember, quoted]
  | cons m' ms ih =>
    have hrest := ih m'
    rw [textMembers_cons_cons, List.length_append, List.length_cons, List.length_cons]
    omega

theorem items_textMembers (depth : Nat) (m : String × String) (ms : List (String × String))
    {n : Nat} (hn : ms.length < n) (rest : List Char) :
    items (member (value depth)) '\x7d' n (textMembers (m :: ms) ++ '\x7d' :: rest)
      = .ok ((m :: ms).map fun m => (m.1, .string m.2), rest) := by
  induction ms generalizing m n with
  | nil =>
    obtain ⟨n, rfl⟩ := Nat.exists_eq_add_one_of_ne_zero (Nat.ne_zero_of_lt hn)
    rw [textMembers_singleton, items, member_textMember]
    simp [skipSpace_of_isSpace_eq_false (c := '\x7d') rfl]
  | cons m' ms ih =>
    obtain ⟨n, rfl⟩ := Nat.exists_eq_add_one_of_ne_zero (Nat.ne_zero_of_lt hn)
    have hrest := ih m' (Nat.lt_of_succ_lt_succ hn)
    rw [textMembers_cons_cons, List.append_assoc, items, member_textMember]
    simp [skipSpace_of_isSpace_eq_false (c := ',') rfl, hrest, Except.map]

theorem container_textMembers (depth : Nat) (ms : List (String × String)) (rest : List Char) :
    container (member (value depth)) '\x7d' (textMembers ms ++ '\x7d' :: rest)
      = .ok (ms.map fun m => (m.1, .string m.2), rest) := by
  cases ms with
  | nil => simp [container, textMembers, skipSpace_of_isSpace_eq_false (c := '\x7d') rfl]
  | cons m ms =>
    have hlength : ms.length < (textMembers (m :: ms) ++ '\x7d' :: rest).length := by
      have := length_lt_length_textMembers m ms
      rw [List.length_append]
      omega
    have hitems := items_textMembers depth m ms hlength rest
    obtain ⟨cs, hcs⟩ : ∃ cs, textMembers (m :: ms) = '"' :: cs := by
      cases ms <;> simp [textMembers, List.intercalate, textMember, quoted]
    rw [hcs, List.cons_append] at hitems ⊢
    rw [container, skipSpace_of_isSpace_eq_false (c := '"') rfl]
    simpa using hitems

/-- An object of strings is read as the object with these members in this order. -/
theorem read_textObject (ms : List (String × String)) :
    read (textObject ms) = .ok (.object (ms.map fun m => (m.1, .string m.2))) := by
  have hcontainer := container_textMembers 126 ms []
  unfold read readChars textObject
  rw [String.toList_ofList, ← textMembers, nestingLimit, value,
    skipSpace_of_isSpace_eq_false (c := '\x7b') rfl]
  simp [hcontainer, Except.map, skipSpace]

end Json

/-! ## Frames of requests -/

namespace Request

/-- The frame of a request is an object with its identifier and its payload and nothing else, its
identifier is found in it, and no other request has the same frame. -/
theorem frame_decodes (r : Request) :
    Json.read r.frame = .ok (.object [("id", .string r.id), ("payload", .string r.payload)])
      ∧ idOfFrame r.frame = .ok r.id
      ∧ ∀ r' : Request, r.frame = r'.frame ↔ r = r' := by
  have hread (r : Request) :
      Json.read r.frame = .ok (.object [("id", .string r.id), ("payload", .string r.payload)]) :=
    Json.read_textObject _
  have hid : idOfFrame r.frame = .ok r.id := by
    rw [idOfFrame, hread]
    rfl
  have heq (r' : Request) (h : r.frame = r'.frame) : r = r' := by
    have hobject := hread r
    rw [h, hread] at hobject
    cases r
    cases r'
    simpa [eq_comm] using hobject
  exact ⟨hread r, hid, fun r' => ⟨heq r', fun h => by rw [h]⟩⟩

example : (Request.mk "7" "say \"hi\"\n").frame
    = "\x7b\"id\":\"7\",\"payload\":\"say \\\"hi\\\"\\n\"\x7d" := by decide

end Request

end LoadHarness
