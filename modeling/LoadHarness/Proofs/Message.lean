import LoadHarness.Message

/-!
# The text of a response

The front of a text up to its last cut within a limit is the longest that the limit allows
(`isLongestFront_of_front?`). What is left of a text behind its longest front begins with a
character that the limit has no room for. A character takes at most four bytes, so the front
takes all of the limit but three bytes at most (`IsLongestFront.limit_le`).

`Response.display` shows a body up to such a cut, and so never cuts a character
(`Response.display_whole_or_longest`).
-/

namespace LoadHarness

namespace Text

variable {limit : Nat} {front text other : String}

/-- The longest part at the front of a text, of whole characters, within so many bytes. -/
structure IsLongestFront (limit : Nat) (front text : String) : Prop where
  isFront : front.toList <+: text.toList
  utf8ByteSize_le : front.utf8ByteSize ≤ limit
  longest : ∀ other : String, other.toList <+: text.toList → other.utf8ByteSize ≤ limit →
    other.toList <+: front.toList

theorem toList_isPrefix_iff : front.toList <+: text.toList ↔ ∃ rest, text = front ++ rest := by
  constructor
  · rintro ⟨rest, happend⟩
    refine ⟨String.ofList rest, ?_⟩
    rw [← String.toList_inj, String.toList_append, String.toList_ofList, happend]
  · rintro ⟨rest, rfl⟩
    rw [String.toList_append]
    exact List.prefix_append _ _

/-- Of two fronts of a text, the one with fewer bytes is a front of the other. -/
theorem isPrefix_of_utf8ByteSize_le (hother : other.toList <+: text.toList)
    (hfront : front.toList <+: text.toList) (hle : other.utf8ByteSize ≤ front.utf8ByteSize) :
    other.toList <+: front.toList := by
  rcases List.prefix_or_prefix_of_prefix hother hfront with h | h
  · exact h
  · obtain ⟨rest, rfl⟩ := toList_isPrefix_iff.1 h
    rw [String.utf8ByteSize_append] at hle
    obtain rfl : rest = "" := String.utf8ByteSize_eq_zero_iff.1 (by omega)
    simp only [String.append_empty, List.prefix_rfl]

theorem isLongestFront_of_front? (h : front? text (lastCut limit text) = some front) :
    IsLongestFront limit front text := by
  obtain ⟨hrest, hcut⟩ := front?_eq_some_iff.1 h
  have hfront : front.toList <+: text.toList := toList_isPrefix_iff.2 hrest
  refine ⟨hfront, hcut ▸ lastCut_le limit text, fun other hother hle => ?_⟩
  obtain ⟨rest, happend⟩ := toList_isPrefix_iff.1 hother
  have hvalid : String.Pos.Raw.IsValid text ⟨other.utf8ByteSize⟩ :=
    String.Pos.Raw.isValid_iff_exists_append.2 ⟨other, rest, happend, rfl⟩
  exact isPrefix_of_utf8ByteSize_le hother hfront (hcut ▸ le_lastCut hvalid hle)

/-- The longest front of a text that does not fit leaves three bytes at most : any character takes
up to four. -/
theorem IsLongestFront.limit_le (h : IsLongestFront limit front text)
    (hlong : limit < text.utf8ByteSize) : limit ≤ front.utf8ByteSize + 3 := by
  obtain ⟨rest, hrest⟩ := h.isFront
  cases rest with
  | nil =>
    rw [List.append_nil, String.toList_inj] at hrest
    have hle := h.utf8ByteSize_le
    rw [hrest] at hle
    exact absurd hlong (Nat.not_lt.2 hle)
  | cons c cs =>
    have hmore : (front.push c).toList <+: text.toList := by
      rw [← hrest, String.toList_push]
      exact ⟨cs, by simp⟩
    -- With one more character the front would be longer than the longest.
    have hover : ¬(front.push c).utf8ByteSize ≤ limit := by
      intro hle
      have hlength := (h.longest _ hmore hle).length_le
      rw [String.toList_push, List.length_append, List.length_singleton] at hlength
      omega
    have hfour := c.utf8Size_le_four
    rw [String.utf8ByteSize_push] at hover
    omega

-- Where a character of four bytes lacks room for one of them, three are left over.
example : front? "a🚀" (lastCut 4 "a🚀") = some "a" := by decide

end Text

namespace Response

/-- A response can always be shown : no body is cut within a character. An empty body is left
out, and one of at most 64 bytes is shown whole. Of a longer one the longest front of whole
characters within 64 bytes is shown, which takes between 61 and 64, and an ellipsis behind. -/
theorem display_whole_or_longest (r : Response) :
    r.display? = some r.display ∧
    (r.body = "" ∧ r.display = "status " ++ Text.numeral r.status ∨
      r.body ≠ "" ∧ r.body.utf8ByteSize ≤ 64 ∧
        r.display = "status " ++ Text.numeral r.status ++ " (" ++ r.body ++ ")" ∨
      64 < r.body.utf8ByteSize ∧ ∃ front : String, Text.IsLongestFront 64 front r.body ∧
        61 ≤ front.utf8ByteSize ∧ front.utf8ByteSize ≤ 64 ∧
        r.display = "status " ++ Text.numeral r.status ++ " (" ++ front ++ "...)") := by
  have hshown : r.display? = some r.display := (Option.some_get _).symm
  refine ⟨hshown, ?_⟩
  unfold display? at hshown
  split at hshown
  case isTrue hempty =>
    exact .inl ⟨String.isEmpty_iff.1 hempty, (Option.some.inj hshown).symm⟩
  case isFalse hempty =>
    split at hshown
    case isTrue hlong =>
      obtain ⟨front, hcut, hdisplay⟩ := Option.map_eq_some_iff.1 hshown
      have hlongest : Text.IsLongestFront 64 front r.body := Text.isLongestFront_of_front? hcut
      have hroom : 61 ≤ front.utf8ByteSize := by
        have hleft := hlongest.limit_le hlong
        omega
      exact .inr (.inr ⟨hlong, front, hlongest, hroom, hlongest.utf8ByteSize_le, hdisplay.symm⟩)
    case isFalse hshort =>
      have hne : r.body ≠ "" := fun h => hempty (String.isEmpty_iff.2 h)
      exact .inr (.inl ⟨hne, Nat.le_of_not_lt hshort, (Option.some.inj hshown).symm⟩)

end Response

end LoadHarness
