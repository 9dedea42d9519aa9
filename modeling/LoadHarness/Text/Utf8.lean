/-!
# Lengths and cuts in bytes

Some limits count the bytes of a text in UTF-8. `byteLength` is that count for a row of
characters.

A text can be cut where a character begins, and at its end. `front?` is what stands in front
of such a place (`front?_eq_some_iff`), and `lastCut` the last such place within a limit, so
that something always stands in front of it (`isSome_front?_lastCut`).
-/

namespace LoadHarness.Text

/-- The number of bytes of a row of characters in UTF-8. -/
def byteLength : List Char → Nat
  | [] => 0
  | c :: cs => c.utf8Size + byteLength cs

@[simp] theorem byteLength_nil : byteLength [] = 0 := rfl

@[simp] theorem byteLength_cons (c : Char) (cs : List Char) :
    byteLength (c :: cs) = c.utf8Size + byteLength cs := rfl

/-! ## Cuts -/

/-- The front of a text that takes so many bytes. There is none if the text is shorter, or if
the last of them lies within a character. -/
def front? (text : String) (bytes : Nat) : Option String :=
  if h : String.Pos.Raw.IsValid text ⟨bytes⟩ then some (text.sliceTo ⟨⟨bytes⟩, h⟩).copy else none

theorem front?_eq_some_iff {text front : String} {bytes : Nat} :
    front? text bytes = some front ↔
      (∃ rest, text = front ++ rest) ∧ front.utf8ByteSize = bytes := by
  constructor
  · intro h
    unfold front? at h
    split at h
    case isTrue =>
      obtain ⟨rest, hsplits⟩ := String.copy_sliceTo_eq_iff_exists_splits.1 (Option.some.inj h)
      have hbytes := congrArg String.Pos.Raw.byteIdx hsplits.offset_eq_rawEndPos
      exact ⟨⟨rest, hsplits.eq_append⟩, hbytes.symm⟩
    case isFalse => exact absurd h (by simp)
  · rintro ⟨⟨rest, happend⟩, rfl⟩
    have hvalid : String.Pos.Raw.IsValid text ⟨front.utf8ByteSize⟩ :=
      String.Pos.Raw.isValid_iff_exists_append.2 ⟨front, rest, happend, rfl⟩
    rw [front?, dif_pos hvalid, Option.some_inj]
    exact String.copy_sliceTo_eq_iff_exists_splits.2 ⟨rest, happend, rfl⟩

/-- The last place, at most `limit` bytes into a text, where a character begins or the text
ends. The places are tried from the limit backwards. -/
def lastCut (limit : Nat) (text : String) : Nat :=
  ((List.range (limit + 1)).reverse.find? fun i => String.Pos.Raw.isValid text ⟨i⟩).getD 0

theorem lastCut_zero (text : String) : lastCut 0 text = 0 := by
  simp [lastCut]

theorem lastCut_succ (limit : Nat) (text : String) : lastCut (limit + 1) text =
    if String.Pos.Raw.IsValid text ⟨limit + 1⟩ then limit + 1 else lastCut limit text := by
  rw [lastCut, List.range_succ, List.reverse_concat, List.find?_cons]
  cases h : String.Pos.Raw.isValid text ⟨limit + 1⟩ with
  | true => rw [if_pos (String.Pos.Raw.isValid_eq_true_iff.1 h), Option.getD_some]
  | false => rw [if_neg (String.Pos.Raw.isValid_eq_false_iff.1 h), lastCut]

theorem isValid_lastCut (limit : Nat) (text : String) :
    String.Pos.Raw.IsValid text ⟨lastCut limit text⟩ := by
  induction limit with
  | zero =>
    rw [lastCut_zero]
    exact String.Pos.Raw.isValid_zero
  | succ limit ih =>
    rw [lastCut_succ]
    split
    case isTrue h => exact h
    case isFalse => exact ih

theorem isSome_front?_lastCut (limit : Nat) (text : String) :
    (front? text (lastCut limit text)).isSome = true := by
  rw [front?, dif_pos (isValid_lastCut limit text), Option.isSome_some]

theorem lastCut_le (limit : Nat) (text : String) : lastCut limit text ≤ limit := by
  induction limit with
  | zero => exact Nat.le_of_eq (lastCut_zero text)
  | succ limit ih =>
    rw [lastCut_succ]
    split
    case isTrue => exact Nat.le_refl _
    case isFalse => exact Nat.le_succ_of_le ih

/-- No place within the limit where a text can be cut lies behind the last. -/
theorem le_lastCut {limit bytes : Nat} {text : String}
    (h : String.Pos.Raw.IsValid text ⟨bytes⟩) (hle : bytes ≤ limit) :
    bytes ≤ lastCut limit text := by
  induction limit with
  | zero => exact Nat.le_trans hle (Nat.zero_le _)
  | succ limit ih =>
    rw [lastCut_succ]
    split
    case isTrue => exact hle
    case isFalse hcut =>
      rcases Nat.lt_or_eq_of_le hle with hlt | rfl
      · exact ih (Nat.le_of_lt_succ hlt)
      · exact absurd h hcut

end LoadHarness.Text
