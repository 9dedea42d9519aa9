import LoadHarness.Json.Basic
import LoadHarness.Text.Utf8

/-!
# Reading JSON

`Json.read` reads one value from a text, blank space around it allowed and nothing else. A
text that is no JSON is either `truncated`, when it ended before the value did, or
`malformed`; the first of the two met from the left decides. Malformed are also numbers
outside the double-precision range, escapes that stand for half a surrogate pair, control
characters inside strings, and containers nested more than `nestingLimit` deep.

Each reader takes a value from the front of a text and gives back the rest. The reader of
values recurses on the containers that may still be opened.
-/

namespace LoadHarness.Json

/-- Why a text is no JSON. -/
inductive ReadError where
  /-- It ended too early. -/
  | truncated
  /-- Something in it is not JSON. -/
  | malformed
deriving DecidableEq, Repr

/-- Takes a value from the front of a text. -/
abbrev Reader (α : Type) := List Char → Except ReadError (α × List Char)

/-- How deep containers may be nested. -/
def nestingLimit : Nat := 127

/-- The blank space of JSON. -/
def isSpace (c : Char) : Bool := c == ' ' || c == '\n' || c == '\t' || c == '\r'

def skipSpace (cs : List Char) : List Char := cs.dropWhile isSpace

/-- Takes the characters `expected` from the front of a text. -/
def expect : List Char → List Char → Except ReadError (List Char)
  | [], cs => .ok cs
  | _ :: _, [] => .error .truncated
  | e :: es, c :: cs => if e = c then expect es cs else .error .malformed

/-! ## Strings -/

/-- The value of a hexadecimal digit. -/
def hexValue? (c : Char) : Option Nat :=
  let n := c.toNat
  if 0x30 ≤ n && n ≤ 0x39 then some (n - 0x30)
  else if 0x41 ≤ n && n ≤ 0x46 then some (n - 0x41 + 10)
  else if 0x61 ≤ n && n ≤ 0x66 then some (n - 0x61 + 10)
  else none

/-- Four hexadecimal digits. A text with fewer than four bytes left is truncated. -/
def hexQuad : Reader Nat := fun cs =>
  if Text.byteLength (cs.take 4) < 4 then .error .truncated
  else match cs with
    | a :: b :: c :: d :: rest =>
      match hexValue? a, hexValue? b, hexValue? c, hexValue? d with
      | some a, some b, some c, some d => .ok (((a * 16 + b) * 16 + c) * 16 + d, rest)
      | _, _, _, _ => .error .malformed
    | _ => .error .malformed

/-- Whether a 16-bit unit is the first half of a surrogate pair. -/
def isLeading (n : Nat) : Bool := 0xD800 ≤ n && n ≤ 0xDBFF

/-- Whether a 16-bit unit is the second half of a surrogate pair. -/
def isTrailing (n : Nat) : Bool := 0xDC00 ≤ n && n ≤ 0xDFFF

/-- The character of a surrogate pair. -/
def pairChar (leading trailing : Nat) : Char :=
  Char.ofNat (0x10000 + (leading - 0xD800) * 0x400 + (trailing - 0xDC00))

/-- The second half of a surrogate pair whose first half has been read. -/
def trailingHalf (leading : Nat) : Reader Char
  | [] => .error .truncated
  | ['\\'] => .error .truncated
  | '\\' :: 'u' :: cs =>
    match hexQuad cs with
    | .error e => .error e
    | .ok (n, rest) =>
      if isTrailing n then .ok (pairChar leading n, rest) else .error .malformed
  | _ => .error .malformed

/-- The character that a `\u` escape stands for. -/
def unicodeEscape : Reader Char := fun cs =>
  match hexQuad cs with
  | .error e => .error e
  | .ok (n, rest) =>
    if isTrailing n then .error .malformed
    else if isLeading n then trailingHalf n rest
    else .ok (Char.ofNat n, rest)

/-- The character that an escape stands for, read behind its backslash. -/
def unescape : Reader Char
  | [] => .error .truncated
  | '"' :: cs => .ok ('"', cs)
  | '\\' :: cs => .ok ('\\', cs)
  | '/' :: cs => .ok ('/', cs)
  | 'b' :: cs => .ok ('\x08', cs)
  | 'f' :: cs => .ok ('\x0c', cs)
  | 'n' :: cs => .ok ('\n', cs)
  | 'r' :: cs => .ok ('\r', cs)
  | 't' :: cs => .ok ('\t', cs)
  | 'u' :: cs => unicodeEscape cs
  | _ => .error .malformed

theorem hexQuad_length {cs rest : List Char} {n : Nat} (h : hexQuad cs = .ok (n, rest)) :
    rest.length < cs.length := by
  unfold hexQuad at h
  split at h
  · simp at h
  · split at h
    · split at h
      · simp only [Except.ok.injEq, Prod.mk.injEq] at h
        obtain ⟨-, rfl⟩ := h
        simp only [List.length_cons]
        omega
      · simp at h
    · simp at h

theorem trailingHalf_length {cs rest : List Char} {n : Nat} {c : Char}
    (h : trailingHalf n cs = .ok (c, rest)) : rest.length < cs.length := by
  unfold trailingHalf at h
  split at h
  · simp at h
  · simp at h
  · split at h
    · simp at h
    · rename_i hq
      have := hexQuad_length hq
      split at h
      · simp only [Except.ok.injEq, Prod.mk.injEq] at h
        obtain ⟨-, rfl⟩ := h
        simp only [List.length_cons]
        omega
      · simp at h
  · simp at h

theorem unescape_length {cs rest : List Char} {c : Char} (h : unescape cs = .ok (c, rest)) :
    rest.length < cs.length := by
  unfold unescape at h
  split at h
  case h_10 cs' =>
    unfold unicodeEscape at h
    split at h
    · simp at h
    · rename_i hq
      have := hexQuad_length hq
      split at h
      · simp at h
      · split at h
        · have := trailingHalf_length h
          simp only [List.length_cons]
          omega
        · simp only [Except.ok.injEq, Prod.mk.injEq] at h
          obtain ⟨-, rfl⟩ := h
          simp only [List.length_cons]
          omega
  all_goals
    simp only [Except.ok.injEq, Prod.mk.injEq, reduceCtorEq] at h
  all_goals
    obtain ⟨-, rfl⟩ := h
    simp

/-- The characters of a string, read behind its opening quote. -/
def stringBody : Reader (List Char)
  | [] => .error .truncated
  | '"' :: cs => .ok ([], cs)
  | '\\' :: cs =>
    match h : unescape cs with
    | .error e => .error e
    | .ok (c, rest) =>
      have : rest.length < cs.length := unescape_length h
      (stringBody rest).map fun p => (c :: p.1, p.2)
  | c :: cs =>
    if c.toNat < 0x20 then .error .malformed
    else (stringBody cs).map fun p => (c :: p.1, p.2)
termination_by cs => cs.length

/-! ## Numbers -/

/-- At least one digit. -/
def someDigits : Reader (List Char) := fun cs =>
  match Text.splitDigits cs with
  | ([], []) => .error .truncated
  | ([], _) => .error .malformed
  | (ds, rest) => .ok (ds, rest)

/-- The digits before the point; a zero stands alone. -/
def wholePart : Reader (List Char) := fun cs =>
  match someDigits cs with
  | .error e => .error e
  | .ok ('0' :: _ :: _, _) => .error .malformed
  | .ok p => .ok p

/-- The digits after the point, if there is one. -/
def fractionPart : Reader (List Char)
  | '.' :: cs => someDigits cs
  | cs => .ok ([], cs)

/-- The sign of an exponent: whether it is negative. -/
def exponentSign : List Char → Bool × List Char
  | '-' :: cs => (true, cs)
  | '+' :: cs => (false, cs)
  | cs => (false, cs)

/-- The power of ten, if one is written. -/
def exponentPart : Reader (Option Int) := fun cs =>
  match cs with
  | c :: rest =>
    if c = 'e' || c = 'E' then
      let (negative, rest) := exponentSign rest
      (someDigits rest).map fun p =>
        let n : Int := Text.value p.1
        (some (if negative then -n else n), p.2)
    else .ok (none, cs)
  | [] => .ok (none, cs)

/-- A number without its sign. -/
def unsigned (negative : Bool) : Reader Number := fun cs =>
  match wholePart cs with
  | .error e => .error e
  | .ok (whole, cs) =>
    match fractionPart cs with
    | .error e => .error e
    | .ok (fraction, cs) =>
      match exponentPart cs with
      | .error e => .error e
      | .ok (exponent, cs) =>
        let n : Number := ⟨negative, whole, fraction, exponent⟩
        if n.inRange then .ok (n, cs) else .error .malformed

/-- A number. -/
def numeral : Reader Number
  | '-' :: cs => unsigned true cs
  | cs => unsigned false cs

/-! ## Values -/

/-- Items divided by commas up to the closing character, which is taken too. The first
argument bounds the number of items by the length of the text. -/
def items {α : Type} (item : Reader α) (close : Char) : Nat → Reader (List α)
  | 0, _ => .error .malformed
  | n + 1, cs =>
    match item cs with
    | .error e => .error e
    | .ok (v, rest) =>
      match skipSpace rest with
      | [] => .error .truncated
      | c :: rest =>
        if c = close then .ok ([v], rest)
        else if c = ',' then (items item close n rest).map fun p => (v :: p.1, p.2)
        else .error .malformed

/-- The items of a container, read behind its opening character. -/
def container {α : Type} (item : Reader α) (close : Char) : Reader (List α) := fun cs =>
  match skipSpace cs with
  | [] => .error .truncated
  | c :: rest => if c = close then .ok ([], rest) else items item close cs.length cs

/-- A member of an object, whose value `value` reads. -/
def member (value : Reader Json) : Reader (String × Json) := fun cs =>
  match skipSpace cs with
  | [] => .error .truncated
  | '"' :: cs =>
    match stringBody cs with
    | .error e => .error e
    | .ok (name, cs) =>
      match skipSpace cs with
      | [] => .error .truncated
      | ':' :: cs => (value cs).map fun p => ((String.ofList name, p.1), p.2)
      | _ => .error .malformed
  | _ => .error .malformed

/-- A value that is no container. -/
def scalar : Reader Json
  | [] => .error .truncated
  | 'n' :: cs => (expect ['u', 'l', 'l'] cs).map (.null, ·)
  | 't' :: cs => (expect ['r', 'u', 'e'] cs).map (.bool true, ·)
  | 'f' :: cs => (expect ['a', 'l', 's', 'e'] cs).map (.bool false, ·)
  | '"' :: cs => (stringBody cs).map fun p => (.string (String.ofList p.1), p.2)
  | c :: cs =>
    if c = '-' || c.isDigit then (numeral (c :: cs)).map fun p => (.number p.1, p.2)
    else .error .malformed

/-- A value in which at most so many containers are nested, blank space before it allowed. -/
def value : Nat → Reader Json
  | 0, cs =>
    match skipSpace cs with
    | '[' :: _ => .error .malformed
    | '\x7b' :: _ => .error .malformed
    | cs => scalar cs
  | depth + 1, cs =>
    match skipSpace cs with
    | '[' :: cs => (container (value depth) ']' cs).map fun p => (.array p.1, p.2)
    | '\x7b' :: cs =>
      (container (member (value depth)) '\x7d' cs).map fun p => (.object p.1, p.2)
    | cs => scalar cs

/-- The value of a whole text, given as its characters. -/
def readChars (cs : List Char) : Except ReadError Json :=
  match value nestingLimit cs with
  | .error e => .error e
  | .ok (v, rest) => if (skipSpace rest).isEmpty then .ok v else .error .malformed

/-- The value of a whole text. -/
def read (text : String) : Except ReadError Json := readChars text.toList

end LoadHarness.Json
