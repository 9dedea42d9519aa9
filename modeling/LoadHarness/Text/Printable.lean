/-!
# Text without control sequences

What a user typed may hold characters that control a terminal. `printable` leaves them out: the
control characters but for white space, and the sequences that an escape character begins. A
sequence of parameters behind `ESC [` goes up to its final character; any other sequence has one
character behind the escape.
-/

namespace LoadHarness.Text

/-- Where the reading of a control sequence stands. -/
inductive Escape where
  | outside
  | begun
  | parameters
deriving DecidableEq, Repr

/-- Control characters that leave white space. -/
def isControlSpace (c : Char) : Bool :=
  c == '\t' || c == '\n' || c == '\x0c' || c == '\r'

/-- Whether a character is shown outside of sequences. -/
def isShown (c : Char) : Bool := (0x20 ≤ c.toNat && c.toNat != 0x7F) || isControlSpace c

/-- What is shown of a text, from a place within or outside of a sequence. -/
def shown : Escape → List Char → List Char
  | _, [] => []
  | .outside, c :: cs =>
    if c = '\x1b' then shown .begun cs
    else if isShown c then c :: shown .outside cs
    else shown .outside cs
  | .begun, c :: cs =>
    if c = '[' then shown .parameters cs
    else if isControlSpace c then c :: shown .outside cs
    else shown .outside cs
  | .parameters, c :: cs =>
    if isControlSpace c then c :: shown .outside cs
    else if 0x40 ≤ c.toNat ∧ c.toNat ≤ 0x7E then shown .outside cs
    else shown .parameters cs

/-- A text without control sequences. -/
def printable (text : String) : String := String.ofList (shown .outside text.toList)

end LoadHarness.Text
