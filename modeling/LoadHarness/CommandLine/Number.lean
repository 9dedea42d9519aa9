import LoadHarness.CommandLine.Refusal
import LoadHarness.Text.Numeral

/-!
# Numbers on the command line

A count is written in decimal digits, with a sign allowed in front. It is read from the left
into the range of signed 64-bit numbers, so that a text is refused at the first character
that is no digit or that leads out of that range, and must then fit 32 bits. `readCount` does
both.
-/

namespace LoadHarness.CommandLine

/-- The digits `cs` read behind a number `n`, which may not get above `limit`. -/
def readDigits (limit : Nat) (beyond : NumberError) : Nat → List Char → Except NumberError Nat
  | n, [] => .ok n
  | n, c :: cs =>
    if c.isDigit then
      let m := 10 * n + Text.digitValue c
      if limit < m then .error beyond else readDigits limit beyond m cs
    else .error .invalidDigit

/-- A signed number of 64 bits. -/
def readSigned (text : String) : Except NumberError Int :=
  match text.toList with
  | [] => .error .empty
  | ['+'] => .error .invalidDigit
  | ['-'] => .error .invalidDigit
  | '-' :: cs => (readDigits 0x8000000000000000 .tooSmall 0 cs).map fun n => -(n : Int)
  | '+' :: cs => (readDigits 0x7FFFFFFFFFFFFFFF .tooLarge 0 cs).map fun n => (n : Int)
  | cs => (readDigits 0x7FFFFFFFFFFFFFFF .tooLarge 0 cs).map fun n => (n : Int)

/-- A count of 32 bits. -/
def readCount (text : String) : Except NumberError UInt32 :=
  match readSigned text with
  | .error e => .error e
  | .ok n =>
    if 0 ≤ n ∧ n < 0x100000000 then .ok (UInt32.ofNat n.toNat) else .error (.outOfRange n)

end LoadHarness.CommandLine
