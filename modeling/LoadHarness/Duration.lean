import LoadHarness.Text.Blank
import LoadHarness.Text.Numeral

/-!
# Durations

A `Duration` counts nanoseconds, up to the longest one whose whole seconds fit 64 bits.
`Duration.read` reads the form that users type: digits, then nothing or one of the units
`ms`, `s`, `m` and `h` in any case, with blank space allowed around the whole. A bare number
counts seconds. `ReadError` lists why a text is refused, and `ReadError.message` says it.
-/

namespace LoadHarness

/-- A length of time in nanoseconds. -/
structure Duration where
  nanoseconds : Nat
deriving DecidableEq, Repr

namespace Duration

/-- The greatest number of 64 bits. -/
def wordMax : Nat := 0xFFFFFFFFFFFFFFFF

/-- The nanoseconds of a second. -/
def second : Nat := 1000000000

/-- The nanoseconds of a millisecond. -/
def millisecond : Nat := 1000000

/-- The longest duration. -/
def longest : Duration := ⟨wordMax * second + (second - 1)⟩

def ofSeconds (n : Nat) : Duration := ⟨n * second⟩

def ofMilliseconds (n : Nat) : Duration := ⟨n * millisecond⟩

/-- A duration of whole seconds and the nanoseconds beyond them. -/
def ofParts (seconds nanoseconds : Nat) : Duration := ⟨seconds * second + nanoseconds⟩

def seconds (d : Duration) : Nat := d.nanoseconds / second

/-- The nanoseconds beyond the whole seconds. -/
def subsecond (d : Duration) : Nat := d.nanoseconds % second

/-- The whole milliseconds. -/
def milliseconds (d : Duration) : Nat := d.nanoseconds / millisecond

def isZero (d : Duration) : Bool := d.nanoseconds == 0

/-- Twice a duration, or the longest one if that is shorter. -/
def doubled (d : Duration) : Duration := ⟨min (2 * d.nanoseconds) longest.nanoseconds⟩

/-- The time left of `d` after `e`, zero if none is. -/
def without (d e : Duration) : Duration := ⟨d.nanoseconds - e.nanoseconds⟩

/-! ## Reading -/

/-- Why a text is no duration. -/
inductive ReadError where
  /-- Nothing but blank space. -/
  | empty
  /-- No number in front, or one beyond 64 bits. -/
  | noNumber (text : String)
  /-- A unit, here in lower case, that is none of the four. -/
  | unknownUnit (unit text : String)
  /-- More seconds than 64 bits hold. -/
  | tooLarge (text : String)
deriving DecidableEq, Repr

def ReadError.message : ReadError → String
  | .empty => "Duration cannot be empty"
  | .noNumber text => "Invalid duration format: '" ++ text ++ "' - expected a number"
  | .unknownUnit unit text =>
    "Invalid duration unit '" ++ unit ++ "' in '" ++ text ++ "' - use ms, s, m or h"
  | .tooLarge text => "Duration '" ++ text ++ "' is too large"

/-- The unit that follows the number. -/
inductive Scale where
  | milliseconds
  /-- So many seconds each. -/
  | seconds (each : Nat)
deriving DecidableEq, Repr

/-- The scale that a unit in lower case names; no unit counts seconds. -/
def Scale.ofUnit? : List Char → Option Scale
  | ['m', 's'] => some .milliseconds
  | [] => some (.seconds 1)
  | ['s'] => some (.seconds 1)
  | ['m'] => some (.seconds 60)
  | ['h'] => some (.seconds 3600)
  | _ => none

/-- So many units of a scale, if the seconds fit 64 bits. Milliseconds always do. -/
def Scale.measure? (n : Nat) : Scale → Option Duration
  | .milliseconds => some (ofMilliseconds n)
  | .seconds each => if n * each ≤ wordMax then some (ofSeconds (n * each)) else none

/-- Reads a duration from the characters of a text without blank space around it. -/
def readTrimmed (cs : List Char) : Except ReadError Duration :=
  let text := String.ofList cs
  let (digits, rest) := Text.splitDigits cs
  let unit := rest.map Char.toLower
  if cs.isEmpty then .error .empty
  else if digits.isEmpty || wordMax < Text.value digits then .error (.noNumber text)
  else match Scale.ofUnit? unit with
    | none => .error (.unknownUnit (String.ofList unit) text)
    | some scale =>
      match scale.measure? (Text.value digits) with
      | none => .error (.tooLarge text)
      | some d => .ok d

/-- Reads a duration. -/
def read (text : String) : Except ReadError Duration :=
  readTrimmed (Text.trimChars text.toList)

/-- A duration in seconds as a floating-point number: the sum of the whole seconds and the
fraction, each rounded. -/
def toFloat (d : Duration) : Float :=
  d.seconds.toUInt64.toFloat + d.subsecond.toUInt64.toFloat / 1000000000.0

theorem nanoseconds_doubled_le (d : Duration) : d.doubled.nanoseconds ≤ longest.nanoseconds :=
  Nat.min_le_right _ _

end Duration

end LoadHarness
