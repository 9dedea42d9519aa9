/-!
# Labels written in ASCII

A label of an international name can be written in ASCII: first come its ASCII characters, then,
behind the last hyphen, the places and values of all others as a row of numbers in base 36.
How many digits a number has depends on a bias that follows the numbers read so far. The
places count all characters so far, so that one number gives the distance from one character
to the next, over all places and values in between. `decode?` reads such a label.
-/

namespace LoadHarness.Url.Punycode

/-- The number of digits. -/
def base : Nat := 36

/-- The value of a digit. -/
def digit? (c : Char) : Option Nat :=
  let n := c.toNat
  if 0x61 ≤ n ∧ n ≤ 0x7A then some (n - 0x61)
  else if 0x30 ≤ n ∧ n ≤ 0x39 then some (n - 0x30 + 26)
  else none

/-- The value below which a digit at a place, counted in steps of `base`, ends a number. -/
def threshold (bias place : Nat) : Nat := min 26 (max 1 (place - bias))

/-- The number at the front of a row of digits, and what follows it. -/
def number? (bias : Nat) : Nat → Nat → Nat → List Char → Option (Nat × List Char)
  | _, _, _, [] => none
  | place, weight, n, c :: cs =>
    match digit? c with
    | none => none
    | some d =>
      let n := n + d * weight
      let t := threshold bias place
      if 0x100000000 ≤ n then none
      else if d < t then some (n, cs)
      else number? bias (place + base) (weight * (base - t)) n cs

/-- How often a distance is to be divided before it is small, and what is left then. -/
def shrink (d : Nat) : Nat × Nat :=
  if 455 < d then
    let (k, rest) := shrink (d / 35)
    (k + 1, rest)
  else (0, d)
termination_by d
decreasing_by omega

/-- The bias behind a number that leads to one of so many characters. -/
def adapt (distance count : Nat) (isFirst : Bool) : Nat :=
  let d := if isFirst then distance / 700 else distance / 2
  let (k, rest) := shrink (d + d / count)
  k * base + 36 * rest / (rest + 38)

/-- The character of a value, if there is one. -/
def char? (n : Nat) : Option Char := if n.isValidChar then some (Char.ofNat n) else none

/-- Puts the characters that a row of digits describes into a text. `next` is the value and
`place` the place from which the next distance counts. Every number has a digit, so that
`fuel` need not exceed the count of digits. -/
def insertAll : Nat → Nat → Nat → Nat → List Char → List Char → Option (List Char)
  | _, _, _, _, text, [] => some text
  | 0, _, _, _, _, _ :: _ => none
  | fuel + 1, next, place, bias, text, digits =>
    match number? bias base 1 0 digits with
    | none => none
    | some (distance, rest) =>
      let count := text.length + 1
      let next' := next + (place + distance) / count
      let place' := (place + distance) % count
      match char? next' with
      | none => none
      | some c =>
        insertAll fuel next' (place' + 1) (adapt distance count (next == 0x80 && place == 0))
          (text.take place' ++ c :: text.drop place') rest

/-- The characters before the last hyphen, and those behind it. -/
def splitHyphen (cs : List Char) : List Char × List Char :=
  let behind := (cs.reverse.takeWhile (· != '-')).reverse
  if behind.length = cs.length then ([], cs)
  else (cs.take (cs.length - behind.length - 1), behind)

/-- The label that a row of ASCII characters writes. -/
def decode? (cs : List Char) : Option (List Char) :=
  let (text, digits) := splitHyphen cs
  insertAll digits.length 0x80 0 72 text digits

end LoadHarness.Url.Punycode
