/-!
# Blank characters

Texts that a user types, durations and headers, are read without the blank space around
them. `isBlank` is the Unicode property White_Space, and `trimChars` takes such characters off
both ends of a text, wherever they come from: an ASCII space, a no-break space or an
ideographic one.
-/

namespace LoadHarness.Text

/-- The characters with the Unicode property White_Space. -/
def isBlank (c : Char) : Bool :=
  let n := c.toNat
  (9 ≤ n && n ≤ 13) || n == 0x20 || n == 0x85 || n == 0xA0 || n == 0x1680 ||
    (0x2000 ≤ n && n ≤ 0x200A) || n == 0x2028 || n == 0x2029 || n == 0x202F ||
    n == 0x205F || n == 0x3000

/-- The characters of a text without the blank ones at its end. -/
def trimEnd : List Char → List Char
  | [] => []
  | c :: cs =>
    match trimEnd cs with
    | [] => if isBlank c then [] else [c]
    | d :: ds => c :: d :: ds

/-- The characters of a text without the blank ones at both ends. -/
def trimChars (cs : List Char) : List Char :=
  trimEnd (cs.dropWhile isBlank)

end LoadHarness.Text
