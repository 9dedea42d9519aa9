/-!
# Reading UTF-8

Bytes become characters one byte at a time. `Decoder` is what is known of the character at
hand, and `Decoder.step` takes one byte: it gives the characters, and the invalid parts, that
are complete with it. An invalid part is maximal: it is a beginning of some character that
the next byte does not go on with, or a byte that begins none.

`decode?` refuses a text with an invalid part, `decodeLossy` writes U+FFFD in place of each.
-/

namespace LoadHarness.Text

/-- The bytes of a character in UTF-8. -/
def encodeChar (c : Char) : List UInt8 :=
  (String.singleton c).toUTF8.toList

/-- The bytes of a row of characters in UTF-8. -/
def encode (cs : List Char) : List UInt8 :=
  cs.flatMap encodeChar

/-- Where the reading of a character stands: between characters, or behind some of its bytes,
with the bits so far and the ranges that the bytes to come must lie in. -/
inductive Decoder where
  | between
  | inside (bits : Nat) (next : Nat × Nat) (later : List (Nat × Nat))
deriving Repr

namespace Decoder

/-- The range of the bytes that continue a character. -/
def tail : Nat × Nat := (0x80, 0xBF)

/-- Takes the first byte of a character. `none` stands for an invalid part. -/
def first (b : Nat) : List (Option Char) × Decoder :=
  if b < 0x80 then ([some (Char.ofNat b)], between)
  else if 0xC2 ≤ b && b ≤ 0xDF then ([], inside (b - 0xC0) tail [])
  else if b = 0xE0 then ([], inside 0 (0xA0, 0xBF) [tail])
  else if b = 0xED then ([], inside 13 (0x80, 0x9F) [tail])
  else if 0xE1 ≤ b && b ≤ 0xEF then ([], inside (b - 0xE0) tail [tail])
  else if b = 0xF0 then ([], inside 0 (0x90, 0xBF) [tail, tail])
  else if 0xF1 ≤ b && b ≤ 0xF3 then ([], inside (b - 0xF0) tail [tail, tail])
  else if b = 0xF4 then ([], inside 4 (0x80, 0x8F) [tail, tail])
  else ([none], between)

/-- Takes one byte. -/
def step (d : Decoder) (b : Nat) : List (Option Char) × Decoder :=
  match d with
  | between => first b
  | inside bits next later =>
    if next.1 ≤ b && b ≤ next.2 then
      let bits := bits * 64 + b % 64
      match later with
      | [] => ([some (Char.ofNat bits)], between)
      | r :: later => ([], inside bits r later)
    else
      let (items, d) := first b
      (none :: items, d)

/-- Takes all the bytes that are left. -/
def run : Decoder → List UInt8 → List (Option Char)
  | between, [] => []
  | inside .., [] => [none]
  | d, b :: bs => (d.step b.toNat).1 ++ run (d.step b.toNat).2 bs

end Decoder

/-- The text that bytes stand for, if all of them are UTF-8. -/
def decode? (bytes : List UInt8) : Option (List Char) :=
  (Decoder.between.run bytes).mapM id

/-- The text that bytes stand for, with U+FFFD in place of every invalid part. -/
def decodeLossy (bytes : List UInt8) : List Char :=
  (Decoder.between.run bytes).map (·.getD '\ufffd')

end LoadHarness.Text
