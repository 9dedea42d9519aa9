/-!
# Request identifiers

Every request carries an identifier by which an answer is recognised. A fresh one is made
from 128 random bits, of which six are overwritten to mark it as random, and written as
thirty-two lowercase hexadecimal digits in five groups. `ofBits` makes it and `isRandomForm`
is the form it has.
-/

namespace LoadHarness

/-- The identifier of a request. -/
abbrev RequestId := String

namespace RequestId

/-- The lowercase hexadecimal digit of a number below sixteen. -/
def digit (n : Nat) : Char :=
  if n < 10 then Char.ofNat (0x30 + n) else Char.ofNat (0x61 + (n - 10))

/-- The digits of the lowest `count` half-bytes of a number, the highest first. -/
def digits (count n : Nat) : List Char :=
  (List.range count).reverse.map fun k => digit ((n >>> (4 * k)) % 16)

/-- The identifier made from random bits: the thirteenth digit is a four, and of the
seventeenth the two upper bits are one and zero. -/
def ofBits (bits : Nat) : RequestId :=
  String.ofList <|
    digits 8 bits ++ '-' :: digits 4 (bits >>> 32) ++ '-' :: '4' :: digits 3 (bits >>> 48)
      ++ '-' :: digit (8 + (bits >>> 60) % 4) :: digits 3 (bits >>> 62)
      ++ '-' :: digits 12 (bits >>> 74)

def isLowerHex (c : Char) : Bool := c.isDigit || (0x61 ≤ c.toNat && c.toNat ≤ 0x66)

/-- Whether a text has the form of an identifier made from random bits. -/
def isRandomForm (id : RequestId) : Bool :=
  let cs := id.toList
  let hyphens := [8, 13, 18, 23]
  cs.length == 36
    && (List.range 36).all (fun k =>
      if k ∈ hyphens then cs[k]? == some '-' else (cs[k]?.map isLowerHex).getD false)
    && cs[14]? == some '4'
    && (cs[19]?.map ['8', '9', 'a', 'b'].contains).getD false

end RequestId

end LoadHarness
