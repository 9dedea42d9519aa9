/-!
# Bytes in printable characters

Three bytes make four characters, each for six bits. A last group of one or two bytes is filled
up with equals signs.
-/

namespace LoadHarness.Wire

/-- The character for six bits. -/
def base64Digit (n : Nat) : Char :=
  if n < 26 then Char.ofNat (0x41 + n)
  else if n < 52 then Char.ofNat (0x61 + (n - 26))
  else if n < 62 then Char.ofNat (0x30 + (n - 52))
  else if n = 62 then '+' else '/'

/-- The four characters for three bytes. -/
def base64Group (a b c : Nat) : List Char :=
  [base64Digit (a / 4), base64Digit (a % 4 * 16 + b / 16), base64Digit (b % 16 * 4 + c / 64),
    base64Digit (c % 64)]

/-- The characters for a row of bytes. -/
def base64 : List UInt8 → List Char
  | [] => []
  | [a] => (base64Group a.toNat 0 0).take 2 ++ ['=', '=']
  | [a, b] => (base64Group a.toNat b.toNat 0).take 3 ++ ['=']
  | a :: b :: c :: rest => base64Group a.toNat b.toNat c.toNat ++ base64 rest

end LoadHarness.Wire
