import LoadHarness.Json.Basic

/-!
# Writing JSON strings and objects

A string is written between quotes. `escape` writes one of its characters: quote and
backslash behind a backslash, the control characters that have a letter of their own behind
a backslash with that letter, the other control characters below U+0020 by their number in
four lowercase hexadecimal digits, and every other character as it is.
-/

namespace LoadHarness.Json

/-- The lowercase hexadecimal digit of a number below sixteen. -/
def hexDigit (n : Nat) : Char :=
  if n < 10 then Char.ofNat ('0'.toNat + n) else Char.ofNat ('a'.toNat + (n - 10))

/-- One character inside a string. -/
def escape (c : Char) : List Char :=
  if c = '"' then ['\\', '"']
  else if c = '\\' then ['\\', '\\']
  else if c = '\n' then ['\\', 'n']
  else if c = '\r' then ['\\', 'r']
  else if c = '\t' then ['\\', 't']
  else if c = '\x08' then ['\\', 'b']
  else if c = '\x0c' then ['\\', 'f']
  else if c.toNat < 0x20 then
    ['\\', 'u', '0', '0', hexDigit (c.toNat / 16), hexDigit (c.toNat % 16)]
  else [c]

/-- The characters of a string between its quotes. -/
def escaped (cs : List Char) : List Char :=
  cs.flatMap escape

/-- A string with its quotes. -/
def quoted (s : String) : List Char :=
  '"' :: escaped s.toList ++ ['"']

/-- A member whose value is a string. -/
def textMember (m : String × String) : List Char :=
  quoted m.1 ++ ':' :: quoted m.2

/-- An object whose members are strings, without blank space. -/
def textObject (members : List (String × String)) : String :=
  String.ofList ('\x7b' :: (List.intercalate [','] (members.map textMember) ++ ['\x7d']))

end LoadHarness.Json
