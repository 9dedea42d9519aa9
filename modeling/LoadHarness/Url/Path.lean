import LoadHarness.Url.Basic

/-!
# Where a request goes

`Url.path` is what a request asks its host for: the path and the query in the form in which they
travel, and no fragment. `Url.hostPort` is where the host is.
-/

namespace LoadHarness.Url

/-- The digit of half a byte. -/
def hexDigit (n : Nat) : Char :=
  if n < 10 then Char.ofNat (0x30 + n) else Char.ofNat (0x41 + (n - 10))

/-- The characters of a path that travel in an escaped form. -/
def isEscapedInPath (c : Char) : Bool :=
  c.toNat ≤ 0x20 || 0x7F ≤ c.toNat || c ∈ "\"#<>?^`\x7b\x7d".toList

/-- The characters of a query that travel in an escaped form. -/
def isEscapedInQuery (c : Char) : Bool :=
  c.toNat ≤ 0x20 || 0x7F ≤ c.toNat || c ∈ "\"#<>'".toList

/-- A text with some of its characters in an escaped form, byte by byte. -/
def escape (isEscaped : Char → Bool) (cs : List Char) : List Char :=
  cs.flatMap fun c =>
    if isEscaped c then
      (Text.encodeChar c).flatMap fun b =>
        ['%', hexDigit (b.toNat / 16), hexDigit (b.toNat % 16)]
    else [c]

/-- The forms of a point in a path. -/
def pointForms : List (List Char) := [".".toList, "%2e".toList]

def isPoint (segment : List Char) : Bool := pointForms.contains (segment.map Char.toLower)

def isTwoPoints (segment : List Char) : Bool :=
  pointForms.any fun a => pointForms.any fun b => segment.map Char.toLower == a ++ b

/-- The segments of a path without those that mean the place itself or the one above. What was
kept so far is given in reverse. -/
def resolve (kept : List (List Char)) : List (List Char) → List (List Char)
  | [] => kept.reverse
  | [s] =>
    if isTwoPoints s then ([] :: kept.tail).reverse
    else if isPoint s then ([] :: kept).reverse
    else (s :: kept).reverse
  | s :: ss =>
    if isTwoPoints s then resolve kept.tail ss
    else if isPoint s then resolve kept ss
    else resolve (s :: kept) ss

/-- What a request asks the host for. -/
def path (u : Url) : String :=
  let cs := u.rest.toList.takeWhile (· != '#')
  let front := cs.takeWhile (· != '?')
  let query := cs.dropWhile (· != '?')
  let front := front.map fun c => if c = '\\' then '/' else c
  String.ofList <|
    (resolve [] (splitAt '/' (front.drop 1))).flatMap (fun s => '/' :: escape isEscapedInPath s)
      ++ escape isEscapedInQuery query

/-- The port that a scheme stands for. -/
def usualPort (scheme : String) : Nat := if scheme = "https" ∨ scheme = "wss" then 443 else 80

/-- The host without the brackets of an address, and the port. -/
def hostPort (u : Url) : String × Nat :=
  let host := (u.host.getD "").toList.filter fun c => c != '[' && c != ']'
  (String.ofList host, u.port.getD (usualPort u.scheme))

/-- The host as a request names it. -/
def hostHeader (u : Url) : String :=
  let host := u.host.getD ""
  match u.port with
  | none => host
  | some port =>
    if port = usualPort u.scheme then host else host ++ ":" ++ Text.numeral port

end LoadHarness.Url
