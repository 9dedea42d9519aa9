import LoadHarness.Text.Numeral

/-!
# Numeric addresses in a URL

A host can be an address of version 4 or of version 6. A version 4 address is one to four
numbers divided by points, decimal, octal behind a zero or hexadecimal behind `0x`; the last
number fills all the bytes that the others leave. A host whose last label is a number must be
such an address. A version 6 address is eight groups of up to four hexadecimal digits; one
double colon stands for the zero groups left out, and the last two groups may be written as
a dotted quadruple.
-/

namespace LoadHarness.Url

/-- The text cut at every occurrence of a character. -/
def splitAt (sep : Char) : List Char → List (List Char)
  | [] => [[]]
  | c :: cs =>
    match splitAt sep cs with
    | [] => [[c]]
    | part :: parts => if c = sep then [] :: part :: parts else (c :: part) :: parts

/-- The value of a digit in a base of at most sixteen. -/
def digitIn? (base : Nat) (c : Char) : Option Nat :=
  let n := c.toNat
  let v :=
    if 0x30 ≤ n && n ≤ 0x39 then n - 0x30
    else if 0x41 ≤ n && n ≤ 0x46 then n - 0x41 + 10
    else if 0x61 ≤ n && n ≤ 0x66 then n - 0x61 + 10
    else base
  if v < base then some v else none

/-- The value of a row of digits in a base. -/
def numberIn? (base : Nat) (cs : List Char) : Option Nat :=
  (cs.mapM (digitIn? base)).map (·.foldl (fun n d => n * base + d) 0)

/-! ## Version 4 -/

/-- A number of a version 4 address. -/
def ipv4Number? : List Char → Option Nat
  | [] => none
  | '0' :: 'x' :: cs => numberIn? 16 cs
  | '0' :: 'X' :: cs => numberIn? 16 cs
  | '0' :: d :: cs => numberIn? 8 (d :: cs)
  | cs => numberIn? 10 cs

/-- The labels of a host without an empty one at its end. -/
def labels (host : List Char) : List (List Char) :=
  let parts := splitAt '.' host
  if parts.getLast? = some [] then parts.dropLast else parts

/-- Whether the last label of a host is a number, so that the host must be an address. -/
def endsInNumber (host : List Char) : Bool :=
  match (labels host).getLast? with
  | none => false
  | some last => (!last.isEmpty && last.all Char.isDigit) || (ipv4Number? last).isSome

/-- A version 4 address as a number of 32 bits. -/
def ipv4? (host : List Char) : Option Nat :=
  let parts := labels host
  if 4 < parts.length then none
  else
    match parts.mapM ipv4Number? with
    | none => none
    | some numbers =>
      let front := numbers.dropLast
      let last := numbers.getLastD 0
      let bits := 8 * (4 - front.length)
      if front.all (· ≤ 255) && last < 1 <<< bits then
        some ((front.foldl (fun n b => n * 256 + b) 0 <<< bits) + last)
      else none

/-! ## Version 6 -/

/-- A number of a dotted quadruple inside a version 6 address. -/
def octet? (cs : List Char) : Option Nat :=
  if cs.isEmpty || !cs.all Char.isDigit || (cs.head? = some '0' && 1 < cs.length) then none
  else if Text.value cs ≤ 255 then some (Text.value cs) else none

/-- The two groups that a dotted quadruple fills. -/
def quadruple? (cs : List Char) : Option (List Nat) :=
  match (splitAt '.' cs).mapM octet? with
  | some [a, b, c, d] => some [a * 256 + b, c * 256 + d]
  | _ => none

/-- The groups of a version 6 address, at most so many, behind those in `front`; and where
the double colon stands, if there is one. -/
def groups? : Nat → Option Nat → List Nat → List Char → Option (List Nat × Option Nat)
  | _, gap, front, [] => some (front, gap)
  | 0, _, _, _ => none
  | left + 1, gap, front, c :: cs =>
    if c = ':' then
      if gap.isSome then none else groups? left (some (front.length + 1)) (front ++ [0]) cs
    else
      let digits := ((c :: cs).take 4).takeWhile fun d => (digitIn? 16 d).isSome
      let group := (numberIn? 16 digits).getD 0
      match (c :: cs).drop digits.length with
      | [] => groups? left gap (front ++ [group]) []
      | [':'] => none
      | ':' :: rest => groups? left gap (front ++ [group]) rest
      | '.' :: _ =>
        if digits.isEmpty || left = 0 then none
        else (quadruple? (c :: cs)).map fun pair => (front ++ pair, gap)
      | _ => none

/-- The eight groups of a version 6 address. -/
def ipv6? (cs : List Char) : Option (List Nat) :=
  let found :=
    match cs with
    | [] => none
    | [_] => none
    | ':' :: ':' :: rest => groups? 7 (some 1) [0] rest
    | ':' :: _ => none
    | cs => groups? 8 none [] cs
  match found with
  | none => none
  | some (groups, none) => if groups.length = 8 then some groups else none
  | some (groups, some gap) =>
    some (groups.take gap ++ List.replicate (8 - groups.length) 0 ++ groups.drop gap)

end LoadHarness.Url
