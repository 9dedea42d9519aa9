import LoadHarness.Text.Decoding
import LoadHarness.Text.Numeral
import LoadHarness.Text.Blank

/-!
# HTTP on the wire

`Wire.request` writes a request as bytes. `Wire.answer` reads an answer from the bytes that have
come so far: it is complete, it needs more, or it is none (`Answer`). The length of a body is
given by a header, by the lengths of its pieces, or by the end of the connection.
-/

namespace LoadHarness.Wire

/-- The end of a line. -/
def lineEnd : List UInt8 := [13, 10]

def bytes (text : String) : List UInt8 := Text.encode text.toList

/-- A request, with the length of its body if it has one. -/
def request (verb path : String) (headers : List (String × String)) (body : Option String) :
    List UInt8 :=
  let body := body.map bytes
  let headers := headers ++
    (body.map fun b => ("content-length", Text.numeral b.length)).toList
  bytes (verb ++ " " ++ path ++ " HTTP/1.1") ++ lineEnd
    ++ headers.flatMap (fun p => bytes (p.1 ++ ": " ++ p.2) ++ lineEnd)
    ++ lineEnd ++ body.getD []

/-- The bytes up to the first end of a line, and those behind it. -/
def splitLine? : List UInt8 → Option (List UInt8 × List UInt8)
  | [] => none
  | 13 :: 10 :: rest => some ([], rest)
  | b :: rest => (splitLine? rest).map fun p => (b :: p.1, p.2)

/-- The first line and the headers of an answer, with names in lower case. -/
structure Head where
  status : Nat
  headers : List (String × String)
deriving DecidableEq, Repr

/-- The value of the last header of a name. -/
def Head.header? (h : Head) (name : String) : Option String :=
  (h.headers.reverse.find? (·.1 == name)).map (·.2)

/-- What the bytes so far are. -/
inductive Answer (α : Type) where
  | complete (a : α)
  | incomplete
  | malformed
deriving Repr

/-- The status in the first line of an answer. -/
def status? (line : List UInt8) : Option Nat :=
  let cs := Text.decodeLossy line
  let code := (cs.drop 9).take 3
  if "HTTP/1.".toList.isPrefixOf cs && code.length == 3 && code.all Char.isDigit then
    some (Text.value code)
  else none

/-- A header in a line. -/
def header? (line : List UInt8) : Option (String × String) :=
  let cs := Text.decodeLossy line
  match cs.dropWhile (· != ':') with
  | [] => none
  | _ :: value =>
    some (String.ofList ((cs.takeWhile (· != ':')).map Char.toLower),
      String.ofList (Text.trimChars value))

/-- The headers up to an empty line, and what follows. There are no more lines than bytes. -/
def headers : Nat → List UInt8 → Answer (List (String × String) × List UInt8)
  | 0, _ => .incomplete
  | fuel + 1, bs =>
    match splitLine? bs with
    | none => .incomplete
    | some ([], rest) => .complete ([], rest)
    | some (line, rest) =>
      match header? line, headers fuel rest with
      | none, _ => .malformed
      | some h, .complete (hs, rest) => .complete (h :: hs, rest)
      | some _, a => a

/-- The head of an answer, and what follows. -/
def head (bs : List UInt8) : Answer (Head × List UInt8) :=
  match splitLine? bs with
  | none => .incomplete
  | some (line, rest) =>
    match status? line, headers (rest.length + 1) rest with
    | none, _ => .malformed
    | some status, .complete (hs, rest) => .complete (⟨status, hs⟩, rest)
    | some _, .incomplete => .incomplete
    | some _, .malformed => .malformed

/-- The value of a row of hexadecimal digits, of which there must be one. -/
def hexNumber? (cs : List Char) : Option Nat :=
  let digit (c : Char) : Option Nat :=
    if c.isDigit then some (c.toNat - 0x30)
    else if 'a' ≤ c && c ≤ 'f' then some (c.toNat - 0x61 + 10)
    else if 'A' ≤ c && c ≤ 'F' then some (c.toNat - 0x41 + 10)
    else none
  if cs.isEmpty then none else (cs.mapM digit).map (·.foldl (fun n d => 16 * n + d) 0)

/-- A body in pieces, each behind a line with its length; the last has none. Each piece has a
byte, so that `fuel` need not exceed the count of bytes. -/
def pieces : Nat → List UInt8 → Answer (List UInt8)
  | 0, _ => .incomplete
  | fuel + 1, bs =>
    match splitLine? bs with
    | none => .incomplete
    | some (line, rest) =>
      let digits := (Text.decodeLossy line).takeWhile (· != ';')
      match hexNumber? (Text.trimChars digits) with
      | none => .malformed
      | some 0 => if rest.length < 2 then .incomplete else .complete []
      | some n =>
        if rest.length < n + 2 then .incomplete
        else
          match pieces fuel (rest.drop (n + 2)) with
          | .complete more => .complete (rest.take n ++ more)
          | a => a

/-- Whether answers of a status never have a body. -/
def hasNoBody (status : Nat) : Bool := status / 100 == 1 || status == 204 || status == 304

/-- The body behind a head; `ended` says that no more bytes will come. -/
def body (h : Head) (ended : Bool) (bs : List UInt8) : Answer (List UInt8) :=
  if hasNoBody h.status then .complete []
  else if h.header? "transfer-encoding" = some "chunked" then pieces (bs.length + 1) bs
  else
    match h.header? "content-length" with
    | none => if ended then .complete bs else .incomplete
    | some text =>
      let cs := text.toList
      if cs.isEmpty || !cs.all Char.isDigit then .malformed
      else if bs.length < Text.value cs then .incomplete
      else .complete (bs.take (Text.value cs))

/-- An answer: its head and its body. -/
def answer (ended : Bool) (bs : List UInt8) : Answer (Head × List UInt8) :=
  match head bs with
  | .malformed => .malformed
  | .incomplete => if ended then .malformed else .incomplete
  | .complete (h, rest) =>
    match body h ended rest with
    | .complete b => .complete (h, b)
    | .malformed => .malformed
    | .incomplete => if ended then .malformed else .incomplete

end LoadHarness.Wire
