import LoadHarness.Text.Decoding
import LoadHarness.Url.Domain
import LoadHarness.Url.Error

/-!
# URLs

`Url.parse` reads the scheme, the host and the port of a URL as the URL standard has it,
without a base. Control characters and spaces around the text do not count, nor do tabs and
line ends inside it. The schemes `http`, `https`, `ws`, `wss` and `ftp` always name a host,
however many slashes stand before it, and look it up as a domain or an address; `file` may
name one; every other scheme names one only behind a double slash, and takes it as it is.
-/

namespace LoadHarness

/-- What a URL says of where it leads. -/
structure Url where
  /-- In lower case. -/
  scheme : String
  host : Option String
  port : Option Nat
  /-- What follows the authority. -/
  rest : String
deriving DecidableEq, Repr

namespace Url

/-! ## Parts of a text -/

/-- Control characters and the space, which may surround a URL. -/
def isControlOrSpace (c : Char) : Bool := c.toNat ≤ 0x20

def isTabOrLineEnd (c : Char) : Bool := c == '\t' || c == '\n' || c == '\r'

/-- The characters of a URL that count. -/
def significant (text : String) : List Char :=
  let cs := text.toList.dropWhile isControlOrSpace
  ((cs.reverse.dropWhile isControlOrSpace).reverse).filter fun c => !isTabOrLineEnd c

def isAsciiAlpha (c : Char) : Bool :=
  (0x41 ≤ c.toNat && c.toNat ≤ 0x5A) || (0x61 ≤ c.toNat && c.toNat ≤ 0x7A)

/-- The characters of a scheme behind its first. -/
def isSchemeChar (c : Char) : Bool :=
  isAsciiAlpha c || c.isDigit || c == '+' || c == '-' || c == '.'

/-- The scheme in lower case and what follows its colon. -/
def splitScheme? (cs : List Char) : Option (List Char × List Char) :=
  match cs with
  | [] => none
  | c :: _ =>
    if isAsciiAlpha c then
      match cs.dropWhile isSchemeChar with
      | ':' :: rest => some ((cs.takeWhile isSchemeChar).map Char.toLower, rest)
      | _ => none
    else none

/-- The three families of schemes. -/
inductive Family where
  /-- Schemes with a host that is looked up. -/
  | network
  | file
  | other
deriving DecidableEq, Repr

def Family.ofScheme (scheme : String) : Family :=
  if scheme ∈ ["http", "https", "ws", "wss", "ftp"] then .network
  else if scheme = "file" then .file
  else .other

/-- Whether a character ends the authority; a backslash is a slash to the families with
rules of their own. -/
def endsAuthority (family : Family) (c : Char) : Bool :=
  c == '/' || c == '?' || c == '#' || (c == '\\' && family != .other)

/-! ## Hosts -/

/-- The address in brackets, if a host starts with one. -/
def bracketed (cs : List Char) : Except ParseError String :=
  if cs.getLast? = some ']' then
    match ipv6? cs.tail.dropLast with
    | some _ => .ok (String.ofList cs)
    | none => .error .badIpv6
  else .error .badIpv6

/-- The bytes of a text in which `%` and two hexadecimal digits stand for a byte. -/
def percentDecode : List Char → List UInt8
  | [] => []
  | '%' :: a :: b :: cs =>
    match digitIn? 16 a, digitIn? 16 b with
    | some x, some y => (x * 16 + y).toUInt8 :: percentDecode cs
    | _, _ => Text.encodeChar '%' ++ percentDecode (a :: b :: cs)
  | c :: cs => Text.encodeChar c ++ percentDecode cs

/-- A host that is looked up: an address or a domain. -/
def networkHost (cs : List Char) : Except ParseError String :=
  if cs.head? = some '[' then bracketed cs
  else
    match (Text.decode? (percentDecode cs)).bind domain? with
    | none => .error .badDomain
    | some domain =>
      if domain.isEmpty then .error .emptyHost
      else if endsInNumber domain && (ipv4? domain).isNone then .error .badIpv4
      else .ok (String.ofList domain)

/-- The characters that no host may hold, whatever the scheme. -/
def isForbiddenInHost (c : Char) : Bool :=
  c == '\x00' || c == '\t' || c == '\n' || c == '\r' || c ∈ " #/:<>?@[\\]^|".toList

/-- A host of a scheme without rules of its own. -/
def opaqueHost (cs : List Char) : Except ParseError String :=
  if cs.head? = some '[' then bracketed cs
  else if cs.any isForbiddenInHost then .error .badHostCharacter
  else .ok (String.ofList cs)

/-! ## Authorities -/

/-- Where the host starts and whether user information stands before it: everything up to the
last at-sign. User information of nothing, or of a single colon, does not count. -/
def splitUser (cs : List Char) : Option (List Char) × List Char :=
  match splitAt '@' cs with
  | [] => (none, cs)
  | [_] => (none, cs)
  | parts => (some (List.intercalate ['@'] parts.dropLast), parts.getLastD [])

/-- The host at the front of a text: up to a colon outside brackets. -/
def splitHost (inside : Bool) : List Char → List Char × List Char
  | [] => ([], [])
  | c :: cs =>
    if c = ':' && !inside then ([], c :: cs)
    else
      let inside := if c = '[' then true else if c = ']' then false else inside
      let (host, rest) := splitHost inside cs
      (c :: host, rest)

/-- The port behind a host and its colon; a backslash ends it. -/
def port? : List Char → Except ParseError (Option Nat)
  | [] => .ok none
  | _ :: cs =>
    let digits := cs.takeWhile (· != '\\')
    if digits.isEmpty then .ok none
    else if digits.all Char.isDigit && Text.value digits ≤ 65535 then
      .ok (some (Text.value digits))
    else .error .badPort

/-- The host and the port of an authority; `last` says that nothing follows it. -/
def authority (family : Family) (last : Bool) (cs : List Char) :
    Except ParseError (Option String × Option Nat) := do
  let (user, cs) := splitUser cs
  if user = some [] && cs.isEmpty && !last then throw .emptyHost
  let (name, portText) := splitHost false cs
  if name.isEmpty && family = .network then throw .emptyHost
  let host ← if family = .network then networkHost name else opaqueHost name
  if host.isEmpty && !portText.isEmpty then throw .emptyHost
  let port ← port? portText
  if host.isEmpty && (user.getD [] ≠ [] && user ≠ some [':']) then throw .emptyHost
  return (if host.isEmpty then none else some host, port)

/-- Whether a text is a letter and a colon or bar, which names a drive and no host. -/
def isDriveLetter : List Char → Bool
  | [c, d] => isAsciiAlpha c && (d == ':' || d == '|')
  | _ => false

/-- Cuts a text where the authority ends. -/
def splitAuthority (family : Family) (cs : List Char) : List Char × List Char :=
  (cs.takeWhile fun c => !endsAuthority family c, cs.dropWhile fun c => !endsAuthority family c)

def isSlash (c : Char) : Bool := c == '/' || c == '\\'

/-- The authority behind a scheme, as far as the scheme names one, and what follows it. -/
def afterScheme (family : Family) (cs : List Char) :
    Except ParseError ((Option String × Option Nat) × List Char) :=
  match family with
  | .network =>
    let (front, rest) := splitAuthority family (cs.dropWhile isSlash)
    (authority family rest.isEmpty front).map (·, rest)
  | .file =>
    match cs with
    | a :: b :: cs =>
      if isSlash a && isSlash b then
        let (name, rest) := splitAuthority family cs
        if name.isEmpty || isDriveLetter name then .ok ((none, none), rest)
        else
          (networkHost name).map fun host =>
            ((if host = "localhost" then none else some host, none), rest)
      else .ok ((none, none), a :: b :: cs)
    | cs => .ok ((none, none), cs)
  | .other =>
    match cs with
    | '/' :: '/' :: cs =>
      let (front, rest) := splitAuthority family cs
      (authority family rest.isEmpty front).map (·, rest)
    | cs => .ok ((none, none), cs)

/-- Reads a URL. -/
def parse (text : String) : Except ParseError Url :=
  match splitScheme? (significant text) with
  | none => .error .noScheme
  | some (scheme, cs) =>
    let scheme := String.ofList scheme
    (afterScheme (Family.ofScheme scheme) cs).map fun r =>
      ⟨scheme, r.1.1, r.1.2, String.ofList r.2⟩

end Url

end LoadHarness
