/-!
# The digest of a handshake

A WebSocket server proves that it read the handshake by a digest of the client's key. The digest
is taken in blocks of sixteen words of 32 bits, in eighty rounds each; the text is filled up to
whole blocks with a bit, zeros and its length.
-/

namespace LoadHarness.Wire

/-- The words that a digest is made of. -/
structure Digest where
  a : UInt32
  b : UInt32
  c : UInt32
  d : UInt32
  e : UInt32
deriving DecidableEq, Repr

namespace Digest

def initial : Digest := ⟨0x67452301, 0xEFCDAB89, 0x98BADCFE, 0x10325476, 0xC3D2E1F0⟩

def rotate (x : UInt32) (k : UInt32) : UInt32 := (x <<< k) ||| (x >>> (32 - k))

/-- What mixes three words in a round, and the constant of that round. -/
def mixture (round : Nat) (b c d : UInt32) : UInt32 × UInt32 :=
  if round < 20 then ((b &&& c) ||| ((b ^^^ 0xFFFFFFFF) &&& d), 0x5A827999)
  else if round < 40 then (b ^^^ c ^^^ d, 0x6ED9EBA1)
  else if round < 60 then ((b &&& c) ||| (b &&& d) ||| (c &&& d), 0x8F1BBCDC)
  else (b ^^^ c ^^^ d, 0xCA62C1D6)

/-- One round, with the word of the schedule that is its turn. -/
def round (s : Digest) (p : UInt32 × Nat) : Digest :=
  let (f, k) := mixture p.2 s.b s.c s.d
  ⟨rotate s.a 5 + f + s.e + k + p.1, s.a, rotate s.b 30, s.c, s.d⟩

/-- The words of a block followed by so many more, each made of four before it. The latest is
the first in the list. -/
def extend (words : List UInt32) : Nat → List UInt32
  | 0 => words
  | n + 1 =>
    let w := rotate
      (words.getD 2 0 ^^^ words.getD 7 0 ^^^ words.getD 13 0 ^^^ words.getD 15 0) 1
    extend (w :: words) n

/-- What a block of words makes of a digest. -/
def block (s : Digest) (words : List UInt32) : Digest :=
  let t := ((extend words.reverse 64).reverse.zipIdx).foldl round s
  ⟨s.a + t.a, s.b + t.b, s.c + t.c, s.d + t.d, s.e + t.e⟩

/-- The words that rows of four bytes make. -/
def words : List UInt8 → List UInt32
  | a :: b :: c :: d :: rest =>
    (a.toUInt32 <<< 24 ||| b.toUInt32 <<< 16 ||| c.toUInt32 <<< 8 ||| d.toUInt32) :: words rest
  | _ => []

/-- So many bytes of a number, the highest first. -/
def bytesOf (n : Nat) (count : Nat) : List UInt8 :=
  (List.range count).reverse.map fun k => (n >>> (8 * k)).toUInt8

/-- A text filled up to whole blocks of 64 bytes. -/
def padded (bytes : List UInt8) : List UInt8 :=
  let zeros := (119 - bytes.length % 64) % 64
  bytes ++ 0x80 :: List.replicate zeros 0 ++ bytesOf (bytes.length * 8) 8

/-- Takes so many blocks of words into a digest. -/
def blocks (s : Digest) (ws : List UInt32) : Nat → Digest
  | 0 => s
  | n + 1 => blocks (s.block (ws.take 16)) (ws.drop 16) n

def toBytes (s : Digest) : List UInt8 :=
  [s.a, s.b, s.c, s.d, s.e].flatMap fun w => bytesOf w.toNat 4

/-- The digest of a text. -/
def ofBytes (bytes : List UInt8) : Digest :=
  let ws := words (padded bytes)
  blocks initial ws (ws.length / 16)

end Digest

end LoadHarness.Wire
