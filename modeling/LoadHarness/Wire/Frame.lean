import LoadHarness.Wire.Base64
import LoadHarness.Wire.Http
import LoadHarness.Wire.Sha1

/-!
# WebSocket frames on the wire

A connection begins with a handshake over HTTP, in which the server answers the key of the client
(`acceptance`). Then both sides send frames. What a client sends is masked with four bytes of
its choice (`Frame.toBytes`). `Frame.read` reads a frame from the front of the bytes that have
come so far.
-/

namespace LoadHarness.Wire

/-- What a server answers to the key of a client. -/
def acceptance (key : String) : String :=
  String.ofList <|
    base64 (Digest.ofBytes (bytes (key ++ "258EAFA5-E914-47DA-95CA-C5AB0DC85B11"))).toBytes

/-- The headers of a handshake. -/
def handshakeHeaders (host key : String) : List (String × String) :=
  [("host", host), ("connection", "Upgrade"), ("upgrade", "websocket"),
    ("sec-websocket-version", "13"), ("sec-websocket-key", key)]

/-- Whether an answer opens the connection that a key asked for. -/
def opensConnection (h : Head) (key : String) : Bool :=
  let lower (name : String) : List Char := ((h.header? name).getD "").toList.map Char.toLower
  h.status == 101 && lower "upgrade" == "websocket".toList && lower "connection" == "upgrade".toList
    && h.header? "sec-websocket-accept" == some (acceptance key)

/-- What a frame is for. -/
inductive FrameKind where
  | continuation
  | text
  | binary
  | close
  | ping
  | pong
deriving DecidableEq, Repr

def FrameKind.code : FrameKind → UInt8
  | .continuation => 0
  | .text => 1
  | .binary => 2
  | .close => 8
  | .ping => 9
  | .pong => 10

def FrameKind.ofCode? : UInt8 → Option FrameKind
  | 0 => some .continuation
  | 1 => some .text
  | 2 => some .binary
  | 8 => some .close
  | 9 => some .ping
  | 10 => some .pong
  | _ => none

structure Frame where
  /-- Whether no continuation follows. -/
  isLast : Bool
  kind : FrameKind
  payload : List UInt8
deriving DecidableEq, Repr

namespace Frame

/-- A payload under a mask, which covers it again and again. -/
def masked (mask payload : List UInt8) : List UInt8 :=
  payload.zipIdx.map fun p => p.1 ^^^ mask.getD (p.2 % 4) 0

/-- The length of a payload in the bytes behind the first, with the bit that tells of a mask. -/
def lengthBytes (n : Nat) : List UInt8 :=
  if n < 126 then [(0x80 + n).toUInt8]
  else if n < 0x10000 then 0xFE :: Digest.bytesOf n 2
  else 0xFF :: Digest.bytesOf n 8

/-- A frame as a client sends it, under a mask of four bytes. -/
def toBytes (mask : List UInt8) (f : Frame) : List UInt8 :=
  ((if f.isLast then 0x80 else 0) ||| f.kind.code) :: lengthBytes f.payload.length
    ++ mask ++ masked mask f.payload

/-- The number that a row of bytes makes, the highest first. -/
def number (bs : List UInt8) : Nat := bs.foldl (fun n b => 256 * n + b.toNat) 0

/-- The payload of a given length, with the mask before it if there is one. -/
def readPayload (isMasked : Bool) (n : Nat) (bs : List UInt8) :
    Answer (List UInt8 × List UInt8) :=
  let maskLength := if isMasked then 4 else 0
  if bs.length < maskLength + n then .incomplete
  else
    let payload := (bs.drop maskLength).take n
    .complete (if isMasked then masked (bs.take 4) payload else payload,
      bs.drop (maskLength + n))

/-- The frame at the front of a row of bytes, and what follows it. -/
def read : List UInt8 → Answer (Frame × List UInt8)
  | a :: b :: rest =>
    let isMasked := 0x80 ≤ b
    let short := (b &&& 0x7F).toNat
    let width := if short = 126 then 2 else if short = 127 then 8 else 0
    let n := if width = 0 then short else number (rest.take width)
    match FrameKind.ofCode? (a &&& 0x0F) with
    | none => .malformed
    | some kind =>
      if a &&& 0x70 != 0 then .malformed
      else if rest.length < width then .incomplete
      else
        match readPayload isMasked n (rest.drop width) with
        | .complete (payload, rest) => .complete (⟨0x80 ≤ a, kind, payload⟩, rest)
        | .incomplete => .incomplete
        | .malformed => .malformed
  | _ => .incomplete

end Frame

end LoadHarness.Wire
