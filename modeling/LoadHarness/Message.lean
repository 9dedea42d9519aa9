import LoadHarness.Failure
import LoadHarness.Json.Writer
import LoadHarness.RequestId

/-!
# Requests, responses and outcomes

A client sends a `Request`, which as a frame of text is a JSON object with its identifier and
its payload, and gets an `Outcome`: a `Response` or none. `idOfFrame` reads the identifier
back from a frame, however the frame is written.

A response is shown with its status and, unless it is empty, its body. A body of more than
`shownBytes` bytes is cut at the last place within them where a character begins: `display?`
makes the cut, and `display` is the text that it always gives.
-/

namespace LoadHarness

/-- The number of a client in its run. -/
structure ClientId where
  number : Nat
deriving DecidableEq, Repr, Inhabited

namespace ClientId

/-- The client that probes the target before the others are built. -/
def probe : ClientId := ⟨0⟩

def display (id : ClientId) : String := "#" ++ Text.numeral id.number

end ClientId

/-! ## Requests -/

/-- What a client sends. -/
structure Request where
  id : RequestId
  payload : String
deriving DecidableEq, Repr

namespace Request

/-- The request as a frame of text. -/
def frame (r : Request) : String :=
  Json.textObject [("id", r.id), ("payload", r.payload)]

/-- The request with a payload and an identifier made from random bits. -/
def ofPayload (payload : String) (bits : Nat) : Request := ⟨.ofBits bits, payload⟩

end Request

/-- The identifier in a value: its last member named `id`, if that is a string. -/
def idOfValue (v : Json) : Except Failure RequestId :=
  Failure.ofMissing .message "Missing or invalid 'id' field in frame"
    ((v.member? "id").bind Json.text?)

/-- The identifier in a frame of text. -/
def idOfFrame (frame : String) : Except Failure RequestId :=
  match Json.read frame with
  | .error e => .error (.json e)
  | .ok v => idOfValue v

/-! ## Responses -/

/-- What a target answers. -/
structure Response where
  status : Nat
  body : String
deriving DecidableEq, Repr

namespace Response

/-- How many bytes of a body are shown. -/
def shownBytes : Nat := 64

/-- A status of the class that means success. -/
def isSuccess (r : Response) : Bool := 200 ≤ r.status && r.status < 300

/-- The text that shows a response. There is none if the cut lies within a character. -/
def display? (r : Response) : Option String :=
  let status := "status " ++ Text.numeral r.status
  if r.body.isEmpty then some status
  else if shownBytes < r.body.utf8ByteSize then
    (Text.front? r.body (Text.lastCut shownBytes r.body)).map fun front =>
      status ++ " (" ++ front ++ "...)"
  else some (status ++ " (" ++ r.body ++ ")")

theorem isSome_display? (r : Response) : r.display?.isSome = true := by
  unfold display?
  split
  case isTrue => rfl
  case isFalse =>
    split
    case isTrue => rw [Option.isSome_map, Text.isSome_front?_lastCut]
    case isFalse => rfl

/-- The text that shows a response. -/
def display (r : Response) : String := r.display?.get r.isSome_display?

end Response

/-- How an exchange ended. -/
inductive Outcome where
  | response (r : Response)
  /-- Nobody answered, the connection was lost, or the transport had been stopped. -/
  | noResponse
deriving DecidableEq, Repr

/-- Whether the request was answered with success. -/
def Outcome.isSuccess : Outcome → Bool
  | .response r => r.isSuccess
  | .noResponse => false

end LoadHarness
