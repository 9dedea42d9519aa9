import LoadHarness.Duration
import LoadHarness.Failure

/-!
# Settings

`Settings` says what a run does: where it sends requests and with which headers, how many
clients send how many each (`Sizing`), how long a request waits for its answer, and how often
progress is shown. `Settings.ofTarget` fills in the usual values, and `Settings.quick` those
of a short run.

`Sizing.configure` accepts every sizing with at least one client and one request each. Its
counts have 32 bits, so that the requests of a run always fit 64 (`total_lt`).
-/

namespace LoadHarness

/-- What a request asks of a target that speaks HTTP. -/
inductive Method where
  | get
  | post
  | put
  | delete
  | patch
deriving DecidableEq, Repr

namespace Method

def all : List Method := [get, post, put, delete, patch]

/-- The method as users write it. -/
def name : Method → String
  | get => "get"
  | post => "post"
  | put => "put"
  | delete => "delete"
  | patch => "patch"

/-- The method as requests carry it. -/
def verb (m : Method) : String := m.name.toUpper

/-- The method that goes by a name. -/
def ofName? (name : String) : Option Method := all.find? (·.name == name)

/-- Whether requests of a method carry the payload as their body. -/
def hasBody : Method → Bool
  | post | put | patch => true
  | get | delete => false

end Method

/-- How many clients send how many requests each, and whether a client stops when a request
of its own fails. -/
structure Sizing where
  clients : UInt32
  requests : UInt32
  stopOnFailure : Bool
deriving DecidableEq, Repr

namespace Sizing

/-- The requests of all clients together. -/
def total (s : Sizing) : Nat := s.clients.toNat * s.requests.toNat

/-- A sizing that a run can have. -/
def configure (clients requests : UInt32) (stopOnFailure : Bool) : Except Failure Sizing :=
  if clients < 1 then .error (.invalidArgument "Number of clients must be at least 1")
  else if requests < 1 then
    .error (.invalidArgument "Number of requests per client must be at least 1")
  else .ok ⟨clients, requests, stopOnFailure⟩

/-- The requests of a run fit 64 bits. -/
theorem total_lt (s : Sizing) : s.total < 0x10000000000000000 :=
  calc s.total ≤ s.clients.toNat * 0x100000000 :=
        Nat.mul_le_mul_left _ (Nat.le_of_lt s.requests.toNat_lt)
    _ < 0x100000000 * 0x100000000 :=
        Nat.mul_lt_mul_of_pos_right s.clients.toNat_lt (by decide)

end Sizing

/-- What a run does. -/
structure Settings where
  target : String
  /-- Take any certificate for a good one. -/
  insecure : Bool
  /-- As users give them: `Key: Value`. -/
  headers : List String
  sizing : Sizing
  /-- How long the first attempt of a request waits; each further one waits twice as long. -/
  ackTimeout : Duration
  /-- How many attempts may follow the first. -/
  maxRetransmit : UInt32
  method : Method
  payload : String
  /-- The time between two looks at the progress. -/
  interval : Duration
  verbose : Bool
deriving DecidableEq, Repr

namespace Settings

/-- The usual settings for a target. -/
def ofTarget (target : String) : Settings where
  target
  insecure := false
  headers := []
  sizing := ⟨5, 100, true⟩
  ackTimeout := .ofSeconds 2
  maxRetransmit := 4
  method := .post
  payload := ""
  interval := .ofSeconds 10
  verbose := false

/-- The settings of a short run with a close look at it. -/
def quick (target : String) : Settings :=
  { ofTarget target with
    sizing := ⟨2, 10, true⟩
    ackTimeout := .ofMilliseconds 200
    maxRetransmit := 1
    interval := .ofMilliseconds 250 }

end Settings

end LoadHarness
