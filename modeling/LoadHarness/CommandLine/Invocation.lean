import LoadHarness.CommandLine.Number
import LoadHarness.Settings.Basic

/-!
# What a command line gives

A command line gives values to items: the target and up to three more by position, six by the
name of an option. It also raises flags. An `Invocation` holds what was given, and is empty
where nothing was. `Invocation.accept` adds the value of one item, `Invocation.raise` a flag;
only headers may be given more than once.
-/

namespace LoadHarness.CommandLine

/-- What takes a value. -/
inductive Item where
  | target
  | clients
  | requests
  | mode
  | interval
  | ackTimeout
  | maxRetransmit
  | httpMethod
  | payload
  | header
deriving DecidableEq, Repr

namespace Item

/-- The items that are given by position, in this order. -/
def positional : List Item := [target, clients, requests, mode]

/-- The items that are given by name. -/
def options : List Item := [interval, ackTimeout, maxRetransmit, httpMethod, payload, header]

/-- The name of an option behind its two hyphens. -/
def name : Item → String
  | target => "target"
  | clients => "clients"
  | requests => "requests"
  | mode => "mode"
  | interval => "interval"
  | ackTimeout => "ack-timeout"
  | maxRetransmit => "max-retransmit"
  | httpMethod => "http-method"
  | payload => "payload"
  | header => "header"

/-- The item as usage texts show it. -/
def display : Item → String
  | target => "<URI>"
  | clients => "[CLIENTS]"
  | requests => "[REQUESTS]"
  | mode => "[MODE]"
  | interval => "--interval <DURATION>"
  | ackTimeout => "--ack-timeout <DURATION>"
  | maxRetransmit => "--max-retransmit <COUNT>"
  | httpMethod => "--http-method <HTTP_METHOD>"
  | payload => "--payload <TEXT>"
  | header => "--header <HEADER>"

/-- The option of a name. -/
def ofName? (name : String) : Option Item := options.find? (·.name == name)

/-- The option of a letter. -/
def ofLetter? : Char → Option Item
  | 'p' => some payload
  | 'H' => some header
  | _ => none

end Item

/-- What takes no value. -/
inductive Flag where
  | insecure
  | verbose
  | help
  | version
deriving DecidableEq, Repr

namespace Flag

def all : List Flag := [insecure, verbose, help, version]

/-- The name of a flag behind its two hyphens. -/
def name : Flag → String
  | insecure => "insecure"
  | verbose => "verbose"
  | help => "help"
  | version => "version"

def display (f : Flag) : String := "--" ++ f.name

/-- The flag of a name. -/
def ofName? (name : String) : Option Flag := all.find? (·.name == name)

/-- The flag of a letter. -/
def ofLetter? : Char → Option Flag
  | 'v' => some verbose
  | 'h' => some help
  | 'V' => some version
  | _ => none

end Flag

/-- What a command line gives. -/
structure Invocation where
  target : Option String
  clients : Option UInt32
  requests : Option UInt32
  mode : Option String
  interval : Option String
  ackTimeout : Option String
  maxRetransmit : Option UInt32
  method : Option Method
  payload : Option String
  headers : List String
  insecure : Bool
  verbose : Bool
deriving DecidableEq, Repr

namespace Invocation

/-- Nothing is given. -/
def empty : Invocation := ⟨none, none, none, none, none, none, none, none, none, [], false, false⟩

/-- Whether an item has the one value that it may have. -/
def has (v : Invocation) : Item → Bool
  | .target => v.target.isSome
  | .clients => v.clients.isSome
  | .requests => v.requests.isSome
  | .mode => v.mode.isSome
  | .interval => v.interval.isSome
  | .ackTimeout => v.ackTimeout.isSome
  | .maxRetransmit => v.maxRetransmit.isSome
  | .httpMethod => v.method.isSome
  | .payload => v.payload.isSome
  | .header => false

/-- The count that a text gives to an item. -/
def count (item : Item) (text : String) : Except Refusal UInt32 :=
  match readCount text with
  | .error e => .error (.noNumber text item.display e)
  | .ok n => .ok n

/-- The method that a text gives to an item. -/
def choice (item : Item) (text : String) : Except Refusal Method :=
  if text.isEmpty then .error (.noValue item.display)
  else
    match Method.ofName? text with
    | none => .error (.noChoice text item.display)
    | some m => .ok m

/-- Gives a text to an item. -/
def put (v : Invocation) (item : Item) (text : String) : Except Refusal Invocation :=
  match item with
  | .target => .ok { v with target := some text }
  | .clients => (count item text).map fun n => { v with clients := some n }
  | .requests => (count item text).map fun n => { v with requests := some n }
  | .mode => .ok { v with mode := some text }
  | .interval => .ok { v with interval := some text }
  | .ackTimeout => .ok { v with ackTimeout := some text }
  | .maxRetransmit => (count item text).map fun n => { v with maxRetransmit := some n }
  | .httpMethod => (choice item text).map fun m => { v with method := some m }
  | .payload => .ok { v with payload := some text }
  | .header => .ok { v with headers := v.headers ++ [text] }

/-- Gives a text to an item that may still take one. -/
def accept (v : Invocation) (item : Item) (text : String) : Except Refusal Invocation :=
  if v.has item then .error (.repeated item.display) else v.put item text

/-- Raises a flag. Help and the version end the reading of the command line. -/
def raise (v : Invocation) : Flag → Except Refusal Invocation
  | .insecure =>
    if v.insecure then .error (.repeated Flag.insecure.display)
    else .ok { v with insecure := true }
  | .verbose =>
    if v.verbose then .error (.repeated Flag.verbose.display)
    else .ok { v with verbose := true }
  | .help => .error .help
  | .version => .error .version

end Invocation

end LoadHarness.CommandLine
