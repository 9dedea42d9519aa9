import LoadHarness.CommandLine.Invocation

/-!
# Reading a command line

The arguments are read one after the other. An option takes its value from behind an equals
sign or from the next argument, letters may stand together behind one hyphen, and behind two
hyphens alone every argument counts by position.

A value that stands in an argument of its own is looked at only when the next option, flag or
value by position comes, or the line ends. `Reading` therefore keeps it as pending, and
`Reading.settle` looks at it. An argument that nothing takes is refused at once, before what
is pending.
-/

namespace LoadHarness.CommandLine

/-- A command line read so far. -/
structure Reading where
  given : Invocation
  /-- An item whose value has come but is not looked at, or is still to come. -/
  pending : Option (Item × Option String)
  /-- The items that further values by position go to. -/
  places : List Item
  /-- Whether two hyphens have ended the options. -/
  positionalOnly : Bool
deriving DecidableEq, Repr

namespace Reading

def start : Reading := ⟨.empty, none, Item.positional, false⟩

/-- Looks at the pending value. -/
def settle (r : Reading) : Except Refusal Reading :=
  match r.pending with
  | none => .ok r
  | some (item, none) => .error (.noValue item.display)
  | some (item, some text) =>
    (r.given.accept item text).map fun v => { r with given := v, pending := none }

/-- A flag. -/
def flag (r : Reading) (f : Flag) : Except Refusal Reading := do
  let r ← r.settle
  let v ← r.given.raise f
  return { r with given := v }

/-- An option whose value is the next argument. -/
def await (r : Reading) (item : Item) : Except Refusal Reading := do
  let r ← r.settle
  return { r with pending := some (item, none) }

/-- An option with its value in the same argument. -/
def attach (r : Reading) (item : Item) (text : String) : Except Refusal Reading := do
  let r ← r.settle
  let v ← r.given.accept item text
  return { r with given := v }

/-- A value by position. -/
def position (r : Reading) (text : String) : Except Refusal Reading :=
  match r.places with
  | [] => .error (.unknown text)
  | item :: items => do
    let r ← r.settle
    return { r with pending := some (item, some text), places := items }

/-- An argument without hyphens in front: the value an option waits for, or one by position. -/
def value (r : Reading) (text : String) : Except Refusal Reading :=
  match r.pending with
  | some (item, none) => .ok { r with pending := some (item, some text) }
  | _ => r.position text

/-- What stands before the first equals sign, and what behind it if there is one. -/
def splitEquals (cs : List Char) : List Char × Option (List Char) :=
  (cs.takeWhile (· != '='), (cs.dropWhile (· != '=')).tail?)

/-- What follows two hyphens. -/
def long (r : Reading) (cs : List Char) : Except Refusal Reading :=
  let (name, text) := splitEquals cs
  let name := String.ofList name
  match Flag.ofName? name, Item.ofName? name, text with
  | some f, _, none => r.flag f
  | some f, _, some text => .error (.unneededValue (String.ofList text) f.display)
  | none, some item, none => r.await item
  | none, some item, some text => r.attach item (String.ofList text)
  | none, none, _ => .error (.unknown ("--" ++ name))

/-- A value without the equals sign that may stand before it. -/
def dropEquals : List Char → List Char
  | '=' :: cs => cs
  | cs => cs

/-- The letters that follow one hyphen. -/
def letters (r : Reading) : List Char → Except Refusal Reading
  | [] => .ok r
  | c :: cs =>
    match Flag.ofLetter? c, Item.ofLetter? c with
    | some f, _ =>
      match r.flag f with
      | .error e => .error e
      | .ok r => r.letters cs
    | none, some item =>
      if cs.isEmpty then r.await item else r.attach item (String.ofList (dropEquals cs))
    | none, none => .error (.unknown (String.ofList ['-', c]))

/-- One more argument. -/
def step (r : Reading) (argument : String) : Except Refusal Reading :=
  if r.positionalOnly then r.position argument
  else
    match argument.toList with
    | ['-', '-'] => .ok { r with positionalOnly := true }
    | '-' :: '-' :: cs => r.long cs
    | '-' :: c :: cs => r.letters (c :: cs)
    | _ => r.value argument

end Reading

/-- What a command line gives, of which the target must be part. -/
def Invocation.read (arguments : List String) : Except Refusal Invocation := do
  let r ← arguments.foldlM Reading.step .start
  let r ← r.settle
  if r.given.target.isNone then .error .noTarget else .ok r.given

end LoadHarness.CommandLine
