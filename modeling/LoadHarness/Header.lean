import LoadHarness.Text.Blank

/-!
# Headers

Users give headers as `Key: Value`. `Header.split?` cuts such a text at its first colon and
takes the blank space off both parts, and `Header.readAll` does so for a list, naming the
first that has no colon. Which of the pairs a request can carry is a second question: a name
is a token of the characters that HTTP allows there, kept in lower case (`nameOf?`), and a
value holds no control character but the tab (`isValue`).
-/

namespace LoadHarness.Header

/-! ## The form that users give -/

/-- The characters before the first colon and those behind it. -/
def splitColon : List Char → Option (List Char × List Char)
  | [] => none
  | c :: cs =>
    if c = ':' then some ([], cs)
    else (splitColon cs).map fun p => (c :: p.1, p.2)

/-- The key and the value of a header as users give it. -/
def split? (text : String) : Option (String × String) :=
  (splitColon text.toList).map fun p =>
    (String.ofList (Text.trimChars p.1), String.ofList (Text.trimChars p.2))

/-- Why a list of headers is refused: this one has no colon. -/
structure FormatError where
  header : String
deriving DecidableEq, Repr

def FormatError.message (e : FormatError) : String :=
  "Invalid header format '" ++ e.header ++ "'. Use 'Key: Value' format"

/-- The keys and values of a list of headers. -/
def readAll : List String → Except FormatError (List (String × String))
  | [] => .ok []
  | h :: hs =>
    match split? h with
    | none => .error ⟨h⟩
    | some p => (readAll hs).map (p :: ·)

/-- Whether a header has the form that users must give. -/
def hasColon (text : String) : Bool := text.toList.any (· == ':')

/-- Whether every header of a list has that form. -/
def checkAll (headers : List String) : Except FormatError Unit :=
  match headers.find? fun h => !hasColon h with
  | some h => .error ⟨h⟩
  | none => .ok ()

/-! ## Names and values in a request -/

/-- The longest name of a header, in bytes. -/
def longestName : Nat := 65535

/-- The characters of a token. -/
def isTokenChar (c : Char) : Bool :=
  c.isAlphanum || c ∈ "!#$%&'*+-.^_`|~".toList

/-- The name of a header in lower case. -/
def nameOf? (key : String) : Option String :=
  let cs := key.toList
  if cs.isEmpty || longestName < cs.length || !cs.all isTokenChar then none
  else some (String.ofList (cs.map Char.toLower))

/-- Whether a request can carry a value. -/
def isValue (value : String) : Bool :=
  value.toList.all fun c => c == '\t' || (0x20 ≤ c.toNat && c.toNat != 0x7F)

/-- Why a header of the right form cannot be carried. -/
inductive CarryError where
  | badName (key : String)
  | badValue (text : String)
deriving DecidableEq, Repr

def CarryError.message : CarryError → String
  | .badName key => "Invalid header name: " ++ key ++ ": invalid HTTP header name"
  | .badValue text => "Invalid header value: " ++ text ++ ": failed to parse header value"

/-- A header with its name in lower case, if a request can carry it. -/
def carry (p : String × String) : Except CarryError (String × String) :=
  match nameOf? p.1 with
  | none => .error (.badName p.1)
  | some name => if isValue p.2 then .ok (name, p.2) else .error (.badValue p.2)

/-- A header put into a request: one of the same name gives way to it. -/
def insert (headers : List (String × String)) (p : String × String) : List (String × String) :=
  headers.filter (·.1 ≠ p.1) ++ [p]

/-- The headers that a request carries for the pairs that users give. -/
def carryAll (pairs : List (String × String)) : Except CarryError (List (String × String)) :=
  pairs.foldlM (fun headers p => (carry p).map (insert headers)) []

theorem isSome_splitColon (cs : List Char) : (splitColon cs).isSome = cs.any (· == ':') := by
  induction cs with
  | nil => rfl
  | cons c cs ih =>
    by_cases hc : c = ':'
    · simp [splitColon, hc]
    · simp [splitColon, hc, ih]

theorem isSome_split? (text : String) : (split? text).isSome = hasColon text := by
  simp [split?, isSome_splitColon, hasColon]

end LoadHarness.Header
