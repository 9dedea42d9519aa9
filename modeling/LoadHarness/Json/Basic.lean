import LoadHarness.Text.Numeral

/-!
# JSON values

The values that a JSON text can hold. Members of an object are kept in the order written,
repeated names included; `member?` looks a name up, and of several members with one name the
last counts.

A number is kept as it is written: sign, digits before and after the point, exponent. Readers
take it for a 64-bit floating-point number, and `Number.inRange` says whether they can:
whether its leading digits, times its power of ten, round to a finite one.
-/

namespace LoadHarness.Json

/-! ## Numbers -/

/-- A number as written. -/
structure Number where
  negative : Bool
  /-- The digits before the point. -/
  whole : List Char
  /-- The digits after the point, if there is one. -/
  fraction : List Char
  /-- The power of ten, if one is written. -/
  exponent : Option Int
deriving DecidableEq, Repr

/-- The greatest integer of 64 bits. -/
def wordMax : Nat := 0xFFFFFFFFFFFFFFFF

/-- As many digits as fit 64 bits, put after `n`, and how many were left out. -/
def takeDigits (n : Nat) : List Char → Nat × Nat
  | [] => (n, 0)
  | d :: ds =>
    let next := 10 * n + Text.digitValue d
    if next ≤ wordMax then takeDigits next ds else (n, (d :: ds).length)

/-- The integer nearest to `n` that has at most 53 significant bits. -/
def roundToBits53 (n : Nat) : Nat :=
  let unit := 1 <<< (n.log2 - 52)
  Text.quotientToEven n unit * unit

/-- The least number that rounds beyond the greatest finite double. -/
def overflowBound : Nat := (1 <<< 1024) - (1 <<< 970)

/-- Whether `n` times ten to the power `e` is finite in double precision; the number and the
power are rounded each before they are multiplied. -/
def scaledInRange (n : Nat) (e : Int) : Bool :=
  if n = 0 then true
  else match e with
    | .negSucc _ => true
    | .ofNat e => e ≤ 308 && roundToBits53 n * roundToBits53 (Nat.pow 10 e) < overflowBound

/-- Whether a number stands for a finite double. Digits beyond the first that fit 64 bits
count by their place alone. -/
def Number.inRange (n : Number) : Bool :=
  let (w, dropped) := takeDigits 0 n.whole
  let (f, lost) := takeDigits w n.fraction
  scaledInRange f (dropped - ((n.fraction.length - lost : Nat) : Int) + n.exponent.getD 0)

end LoadHarness.Json

namespace LoadHarness

/-! ## Values -/

/-- A JSON value. -/
inductive Json where
  | null
  | bool (b : Bool)
  | number (n : Json.Number)
  | string (s : String)
  | array (items : List Json)
  | object (members : List (String × Json))

namespace Json

/-- The last value that goes by `name` in a list of members. -/
def lookup (name : String) : List (String × Json) → Option Json
  | [] => none
  | (n, v) :: ms =>
    match lookup name ms with
    | some w => some w
    | none => if n = name then some v else none

/-- The member of an object that counts for `name`. -/
def member? (name : String) : Json → Option Json
  | .object members => lookup name members
  | _ => none

/-- The text of a string value. -/
def text? : Json → Option String
  | .string s => some s
  | _ => none

end Json

end LoadHarness
