import LoadHarness.Json.Reader
import LoadHarness.Json.Writer

/-!
# How JSON values are written

The texts of a value, apart from any reader of them. `CharText` says how a character stands in a
string : as it is, behind a backslash, or by its number, in one unit of sixteen bits or in a pair
of them. `NumberText` says how a number stands, and `Written` how a value does, with blank space
(`Blank`) around every part of a container. A container holds its items in the order written, an
object also those whose name comes again.

`Within` bounds a value : how deep its containers are nested, and that all its numbers are in range.
-/

namespace LoadHarness.Json

/-- Nothing but blank space. -/
def Blank (cs : List Char) : Prop := ∀ c ∈ cs, isSpace c = true

/-! ## Strings -/

/-- A hexadecimal digit, in lower or upper case. -/
def HexText (n : Nat) (c : Char) : Prop := c = hexDigit n ∨ c = (hexDigit n).toUpper

instance (n : Nat) (c : Char) : Decidable (HexText n c) := inferInstanceAs (Decidable (_ ∨ _))

/-- The four hexadecimal digits of a unit of sixteen bits. -/
def UnitText (n : Nat) (ts : List Char) : Prop :=
  n < 0x10000 ∧ ∃ a b c d, HexText (n / 0x1000) a ∧ HexText (n / 0x100 % 16) b ∧
    HexText (n / 0x10 % 16) c ∧ HexText (n % 16) d ∧ ts = [a, b, c, d]

/-- The characters that have a letter of their own behind a backslash, with it. -/
def letters : List (Char × Char) :=
  [('"', '"'), ('\\', '\\'), ('/', '/'), ('\x08', 'b'), ('\x0c', 'f'), ('\n', 'n'), ('\r', 'r'),
    ('\t', 't')]

/-- The first unit of a character that takes two. -/
def leading (c : Char) : Nat := 0xD800 + (c.toNat - 0x10000) / 0x400

/-- The second unit of a character that takes two. -/
def trailing (c : Char) : Nat := 0xDC00 + (c.toNat - 0x10000) % 0x400

/-- The texts of a character inside a string. -/
inductive CharText (c : Char) : List Char → Prop
  | plain (hquote : c ≠ '"') (hslash : c ≠ '\\') (hc : 0x20 ≤ c.toNat) : CharText c [c]
  | letter {l : Char} (h : (c, l) ∈ letters) : CharText c ['\\', l]
  | unit {ts : List Char} (h : UnitText c.toNat ts) : CharText c ('\\' :: 'u' :: ts)
  | pair {ts us : List Char} (h : 0x10000 ≤ c.toNat) (hleading : UnitText (leading c) ts)
      (htrailing : UnitText (trailing c) us) :
      CharText c ('\\' :: 'u' :: ts ++ '\\' :: 'u' :: us)

/-- The texts of a string, its quotes left out. -/
inductive CharsText : List Char → List Char → Prop
  | nil : CharsText [] []
  | cons {c : Char} {cs ts us : List Char} (hc : CharText c ts) (hcs : CharsText cs us) :
      CharsText (c :: cs) (ts ++ us)

/-- The texts of a string. -/
inductive StringText (s : String) : List Char → Prop
  | quoted {ts : List Char} (h : CharsText s.toList ts) : StringText s ('"' :: ts ++ ['"'])

/-! ## Numbers -/

/-- At least one digit. -/
def Digits (ds : List Char) : Prop := ds ≠ [] ∧ ∀ c ∈ ds, c.isDigit = true

/-- Digits of which none but a lone one is a zero in front. -/
def WholeText (ds : List Char) : Prop := Digits ds ∧ (ds.head? = some '0' → ds = ['0'])

inductive FractionText : List Char → List Char → Prop
  | omitted : FractionText [] []
  | point {ds : List Char} (h : Digits ds) : FractionText ds ('.' :: ds)

/-- The sign of an exponent that is negative or not. -/
inductive SignText : Bool → List Char → Prop
  | omitted : SignText false []
  | plus : SignText false ['+']
  | minus : SignText true ['-']

inductive ExponentText : Option Int → List Char → Prop
  | omitted : ExponentText none []
  | power {negative : Bool} {letter : Char} {ts ds : List Char}
      (hletter : letter = 'e' ∨ letter = 'E') (hsign : SignText negative ts) (hds : Digits ds) :
      ExponentText (some (if negative then -(Text.value ds : Int) else Text.value ds))
        (letter :: ts ++ ds)

/-- The text of a number, which keeps all but the form of the exponent. -/
inductive NumberText : Number → List Char → Prop
  | intro {negative : Bool} {whole fraction ts us : List Char} {exponent : Option Int}
      (hwhole : WholeText whole) (hfraction : FractionText fraction ts)
      (hexponent : ExponentText exponent us) :
      NumberText ⟨negative, whole, fraction, exponent⟩
        ((if negative then ['-'] else []) ++ whole ++ ts ++ us)

/-! ## Values -/

/-- The texts of a value that is no container. -/
inductive ScalarText : Json → List Char → Prop
  | null : ScalarText .null ['n', 'u', 'l', 'l']
  | boolTrue : ScalarText (.bool true) ['t', 'r', 'u', 'e']
  | boolFalse : ScalarText (.bool false) ['f', 'a', 'l', 's', 'e']
  | number {n : Number} {ts : List Char} (h : NumberText n ts) : ScalarText (.number n) ts
  | string {s : String} {ts : List Char} (h : StringText s ts) : ScalarText (.string s) ts

section Containers

variable {α : Type}

/-- Items divided by commas, with blank space around each. -/
inductive Row (P : α → List Char → Prop) : List α → List Char → Prop
  | last {a : α} {front ts back : List Char} (hfront : Blank front) (h : P a ts)
      (hback : Blank back) : Row P [a] (front ++ ts ++ back)
  | cons {a : α} {as : List α} {front ts back us : List Char} (hfront : Blank front) (h : P a ts)
      (hback : Blank back) (hrest : Row P as us) :
      Row P (a :: as) (front ++ ts ++ back ++ ',' :: us)

/-- What stands between the brackets of a container. -/
inductive Body (P : α → List Char → Prop) : List α → List Char → Prop
  | empty {ts : List Char} (h : Blank ts) : Body P [] ts
  | row {as : List α} {ts : List Char} (h : Row P as ts) : Body P as ts

/-- The texts of a member. -/
inductive MemberText (P : α → List Char → Prop) : String × α → List Char → Prop
  | intro {name : String} {a : α} {ts gap front us : List Char} (hname : StringText name ts)
      (hgap : Blank gap) (hfront : Blank front) (h : P a us) :
      MemberText P (name, a) (ts ++ gap ++ ':' :: front ++ us)

/-- A text with blank space around it. -/
inductive Padded (P : α → List Char → Prop) (a : α) : List Char → Prop
  | intro {front ts back : List Char} (hfront : Blank front) (h : P a ts) (hback : Blank back) :
      Padded P a (front ++ ts ++ back)

end Containers

/-- The texts of a value, without blank space around it. -/
inductive Written : Json → List Char → Prop
  | scalar {v : Json} {ts : List Char} (h : ScalarText v ts) : Written v ts
  | array {vs : List Json} {ts : List Char} (h : Body Written vs ts) :
      Written (.array vs) ('[' :: ts ++ [']'])
  | object {ms : List (String × Json)} {ts : List Char} (h : Body (MemberText Written) ms ts) :
      Written (.object ms) ('\x7b' :: ts ++ ['\x7d'])

/-- At most so many containers are nested in a value, and every number in it is in range. -/
def Within : Nat → Json → Prop
  | _, .null => True
  | _, .bool _ => True
  | _, .number n => n.inRange = true
  | _, .string _ => True
  | 0, .array _ => False
  | depth + 1, .array vs => ∀ v ∈ vs, Within depth v
  | 0, .object _ => False
  | depth + 1, .object ms => ∀ m ∈ ms, Within depth m.2

end LoadHarness.Json
