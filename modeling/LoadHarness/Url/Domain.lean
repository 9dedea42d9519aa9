import LoadHarness.Url.Address
import LoadHarness.Url.Domain.Compatibility
import LoadHarness.Url.Domain.Direction
import LoadHarness.Url.Domain.Punycode

/-!
# Domains

A domain is compared without case, and may hold characters of any script. `domain?` is the
form under which it is looked up, but for the labels beyond ASCII, which it leaves as they are.
It is nothing when the domain is not valid: when it holds a character that no domain may hold,
when a label is written in ASCII that stands for no label of another script, or when a label
begins with a mark, joins what does not join, or runs in two directions.
-/

namespace LoadHarness.Url

/-- The ASCII characters that no domain may hold. -/
def isForbidden (c : Char) : Bool :=
  c.toNat ≤ 0x20 || c.toNat == 0x7F || c ∈ "%#/:<>?@[\\]^|".toList

def isAscii (c : Char) : Bool := c.toNat < 0x80

/-- What a domain is read as: in lower case, with the characters that others stand for. -/
def unify (cs : List Char) : List Char :=
  (cs.filter fun c => !isIgnored c).flatMap fun c => (spelling c).map Char.toLower

/-- The start of a label that is written in ASCII for another. -/
def encodedStart : List Char := "xn--".toList

/-- The label that a label stands for. -/
def labelOf? (label : List Char) : Option (List Char) :=
  if encodedStart.isPrefixOf label then
    if label.all isAscii then
      (Punycode.decode? (label.drop encodedStart.length)).filter fun decoded =>
        !decoded.all isAscii && !decoded.any fun c => isIgnored c || isChanged c || isDisallowed c
    else none
  else some label

/-- Whether a label holds marks and joiners only where they may stand. -/
def isLabel (label : List Char) : Bool := !label.head?.any isMark && joinsAllowed [] label

/-- The form under which a domain is looked up. -/
def domain? (cs : List Char) : Option (List Char) :=
  let cs := unify cs
  if cs.any fun c => isForbidden c || isDisallowed c then none
  else
    match (splitAt '.' cs).mapM labelOf? with
    | none => none
    | some labels =>
      if labels.all isLabel && directionsAllowed labels then some cs else none

end LoadHarness.Url
