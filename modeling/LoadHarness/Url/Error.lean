/-!
# Why a text is no URL
-/

namespace LoadHarness.Url

/-- Why a text is no URL. -/
inductive ParseError where
  /-- There is no scheme, so the text would need a base to be relative to. -/
  | noScheme
  | emptyHost
  | badPort
  | badIpv4
  | badIpv6
  /-- A domain that is not one under the rules for international names. -/
  | badDomain
  /-- A character that no host of a scheme without rules of its own may hold. -/
  | badHostCharacter
deriving DecidableEq, Repr

def ParseError.message : ParseError → String
  | .noScheme => "relative URL without a base"
  | .emptyHost => "empty host"
  | .badPort => "invalid port number"
  | .badIpv4 => "invalid IPv4 address"
  | .badIpv6 => "invalid IPv6 address"
  | .badDomain => "invalid international domain name"
  | .badHostCharacter => "invalid domain character"

end LoadHarness.Url
