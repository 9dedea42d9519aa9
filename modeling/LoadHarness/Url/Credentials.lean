import LoadHarness.Url.Basic
import LoadHarness.Wire.Base64

/-!
# Credentials in a URL

A URL may name a user, and behind a colon a password, in front of its host. A request over HTTP
does not carry them there but in a header of its own (`Url.authorization?`).
-/

namespace LoadHarness.Url

/-- What stands in front of the host, if a URL of a scheme with a host has anything there. -/
def userInfo (text : String) : List Char :=
  match splitScheme? (significant text) with
  | none => []
  | some (_, cs) =>
    (splitUser (splitAuthority .network (cs.dropWhile isSlash)).1).1.getD []

/-- The user and the password, either of which may be missing, but not both. A user that is no
text when decoded does not count, nor does such a password. -/
def credentials? (text : String) : Option (List Char × List Char) :=
  let info := userInfo text
  let password := (info.dropWhile (· != ':')).drop 1
  match Text.decode? (percentDecode (info.takeWhile (· != ':'))) with
  | none => none
  | some user =>
    let password := (Text.decode? (percentDecode password)).getD []
    if user.isEmpty && password.isEmpty then none else some (user, password)

/-- The value of the header that carries the credentials, if there are any. -/
def authorization? (text : String) : Option String :=
  (credentials? text).map fun c =>
    "Basic " ++ String.ofList (Wire.base64 (Text.encode (c.1 ++ ':' :: c.2)))

end LoadHarness.Url
