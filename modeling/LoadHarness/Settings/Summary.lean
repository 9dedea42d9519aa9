import LoadHarness.Settings.Basic

/-!
# Showing settings

`Settings.summary` lists what a run is about to do, in the lines that are printed before it.
-/

namespace LoadHarness.Settings

/-- What happens when a request of a client fails. -/
def failurePolicy (s : Sizing) : String :=
  if s.stopOnFailure then "stop client" else "count and continue"

/-- The number of headers and each of them, if there are any. -/
def headerLines (headers : List String) : List String :=
  if headers.isEmpty then []
  else
    ("   Custom Headers:   " ++ Text.numeral headers.length)
      :: headers.map ("                     " ++ ·)

/-- The settings in lines, an empty one at the end. -/
def summary (s : Settings) : List String :=
  [ "Volley benchmark configuration:",
    "   Target:           " ++ s.target,
    "   Clients:          " ++ Text.numeral s.sizing.clients.toNat,
    "   Requests/client:  " ++ Text.numeral s.sizing.requests.toNat,
    "   On failure:       " ++ failurePolicy s.sizing,
    "   Ack timeout:      " ++ Text.numeral s.ackTimeout.milliseconds ++ "ms (max "
      ++ Text.numeral s.maxRetransmit.toNat ++ " retransmissions)",
    "   Interval:         " ++ Text.numeral s.interval.milliseconds ++ "ms" ]
  ++ headerLines s.headers
  ++ (if s.insecure then ["   Security:         certificate verification disabled"] else [])
  ++ [""]

end LoadHarness.Settings
