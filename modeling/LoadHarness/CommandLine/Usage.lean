/-!
# The usage text
-/

namespace LoadHarness.CommandLine

/-- What a command line can hold, in lines. -/
def usageLines : List String :=
  [ "Drives concurrent request chains against an endpoint until a shared request budget is spent",
    "",
    "Usage: volley [OPTIONS] <URI> [CLIENTS] [REQUESTS] [MODE]",
    "",
    "Arguments:",
    "  <URI>       Target URI (http, https, ws or wss)",
    "  [CLIENTS]   Number of concurrent clients [default: 5]",
    "  [REQUESTS]  Number of requests per client [default: 100]",
    "  [MODE]      `nonestop` keeps a client running when a request fails",
    "",
    "Options:",
    "      --interval <DURATION>        Progress interval; a run without progress for "
      ++ "one interval is stale (e.g. '500ms', '10s', '1m') [default: 10s]",
    "      --ack-timeout <DURATION>     Timeout of the first attempt; doubled on every "
      ++ "retransmission [default: 2s]",
    "      --max-retransmit <COUNT>     Maximum number of retransmissions per request "
      ++ "[default: 4]",
    "      --http-method <HTTP_METHOD>  HTTP method (only used for http/https targets) "
      ++ "[default: post] [possible values: get, post, put, delete, patch]",
    "  -p, --payload <TEXT>             Request payload",
    "  -H, --header <HEADER>            Custom headers in 'Key: Value' format (can be "
      ++ "used multiple times)",
    "      --insecure                   Skip certificate verification for https/wss targets",
    "  -v, --verbose                    Enable verbose logging",
    "  -h, --help                       Print help",
    "  -V, --version                    Print version",
    "",
    "Example: volley http://localhost:5783/benchmark 20 1000 nonestop" ]

/-- What a command line can hold. -/
def usage : String := String.join (usageLines.map (· ++ "\n"))

end LoadHarness.CommandLine
