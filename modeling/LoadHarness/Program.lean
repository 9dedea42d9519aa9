import LoadHarness.CommandLine.Settings
import LoadHarness.CommandLine.Usage
import LoadHarness.Run.Basic
import LoadHarness.Settings.Summary

/-!
# The program

The program reads its settings from the command line, shows them, and makes a run of them.
`Program.prepare` goes as far as the command line decides, and `Program.finish` says how the
program ends after a run. `Program.session` puts both together for transports of a given
behaviour. A `Session` is what the user sees: the lines of both outputs and the exit code.
-/

namespace LoadHarness

/-- What a user sees of the program. -/
structure Session where
  output : List String
  errors : List String
  exitCode : UInt8
deriving DecidableEq, Repr

namespace Program

/-- The exit code of a program that could not do what it was asked to. -/
def failed : UInt8 := 255

/-- The session that a failure on the command line makes. Asking for help or for the version is
none; every other one shows the usage if that helps. -/
def refuse : Failure → Session
  | .commandLine .help => ⟨CommandLine.usageLines, [], 0⟩
  | .commandLine .version => ⟨[CommandLine.versionLine], [], 0⟩
  | e => ⟨if e.isUsage then CommandLine.usageLines ++ [""] else [], [e.text], failed⟩

/-- The settings that the arguments ask for, or the session in which they do not. -/
def prepare (arguments : List String) : Except Session Settings :=
  match Settings.ofCommandLine arguments with
  | .error e => .error (refuse e)
  | .ok s => .ok s

/-- The lines that a failure of a run adds, which are few: the rest is for the log. -/
def farewell : Conclusion → List String
  | .failure (.probe target) => ["Request " ++ target ++ " failed, exit benchmark."]
  | _ => []

def exitCode : Conclusion → UInt8
  | .report _ => 0
  | _ => failed

/-- The session of a run. -/
def finish (s : Settings) (r : Record) : Session :=
  ⟨s.summary ++ r.printed ++ farewell r.conclusion, [], exitCode r.conclusion⟩

/-- The session that arguments lead to, with transports of a given behaviour and a run followed
for so many samples. -/
def session (build : Plan → Nat → Except Failure Behaviour) (samples : Plan → Nat)
    (arguments : List String) : Session :=
  match prepare arguments with
  | .error session => session
  | .ok s =>
    match s.plan with
    | .error _ => ⟨s.summary, [], failed⟩
    | .ok p => finish s (Run.record p (build p) (samples p))

end Program

end LoadHarness
