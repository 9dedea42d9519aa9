import LoadHarness.Live.Run
import LoadHarness.Program

/-!
# The command

`main` shows what `Program` decides from the arguments, and runs what they ask for.
-/

namespace LoadHarness

def printLines (lines : List String) : IO Unit := lines.forM fun line => IO.println line

/-- A run of settings that are checked. -/
def runSettings (s : Settings) : IO UInt32 := do
  printLines s.summary
  match s.plan, Url.parse s.target with
  | .ok p, .ok u =>
    let conclusion ← (Live.run p u).block
    printLines (Program.farewell conclusion)
    return (Program.exitCode conclusion).toUInt32
  | .error e, _ => refuse e
  | _, .error e => refuse (.url e)
where
  refuse (e : Failure) : IO UInt32 := do
    IO.eprintln e.text
    return Program.failed.toUInt32

/-- What the arguments ask for. -/
def command (arguments : List String) : IO UInt32 := do
  match Program.prepare arguments with
  | .error session =>
    printLines session.output
    session.errors.forM fun line => IO.eprintln line
    return session.exitCode.toUInt32
  | .ok s => runSettings s

end LoadHarness

def main (arguments : List String) : IO UInt32 := LoadHarness.command arguments
