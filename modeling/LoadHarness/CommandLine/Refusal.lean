import LoadHarness.Text.Printable

/-!
# Command lines that start no run

Besides asking for help or for the version, a command line can fail to name what it must or
name what does not exist. `Refusal` lists the cases, and `Refusal.message` gives the line
that tells the user, without the control sequences that an argument may hold.
-/

namespace LoadHarness.CommandLine

/-- Why a text is no number of 32 bits. -/
inductive NumberError where
  | empty
  | invalidDigit
  /-- Above the 64-bit range in which numbers are read. -/
  | tooLarge
  /-- Below the 64-bit range in which numbers are read. -/
  | tooSmall
  /-- Read, but not of 32 bits. -/
  | outOfRange (n : Int)
deriving DecidableEq, Repr

def NumberError.message : NumberError → String
  | .empty => "cannot parse integer from empty string"
  | .invalidDigit => "invalid digit found in string"
  | .tooLarge => "number too large to fit in target type"
  | .tooSmall => "number too small to fit in target type"
  | .outOfRange n => toString n ++ " is not in 0..=4294967295"

/-- Why a command line starts no run. Arguments go by the names that usage texts show. -/
inductive Refusal where
  | help
  | version
  /-- Nothing takes this argument. -/
  | unknown (argument : String)
  /-- An option at the end, or before another one, that needs a value. -/
  | noValue (argument : String)
  /-- A value that is none of those an option allows. -/
  | noChoice (text argument : String)
  | noNumber (text argument : String) (reason : NumberError)
  /-- A second occurrence of what may occur once. -/
  | repeated (argument : String)
  /-- A value given to a flag. -/
  | unneededValue (text argument : String)
  /-- The target is missing. -/
  | noTarget
deriving DecidableEq, Repr

/-- The name and version that the program goes by. -/
def versionLine : String := "volley 0.1.0"

/-- What the user is told, with arguments as they are; help is a text of its own. -/
def Refusal.rawMessage : Refusal → String
  | .help => ""
  | .version => versionLine
  | .unknown argument => "error: unexpected argument '" ++ argument ++ "' found"
  | .noValue argument =>
    "error: a value is required for '" ++ argument ++ "' but none was supplied"
  | .noChoice text argument => "error: invalid value '" ++ text ++ "' for '" ++ argument ++ "'"
  | .noNumber text argument reason =>
    "error: invalid value '" ++ text ++ "' for '" ++ argument ++ "': " ++ reason.message
  | .repeated argument =>
    "error: the argument '" ++ argument ++ "' cannot be used multiple times"
  | .unneededValue text argument =>
    "error: unexpected value '" ++ text ++ "' for '" ++ argument
      ++ "' found; no more were expected"
  | .noTarget => "error: the following required arguments were not provided:"

/-- What the user is told. -/
def Refusal.message (r : Refusal) : String := Text.printable r.rawMessage

end LoadHarness.CommandLine
