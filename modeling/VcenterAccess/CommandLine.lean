/-!
# The command line

The program has one option, the path of the cloud configuration, and a request
for help.  The path may be in the word after the option or behind an equals
sign; without the option it is taken from the environment, and without that it
is the usual one.

A value is only looked at when the next option starts or the words end, so an
unknown word behind it is reported first.
-/

namespace VcenterAccess

/-- Where the configuration is if nothing else is said. -/
def defaultConfigPath : String := "/etc/cloud/vsphere.conf"

/-- Why a command line cannot be used. -/
inductive CommandLineError where
  /-- A word is neither the option nor a value of it. -/
  | unknownArgument
  /-- The option has no value, or an empty one. -/
  | invalidValue
  /-- The option is given twice. -/
  | argumentConflict
  /-- A flag was given a value. -/
  | tooManyValues
  /-- Help is asked for. -/
  | displayHelp
deriving DecidableEq, Repr

namespace CommandLine

/-- What was read of the words so far. -/
structure State where
  /-- The value of the option. -/
  path : Option String := none
  /-- The option whose value was not looked at yet, with the value if it came. -/
  pending : Option (Option String) := none
deriving DecidableEq

/-- Accept a value of the option. -/
def State.accept (s : State) (value : String) : Except CommandLineError State :=
  if s.path.isSome then .error .argumentConflict
  else if value.isEmpty then .error .invalidValue
  else .ok { path := some value }

/-- Look at the value that is pending. -/
def State.settle (s : State) : Except CommandLineError State :=
  match s.pending with
  | none => .ok s
  | some none => .error .invalidValue
  | some (some value) => s.accept value

/-- A word that starts with two dashes: a name, and a value behind an equals sign. -/
def splitLong (word : List Char) : List Char × Option String :=
  match word.dropWhile (· ≠ '=') with
  | [] => (word, none)
  | _ :: value => (word.takeWhile (· ≠ '='), some (String.ofList value))

/-- Read a name behind two dashes. -/
def State.readLong (s : State) (name : List Char) (value : Option String) :
    Except CommandLineError State :=
  if name = "cloud-config".toList then do
    let s ← s.settle
    match value with
    | some value => s.accept value
    | none => return { s with pending := some none }
  else if name = "help".toList then
    if value.isSome then .error .tooManyValues
    else do
      let _ ← s.settle
      throw .displayHelp
  else .error .unknownArgument

/-- Read one word. -/
def State.read (s : State) (word : List Char) : Except CommandLineError State :=
  match word with
  | '-' :: '-' :: long => s.readLong (splitLong long).1 (splitLong long).2
  | '-' :: 'h' :: _ => do
      let _ ← s.settle
      throw .displayHelp
  | '-' :: _ :: _ => .error .unknownArgument
  | value =>
      if s.pending = some none then .ok { s with pending := some (some (String.ofList value)) }
      else .error .unknownArgument

/-- Read all words.  Behind two dashes alone no word is an option. -/
def readAll (s : State) : List String → Except CommandLineError State
  | [] => s.settle
  | word :: rest =>
      if word = "--" then if rest.isEmpty then s.settle else .error .unknownArgument
      else do readAll (← s.read word.toList) rest

/-- The path of the configuration, given the words of the command line and what
the environment says. -/
def configPath (words : List String) (environment : Option String) :
    Except CommandLineError String := do
  match (← readAll {} words).path, environment with
  | some path, _ => return path
  | none, some path => if path.isEmpty then throw .invalidValue else return path
  | none, none => return defaultConfigPath

end CommandLine

end VcenterAccess
