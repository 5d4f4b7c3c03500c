import Esp3Host.CommandLine.Basic

/-!
# Options

An option has a long name, perhaps a letter, and a place where it may stand: before the command,
behind it, or both.  `Given` collects what was given in one place.
-/

namespace Esp3Host.CommandLine

inductive Switch where
  | config
  | port
  | verbose
  | seconds
  | timeout
  | target
  | profile
  | help
  | version
  deriving DecidableEq, Repr

namespace Switch

def long : Switch → String
  | config => "config"
  | port => "port"
  | verbose => "verbose"
  | seconds => "seconds"
  | timeout => "timeout"
  | target => "target"
  | profile => "eep"
  | help => "help"
  | version => "version"

def letter? : Switch → Option Char
  | config => some 'c'
  | port => some 'p'
  | verbose => some 'v'
  | seconds => some 's'
  | timeout => some 't'
  | target | profile => none
  | help => some 'h'
  | version => some 'V'

def takesValue : Switch → Bool
  | verbose | help | version => false
  | _ => true

end Switch

inductive Place where
  | front
  | behind (command : CommandName)
  deriving DecidableEq, Repr

namespace Place

def switches : Place → List Switch
  | front => [.config, .port, .verbose, .help, .version]
  | behind .init | behind .version => [.config, .port, .verbose, .help]
  | behind .monitor => [.seconds, .config, .port, .verbose, .help]
  | behind .teachIn => [.timeout, .target, .profile, .config, .port, .verbose, .help]

def ofLong? (place : Place) (name : String) : Option Switch :=
  place.switches.find? fun switch => switch.long = name

def ofLetter? (place : Place) (letter : Char) : Option Switch :=
  place.switches.find? fun switch => switch.letter? = some letter

end Place

structure Given where
  config : Option String := none
  port : Option String := none
  verbose : Option Nat := none
  seconds : Option Nat := none
  timeout : Option Nat := none
  target : Option String := none
  profile : Option Profile := none
  deriving DecidableEq, Repr

namespace Given

def maximalVerbosity : Nat := 255

/-- Keep a value that was not given before. -/
def once {α : Type} (before : Option α) (value : Except Refusal α) :
    Except Refusal (Option α) :=
  if before.isSome then .error .repeated else some <$> value

def secondsOf (text : String) : Except Refusal Nat :=
  (Numeral.read 10 (Nat.pow 2 64 - 1) text.toList).mapError fun _ => .valueInvalid

def profileOf (text : String) : Except Refusal Profile :=
  (Profile.read text).mapError fun _ => .valueInvalid

def take (given : Given) (switch : Switch) (value : String) : Except Refusal Given :=
  match switch with
  | .config => do return { given with config := ← once given.config (.ok value) }
  | .port => do return { given with port := ← once given.port (.ok value) }
  | .verbose => .ok { given with verbose := some (min maximalVerbosity (given.verbose.getD 0 + 1)) }
  | .seconds => do return { given with seconds := ← once given.seconds (secondsOf value) }
  | .timeout => do return { given with timeout := ← once given.timeout (secondsOf value) }
  | .target => do return { given with target := ← once given.target (.ok value) }
  | .profile => do return { given with profile := ← once given.profile (profileOf value) }
  | .help => .error .help
  | .version => .error .version

end Given

end Esp3Host.CommandLine
