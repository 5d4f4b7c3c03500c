import Esp3Host.Profile

/-!
# What a command line asks for

A command line names one command, its options, and the options that all commands share.
-/

namespace Esp3Host.CommandLine

inductive Command where
  | init
  | monitor (seconds : Option Nat)
  | teachIn (timeout : Option Nat) (target : Option String) (profile : Option Profile)
  | version
  deriving DecidableEq, Repr

structure Invocation where
  command : Command
  config : String := "enocean.toml"
  port : Option String := none
  verbosity : Nat := 0
  deriving DecidableEq, Repr

/-- Why a command line starts no command. -/
inductive Refusal where
  | help
  | version
  | nothingGiven
  | noCommand
  | unknownCommand
  | unknownArgument
  | valueMissing
  | valueInvalid
  | valueUnwanted
  | repeated
  | companionMissing
  deriving DecidableEq, Repr

inductive CommandName where
  | init
  | monitor
  | teachIn
  | version
  deriving DecidableEq, Repr

namespace CommandName

def word : CommandName → String
  | init => "init"
  | monitor => "monitor"
  | teachIn => "teach-in"
  | version => "version"

def all : List CommandName := [init, monitor, teachIn, version]

def ofWord? (word : String) : Option CommandName := all.find? fun name => name.word = word

end CommandName

end Esp3Host.CommandLine
