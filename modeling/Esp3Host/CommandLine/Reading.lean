import Esp3Host.CommandLine.Options

/-!
# Reading command lines

Arguments are read from left to right, first those before the command and then those behind it.  A
switch that takes a value waits for it, and is only taken when the next switch or the end comes: so
a fault in it may be told after faults that stand behind it, and not at all before an argument that
is not known.  What stands behind the command is judged before what stands in front of it.
-/

namespace Esp3Host.CommandLine

structure Progress where
  given : Given := {}
  pending : Option (Switch × Option String) := none
  deriving DecidableEq, Repr

namespace Progress

def settle (p : Progress) : Except Refusal Progress :=
  match p.pending with
  | none => .ok p
  | some (_, none) => .error .valueMissing
  | some (switch, some value) => do return { given := ← p.given.take switch value }

def awaits? (p : Progress) : Option Switch :=
  match p.pending with
  | some (switch, none) => some switch
  | _ => none

def meet (p : Progress) (switch : Switch) (attached : Option String) : Except Refusal Progress := do
  let settled ← p.settle
  match attached with
  | some value => return { settled with given := ← settled.given.take switch value }
  | none => return { settled with pending := some (switch, none) }

def meetFlag (p : Progress) (switch : Switch) : Except Refusal Progress := do
  let settled ← p.settle
  return { settled with given := ← settled.given.take switch "" }

def readLong (place : Place) (p : Progress) (name : String) (attached : Option String) :
    Except Refusal Progress :=
  match place.ofLong? name with
  | none => .error .unknownArgument
  | some switch =>
      if switch.takesValue then p.meet switch attached
      else if attached.isSome then .error .valueUnwanted
      else p.meetFlag switch

/-- Letters behind one hyphen; the first that takes a value has the rest for it. -/
def readLetters (place : Place) (p : Progress) : List Char → Except Refusal Progress
  | [] => .ok p
  | letter :: rest =>
      match place.ofLetter? letter with
      | none => .error .unknownArgument
      | some switch =>
          if switch.takesValue then
            p.meet switch
              (match rest with
              | [] => none
              | '=' :: value => some (String.ofList value)
              | value => some (String.ofList value))
          else do readLetters place (← p.meetFlag switch) rest

end Progress

def unexpected (place : Place) : Refusal :=
  match place with
  | .front => .unknownCommand
  | .behind _ => .unknownArgument

def readTrailing (place : Place) (p : Progress) : List String → Except Refusal Progress
  | [] => .ok p
  | argument :: _ =>
      if place = .front ∧ (argument = "help" ∨ (CommandName.ofWord? argument).isSome) then
        .error .unknownArgument
      else .error (unexpected place)

def readHelp : List String → Refusal
  | [] => .help
  | "help" :: rest => if rest.isEmpty then .help else .unknownCommand
  | name :: rest =>
      if (CommandName.ofWord? name).isSome ∧ rest.isEmpty then .help else .unknownCommand

def splitLong (argument : List Char) : String × Option String :=
  let name := String.ofList (argument.takeWhile (· != '='))
  match argument.dropWhile (· != '=') with
  | [] => (name, none)
  | _ :: value => (name, some (String.ofList value))

def readArgument (place : Place) (p : Progress) (argument : String) : Except Refusal Progress :=
  match argument.toList with
  | '-' :: '-' :: rest =>
      let (name, attached) := splitLong rest
      p.readLong place name attached
  | '-' :: letter :: rest => p.readLetters place (letter :: rest)
  | _ =>
      match p.awaits? with
      | some switch => .ok { p with pending := some (switch, some argument) }
      | none => .error (unexpected place)

/--
Read the arguments of one place, up to the command's name.  The arguments behind the name remain.
-/
def readPlace (place : Place) (p : Progress) :
    List String → Except Refusal (Progress × Option (CommandName × List String))
  | [] => .ok (p, none)
  | argument :: rest =>
      let named := if place = .front ∧ p.awaits?.isNone then CommandName.ofWord? argument else none
      match named with
      | some name => .ok (p, some (name, rest))
      | none =>
          if place = .front ∧ p.awaits?.isNone ∧ argument = "help" then .error (readHelp rest)
          else if argument = "--" then do return (← readTrailing place p rest, none)
          else do readPlace place (← readArgument place p argument) rest

def readBehind (command : CommandName) (arguments : List String) : Except Refusal Given := do
  let (progress, _) ← readPlace (.behind command) {} arguments
  let given := (← progress.settle).given
  if given.target.isSome ≠ given.profile.isSome then .error .companionMissing
  else return given

def commandOf (name : CommandName) (given : Given) : Command :=
  match name with
  | .init => .init
  | .monitor => .monitor given.seconds
  | .teachIn => .teachIn given.timeout given.target given.profile
  | .version => .version

/--
Read a whole command line.  A shared option given in both places has the value that stands behind
the command.
-/
def read (arguments : List String) : Except Refusal Invocation := do
  let (progress, named) ← readPlace .front {} arguments
  match named with
  | none =>
      let front := (← progress.settle).given
      if front = {} then .error .nothingGiven else .error .noCommand
  | some (name, rest) =>
      let behind ← readBehind name rest
      let front := (← progress.settle).given
      let standard : Invocation := { command := commandOf name behind }
      return { standard with
        config := ((behind.config <|> front.config).getD standard.config)
        port := behind.port <|> front.port
        verbosity := (behind.verbose <|> front.verbose).getD standard.verbosity }

end Esp3Host.CommandLine
