/-!
# What is wrong at a path

Files and serial ports are opened by paths.  `PathFault` tells why one cannot be opened, in the
words and by the number that the system has for it.
-/

namespace Esp3Host

inductive PathFault where
  | notFound
  | noDevice
  | notAllowed
  | notADirectory
  | isDirectory
  | invalid
  | notALine
  | noSpace
  | nameTooLong
  deriving DecidableEq, Repr

namespace PathFault

def text : PathFault → String
  | notFound => "No such file or directory"
  | noDevice => "No such device or address"
  | notAllowed => "Permission denied"
  | notADirectory => "Not a directory"
  | isDirectory => "Is a directory"
  | invalid => "Invalid argument"
  | notALine => "Not a typewriter"
  | noSpace => "No space left on device"
  | nameTooLong => "File name too long"

def number : PathFault → Nat
  | notFound => 2
  | noDevice => 6
  | notAllowed => 13
  | notADirectory => 20
  | isDirectory => 21
  | invalid => 22
  | notALine => 25
  | noSpace => 28
  | nameTooLong => 36

def all : List PathFault :=
  [notFound, noDevice, notAllowed, notADirectory, isDirectory, invalid, notALine, noSpace,
    nameTooLong]

def ofNumber? (number : Nat) : Option PathFault := all.find? fun fault => fault.number = number

def message (fault : PathFault) : String := s!"{fault.text} (os error {fault.number})"

def portMessage (path : String) (fault : PathFault) : String :=
  s!"Failed to open serial port {path}: {fault.text}"

end PathFault

end Esp3Host
