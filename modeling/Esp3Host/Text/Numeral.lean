import Esp3Host.Text.Hex

/-!
# Unsigned numerals

A numeral is an optional plus sign and one or more digits, with any number of leading zeros; its
value may not exceed a given limit.  A text that is none fails for one of three causes.
-/

namespace Esp3Host

inductive NumeralError where
  | empty
  | invalidDigit
  | tooLarge
  deriving DecidableEq, Repr

namespace NumeralError

def message : NumeralError → String
  | empty => "cannot parse integer from empty string"
  | invalidDigit => "invalid digit found in string"
  | tooLarge => "number too large to fit in target type"

end NumeralError

namespace Numeral

def digit? (radix : Nat) (c : Char) : Option Nat :=
  (Hex.digit? c).filter (· < radix)

/--
Read digits onto a value already read.  The first fault from the left decides: a character that is
no digit, or a digit that takes the value over the limit.
-/
def readDigits (radix limit : Nat) : Nat → List Char → Except NumeralError Nat
  | value, [] => .ok value
  | value, c :: rest =>
      match digit? radix c with
      | none => .error .invalidDigit
      | some d =>
          if limit < radix * value + d then .error .tooLarge
          else readDigits radix limit (radix * value + d) rest

def read (radix limit : Nat) (text : List Char) : Except NumeralError Nat :=
  match text with
  | [] => .error .empty
  | ['+'] => .error .invalidDigit
  | '+' :: rest => readDigits radix limit 0 rest
  | rest => readDigits radix limit 0 rest

end Numeral

end Esp3Host
