import Esp3Host.Bytes

/-!
# Hexadecimal text

Every byte is written with two digits: in lower case where bytes appear in bulk, in upper case
where a single code is named.  `Hex.snippet` is the bounded form that log lines use.
-/

namespace Esp3Host.Hex

def lowerDigit (n : Nat) : Char :=
  Char.ofNat (if n < 10 then 48 + n else 87 + n)

def upperDigit (n : Nat) : Char :=
  Char.ofNat (if n < 10 then 48 + n else 55 + n)

def lowerPair (byte : UInt8) : List Char :=
  [lowerDigit (byte.toNat / 16), lowerDigit (byte.toNat % 16)]

def upperPair (byte : UInt8) : List Char :=
  [upperDigit (byte.toNat / 16), upperDigit (byte.toNat % 16)]

def code (byte : UInt8) : String := String.ofList (upperPair byte)

/-- A number in upper-case digits, filled up with zeros to at least `width` of them. -/
def number (width n : Nat) : String :=
  let digits := (Nat.toDigits 16 n).map Char.toUpper
  String.ofList (List.replicate (width - digits.length) '0' ++ digits)

def lower (bytes : Bytes) : String := String.ofList (bytes.flatMap lowerPair)

/--
Lower-case digits of at most `limit` bytes, separated by blanks; an ellipsis tells that more bytes
follow.
-/
def snippet (limit : Nat) (bytes : Bytes) : String :=
  " ".intercalate ((bytes.take limit).map fun byte => String.ofList (lowerPair byte))
    ++ (if limit < bytes.length then " …" else "")

def digit? (c : Char) : Option Nat :=
  if '0' ≤ c ∧ c ≤ '9' then some (c.toNat - 48)
  else if 'a' ≤ c ∧ c ≤ 'f' then some (c.toNat - 87)
  else if 'A' ≤ c ∧ c ≤ 'F' then some (c.toNat - 55)
  else none

end Esp3Host.Hex
