/-!
# Byte strings

A byte string is a list of bytes, read from the front.  Bits are numbered from the least
significant one, and wider numbers are written with their most significant byte first.
-/

namespace Esp3Host

abbrev Bytes := List UInt8

def hasBit (byte : UInt8) (i : Nat) : Bool := byte.toNat.testBit i

/-- The number written by a byte string, most significant byte first. -/
def Bytes.toNat (bytes : Bytes) : Nat :=
  bytes.foldl (fun value byte => 256 * value + byte.toNat) 0

end Esp3Host
