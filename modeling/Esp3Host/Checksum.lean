import Esp3Host.Bytes

/-!
# Cyclic checksum

The eight-bit checksum with the generator polynomial `x^8 + x^2 + x + 1`: the register starts at
zero, bits enter with the most significant one first, and the register itself is the result.
-/

namespace Esp3Host

namespace Checksum

/-- Shift one bit out of the register and divide by the generator if it was set. -/
def shift (register : UInt8) : UInt8 :=
  if hasBit register 7 then (register <<< 1) ^^^ 0x07 else register <<< 1

def absorb (register byte : UInt8) : UInt8 :=
  shift (shift (shift (shift (shift (shift (shift (shift (register ^^^ byte))))))))

def run (register : UInt8) (bytes : Bytes) : UInt8 := bytes.foldl absorb register

theorem run_append (register : UInt8) (a b : Bytes) :
    run register (a ++ b) = run (run register a) b := by
  simp [run, List.foldl_append]

end Checksum

def checksum (bytes : Bytes) : UInt8 := Checksum.run 0 bytes

def checksumOfTwo (first second : Bytes) : UInt8 := Checksum.run (checksum first) second

theorem checksumOfTwo_eq (first second : Bytes) :
    checksumOfTwo first second = checksum (first ++ second) := by
  simp [checksumOfTwo, checksum, Checksum.run_append]

end Esp3Host
